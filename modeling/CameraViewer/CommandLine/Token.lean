/-!
# CommandLine/Token — the words of a command line

A word is a name behind two dashes, a letter behind one, the two dashes alone, or plain text.
-/

namespace CameraViewer.CommandLine

/-- One word of a command line. -/
inductive Token
  /-- A name behind two dashes, with what follows its first equals sign. -/
  | long (name : String) (value : Option String)
  /-- The first letter behind one dash. -/
  | short (letter : Char)
  /-- Two dashes: no names follow. -/
  | terminator
  /-- Anything else, a single dash among it. -/
  | plain (text : String)
deriving DecidableEq, Repr

/-- What follows the first equals sign, if there is one. -/
def attached? (cs : List Char) : Option String :=
  match cs.dropWhile (· ≠ '=') with
  | [] => none
  | _ :: value => some (String.ofList value)

/-- The kind of a word. -/
def Token.ofWord (word : String) : Token :=
  match word.toList with
  | ['-', '-'] => .terminator
  | '-' :: '-' :: rest => .long (String.ofList (rest.takeWhile (· ≠ '='))) (attached? rest)
  | '-' :: letter :: _ => .short letter
  | _ => .plain word

end CameraViewer.CommandLine
