import CameraViewer.Text.Ascii
import CameraViewer.Text.Mark
import CameraViewer.Text.Printable

/-!
# Text/Quoted — text between double quotes

How messages show a text: in double quotes, with a backslash before double quotes and backslashes,
the short names of tab, line feed, carriage return and NUL, and the code point of every character
that would not show itself.
-/

namespace CameraViewer.Text

/-- The code point of a character between braces. -/
def codePoint (c : Char) : List Char :=
  ['\\', 'u', '{'] ++ hexDigits 1 c.toNat ++ ['}']

/-- A character that shows itself when it stands alone. -/
def showsItself (c : Char) : Bool := isPrintable c && !isExtending c && !isFiller c

/-- One character as it stands between the quotes. -/
def escape (c : Char) : List Char :=
  match c with
  | '\x00' => ['\\', '0']
  | '\t' => ['\\', 't']
  | '\n' => ['\\', 'n']
  | '\r' => ['\\', 'r']
  | '"' => ['\\', '"']
  | '\\' => ['\\', '\\']
  | _ => if showsItself c then [c] else codePoint c

/-- A text in double quotes. -/
def quoted (s : String) : String := String.ofList (['"'] ++ s.toList.flatMap escape ++ ['"'])

end CameraViewer.Text
