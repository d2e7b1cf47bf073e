import CameraViewer.Url.Basic

/-!
# Url/Read — reading an address

Blanks at the ends and line breaks anywhere are passed over. Addresses of the web schemes are read
in full: backslashes count as slashes, dot segments are resolved, a port that goes without saying is
dropped. Of all other addresses only the parts that can be wrong are looked at, and the scheme is
kept.
-/

namespace CameraViewer.Url

open Text

/-- What is read from a text. -/
inductive Reading
  /-- An address of a web scheme. -/
  | web (url : WebUrl)
  /-- An address of another scheme. -/
  | other (scheme : String)
deriving DecidableEq, Repr

/-- The ports of the web schemes. -/
def defaultPort? : String → Option Nat
  | "http" => some 80
  | "ws" => some 80
  | "https" => some 443
  | "wss" => some 443
  | "ftp" => some 21
  | _ => none

/-- A text without blanks and controls at its ends, and without tabs and line breaks. -/
def cleaned (cs : List Char) : List Char :=
  let blank := fun c : Char => decide (c.toNat ≤ 0x20)
  let inner := ((cs.dropWhile blank).reverse.dropWhile blank).reverse
  inner.filter fun c => c ∉ ['\t', '\n', '\r']

/-! ## Scheme -/

/-- Characters of a scheme after its first letter. -/
def isSchemeChar (c : Char) : Bool := c.isAlphanum || c ∈ ['+', '-', '.']

/-- The scheme in small letters and what follows its colon. -/
def readScheme? (cs : List Char) : Option (String × List Char) :=
  match cs, cs.dropWhile isSchemeChar with
  | c :: _, ':' :: rest =>
    if c.isAlpha then some (lowerAscii (String.ofList (cs.takeWhile isSchemeChar)), rest) else none
  | _, _ => none

/-! ## Who and where -/

/-- The characters at which the authority of an address ends. -/
def endsAuthority (web : Bool) (c : Char) : Bool := c ∈ ['/', '?', '#'] || web && c = '\\'

/-- The text before and after the last sign of a kind, if there is one. -/
def splitLast? (sign : Char) (cs : List Char) : Option (List Char × List Char) :=
  let back := cs.reverse.dropWhile (· ≠ sign)
  match back with
  | [] => none
  | _ :: front => some (front.reverse, cs.drop back.length)

/-- Name and password with the marks around them. The first colon parts them; without a password
there is no colon. -/
def userText (cs : List Char) : String :=
  let name := cs.takeWhile (· ≠ ':')
  let secret := cs.drop (name.length + 1)
  let enc := encode notInUser
  let text := if secret.isEmpty then enc name else enc name ++ [':'] ++ enc secret
  String.ofList (if text.isEmpty then [] else text ++ ['@'])

/-- The host part of a text: up to a colon outside of brackets, or the end of the authority. -/
def takeHost (web : Bool) : Bool → List Char → List Char × List Char
  | _, [] => ([], [])
  | bracket, c :: rest =>
    if endsAuthority web c || c = ':' && !bracket then ([], c :: rest)
    else
      let (host, rest) :=
        takeHost web (if c = '[' then true else if c = ']' then false else bracket) rest
      (c :: host, rest)

/-- The port after a colon, if there are digits; it has to end where a path may start. -/
def readPort (acc : Nat) (seen : Bool) : List Char → Except UrlError (Option Nat × List Char)
  | [] => .ok (if seen then some acc else none, [])
  | c :: rest =>
    match digitValue? c with
    | some d =>
      if acc * 10 + d < 65536 then readPort (acc * 10 + d) true rest else .error .invalidPort
    | none =>
      if endsAuthority true c then .ok (if seen then some acc else none, c :: rest)
      else .error .invalidPort

/-- The authority of an address. -/
structure Authority where
  user : String
  host : Host
  port : Option Nat

/-- Whether a host is missing. -/
def Host.isEmpty : Host → Bool
  | .name "" => true
  | _ => false

/-- Host and port, and what follows them. -/
def readHostPort (web : Bool) (cs : List Char) :
    Except UrlError (Host × Option Nat × List Char) := do
  let (text, rest) := takeHost web false cs
  if web ∧ text.isEmpty then .error .emptyHost else pure ()
  let host ← if web then Host.read text else Host.readOpaque text
  match rest with
  | ':' :: rest =>
    if host.isEmpty then .error .emptyHost
    else
      let (port, rest) ← readPort 0 false rest
      return (host, port, rest)
  | rest => return (host, none, rest)

/-- The authority at the start of a text, and what follows it. -/
def readAuthority (web : Bool) (cs : List Char) : Except UrlError (Authority × List Char) := do
  let authority := cs.takeWhile (!endsAuthority web ·)
  match splitLast? '@' authority with
  | none =>
    let (host, port, rest) ← readHostPort web cs
    return (⟨"", host, port⟩, rest)
  | some (user, _) =>
    let after := cs.drop (user.length + 1)
    if user.isEmpty ∧ (after.head?.map (endsAuthority web)).getD false then .error .emptyHost
    else
      let (host, port, rest) ← readHostPort web after
      if host.isEmpty ∧ userText user ≠ "" then .error .emptyHost
      else return (⟨userText user, host, port⟩, rest)

/-! ## Path, query and fragment -/

/-- A segment that stands for the one it is in. -/
def isDot (segment : String) : Bool := lowerAscii segment ∈ [".", "%2e"]

/-- A segment that stands for the one above. -/
def isDotDot (segment : String) : Bool := lowerAscii segment ∈ ["..", ".%2e", "%2e.", "%2e%2e"]

/-- A letter with a colon or a bar names a drive. -/
def isDrive (segment : String) : Bool :=
  match segment.toList with
  | [a, b] => a.isAlpha && (b = ':' || b = '|')
  | _ => false

/-- The closed segments one up; a drive is not left. -/
def oneUp (segments : List String) : List String :=
  match segments.getLast? with
  | some s => if isDrive s then segments else segments.dropLast
  | none => []

/-- The closed segments after one more. -/
def close (segments : List String) (segment : String) : List String :=
  if isDotDot segment then oneUp segments
  else if isDot segment then segments
  else segments ++ [segment]

/-- The path of its raw segments: the closed ones, and the last. -/
def resolve : List String → List String → List String × String
  | closed, [] => (closed, "")
  | closed, [last] =>
    if isDotDot last then (oneUp closed, "")
    else if isDot last then (closed, "")
    else (closed, last)
  | closed, s :: rest => resolve (close closed s) rest

/-- The raw segments of a path. -/
def rawSegments (cs : List Char) : List String :=
  (splitAtChar '/' (cs.map fun c => if c = '\\' then '/' else c)).map fun s =>
    String.ofList (encode notInPath s)

/-- The path after the authority; it may do without its first slash. -/
def readPath (cs : List Char) : List String × String :=
  match cs with
  | '/' :: rest => resolve [] (rawSegments rest)
  | '\\' :: rest => resolve [] (rawSegments rest)
  | _ => resolve [] (rawSegments cs)

/-- Query and fragment of what follows a path. -/
def readTail (cs : List Char) : Option String × Option String :=
  let query := cs.takeWhile (· ≠ '#')
  let fragment := cs.drop (query.length + 1)
  let fragment := if query.length < cs.length then
      some (String.ofList (encode notInFragment fragment))
    else none
  match query with
  | '?' :: rest => (some (String.ofList (encode notInQuery rest)), fragment)
  | _ => (none, fragment)

/-! ## The whole -/

/-- An address of a web scheme after its colon. Any number of slashes may follow. -/
def readWeb (scheme : String) (cs : List Char) : Except UrlError WebUrl := do
  let (a, rest) ← readAuthority true (cs.dropWhile fun c => c = '/' || c = '\\')
  let path := rest.takeWhile fun c => c ≠ '?' && c ≠ '#'
  let (segments, last) := readPath path
  let (query, fragment) := readTail (rest.drop path.length)
  let port := if a.port = defaultPort? scheme then none else a.port
  return ⟨scheme, a.user, a.host, port, segments, last, query, fragment⟩

/-- Looks at the host of a file address, which may be missing. -/
def checkFile : List Char → Except UrlError Unit
  | a :: b :: rest =>
    if endsAuthority true a ∧ endsAuthority true b ∧ a ∉ ['?', '#'] ∧ b ∉ ['?', '#'] then
      let host := rest.takeWhile (!endsAuthority true ·)
      if host.isEmpty ∨ isDrive (String.ofList host) then .ok ()
      else (Host.read host).map fun _ => ()
    else .ok ()
  | _ => .ok ()

/-- Looks at the authority of any other address, if it has one. -/
def checkOther : List Char → Except UrlError Unit
  | '/' :: '/' :: rest => (readAuthority false rest).map fun _ => ()
  | _ => .ok ()

/-- The address in a text. -/
def read (text : String) : Except UrlError Reading :=
  match readScheme? (cleaned text.toList) with
  | none => .error .noScheme
  | some (scheme, rest) =>
    if (defaultPort? scheme).isSome then (readWeb scheme rest).map .web
    else if scheme = "file" then (checkFile rest).map fun _ => .other scheme
    else (checkOther rest).map fun _ => .other scheme

end CameraViewer.Url
