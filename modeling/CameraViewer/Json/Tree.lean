import CameraViewer.Json.Value

/-!
# Json/Tree — a document as it is written

`Tree.read?` accepts the JSON grammar. A tree keeps the members of an object in their order with all
repetitions, and leaves that have no value (a string with half a surrogate pair, a number too large)
as `none`: whoever skips over such a leaf does not notice it. `Tree.value?` asks for every value,
allows a given number of nested brackets, and makes objects canonical. `Value.tree` goes the other
way.
-/

namespace CameraViewer.Json

/-- A document as written; leaves without a value are `none`. -/
inductive Tree
  | null
  | bool (value : Bool)
  | number (value : Option Number)
  | string (value : Option String)
  | array (items : List Tree)
  | object (members : List (Option String × Tree))
deriving Repr, Inhabited

/-! ## Strings -/

/-- A piece of a string: a character, or the code unit of an escape. -/
inductive Piece
  | char (c : Char)
  | unit (n : Nat)
deriving DecidableEq, Repr

/-- The characters spelled by pieces; nothing where half a surrogate pair stands alone. -/
def joinPieces : List Piece → Option (List Char)
  | [] => some []
  | .char c :: rest => (joinPieces rest).map (c :: ·)
  | .unit n :: rest =>
    if 0xD800 ≤ n ∧ n ≤ 0xDBFF then
      match rest with
      | .unit m :: rest =>
        if 0xDC00 ≤ m ∧ m ≤ 0xDFFF then
          (joinPieces rest).map (Char.ofNat (0x10000 + (n - 0xD800) * 0x400 + (m - 0xDC00)) :: ·)
        else none
      | _ => none
    else if 0xDC00 ≤ n ∧ n ≤ 0xDFFF then none
    else (joinPieces rest).map (Char.ofNat n :: ·)

/-- The character behind a backslash, for the escapes of one letter. -/
def shortEscape? : Char → Option Char
  | '"' => some '"'
  | '\\' => some '\\'
  | '/' => some '/'
  | 'b' => some (Char.ofNat 8)
  | 'f' => some (Char.ofNat 12)
  | 'n' => some '\n'
  | 'r' => some '\r'
  | 't' => some '\t'
  | _ => none

/-- The code unit of four hexadecimal digits. -/
def codeUnit? (a b c d : Char) : Option Nat := do
  let a ← Text.hexValue? a
  let b ← Text.hexValue? b
  let c ← Text.hexValue? c
  let d ← Text.hexValue? d
  return ((a * 16 + b) * 16 + c) * 16 + d

/-- The pieces up to the closing quote, and the text after it. -/
def readPieces : List Char → Option (List Piece × List Char)
  | [] => none
  | '"' :: rest => some ([], rest)
  | '\\' :: 'u' :: a :: b :: c :: d :: rest => do
    let n ← codeUnit? a b c d
    let (ps, after) ← readPieces rest
    return (.unit n :: ps, after)
  | '\\' :: e :: rest => do
    let c ← shortEscape? e
    let (ps, after) ← readPieces rest
    return (.char c :: ps, after)
  | c :: rest =>
    if c.toNat < 32 ∨ c = '\\' then none
    else do
      let (ps, after) ← readPieces rest
      return (.char c :: ps, after)

/-- A string without its opening quote: its value, if it has one, and the text after it. -/
def readString (cs : List Char) : Option (Option String × List Char) := do
  let (ps, after) ← readPieces cs
  return ((joinPieces ps).map String.ofList, after)

/-! ## Documents -/

/-- The blanks between tokens. -/
def isSpace (c : Char) : Bool := c == ' ' || c == '\n' || c == '\t' || c == '\r'

/-- A text without its leading blanks. -/
def skipSpace (cs : List Char) : List Char := cs.dropWhile isSpace

mutual

/-- A value and the text after it. Every step lowers `fuel`; the length of the text is enough. -/
def readTree : Nat → List Char → Option (Tree × List Char)
  | 0, _ => none
  | fuel + 1, cs =>
    match skipSpace cs with
    | 'n' :: 'u' :: 'l' :: 'l' :: rest => some (.null, rest)
    | 't' :: 'r' :: 'u' :: 'e' :: rest => some (.bool true, rest)
    | 'f' :: 'a' :: 'l' :: 's' :: 'e' :: rest => some (.bool false, rest)
    | '"' :: rest => do
      let (s, after) ← readString rest
      return (.string s, after)
    | '[' :: rest =>
      match skipSpace rest with
      | ']' :: after => some (.array [], after)
      | rest => do
        let (first, after) ← readTree fuel rest
        let (others, after) ← readItems fuel after
        return (.array (first :: others), after)
    | '{' :: rest =>
      match skipSpace rest with
      | '}' :: after => some (.object [], after)
      | rest => do
        let (first, after) ← readMember fuel rest
        let (others, after) ← readMembers fuel after
        return (.object (first :: others), after)
    | cs => do
      let (lit, after) ← readLiteral cs
      return (.number lit.value?, after)

/-- The items behind the first one, up to the closing bracket. -/
def readItems : Nat → List Char → Option (List Tree × List Char)
  | 0, _ => none
  | fuel + 1, cs =>
    match skipSpace cs with
    | ']' :: after => some ([], after)
    | ',' :: rest => do
      let (item, after) ← readTree fuel rest
      let (others, after) ← readItems fuel after
      return (item :: others, after)
    | _ => none

/-- A key, a colon and a value. -/
def readMember : Nat → List Char → Option ((Option String × Tree) × List Char)
  | 0, _ => none
  | fuel + 1, cs =>
    match skipSpace cs with
    | '"' :: rest => do
      let (key, after) ← readString rest
      match skipSpace after with
      | ':' :: rest => do
        let (value, after) ← readTree fuel rest
        return ((key, value), after)
      | _ => none
    | _ => none

/-- The members behind the first one, up to the closing brace. -/
def readMembers : Nat → List Char → Option (List (Option String × Tree) × List Char)
  | 0, _ => none
  | fuel + 1, cs =>
    match skipSpace cs with
    | '}' :: after => some ([], after)
    | ',' :: rest => do
      let (member, after) ← readMember fuel rest
      let (others, after) ← readMembers fuel after
      return (member :: others, after)
    | _ => none

end

/-- The tree of a whole text: one value between blanks. -/
def Tree.read? (text : String) : Option Tree :=
  let cs := text.toList
  match readTree (2 * cs.length + 2) cs with
  | some (tree, after) => if (skipSpace after).isEmpty then some tree else none
  | none => none

/-! ## Values -/

mutual

/-- The value of a tree, if all its parts have one and brackets nest at most `levels` deep. -/
def Tree.value? : Nat → Tree → Option Value
  | _, .null => some .null
  | _, .bool b => some (.bool b)
  | _, .number n => n.map .number
  | _, .string s => s.map .string
  | 0, .array _ => none
  | levels + 1, .array items => (values? levels items).map .array
  | 0, .object _ => none
  | levels + 1, .object members =>
    (memberValues? levels members).map fun ms => .object (canonicalMembers ms)

/-- The values of a list of trees. -/
def values? : Nat → List Tree → Option (List Value)
  | _, [] => some []
  | levels, t :: rest => do
    let v ← t.value? levels
    let vs ← values? levels rest
    return v :: vs

/-- The values of a list of members, in their order. -/
def memberValues? : Nat → List (Option String × Tree) → Option (List (String × Value))
  | _, [] => some []
  | levels, (key, t) :: rest => do
    let k ← key
    let v ← t.value? levels
    let vs ← memberValues? levels rest
    return (k, v) :: vs

end

mutual

/-- A value as a document. -/
def Value.tree : Value → Tree
  | .null => .null
  | .bool b => .bool b
  | .number n => .number (some n)
  | .string s => .string (some s)
  | .array items => .array (treeItems items)
  | .object members => .object (treeMembers members)

/-- A list of values as documents. -/
def treeItems : List Value → List Tree
  | [] => []
  | v :: rest => v.tree :: treeItems rest

/-- A list of members as documents. -/
def treeMembers : List (String × Value) → List (Option String × Tree)
  | [] => []
  | (k, v) :: rest => (some k, v.tree) :: treeMembers rest

end

/-- The deepest nesting of brackets a document may have. -/
def depthLimit : Nat := 127

/-- Every part of a tree has a value and its nesting is within the limit. -/
def Tree.isReadable (t : Tree) : Bool := (t.value? depthLimit).isSome

/-- The value of a whole text. -/
def Value.read? (text : String) : Option Value := (Tree.read? text).bind (·.value? depthLimit)

end CameraViewer.Json
