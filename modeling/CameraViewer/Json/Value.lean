import CameraViewer.Json.Number

/-!
# Json/Value — JSON values and their text

`Value` is the tree of a document all of whose parts have a value. An object is a list of members;
canonical ones (`canonicalMembers`) are sorted by key, each key once: a later member replaces an
earlier one of its name (`insertMember`). `Value.text` writes a value without blanks, members in the
order of the list.
-/

namespace CameraViewer.Json

/-- A JSON value. -/
inductive Value
  | null
  | bool (value : Bool)
  | number (value : Number)
  | string (value : String)
  | array (items : List Value)
  | object (members : List (String × Value))
deriving Repr, Inhabited

namespace Value

/-- An integer as a value. -/
def int (n : Int) : Value := .number (.int n)

/-- A member that is left out when there is nothing to say. -/
def optional (name : String) : Option Value → List (String × Value)
  | none => []
  | some v => [(name, v)]

end Value

/-! ## Members -/

/-- Puts a member in its place by key; one of the same name is replaced. -/
def insertMember {β : Type} (key : String) (value : β) : List (String × β) → List (String × β)
  | [] => [(key, value)]
  | (k, v) :: rest =>
    if key < k then (key, value) :: (k, v) :: rest
    else if key = k then (key, value) :: rest
    else (k, v) :: insertMember key value rest

/-- The members sorted by key, the last of each name. -/
def canonicalMembers {β : Type} (members : List (String × β)) : List (String × β) :=
  members.foldl (fun acc m => insertMember m.1 m.2 acc) []

/-- The first member of a name. -/
def member? {β : Type} (name : String) : List (String × β) → Option β
  | [] => none
  | (k, v) :: rest => if k = name then some v else member? name rest

/-! ## Text -/

/-- One character of a string: quotes, backslashes and controls are escaped, all else stands for
itself. -/
def escapeChar (c : Char) : List Char :=
  match c.toNat with
  | 8 => ['\\', 'b']
  | 9 => ['\\', 't']
  | 10 => ['\\', 'n']
  | 12 => ['\\', 'f']
  | 13 => ['\\', 'r']
  | 34 => ['\\', '"']
  | 92 => ['\\', '\\']
  | n => if n < 32 then ['\\', 'u'] ++ Text.hexDigits 4 n else [c]

/-- A string between its quotes. -/
def renderString (s : String) : List Char :=
  '"' :: (s.toList.flatMap escapeChar ++ ['"'])

mutual

/-- The text of a value. -/
def Value.render : Value → List Char
  | .null => ['n', 'u', 'l', 'l']
  | .bool true => ['t', 'r', 'u', 'e']
  | .bool false => ['f', 'a', 'l', 's', 'e']
  | .number n => n.render
  | .string s => renderString s
  | .array [] => ['[', ']']
  | .array (v :: rest) => '[' :: (v.render ++ renderItems rest)
  | .object [] => ['{', '}']
  | .object ((k, v) :: rest) => '{' :: (renderString k ++ ':' :: (v.render ++ renderMembers rest))

/-- The items after the first, each behind a comma, and the closing bracket. -/
def renderItems : List Value → List Char
  | [] => [']']
  | v :: rest => ',' :: (v.render ++ renderItems rest)

/-- The members after the first, each behind a comma, and the closing brace. -/
def renderMembers : List (String × Value) → List Char
  | [] => ['}']
  | (k, v) :: rest => ',' :: (renderString k ++ ':' :: (v.render ++ renderMembers rest))

end

/-- The text of a value as a string. -/
def Value.text (v : Value) : String := String.ofList v.render

end CameraViewer.Json
