import CameraViewer.Json.Tree

/-!
# Json/Decode — typed parts of a document

How a typed value is found in a tree. A record stands as an object, its known members at most once
and all others skipped, or as an array with its fields in order (`Tree.record?`). A name of a fixed
set stands as a string or as the only key of an object (`Tree.variant?`). A tagged record carries
the name of its case under `type` or in front (`Tree.tagged?`). Integers keep within their bounds
and are never read from doubles.
-/

namespace CameraViewer.Json

namespace Tree

/-- The text of a string. -/
def text? : Tree → Option String
  | .string s => s
  | _ => none

/-- A truth value. -/
def flag? : Tree → Option Bool
  | .bool b => some b
  | _ => none

/-- An integer. -/
def int? : Tree → Option Int
  | .number (some (.int n)) => some n
  | _ => none

/-- An integer of 64 bits with a sign. -/
def int64? (t : Tree) : Option Int64 :=
  t.int?.bind fun n =>
    if -0x8000000000000000 ≤ n ∧ n < 0x8000000000000000 then some (Int64.ofInt n) else none

/-- A natural number below a bound. -/
def natBelow? (bound : Nat) (t : Tree) : Option Nat :=
  t.int?.bind fun n => if 0 ≤ n ∧ n < bound then some n.toNat else none

/-- A natural number of 16 bits. -/
def uint16? (t : Tree) : Option UInt16 := (t.natBelow? UInt16.size).map UInt16.ofNat

/-- A natural number of 32 bits. -/
def uint32? (t : Tree) : Option UInt32 := (t.natBelow? UInt32.size).map UInt32.ofNat

/-- A natural number of 64 bits. -/
def uint64? (t : Tree) : Option UInt64 := (t.natBelow? UInt64.size).map UInt64.ofNat

/-- A part that may be `null`. -/
def nullable? {α : Type} (decode : Tree → Option α) : Tree → Option (Option α)
  | .null => some none
  | t => (decode t).map some

/-- The items of an array, each decoded. -/
def list? {α : Type} (decode : Tree → Option α) : Tree → Option (List α)
  | .array items => items.mapM decode
  | _ => none

end Tree

/-- The values of all members of a name. -/
def valuesOf (name : String) (members : List (Option String × Tree)) : List Tree :=
  members.filterMap fun m => if m.1 = some name then some m.2 else none

/-- The value of the member of a name, if there is one; a second one is an error. -/
def uniqueMember? (members : List (Option String × Tree)) (name : String) : Option (Option Tree) :=
  match valuesOf name members with
  | [] => some none
  | [t] => some (some t)
  | _ => none

/-- Members of a record by the names of its fields; every key has to be readable. -/
def fieldsByName? (names : List String) (members : List (Option String × Tree)) :
    Option (List (Option Tree)) :=
  if members.all (·.1.isSome) then names.mapM (uniqueMember? members) else none

/-- Items of a record by position; at most as many as fields, the rest is missing. -/
def fieldsInOrder? (names : List String) (items : List Tree) : Option (List (Option Tree)) :=
  if items.length ≤ names.length then
    some (items.map some ++ List.replicate (names.length - items.length) none)
  else none

namespace Tree

/-- The fields of a record, in the order of their names; missing ones are `none`. -/
def record? (names : List String) : Tree → Option (List (Option Tree))
  | .object members => fieldsByName? names members
  | .array items => fieldsInOrder? names items
  | _ => none

/-- The fields of a record that is only written as an object. -/
def namedRecord? (names : List String) : Tree → Option (List (Option Tree))
  | .object members => fieldsByName? names members
  | _ => none

/-- The name of a case: a string, or the key of an object with one member that says nothing more.
Where the document was held back before decoding (`held`), an empty object says nothing either. -/
def variant? (held : Bool) : Tree → Option String
  | .string s => s
  | .object [(key, .null)] => key
  | .object [(key, .object [])] => if held then key else none
  | _ => none

/-- A tagged record: the name of its case and the rest of it, a record without the tag. -/
def tagged? : Tree → Option (String × Tree)
  | .object members => do
    if members.all (·.1.isSome) then pure () else none
    let tag ← (← uniqueMember? members "type")
    let name ← tag.text?
    return (name, .object (members.filter (·.1 ≠ some "type")))
  | .array (tag :: rest) => do
    let name ← tag.text?
    return (name, .array rest)
  | _ => none

end Tree

end CameraViewer.Json
