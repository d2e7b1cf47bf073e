import CameraViewer.Json.Decode

/-!
# Signal/Descriptor — offers and answers

The two sides of a session describe themselves to each other: one offers, the other answers. A
descriptor carries its role and its text.
-/

namespace CameraViewer.Signal

open Json

/-- What a descriptor is for. -/
inductive DescriptorRole
  | offer
  | answer
deriving DecidableEq, Repr, Inhabited

namespace DescriptorRole

/-- The word of a role on the wire. -/
def wire : DescriptorRole → String
  | .offer => "offer"
  | .answer => "answer"

/-- The role of a word. -/
def ofWire? : String → Option DescriptorRole
  | "offer" => some .offer
  | "answer" => some .answer
  | _ => none

/-- The role of a name in a document; `held` as in `Tree.variant?`. -/
def ofTree? (held : Bool) (t : Tree) : Option DescriptorRole := (t.variant? held).bind ofWire?

/-- The name of a role in logs and traces. -/
def name : DescriptorRole → String
  | .offer => "Offer"
  | .answer => "Answer"

end DescriptorRole

/-- An offer or an answer. -/
structure SessionDescriptor where
  /-- What it is for. -/
  role : DescriptorRole
  /-- The description itself, lines of attributes. -/
  sdp : String
deriving DecidableEq, Repr, Inhabited

namespace SessionDescriptor

/-- An offer. -/
def offer (sdp : String) : SessionDescriptor := ⟨.offer, sdp⟩

/-- An answer. -/
def answer (sdp : String) : SessionDescriptor := ⟨.answer, sdp⟩

/-- The descriptor of a record. -/
def ofTree? (held : Bool) (t : Tree) : Option SessionDescriptor := do
  match ← t.record? ["type", "sdp"] with
  | [role, sdp] => return ⟨← DescriptorRole.ofTree? held (← role), ← (← sdp).text?⟩
  | _ => none

/-- The record of a descriptor. -/
def toValue (d : SessionDescriptor) : Value :=
  .object [("type", .string d.role.wire), ("sdp", .string d.sdp)]

end SessionDescriptor

end CameraViewer.Signal
