import CameraViewer.Json.Decode

/-!
# Signal/Candidate — addresses at which a peer may be reached

A candidate names one way to reach a peer, and which part of the description it belongs to.
-/

namespace CameraViewer.Signal

open Json

/-- One way to reach a peer. -/
structure Candidate where
  /-- The attribute text. -/
  candidate : String
  /-- Name of the media section. -/
  sdpMid : Option String
  /-- Index of the media section. -/
  sdpMLineIndex : Option UInt16
  /-- The user fragment of the description it belongs to. -/
  usernameFragment : Option String
deriving DecidableEq, Repr, Inhabited

namespace Candidate

/-- A candidate that says nothing but its text. -/
def ofText (text : String) : Candidate := ⟨text, none, none, none⟩

/-- An optional field of a record: missing and `null` say the same. -/
def optionalField {α : Type} (decode : Tree → Option α) : Option Tree → Option (Option α)
  | none => some none
  | some t => t.nullable? decode

/-- The candidate of a record. -/
def ofTree? (t : Tree) : Option Candidate := do
  match ← t.record? ["candidate", "sdpMid", "sdpMLineIndex", "usernameFragment"] with
  | [candidate, mid, line, fragment] =>
    return ⟨← (← candidate).text?, ← optionalField Tree.text? mid,
      ← optionalField Tree.uint16? line, ← optionalField Tree.text? fragment⟩
  | _ => none

/-- The record of a candidate; what is not known is left out. -/
def toValue (c : Candidate) : Value :=
  .object ([("candidate", .string c.candidate)]
    ++ Value.optional "sdpMid" (c.sdpMid.map .string)
    ++ Value.optional "sdpMLineIndex" (c.sdpMLineIndex.map fun n => .int n.toNat)
    ++ Value.optional "usernameFragment" (c.usernameFragment.map .string))

end Candidate

end CameraViewer.Signal
