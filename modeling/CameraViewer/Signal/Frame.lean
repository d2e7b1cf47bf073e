import CameraViewer.Control.Catalog
import CameraViewer.Signal.Envelope

/-!
# Signal/Frame — what one text frame of the relay carries

A frame is a JSON object. It may carry a message, if its `type` is one of the known ones, and a
catalog of device controls under `ctrls`; a frame with neither tag nor catalog is an error, a frame
of an unknown type is not. `FrameError` lists the causes of refusal.
-/

namespace CameraViewer.Signal

open Json Control

/-- Why a frame was refused. -/
inductive FrameError
  /-- The text is no JSON document. -/
  | notJson
  /-- The document is no object. -/
  | notAnObject
  /-- There is neither a type nor a catalog. -/
  | missingType
  /-- The fields do not fit the kind. -/
  | payload (kind : SignalKind)
  /-- The catalog does not fit. -/
  | catalog
deriving DecidableEq, Repr

namespace FrameError

/-- The name of a cause. -/
def name : FrameError → String
  | .notJson => "Json"
  | .notAnObject => "NotAnObject"
  | .missingType => "MissingType"
  | .payload _ => "Payload"
  | .catalog => "Catalog"

/-- What is said about a refusal, up to where the details of the reader would follow. -/
def message : FrameError → String
  | .notJson => "frame is not valid json: "
  | .notAnObject => "frame is not a json object"
  | .missingType => "frame has neither a type nor a control catalog"
  | .payload kind => "malformed " ++ kind.wire ++ " payload: "
  | .catalog => "malformed control catalog: "

end FrameError

/-- A decoded frame. -/
structure Frame where
  /-- The type, known or not. -/
  tag : Option String
  /-- The message, where the type is known. -/
  envelope : Option Envelope
  /-- The catalog that came along. -/
  catalog : Option Catalog

/-- The members of the JSON object in a text. -/
def objectOfText (text : String) : Except FrameError (List (String × Value)) :=
  match Value.read? text with
  | none => .error .notJson
  | some (.object members) => .ok members
  | some _ => .error .notAnObject

/-- The text of a string value. -/
def stringOf? : Value → Option String
  | .string s => some s
  | _ => none

/-- The catalog among the members of a frame, if there is one. -/
def catalogIn (members : List (String × Value)) : Except FrameError (Option Catalog) :=
  match member? "ctrls" members with
  | none => .ok none
  | some raw =>
    match Catalog.ofTree? raw.tree with
    | some c => .ok (some c)
    | none => .error .catalog

/-- The message of a frame, if its type is known. -/
def envelopeIn (members : List (String × Value)) (tag : Option String) :
    Except FrameError (Option Envelope) :=
  match tag.bind SignalKind.ofWire? with
  | none => .ok none
  | some kind =>
    match Envelope.ofTree? (Value.object members).tree with
    | some e => .ok (some e)
    | none => .error (.payload kind)

/-- The frame in a text. The catalog is looked at before the message. -/
def Frame.read (text : String) : Except FrameError Frame := do
  let members ← objectOfText text
  let tag := (member? "type" members).bind stringOf?
  let catalog ← catalogIn members
  if tag.isNone ∧ catalog.isNone then .error .missingType else pure ()
  let envelope ← envelopeIn members tag
  return ⟨tag, envelope, catalog⟩

end CameraViewer.Signal
