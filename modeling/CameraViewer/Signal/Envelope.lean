import CameraViewer.Control.Descriptor
import CameraViewer.Signal.Command
import CameraViewer.Signal.Descriptor
import CameraViewer.Signal.IceServer

/-!
# Signal/Envelope — the messages on the relay socket

Every message is a JSON object whose `type` names one of seven kinds. `Envelope.ofTree?` reads it
and `Envelope.text` writes it.
-/

namespace CameraViewer.Signal

open Json Control

/-! ## Kinds -/

/-- The kinds of messages. -/
inductive SignalKind
  | sessionDescription
  | candidate
  | userControl
  | command
  | roster
  | iceServers
  | recordRefused
deriving DecidableEq, Repr, Inhabited

namespace SignalKind

/-- The tag of a kind on the wire. -/
def wire : SignalKind → String
  | .sessionDescription => "sdp"
  | .candidate => "ice"
  | .userControl => "v4l2"
  | .command => "cmd"
  | .roster => "users"
  | .iceServers => "iceServers"
  | .recordRefused => "record"

/-- The kind of a tag. -/
def ofWire? : String → Option SignalKind
  | "sdp" => some .sessionDescription
  | "ice" => some .candidate
  | "v4l2" => some .userControl
  | "cmd" => some .command
  | "users" => some .roster
  | "iceServers" => some .iceServers
  | "record" => some .recordRefused
  | _ => none

/-- The name of a kind in logs and traces. -/
def name : SignalKind → String
  | .sessionDescription => "SessionDescription"
  | .candidate => "Candidate"
  | .userControl => "UserControl"
  | .command => "Command"
  | .roster => "Roster"
  | .iceServers => "IceServers"
  | .recordRefused => "RecordRefused"

end SignalKind

/-! ## Messages -/

/-- One message between client and relay. -/
inductive Envelope
  /-- An offer or an answer. -/
  | sessionDescription (data : SessionDescriptor)
  /-- A way to reach the sender. -/
  | candidate (data : Candidate)
  /-- A control of the device was or shall be set, or all of them reset. -/
  | userControl (data : Option ControlValue) (reset : Bool)
  /-- Recording or talking starts or stops. -/
  | command (cmd : RemoteCommand) (arg : CommandArg)
  /-- Who is connected. -/
  | roster (data : List RosterEntry)
  /-- Servers for the next session. -/
  | iceServers (servers : IceServerList)
  /-- The device refused to record, for a reason of its own. -/
  | recordRefused (data : Value)
deriving Repr, Inhabited

namespace Envelope

/-- The kind of a message. -/
def kind : Envelope → SignalKind
  | .sessionDescription _ => .sessionDescription
  | .candidate _ => .candidate
  | .userControl _ _ => .userControl
  | .command _ _ => .command
  | .roster _ => .roster
  | .iceServers _ => .iceServers
  | .recordRefused _ => .recordRefused

/-- Sets a control of the device. -/
def setControl (id : UInt32) (value : Int64) : Envelope := .userControl (some ⟨id, value⟩) false

/-- Resets all controls of the device. -/
def resetControls : Envelope := .userControl none true

/-- Starts or stops recording or talking. -/
def start (cmd : RemoteCommand) (start : Bool) : Envelope := .command cmd (.ofFlag start)

/-! ## Messages as values -/

/-- The fields of a message besides its tag. -/
def fields : Envelope → List (String × Value)
  | .sessionDescription data => [("data", data.toValue)]
  | .candidate data => [("data", data.toValue)]
  | .userControl data reset =>
    Value.optional "data" (data.map ControlValue.toValue)
      ++ Value.optional "reset" (if reset then some (.bool true) else none)
  | .command cmd arg => [("cmd", .string cmd.wire), ("arg", .string arg.wire)]
  | .roster data => [("data", .array (data.map RosterEntry.toValue))]
  | .iceServers servers => [("iceServers", servers.toValue)]
  | .recordRefused data => [("data", data)]

/-- A message as an object, its tag first. -/
def toValue (e : Envelope) : Value := .object (("type", .string e.kind.wire) :: e.fields)

/-- The text of a message. -/
def text (e : Envelope) : String := e.toValue.text

/-- The message of a kind whose fields stand in a record. -/
def ofFields? : SignalKind → Tree → Option Envelope
  | .sessionDescription, t => do
    match ← t.record? ["data"] with
    | [data] => return .sessionDescription (← SessionDescriptor.ofTree? true (← data))
    | _ => none
  | .candidate, t => do
    match ← t.record? ["data"] with
    | [data] => return .candidate (← Candidate.ofTree? (← data))
    | _ => none
  | .userControl, t => do
    match ← t.record? ["data", "reset"] with
    | [data, reset] =>
      return .userControl (← Candidate.optionalField ControlValue.ofTree? data)
        (← orDefault false Tree.flag? reset)
    | _ => none
  | .command, t => do
    match ← t.record? ["cmd", "arg"] with
    | [cmd, arg] =>
      return .command (← RemoteCommand.ofTree? true (← cmd)) (← CommandArg.ofTree? true (← arg))
    | _ => none
  | .roster, t => do
    match ← t.record? ["data"] with
    | [data] => return .roster (← (← data).list? RosterEntry.ofTree?)
    | _ => none
  | .iceServers, t => do
    match ← t.record? ["iceServers"] with
    | [servers] => return .iceServers (← IceServerList.ofTree? (← servers))
    | _ => none
  | .recordRefused, t => do
    match ← t.record? ["data"] with
    | [data] => return .recordRefused (← orDefault .null (Tree.value? depthLimit) data)
    | _ => none

/-- The message in a document: the tag picks the kind, and the rest is its record. The whole
document is held until the tag is known, so every part of it has to be readable. -/
def ofTree? (t : Tree) : Option Envelope := do
  if t.isReadable then pure () else none
  let (tag, rest) ← t.tagged?
  let kind ← SignalKind.ofWire? tag
  ofFields? kind rest

/-- The message of a text. -/
def read? (text : String) : Option Envelope := (Tree.read? text).bind ofTree?

end Envelope

end CameraViewer.Signal
