import CameraViewer.Json.Decode

/-!
# Signal/Command — commands between the two sides, and who is watching

Either side may start or stop recording and talking. The relay tells who is connected.
-/

namespace CameraViewer.Signal

open Json

/-- What is started or stopped. -/
inductive RemoteCommand
  | record
  | talk
deriving DecidableEq, Repr, Inhabited

/-- Start or stop. -/
inductive CommandArg
  | start
  | stop
deriving DecidableEq, Repr, Inhabited

namespace RemoteCommand

/-- The word of a command on the wire. -/
def wire : RemoteCommand → String
  | .record => "record"
  | .talk => "talk"

/-- The command of a word. -/
def ofWire? : String → Option RemoteCommand
  | "record" => some .record
  | "talk" => some .talk
  | _ => none

/-- The command of a name in a document. -/
def ofTree? (held : Bool) (t : Tree) : Option RemoteCommand := (t.variant? held).bind ofWire?

/-- The name of a command in logs and traces. -/
def name : RemoteCommand → String
  | .record => "Record"
  | .talk => "Talk"

end RemoteCommand

namespace CommandArg

/-- `start` for true, `stop` for false. -/
def ofFlag (start : Bool) : CommandArg := if start then .start else .stop

/-- The word of an argument on the wire. -/
def wire : CommandArg → String
  | .start => "start"
  | .stop => "stop"

/-- The argument of a word. -/
def ofWire? : String → Option CommandArg
  | "start" => some .start
  | "stop" => some .stop
  | _ => none

/-- The argument of a name in a document. -/
def ofTree? (held : Bool) (t : Tree) : Option CommandArg := (t.variant? held).bind ofWire?

/-- The name of an argument in logs and traces. -/
def name : CommandArg → String
  | .start => "Start"
  | .stop => "Stop"

end CommandArg

/-- Someone who is connected to the relay. -/
structure RosterEntry where
  /-- Name of the viewer. -/
  name : String
  /-- Since when, as the relay writes it. -/
  indate : String
deriving DecidableEq, Repr, Inhabited

namespace RosterEntry

/-- The entry of a record. -/
def ofTree? (t : Tree) : Option RosterEntry := do
  match ← t.record? ["name", "indate"] with
  | [name, indate] => return ⟨← (← name).text?, ← (← indate).text?⟩
  | _ => none

/-- The record of an entry. -/
def toValue (e : RosterEntry) : Value :=
  .object [("name", .string e.name), ("indate", .string e.indate)]

end RosterEntry

end CameraViewer.Signal
