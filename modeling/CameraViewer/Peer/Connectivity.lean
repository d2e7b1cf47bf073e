/-!
# Peer/Connectivity — how far the connection of two peers has come

The states of a session and the table of its legal moves. `closed` is final; no state moves to
itself.
-/

namespace CameraViewer.Peer

/-- The state of a session. -/
inductive Connectivity
  | new
  | connecting
  | connected
  | disconnected
  | failed
  | closed
deriving DecidableEq, Repr, Inhabited

namespace Connectivity

/-- The name of a state. -/
def name : Connectivity → String
  | .new => "New"
  | .connecting => "Connecting"
  | .connected => "Connected"
  | .disconnected => "Disconnected"
  | .failed => "Failed"
  | .closed => "Closed"

/-- The state of a name. -/
def ofName? : String → Option Connectivity
  | "New" => some .new
  | "Connecting" => some .connecting
  | "Connected" => some .connected
  | "Disconnected" => some .disconnected
  | "Failed" => some .failed
  | "Closed" => some .closed
  | _ => none

/-- The legal moves. Any state but the last may close; otherwise a session never becomes new again,
and a new one cannot lose what it never had. -/
def canMoveTo (here next : Connectivity) : Bool :=
  if here = .closed ∨ here = next then false
  else
    match here, next with
    | _, .closed => true
    | _, .new => false
    | .new, .disconnected => false
    | _, _ => true

/-- States in which media of this side has to stop. -/
def isDegraded : Connectivity → Bool
  | .disconnected => true
  | .failed => true
  | _ => false

end Connectivity

end CameraViewer.Peer
