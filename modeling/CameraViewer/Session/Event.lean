import CameraViewer.Control.Catalog
import CameraViewer.Peer.Connectivity
import CameraViewer.Signal.Command
import CameraViewer.Transfer.Job

/-!
# Session/Event — what the viewer is told, and what the viewer may ask

`ViewerEvent` is everything shown to the viewer, `SessionCommand` everything the viewer can do.
-/

namespace CameraViewer.Session

open Control Peer Signal Transfer

/-- The state of the link to the relay. -/
inductive LinkState
  /-- Not connected; a new attempt may be pending. -/
  | idle
  /-- An attempt is under way. -/
  | connecting
  /-- Messages can be sent. -/
  | opened
  /-- Stopped for good. -/
  | shutdown
deriving DecidableEq, Repr, Inhabited

/-- The name of a link state. -/
def LinkState.name : LinkState → String
  | .idle => "Idle"
  | .connecting => "Connecting"
  | .opened => "Open"
  | .shutdown => "Shutdown"

/-- What goes on besides the connection itself. -/
structure SessionFlags where
  /-- The device records. -/
  recording : Bool := false
  /-- The microphone is live. -/
  talking : Bool := false
deriving DecidableEq, Repr, Inhabited

/-- The client at a glance. -/
structure StatusSnapshot where
  /-- The link to the relay. -/
  link : LinkState
  /-- The current session. -/
  session : Option Nat
  /-- How far it has come. -/
  connectivity : Option Connectivity
  /-- What goes on besides. -/
  flags : SessionFlags
  /-- The job being sent. -/
  transfer : Option TransferProgress
  /-- The number of jobs that wait. -/
  queued : Nat
deriving DecidableEq, Repr

/-- What the viewer is told. -/
inductive ViewerEvent
  | link (state : LinkState)
  | connectivity (session : Nat) (state : Connectivity)
  | localMedia (sending : Bool)
  | remoteTrack (kind id : String)
  | roster (entries : List RosterEntry)
  /-- The controls of the device, normalized. -/
  | catalog (catalog : Catalog)
  | deviceControl (value : Option ControlValue) (reset : Bool)
  | remoteCommand (cmd : RemoteCommand) (arg : CommandArg)
  | notice (message : String)
  | transfer (progress : TransferProgress)
  | status (snapshot : StatusSnapshot)
deriving DecidableEq

/-- What the viewer may ask for. -/
inductive SessionCommand
  /-- Sends an offer. -/
  | offer
  /-- Starts or stops recording on the device. -/
  | record (start : Bool)
  /-- Starts or stops the microphone. -/
  | talk (start : Bool)
  /-- Sends a file to the device. -/
  | sendClip (name mime : String) (data : Payload)
  /-- Sets a control, in the presented range. -/
  | setControl (name : String) (value : Int64)
  /-- Sets a control to on or off. -/
  | toggleControl (name : String) (checked : Bool)
  /-- Resets all controls. -/
  | resetControls
  /-- Asks for a status. -/
  | status
  /-- Ends the session; the link stays. -/
  | stop
  /-- Ends everything. -/
  | shutdown

end CameraViewer.Session
