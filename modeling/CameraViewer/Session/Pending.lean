import CameraViewer.Session.Event

/-!
# Session/Pending — actions that wait for a connected session

Recording and talking asked for before there is a session are started once, at the first connection.
-/

namespace CameraViewer.Session

/-- Actions that still wait. -/
structure PendingActions where
  /-- The device shall record. -/
  record : Bool := false
  /-- The microphone shall be live. -/
  talk : Bool := false
deriving DecidableEq, Repr, Inhabited

namespace PendingActions

/-- Starts what waits. Where nobody takes commands any more only the first attempt is made, and the
result is false. -/
def release (taken : Bool) (p : PendingActions) : List SessionCommand × Bool × PendingActions :=
  match taken, p.record, p.talk with
  | true, record, talk =>
    ((if record then [.record true] else []) ++ (if talk then [.talk true] else []), true, {})
  | false, true, talk => ([], false, { talk })
  | false, false, talk => ([], !talk, {})

/-- The commands an event sets free, whether they could be given, and what waits after it. -/
def onEvent (taken : Bool) (p : PendingActions) :
    ViewerEvent → List SessionCommand × Bool × PendingActions
  | .connectivity _ .connected => p.release taken
  | _ => ([], true, p)

end PendingActions

/-- Why a command could not be given. -/
def stoppedMessage : String := "session runtime has stopped"

end CameraViewer.Session
