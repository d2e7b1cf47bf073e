import CameraViewer.Session.Event
import CameraViewer.Text.Quoted

/-!
# Session/Report — lines for the terminal

Of all that the viewer is told, notices, states of sessions, the roster and files make lines.
-/

namespace CameraViewer.Session

open Transfer

/-- A transfer state as the terminal shows it. -/
def transferStateText : TransferState → String
  | .waiting => "Waiting"
  | .sending => "Sending"
  | .paused => "Paused"
  | .completed => "Completed"
  | .failed reason => "Failed(" ++ Text.quoted reason ++ ")"

/-- A report on a file as the terminal shows it. -/
def progressLine (p : TransferProgress) : String :=
  p.name ++ ": " ++ toString p.queued ++ "/" ++ toString p.total ++ " bytes "
    ++ transferStateText p.state

/-- The lines for an event. -/
def reportLines : ViewerEvent → List String
  | .notice message => [message]
  | .connectivity session state => ["session " ++ toString session ++ ": " ++ state.name]
  | .roster entries => entries.map fun e => "viewer " ++ e.name ++ " since " ++ e.indate
  | .transfer p => [progressLine p]
  | _ => []

end CameraViewer.Session
