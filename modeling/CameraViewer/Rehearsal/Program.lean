import CameraViewer.CommandLine.Invocation
import CameraViewer.Rehearsal.Running
import CameraViewer.Transfer.Job

/-!
# Rehearsal/Program — the whole program without a relay

The program starts its client with a relay that refuses every connection; the client waits and tries
again until the program is interrupted.
-/

namespace CameraViewer.Rehearsal

open CommandLine Session Transfer

namespace ClientRun

/-- The relay refuses the next connection. -/
def refuseNext (r : ClientRun) : ClientRun := (r.cue (.failConnects 1)).2

/-- A client in front of a relay that refuses the connection. -/
def startRefused (url : String) (i : Invocation) : ClientRun :=
  (start url i.config (some i.pending) { exchange := { failures := 1 } }).round

/-- Time passes, in milliseconds, and whatever is tried is refused. -/
def waitRefused (ms : Nat) (r : ClientRun) : ClientRun := (r.refuseNext.cue (.wait ms)).2.round

/-- An interrupt stops the session, then the client. -/
def interrupt (r : ClientRun) : ClientRun := ((r.command .stop).2.command .shutdown).2.settle

/-- The lines that were printed since they were last looked at. -/
def printed (r : ClientRun) : List String := (r.terminal.map (·.printed)).getD []

/-- Looks at the lines that were printed. -/
def takePrinted (r : ClientRun) : List String × ClientRun :=
  (r.printed, { r with terminal := r.terminal.map fun t => { t with printed := [] } })

end ClientRun

end CameraViewer.Rehearsal
