import CameraViewer.Rehearsal.Cue
import CameraViewer.Session.Supervisor

/-!
# Rehearsal/Session — supervisor and link on the stage, without the loop

After every step `settle` lets the attempts run and takes in what they report, and then what the
peers report.
-/

namespace CameraViewer.Rehearsal

open Link Peer Session

/-- Supervisor and link with their stage. -/
structure SessionRun where
  link : RelayLink
  supervisor : Supervisor
  stage : Stage := {}

/-- What was made of a report of an attempt. -/
inductive Handled
  | opened
  | closed (reason : String)
  | routed (outcome : Routed)
  | stale
deriving DecidableEq, Repr

namespace SessionRun

/-- Runs an operation of the supervisor. -/
def act (op : StateM Stage Supervisor) (r : SessionRun) : SessionRun :=
  let (supervisor, stage) := op.run r.stage
  { r with supervisor, stage }

/-- Acts on a text as if it came from the relay. -/
def route (text : String) (r : SessionRun) : Routed × SessionRun :=
  let ((outcome, supervisor), stage) := (r.supervisor.dispatch r.link text).run r.stage
  (outcome, { r with supervisor, stage })

/-- Starts an attempt; tells its generation. -/
def connect (r : SessionRun) : Nat × SessionRun :=
  let (link, stage) := (r.link.connect).run r.stage
  (link.generation, { r with link, stage })

/-- Starts the next attempt if it is due. -/
def due (r : SessionRun) : Option Nat × SessionRun :=
  let ((attempt, link), stage) := (r.link.onReconnectDue r.stage.now).run r.stage
  (attempt, { r with link, stage })

/-- Stops the link. -/
def stopLink (r : SessionRun) : SessionRun :=
  let (link, stage) := (r.link.shutdown).run r.stage
  { r with link, stage }

/-- Acts on a command. -/
def command (c : SessionCommand) (r : SessionRun) : SessionRun :=
  r.act (r.supervisor.onCommand r.link c)

/-- Something happens from outside. -/
def cue (c : Cue) (r : SessionRun) : CueResult × SessionRun :=
  let (result, stage) := r.stage.cue c
  (result, { r with stage })

/-- Takes in a report of an attempt. -/
def onLinkEvent (e : LinkEvent) (r : SessionRun) : Handled × SessionRun :=
  let (update, link) := r.link.accept r.stage.now e
  let r := { r with link }
  match update with
  | none => (.stale, r)
  | some .opened => (.opened, r.act (r.supervisor.onLinkOpen link))
  | some (.message text) =>
    let (outcome, r) := r.route text
    (.routed outcome, r)
  | some (.closed reason) => (.closed reason, r)

/-- Takes in reports of attempts, in order. -/
def onLinkEvents : List LinkEvent → SessionRun → List Handled × SessionRun
  | [], r => ([], r)
  | e :: rest, r =>
    let (handled, r) := r.onLinkEvent e
    let (more, r) := onLinkEvents rest r
    (handled :: more, r)

/-- Takes in reports of peers, in order. -/
def onReports : List SessionEvent → SessionRun → SessionRun
  | [], r => r
  | e :: rest, r => onReports rest (r.act (r.supervisor.onPeerEvent r.link e))

/-- Lets everything happen that waits, and tells what was made of the reports of attempts. -/
def settle (r : SessionRun) : List Handled × SessionRun :=
  let stage := r.stage.settle
  let (handled, r) := onLinkEvents stage.links { r with stage := { stage with links := [] } }
  let (reports, stage) := r.stage.takeReports
  (handled, onReports reports { r with stage })

end SessionRun

end CameraViewer.Rehearsal
