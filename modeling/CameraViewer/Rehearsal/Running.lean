import CameraViewer.Rehearsal.Cue
import CameraViewer.Session.Client
import CameraViewer.Session.Pending
import CameraViewer.Session.Report

/-!
# Rehearsal/Running — the running client on the stage

After every step `settle` lets client, attempts and viewer go on by turns until nothing is left to
do. The viewer looks at every event, gives the commands that it sets free, and prints its lines.
-/

namespace CameraViewer.Rehearsal

open Config Link Peer Session

/-- The viewer at the terminal. -/
structure Terminal where
  /-- Actions that still wait. -/
  pending : PendingActions
  /-- How often a command could not be given, since this was last looked at. -/
  refused : Nat := 0
  /-- Lines that were not looked at. -/
  printed : List String := []

/-- The running client with its stage. -/
structure ClientRun where
  client : Client
  stage : Stage
  /-- Commands that wait for the client. -/
  commands : List SessionCommand := []
  /-- The viewer can give commands. -/
  hasHandle : Bool := true
  /-- The loop is over. -/
  ended : Bool := false
  /-- The viewer at the terminal, if there is one. -/
  terminal : Option Terminal := none
  /-- Events that the viewer has seen and that were not looked at. -/
  shown : List ViewerEvent := []

/-- What became of a command. -/
inductive CommandResult
  | given
  | noHandle
  | stopped
deriving DecidableEq, Repr

namespace ClientRun

/-- Starts the client on a stage. -/
def start (url : String) (config : ClientConfig) (pending : Option PendingActions) (stage : Stage) :
    ClientRun :=
  let (client, stage) := (Client.start url config stage.now).run stage
  { client, stage, terminal := pending.map fun pending => { pending } }

/-- Gives a command. -/
def command (c : SessionCommand) (r : ClientRun) : CommandResult × ClientRun :=
  if !r.hasHandle then (.noHandle, r)
  else if r.ended then (.stopped, r)
  else (.given, { r with commands := r.commands ++ [c] })

/-- The viewer can give no more commands. -/
def dropHandle (r : ClientRun) : ClientRun := { r with hasHandle := false }

/-- Something happens from outside. -/
def cue (c : Cue) (r : ClientRun) : CueResult × ClientRun :=
  let (result, stage) := r.stage.cue c
  (result, { r with stage })

/-- What waits for the client. -/
def inbox (r : ClientRun) : Inbox := ⟨r.stage.links, r.stage.reports, r.commands, !r.hasHandle⟩

/-- The client takes one turn; what then waits is given. -/
def turn (t : Turn) (i : Inbox) (r : ClientRun) : ClientRun :=
  let stage := { r.stage with links := i.links, reports := i.peers }
  let ((client, goesOn), stage) := (r.client.turn stage.now t).run stage
  let stage :=
    if goesOn then stage else { stage with listening := false, links := [], reports := [] }
  { r with client, stage, commands := i.commands, ended := !goesOn }

/-- The client takes turns until nothing waits. -/
def turns : Nat → ClientRun → ClientRun
  | 0, r => r
  | fuel + 1, r =>
    if r.ended then r
    else
      match r.client.next? r.stage.now r.inbox with
      | none => r
      | some (t, i) => turns fuel (r.turn t i)

/-- More turns than can be taken now: one for each thing that waits, one for the end, one for the
reconnect delay, and one for every status within the tolerance. -/
def turnBound (r : ClientRun) : Nat :=
  r.stage.links.length + r.stage.reports.length + r.commands.length + Ticker.tolerance + 4

/-- The viewer looks at an event. -/
def look (e : ViewerEvent) (r : ClientRun) : ClientRun :=
  let r := { r with shown := r.shown ++ [e] }
  match r.terminal with
  | none => r
  | some t =>
    let (commands, given, pending) := t.pending.onEvent (r.hasHandle && !r.ended) e
    { r with
      commands := r.commands ++ commands
      terminal := some
        { pending
          refused := if given then t.refused else t.refused + 1
          printed := t.printed ++ reportLines e } }

/-- The client takes its turns, then the attempts run, then the viewer looks. -/
def round (r : ClientRun) : ClientRun :=
  let r := r.turns r.turnBound
  let r := { r with stage := r.stage.settle }
  let (told, stage) := r.stage.takeTold
  told.foldl (fun r e => r.look e) { r with stage }

/-- Something still waits for the client. -/
def isBusy (r : ClientRun) : Bool :=
  !r.ended && (r.client.next? r.stage.now r.inbox).isSome

/-- Rounds until nothing waits. -/
def rounds : Nat → ClientRun → ClientRun
  | 0, r => r
  | fuel + 1, r => if r.round.isBusy then rounds fuel r.round else r.round

/-- Lets everything happen that waits. Every further round is due to a new attempt, and each but the
last of these uses up a planned failure, or to actions set free, which happens twice at most. -/
def settle (r : ClientRun) : ClientRun := r.rounds (2 * r.stage.exchange.failures + 8)

end ClientRun

end CameraViewer.Rehearsal
