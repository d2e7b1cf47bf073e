import CameraViewer.Rehearsal.Cue

/-!
# Rehearsal/Link — the link to the relay on the stage

After every step the attempts run until they wait; what they report waits until it is taken in.
-/

namespace CameraViewer.Rehearsal

open Link Signal

/-- A link with its stage. -/
structure LinkRun where
  link : RelayLink
  stage : Stage := {}

namespace LinkRun

/-- Runs an operation of the link, then all attempts. -/
def run {α : Type} (op : StateM Stage (α × RelayLink)) (r : LinkRun) : α × LinkRun :=
  let ((a, link), stage) := op.run r.stage
  (a, ⟨link, stage.settle⟩)

/-- Starts an attempt; tells its generation. -/
def connect (r : LinkRun) : Nat × LinkRun :=
  r.run do
    let link ← r.link.connect
    return (link.generation, link)

/-- Takes in events, in order. -/
def acceptAll (now : Nat) : List LinkEvent → RelayLink → List (Nat × Option LinkUpdate) × RelayLink
  | [], l => ([], l)
  | e :: rest, l =>
    let (update, l) := l.accept now e
    let (more, l) := acceptAll now rest l
    ((e.generation, update) :: more, l)

/-- Takes in all that waits. -/
def pump (r : LinkRun) : List (Nat × Option LinkUpdate) × LinkRun :=
  let (updates, link) := acceptAll r.stage.now r.stage.links r.link
  (updates, ⟨link, { r.stage with links := [] }⟩)

/-- Takes in an event that no attempt has reported. -/
def inject (e : LinkEvent) (r : LinkRun) : Option LinkUpdate × LinkRun :=
  let (update, link) := r.link.accept r.stage.now e
  (update, { r with link })

/-- Arms the timer. -/
def schedule (r : LinkRun) : Bool × LinkRun :=
  let (armed, link) := r.link.scheduleReconnect r.stage.now
  (armed, { r with link })

/-- Starts the next attempt if it is due. -/
def due (r : LinkRun) : Option Nat × LinkRun := r.run (r.link.onReconnectDue r.stage.now)

/-- Sends a message. -/
def send (e : Envelope) (r : LinkRun) : Except LinkError Unit × LinkRun :=
  r.run do return (← r.link.send e, r.link)

/-- A relay reads one message, which then does not wait any more. -/
def readOne (relay : Option Nat) (r : LinkRun) : Option Envelope × LinkRun :=
  match r.stage.exchange.find? relay with
  | none => (none, r)
  | some i =>
    match (r.stage.exchange.relays[i]?.map (·.received)).getD [] with
    | [] => (none, r)
    | text :: rest =>
      (Envelope.read? text,
        { r with
          stage :=
            { r.stage with
              exchange :=
                r.stage.exchange.change i fun relay => { relay with received := rest } } })

/-- Stops the link. -/
def shutdown (r : LinkRun) : LinkRun :=
  (r.run do return ((), ← r.link.shutdown)).2

/-- Something happens from outside. -/
def cue (c : Cue) (r : LinkRun) : LinkRun := { r with stage := (r.stage.cue c).2.settle }

end LinkRun

end CameraViewer.Rehearsal
