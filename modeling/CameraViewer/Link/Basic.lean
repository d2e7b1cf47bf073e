import CameraViewer.Link.Timer
import CameraViewer.Signal.Envelope
import CameraViewer.World.Basic

/-!
# Link/Basic — the connection to the relay and its renewal

Each connection attempt has a **generation**. What an attempt reports carries its generation, so
that `accept` can drop what comes from a superseded one. A lost connection arms the timer, an open
one disarms it; after `shutdown` nothing happens any more.
-/

namespace CameraViewer.Link

open Session Signal

/-! ## Errors -/

/-- Why the link could not do its work. -/
inductive LinkError
  /-- There is no open connection. -/
  | notConnected
  /-- Nobody is at the other end. -/
  | channelClosed
  /-- A connection could not be made. -/
  | setup (reason : String)
deriving DecidableEq, Repr

namespace LinkError

/-- The name of a cause. -/
def name : LinkError → String
  | .notConnected => "NotConnected"
  | .channelClosed => "ChannelClosed"
  | .setup _ => "Setup"

/-- What is said about a failure. -/
def message : LinkError → String
  | .notConnected => "relay link is not connected"
  | .channelClosed => "transport channel closed"
  | .setup reason => "transport setup failed: " ++ reason

end LinkError

/-! ## Events

Every attempt to connect has its generation, and what an earlier one reports is not listened to. -/

/-- What an attempt reports. -/
inductive LinkReport
  /-- It has come to a socket, which may now be written to. -/
  | opened (socket : Nat)
  /-- A text came in. -/
  | message (text : String)
  /-- It is over. -/
  | closed (reason : String)
deriving DecidableEq, Repr

/-- A report with the attempt it comes from. -/
structure LinkEvent where
  /-- The attempt. -/
  generation : Nat
  /-- What it reports. -/
  report : LinkReport
deriving DecidableEq, Repr

/-- What is left to act on when the link has taken in an event. -/
inductive LinkUpdate
  | opened
  | message (text : String)
  | closed (reason : String)
deriving DecidableEq, Repr

/-! ## The link -/

/-- The connection to the relay. -/
structure RelayLink where
  /-- Where the relay is. -/
  url : String
  /-- When to try again. -/
  timer : ReconnectTimer
  /-- Number of the latest attempt. -/
  generation : Nat := 0
  /-- How far it has come. -/
  state : LinkState := .idle
  /-- The socket to write to. -/
  socket : Option Nat := none
  /-- The attempt that is held on to. -/
  task : Option Nat := none
deriving DecidableEq, Repr, Inhabited

namespace RelayLink

variable {ω : Type} [World ω]

/-- A link that has not been used yet. -/
def new (url : String) (delay : Nat) : RelayLink := { url, timer := { delay } }

/-- Messages can be sent. -/
def isOpen (l : RelayLink) : Bool := l.state = .opened

/-- Gives up the attempt that is held on to. -/
def dropTask (l : RelayLink) : StateM ω Unit :=
  match l.task with
  | some g => World.hangUp g
  | none => pure ()

/-- The link while its next attempt runs. -/
def attempt (l : RelayLink) : RelayLink :=
  { l with
    generation := l.generation + 1, state := .connecting, socket := none
    task := some (l.generation + 1) }

/-- Starts an attempt, which supersedes the one before. -/
def connect (l : RelayLink) : StateM ω RelayLink := do
  if l.state = .shutdown then return l
  l.dropTask
  World.dial (l.generation + 1) l.url
  return l.attempt

/-- Arms the timer; false if it already was or the link is shut down. -/
def scheduleReconnect (now : Nat) (l : RelayLink) : Bool × RelayLink :=
  if l.state = .shutdown then (false, l)
  else ((l.timer.schedule now).1, { l with timer := (l.timer.schedule now).2 })

/-- What the link makes of a report of its latest attempt. -/
def absorb (now : Nat) (l : RelayLink) : LinkReport → LinkUpdate × RelayLink
  | .opened socket =>
    (.opened, { l with socket := some socket, state := .opened, timer := l.timer.cancel.2 })
  | .message text => (.message text, l)
  | .closed reason =>
    (.closed reason,
      (RelayLink.scheduleReconnect now { l with socket := none, task := none, state := .idle }).2)

/-- Takes in an event, unless it comes from a superseded attempt or the link is shut down. -/
def accept (now : Nat) (e : LinkEvent) (l : RelayLink) : Option LinkUpdate × RelayLink :=
  if l.state = .shutdown ∨ e.generation ≠ l.generation then (none, l)
  else (some (l.absorb now e.report).1, (l.absorb now e.report).2)

/-- Starts the next attempt if it is due. -/
def onReconnectDue (now : Nat) (l : RelayLink) : StateM ω (Option Nat × RelayLink) := do
  if (l.timer.takeDue now).1 then
    let l ← RelayLink.connect { l with timer := (l.timer.takeDue now).2 }
    return (some l.generation, l)
  else
    return (none, l)

/-- Sends a message over the open connection. -/
def send (e : Envelope) (l : RelayLink) : StateM ω (Except LinkError Unit) := do
  match l.state, l.socket with
  | .opened, some socket =>
    return if ← World.write socket e.text then .ok () else .error .channelClosed
  | _, _ => return .error .notConnected

/-- Stops for good. -/
def shutdown (l : RelayLink) : StateM ω RelayLink := do
  l.dropTask
  return { l with state := .shutdown, timer := l.timer.cancel.2, socket := none, task := none }

end RelayLink

end CameraViewer.Link
