import CameraViewer.Session.Supervisor

/-!
# Session/Client — the loop around link and supervisor

Everything the client reacts to is taken one after the other. Where several things wait,
`Client.next?` picks: what the link reports goes first, then what the peers report, then the
commands, then the end of the reconnect delay, and last the status that is due. The loop ends with a
shutdown or when no further command can come.
-/

namespace CameraViewer.Session

open Config Link Peer World

/-! ## The clock -/

/-- When the next status is due. Times are in milliseconds. -/
structure Ticker where
  /-- From one status to the next. -/
  period : Nat
  /-- When the next one is due. -/
  next : Nat
deriving DecidableEq, Repr, Inhabited

namespace Ticker

/-- A status may be as late before its successor is put off. -/
def tolerance : Nat := 5

/-- The first status is due after one period. -/
def start (period now : Nat) : Ticker := ⟨period, now + period⟩

/-- The next status is due. -/
def isDue (now : Nat) (t : Ticker) : Bool := t.next ≤ now

/-- After a status; one that came too late starts the period anew. -/
def advance (now : Nat) (t : Ticker) : Ticker :=
  { t with next := if t.next + tolerance < now then now + t.period else t.next + t.period }

end Ticker

/-! ## What is waited for -/

/-- What waits for the client. -/
structure Inbox where
  /-- Reports of connection attempts, the oldest first. -/
  links : List LinkEvent := []
  /-- Reports of peers, the oldest first. -/
  peers : List SessionEvent := []
  /-- Commands of the viewer, the oldest first. -/
  commands : List SessionCommand := []
  /-- No further command can come. -/
  closed : Bool := false

/-- One thing the client reacts to. -/
inductive Turn
  /-- An attempt reports. -/
  | link (event : LinkEvent)
  /-- A peer reports. -/
  | peer (event : SessionEvent)
  /-- The viewer commands. -/
  | command (command : SessionCommand)
  /-- The end: no further command can come. -/
  | hangUp
  /-- The reconnect delay is over. -/
  | reconnect
  /-- A status is due. -/
  | tick

/-! ## The client -/

/-- The client: link, supervisor, and when the next status is due. -/
structure Client where
  link : RelayLink
  supervisor : Supervisor
  ticker : Option Ticker := none

namespace Client

variable {ω : Type} [World ω]

/-- Starts the first attempt to connect. -/
def start (url : String) (config : ClientConfig) (now : Nat) : StateM ω Client := do
  let link ← RelayLink.connect (.new url config.reconnectMs)
  tell (.link link.state)
  return ⟨link, .new config, config.statusMs.map fun period => .start period now⟩

/-- Acts on a report of an attempt. -/
def onLinkEvent (now : Nat) (e : LinkEvent) (c : Client) : StateM ω Client := do
  let (update, link) := c.link.accept now e
  let c := { c with link }
  match update with
  | none => return c
  | some .opened =>
    tell (.link link.state)
    return { c with supervisor := ← c.supervisor.onLinkOpen link }
  | some (.message text) =>
    let (_, supervisor) ← c.supervisor.dispatch link text
    return { c with supervisor }
  | some (.closed _) =>
    tell (.link link.state)
    return c

/-- Starts the next attempt if it is due. -/
def onReconnect (now : Nat) (c : Client) : StateM ω Client := do
  let (attempt, link) ← c.link.onReconnectDue now
  if attempt.isSome then tell (.link link.state)
  return { c with link }

/-- Tells the viewer how things stand. -/
def onTick (now : Nat) (c : Client) : StateM ω Client := do
  tell (.status (c.supervisor.status c.link.state))
  return { c with ticker := c.ticker.map (·.advance now) }

/-- Ends the session, then the link. -/
def finish (c : Client) : StateM ω Client := do
  let supervisor ← c.supervisor.shutdown
  let link ← c.link.shutdown
  tell (.link link.state)
  return { c with supervisor, link }

/-- One turn of the loop, and whether another may follow. -/
def turn (now : Nat) (c : Client) : Turn → StateM ω (Client × Bool)
  | .link e => return (← c.onLinkEvent now e, true)
  | .peer e => return ({ c with supervisor := ← c.supervisor.onPeerEvent c.link e }, true)
  | .command .shutdown => return (← c.finish, false)
  | .command command =>
    return ({ c with supervisor := ← c.supervisor.onCommand c.link command }, true)
  | .hangUp => return (← c.finish, false)
  | .reconnect => return (← c.onReconnect now, true)
  | .tick => return (← c.onTick now, true)

/-- What is due by the clock, if nothing else waits. -/
def dueTurn? (now : Nat) (c : Client) : Option Turn :=
  if c.link.timer.isDue now then some .reconnect
  else if (c.ticker.map (·.isDue now)).getD false then some .tick
  else none

/-- What the client takes next, and what then still waits. -/
def next? (now : Nat) (c : Client) (i : Inbox) : Option (Turn × Inbox) :=
  match i.links, i.peers, i.commands with
  | e :: rest, _, _ => some (.link e, { i with links := rest })
  | [], e :: rest, _ => some (.peer e, { i with peers := rest })
  | [], [], command :: rest => some (.command command, { i with commands := rest })
  | [], [], [] => if i.closed then some (.hangUp, i) else (c.dueTurn? now).map (·, i)

end Client

end CameraViewer.Session
