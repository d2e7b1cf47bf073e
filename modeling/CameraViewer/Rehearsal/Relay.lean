import CameraViewer.Link.Basic

/-!
# Rehearsal/Relay — relays that follow a script

Every attempt to connect either fails, if that is planned, or makes a new relay with a socket of its
own. While it runs it reports what the relay pushes, and at last that the relay has closed.
`Exchange.settle` lets all attempts run until they have nothing more to report.
-/

namespace CameraViewer.Rehearsal

open Link

/-- The far end of one socket. -/
structure ScriptedRelay where
  /-- Texts on their way to the client. -/
  pushed : List String := []
  /-- Texts of the client that were not looked at. -/
  received : List String := []
  /-- It still sends. -/
  sends : Bool := true
  /-- It still reads. -/
  reads : Bool := true
deriving Repr, Inhabited

/-- An attempt that runs. -/
structure Attempt where
  generation : Nat
  url : String
  /-- The relay it has come to. -/
  relay : Option Nat := none
deriving Repr, Inhabited

/-- All relays, and the attempts to reach them. -/
structure Exchange where
  /-- As many of the next attempts fail. -/
  failures : Nat := 0
  /-- The addresses of all attempts so far. -/
  tried : List String := []
  /-- The relays, the oldest first. -/
  relays : Array ScriptedRelay := #[]
  /-- The attempts that run. -/
  attempts : List Attempt := []
deriving Inhabited

namespace Exchange

/-- Number of the socket that leads to a relay. Socket zero leads nowhere. -/
def socketOf (relay : Nat) : Nat := relay + 1

/-- Why an attempt fails that is planned to fail. -/
def refusedReason : String := LinkError.message (.setup "mock relay refused connection")

/-- Why an attempt ends whose relay has closed. -/
def closedReason : String := "relay closed the connection"

/-- Changes a relay, if there is one of this number. -/
def change (i : Nat) (f : ScriptedRelay → ScriptedRelay) (x : Exchange) : Exchange :=
  { x with relays := x.relays.modify i f }

/-- Starts an attempt. -/
def dial (generation : Nat) (url : String) (x : Exchange) : Exchange :=
  { x with attempts := x.attempts ++ [⟨generation, url, none⟩] }

/-- Gives up an attempt. -/
def hangUp (generation : Nat) (x : Exchange) : Exchange :=
  { x with attempts := x.attempts.filter (·.generation ≠ generation) }

/-- Takes a text of the client; false where nobody reads it. -/
def write (socket : Nat) (text : String) (x : Exchange) : Bool × Exchange :=
  match socket with
  | 0 => (false, x)
  | i + 1 =>
    if (x.relays[i]?.map (·.reads)).getD false then
      (true, x.change i fun r => { r with received := r.received ++ [text] })
    else
      (false, x)

/-- What an attempt reports that reads from a relay, and whether it goes on. -/
def read (a : Attempt) (i : Nat) (x : Exchange) : List LinkEvent × Option Attempt × Exchange :=
  match x.relays[i]? with
  | none => ([], none, x)
  | some r =>
    let texts := r.pushed.map fun t => (⟨a.generation, .message t⟩ : LinkEvent)
    let x := x.change i fun r => { r with pushed := [] }
    if r.sends then (texts, some { a with relay := some i }, x)
    else (texts ++ [⟨a.generation, .closed closedReason⟩], none, x)

/-- Lets an attempt run until it waits. -/
def run (a : Attempt) (x : Exchange) : List LinkEvent × Option Attempt × Exchange :=
  match a.relay with
  | some i => x.read a i
  | none =>
    let x := { x with tried := x.tried ++ [a.url] }
    match x.failures with
    | left + 1 =>
      ([⟨a.generation, .closed refusedReason⟩], none, { x with failures := left })
    | 0 =>
      let i := x.relays.size
      let (events, a', x) := { x with relays := x.relays.push {} }.read a i
      (⟨a.generation, .opened (socketOf i)⟩ :: events, a', x)

/-- Lets attempts run one after the other; those that go on are kept. -/
def runAll : List Attempt → Exchange → List LinkEvent × List Attempt × Exchange
  | [], x => ([], [], x)
  | a :: rest, x =>
    let (events, a', x) := x.run a
    let (more, kept, x) := runAll rest x
    (events ++ more, a'.toList ++ kept, x)

/-- Lets all attempts run until they wait. -/
def settle (x : Exchange) : List LinkEvent × Exchange :=
  let (events, kept, x) := runAll x.attempts x
  (events, { x with attempts := kept })

/-- A relay that was not dropped: the one asked for, or else the newest. -/
def find? (i : Option Nat) (x : Exchange) : Option Nat :=
  let i := i.getD (x.relays.size - 1)
  match x.relays[i]? with
  | some r => if r.reads then some i else none
  | none => none

/-- A relay sends a text. -/
def push (i : Nat) (text : String) (x : Exchange) : Exchange :=
  x.change i fun r => if r.sends then { r with pushed := r.pushed ++ [text] } else r

/-- A relay stops sending. -/
def close (i : Nat) (x : Exchange) : Exchange := x.change i fun r => { r with sends := false }

/-- A relay goes away. -/
def drop (i : Nat) (x : Exchange) : Exchange :=
  x.change i fun r => { r with sends := false, reads := false }

end Exchange

end CameraViewer.Rehearsal
