import CameraViewer.World.Basic

/-!
# Rehearsal/Channel — a reliable channel that follows a script

What is sent stays in a scripted channel until it is drained. A channel whose waiting bytes fall to
its low mark reports so to the session that listens. Its plan makes sendings fail, or closes it
silently.
-/

namespace CameraViewer.Rehearsal

open Peer Transfer World

/-- What a channel took. -/
inductive ChannelFrame
  | text (text : String)
  | binary (data : Bytes)
deriving Inhabited

/-- What shall happen to the next sendings. -/
structure ChannelPlan where
  /-- As many texts fail. -/
  failText : Nat := 0
  /-- As many byte frames go on before any fails. -/
  skip : Nat := 0
  /-- As many byte frames fail then. -/
  failBytes : Nat := 0
  /-- The channel closes after as many byte frames. -/
  closeAfter : Option Nat := none
deriving Repr, Inhabited

/-- A reliable channel that follows a script. -/
structure ScriptedChannel where
  handle : ChannelHandle
  /-- What it took, the oldest first. -/
  frames : Array ChannelFrame := #[]
  /-- How much of that was looked at. -/
  seen : Nat := 0
  /-- Bytes that wait. -/
  buffered : Nat := 0
  /-- It reports when as many bytes or fewer wait. -/
  lowMark : Option Nat := none
  isOpen : Bool := true
  /-- The session it reports to. -/
  listener : Option Nat := none
  plan : ChannelPlan := {}
deriving Inhabited

namespace ScriptedChannel

/-- Takes a frame, if the channel is open. -/
def push (frame : ChannelFrame) (size : Nat) (c : ScriptedChannel) :
    Except TransferError Unit × ScriptedChannel :=
  if c.isOpen then
    (.ok (), { c with frames := c.frames.push frame, buffered := c.buffered + size })
  else
    (.error .channelClosed, c)

/-- How a sending fails that is planned to fail. -/
def plannedFailure : TransferError := .channel "injected"

/-- Sends a text. -/
def sendText (text : String) (c : ScriptedChannel) : Except TransferError Unit × ScriptedChannel :=
  match c.plan.failText with
  | left + 1 => (.error plannedFailure, { c with plan := { c.plan with failText := left } })
  | 0 => c.push (.text text) text.utf8ByteSize

/-- Counts a byte frame that went out; the last of the plan closes the channel. -/
def countSending (c : ScriptedChannel) : ScriptedChannel :=
  match c.plan.closeAfter with
  | none => c
  | some n =>
    { c with plan := { c.plan with closeAfter := some (n - 1) }, isOpen := c.isOpen && n - 1 ≠ 0 }

/-- Sends bytes that do not fail by plan. -/
def goOn (data : Bytes) (c : ScriptedChannel) : Except TransferError Unit × ScriptedChannel :=
  let (result, c) := c.push (.binary data) data.size
  (result, c.countSending)

/-- Sends bytes. -/
def sendBytes (data : Bytes) (c : ScriptedChannel) : Except TransferError Unit × ScriptedChannel :=
  match c.plan.skip, c.plan.failBytes with
  | left + 1, _ => ({ c with plan := { c.plan with skip := left } } : ScriptedChannel).goOn data
  | 0, left + 1 => (.error plannedFailure, { c with plan := { c.plan with failBytes := left } })
  | 0, 0 => c.goOn data

/-- Answers a request. -/
def respond (c : ScriptedChannel) : (r : ChannelRequest) → r.Reply × ScriptedChannel
  | .isOpen => (c.isOpen, c)
  | .bufferedAmount => (c.buffered, c)
  | .setLowMark threshold => ((), { c with lowMark := some threshold })
  | .sendText text => c.sendText text
  | .sendBytes data => c.sendBytes data
  | .close => ((), { c with isOpen := false })

/-- What a channel answers that does not exist. -/
def absent : (r : ChannelRequest) → r.Reply
  | .isOpen => false
  | .bufferedAmount => (0 : Nat)
  | .setLowMark _ => ()
  | .sendText _ => .error .channelClosed
  | .sendBytes _ => .error .channelClosed
  | .close => ()

/-- A report to the session that listens. -/
def report (event : PeerEvent) (c : ScriptedChannel) : List SessionEvent :=
  (c.listener.map fun session => ⟨session, event⟩).toList

/-- Takes bytes off the channel; falling to the low mark is reported. -/
def drain (bytes : Nat) (c : ScriptedChannel) : List SessionEvent × ScriptedChannel :=
  let left := c.buffered - bytes
  let crossed := match c.lowMark with
    | some low => decide (low < c.buffered ∧ left ≤ low)
    | none => false
  (if crossed then c.report (.bufferedAmountLow c.handle.label) else [],
    { c with buffered := left })

/-- Closes the channel and reports it. -/
def closeNow (c : ScriptedChannel) : List SessionEvent × ScriptedChannel :=
  (c.report (.channelClosed c.handle.label), { c with isOpen := false })

end ScriptedChannel

end CameraViewer.Rehearsal
