import CameraViewer.Rehearsal.Cue
import CameraViewer.Transfer.Queue

/-!
# Rehearsal/Transfer — a transfer queue on the stage
-/

namespace CameraViewer.Rehearsal

open Peer Transfer

/-- A queue with its stage. -/
structure TransferRun where
  queue : TransferQueue
  stage : Stage := {}

/-- One step of a queue. -/
inductive TransferStep
  /-- A new channel, not attached yet. -/
  | channel (label : String)
  | attach (channel maxMessage : Nat)
  | enqueue (name mime : String) (data : Payload)
  | low
  | pump
  | closed
  | cue (c : Cue)

namespace TransferRun

/-- Runs an operation of the queue. -/
def run (op : StateM Stage (List TransferProgress × TransferQueue)) (r : TransferRun) :
    Except TransferError (List TransferProgress) × TransferRun :=
  let ((reports, queue), stage) := op.run r.stage
  (.ok reports, ⟨queue, stage⟩)

/-- One step: the reports it led to, or why it was refused. -/
def step (r : TransferRun) :
    TransferStep → Except TransferError (List TransferProgress) × TransferRun
  | .channel label => (.ok [], { r with stage := (r.stage.addChannel label none).2 })
  | .attach channel maxMessage =>
    match r.stage.channels[channel]? with
    | none => (.ok [], r)
    | some c => r.run (r.queue.attach c.handle maxMessage)
  | .enqueue name mime data =>
    match TransferJob.new name mime data with
    | .error e => (.error e, r)
    | .ok job => r.run (r.queue.enqueue job)
  | .low => r.run r.queue.onBufferedAmountLow
  | .pump => r.run r.queue.pump
  | .closed =>
    (.ok r.queue.onChannelClosed.1, { r with queue := r.queue.onChannelClosed.2 })
  | .cue c => (.ok [], { r with stage := (r.stage.cue c).2 })

end TransferRun

end CameraViewer.Rehearsal
