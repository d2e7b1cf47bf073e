import CameraViewer.Negotiation.Machine
import CameraViewer.Rehearsal.Cue

/-!
# Rehearsal/Negotiation — a negotiation on the stage

One machine, its peer, and one relay that takes what the machine sends.
-/

namespace CameraViewer.Rehearsal

open Link Negotiation Peer Signal

/-- A negotiation with its stage. -/
structure NegotiationRun where
  machine : Machine
  stage : Stage

/-- One step of a negotiation. -/
inductive NegotiationStep
  | descriptor (d : SessionDescriptor)
  | candidate (c : Candidate)
  | initiate
  | connectivity (state : Connectivity)
  | stop
  | cue (c : Cue)

/-- What became of a step. -/
inductive NegotiationResult
  | nothing
  | descriptor (outcome : DescriptorOutcome)
  | candidate (outcome : CandidateOutcome)
  | offered
  | change (t : Option Transition)
  | refused (cause : PeerError)
deriving DecidableEq, Repr

namespace NegotiationRun

/-- Sends to the one relay of the stage. -/
def sink : SignalSink Stage := fun e => do
  return if ← World.write (Exchange.socketOf 0) e.text then .ok () else .error .channelClosed

/-- A negotiation that has not begun. -/
def start (session : Nat) (role : DescriptorRole) : NegotiationRun where
  machine := { session, role }
  stage :=
    { peers := #[{ setup := { (default : PeerSetup) with session } }],
      exchange := { relays := #[{}] } }

/-- The result of an operation that may be refused. -/
def resultOf {α : Type} (f : α → NegotiationResult) : Except PeerError α → NegotiationResult
  | .ok a => f a
  | .error e => .refused e

/-- Runs an operation of the machine. -/
def run {α : Type} (f : α → NegotiationResult) (op : StateM Stage (α × Machine))
    (r : NegotiationRun) : NegotiationResult × NegotiationRun :=
  let ((a, machine), stage) := op.run r.stage
  (f a, ⟨machine, stage⟩)

/-- One step. -/
def step (r : NegotiationRun) : NegotiationStep → NegotiationResult × NegotiationRun
  | .descriptor d => r.run (resultOf .descriptor) (r.machine.onRemoteDescriptor sink d)
  | .candidate c => r.run (resultOf .candidate) (r.machine.onRemoteCandidate c)
  | .initiate => r.run (resultOf fun _ => .offered) (r.machine.initiate sink)
  | .connectivity state => r.run .change (r.machine.onConnectivity sink state)
  | .stop => r.run .change r.machine.stop
  | .cue c => (.nothing, { r with stage := (r.stage.cue c).2 })

end NegotiationRun

end CameraViewer.Rehearsal
