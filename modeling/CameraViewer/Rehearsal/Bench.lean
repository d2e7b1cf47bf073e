import CameraViewer.Rehearsal.Stage
import CameraViewer.Rtc.Peer

/-!
# Rehearsal/Bench — one peer on its own

A scripted peer, or one that has no transport yet, answers requests one by one. Media to attach come
from the stage, where they have no track, or from a capture of their own.
-/

namespace CameraViewer.Rehearsal

open Peer Rtc Signal

/-- One peer on its own. -/
structure Bench where
  /-- What it was made with. -/
  setup : PeerSetup
  /-- The stage of a scripted peer. -/
  stage : Stage := {}
  /-- The peer without a transport, if it is that. -/
  rtc : Option RtcPeer := none
  /-- Where sources with a track come from. -/
  capture : Capture := {}

/-- What a request led to. -/
inductive BenchResult
  /-- A scripted descriptor. -/
  | scripted (descriptor : SessionDescriptor)
  /-- A descriptor of which only the outline is fixed. -/
  | outlined (outline : DescriptorOutline)
  | done
  | released (count : Nat)
  | refused (cause : PeerError)

namespace BenchResult

/-- The result of a step that answers nothing. -/
def ofStep : Except PeerError Unit → BenchResult
  | .ok () => .done
  | .error e => .refused e

/-- The result of a step that makes a descriptor. -/
def ofOutline : Except PeerError DescriptorOutline → BenchResult
  | .ok d => .outlined d
  | .error e => .refused e

/-- The result of a request to a scripted peer. -/
def ofAnswer : (r : PeerRequest) → Except PeerError r.Answer → BenchResult
  | _, .error e => .refused e
  | .createOffer _, .ok d => .scripted d
  | .createAnswer, .ok d => .scripted d
  | .releaseOutbound, .ok n => .released n
  | .setLocal _, .ok _ => .done
  | .setRemote _, .ok _ => .done
  | .addCandidate _, .ok _ => .done
  | .attachMedia _, .ok _ => .done
  | .close, .ok _ => .done

end BenchResult

/-- Asks a peer without a transport. -/
def askRtc (p : RtcPeer) : PeerRequest → BenchResult × RtcPeer
  | .createOffer restart => let (d, p) := p.createOffer restart; (.ofOutline d, p)
  | .createAnswer => let (d, p) := p.createAnswer; (.ofOutline d, p)
  | .setLocal d => let (x, p) := p.setLocal d; (.ofStep x, p)
  | .setRemote d => let (x, p) := p.setRemote d; (.ofStep x, p)
  | .addCandidate c => let (x, p) := p.addCandidate c; (.ofStep x, p)
  | .attachMedia m => let (x, p) := p.attach m.label true; (.ofStep x, p)
  | .releaseOutbound => let (n, p) := p.release; (.released n, p)
  | .close => (.done, p.close)

namespace Bench

/-- Makes a scripted peer, unless that is planned to fail. -/
def ofScript (failPeer : Bool) (setup : PeerSetup) : Except PeerError Bench :=
  let (made, stage) := ({ failPeer } : Stage).createPeer setup
  made.map fun () => { setup, stage }

/-- Makes a peer without a transport. -/
def ofRtc (setup : PeerSetup) : Except PeerError Bench :=
  (RtcPeer.create setup).map fun p => { setup, rtc := some p }

/-- The number of scripted peers that were made. -/
def scriptedCount (b : Bench) : Nat := b.stage.peers.size

/-- Asks the peer. -/
def ask (r : PeerRequest) (b : Bench) : BenchResult × Bench :=
  match b.rtc with
  | some p =>
    let (x, p) := askRtc p r
    (x, { b with rtc := some p })
  | none =>
    let (x, stage) := b.stage.askPeer b.setup.session r
    (.ofAnswer r x, { b with stage })

/-- Publishes a source. -/
def publish (m : LocalMedia) (hasTrack : Bool) (b : Bench) : BenchResult × Bench :=
  match b.rtc with
  | some p =>
    let (x, p) := p.attach m.label hasTrack
    (.ofStep x, { b with rtc := some p })
  | none => b.ask (.attachMedia m)

/-- Publishes the next source of the stage, or else of the capture, which may be stopped before. -/
def attach (fromStage stopped : Bool) (b : Bench) : BenchResult × Bench :=
  if fromStage then
    match b.stage.acquire with
    | (.ok m, stage) => publish m false { b with stage }
    | (.error e, stage) => (.refused e, { b with stage })
  else
    let (source, capture) := b.capture.acquire
    let source := if stopped then source.stop else source
    publish ⟨b.capture.acquired, source.label⟩ source.hasTrack { b with capture }

end Bench

end CameraViewer.Rehearsal
