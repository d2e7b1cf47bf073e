import CameraViewer.Rehearsal.Channel
import CameraViewer.Rehearsal.Peer
import CameraViewer.Rehearsal.Relay

/-!
# Rehearsal/Stage — a world that follows a script

The stage holds scripted peers, channels, microphones and relays, a clock, and everything that waits
for the client or has not been looked at. It answers all requests, so the client can be rehearsed on
it.
-/

namespace CameraViewer.Rehearsal

open Link Peer Session Transfer World

/-- A world that follows a script. -/
structure Stage where
  /-- The time in milliseconds. -/
  now : Nat := 0
  /-- Steps that have to fail. -/
  faults : Faults := {}
  /-- The next peer cannot be made. -/
  failPeer : Bool := false
  /-- All peers, the oldest first. -/
  peers : Array ScriptedPeer := #[]
  /-- All channels, the oldest first. -/
  channels : Array ScriptedChannel := #[]
  /-- Of each microphone, whether it was stopped. -/
  media : Array Bool := #[]
  /-- The relays. -/
  exchange : Exchange := {}
  /-- Reports of attempts that wait for the client. -/
  links : List LinkEvent := []
  /-- Reports of peers that wait for the client. -/
  reports : List SessionEvent := []
  /-- Somebody takes reports. -/
  listening : Bool := true
  /-- What the viewer was told and has not looked at. -/
  told : List ViewerEvent := []
  /-- Nobody looks any more. -/
  viewerGone : Bool := false
  /-- All samples. -/
  samples : Array Sample := #[]
deriving Inhabited

namespace Stage

/-- The peer of a session with its number. -/
def peerOf? (session : Nat) (s : Stage) : Option (Nat × ScriptedPeer) :=
  (s.peers.findIdx? (·.setup.session = session)).bind fun i => s.peers[i]?.map (i, ·)

/-- Makes a peer, unless that is planned to fail. -/
def createPeer (setup : PeerSetup) (s : Stage) : Except PeerError Unit × Stage :=
  if s.failPeer then (.error (.connection "mock factory failure"), { s with failPeer := false })
  else (.ok (), { s with peers := s.peers.push { setup } })

/-- Asks the peer of a session. -/
def askPeer (session : Nat) (r : PeerRequest) (s : Stage) : Except PeerError r.Answer × Stage :=
  let (fails, faults) := s.faults.take (.ofRequest r)
  if fails then (.error (FaultPoint.ofRequest r).failure, { s with faults })
  else
    match s.peerOf? session with
    | none => (.error .closed, s)
    | some (i, p) =>
      let (result, p) := p.respond r
      (result, { s with peers := s.peers.setIfInBounds i p })

/-- Asks a channel. -/
def askChannel (serial : Nat) (r : ChannelRequest) (s : Stage) : r.Reply × Stage :=
  match s.channels[serial]? with
  | none => (ScriptedChannel.absent r, s)
  | some c =>
    let (result, c) := c.respond r
    (result, { s with channels := s.channels.setIfInBounds serial c })

/-- Hands out a microphone. -/
def acquire (s : Stage) : Except PeerError LocalMedia × Stage :=
  let (fails, faults) := s.faults.take .acquire
  if fails then (.error FaultPoint.acquire.failure, { s with faults })
  else
    (.ok ⟨s.media.size, "microphone-" ++ toString (s.media.size + 1)⟩,
      { s with media := s.media.push false })

/-- Presents an event to the viewer. -/
def present (e : ViewerEvent) (s : Stage) : Stage :=
  if s.viewerGone then s else { s with told := s.told ++ [e] }

instance : World Stage where
  perform
    | .createPeer setup, s => s.createPeer setup
    | .peer session r, s => s.askPeer session r
    | .channel c r, s => s.askChannel c.serial r
    | .acquireMedia, s => s.acquire
    | .stopMedia m, s => ((), { s with media := s.media.modify m.serial fun _ => true })
    | .dial generation url, s => ((), { s with exchange := s.exchange.dial generation url })
    | .hangUp generation, s => ((), { s with exchange := s.exchange.hangUp generation })
    | .write socket text, s =>
      let (read, exchange) := s.exchange.write socket text
      (read, { s with exchange })
    | .tell e, s => ((), s.present e)
    | .note sample, s => ((), { s with samples := s.samples.push sample })

/-! ## What happens on the stage -/

/-- Lets all attempts run until they wait. -/
def settle (s : Stage) : Stage :=
  let (events, exchange) := s.exchange.settle
  { s with links := s.links ++ events, exchange }

/-- Puts a new channel on the stage. -/
def addChannel (label : String) (listener : Option Nat) (s : Stage) : ChannelHandle × Stage :=
  let handle : ChannelHandle := ⟨s.channels.size, label⟩
  (handle, { s with channels := s.channels.push { handle, listener } })

/-- Peers report; false where nobody takes it. -/
def hear (events : List SessionEvent) (s : Stage) : Bool × Stage :=
  if s.listening then (true, { s with reports := s.reports ++ events }) else (false, s)

/-- Changes a channel, which may have something to report; false if there is no such channel. -/
def onChannel (i : Nat) (f : ScriptedChannel → List SessionEvent × ScriptedChannel) (s : Stage) :
    Bool × Stage :=
  match s.channels[i]? with
  | none => (false, s)
  | some c =>
    let (events, c) := f c
    (true, (Stage.hear events { s with channels := s.channels.setIfInBounds i c }).2)

/-- The peer asked for, or else the newest. -/
def findPeer? (i : Option Nat) (s : Stage) : Option Nat :=
  let i := i.getD (s.peers.size - 1)
  if i < s.peers.size then some i else none

/-! ## Looking at the stage -/

/-- Reads the records of all peers: number of the session and request, by peer. -/
def takeCalls (s : Stage) : List (Nat × PeerRequest) × Stage :=
  (s.peers.toList.flatMap fun p => p.calls.map (p.setup.session, ·),
    { s with peers := s.peers.map fun p => { p with calls := [] } })

/-- Looks at what the channels took: number of the channel and frame, by channel. -/
def takeFrames (s : Stage) : List (Nat × ChannelFrame) × Stage :=
  (s.channels.toList.flatMap fun c =>
      (c.frames.extract c.seen c.frames.size).toList.map (c.handle.serial, ·),
    { s with channels := s.channels.map fun c => { c with seen := c.frames.size } })

/-- The texts of each relay with its number, in order. -/
def numbered : Nat → List ScriptedRelay → List (Nat × String)
  | _, [] => []
  | i, r :: rest => r.received.map (i, ·) ++ numbered (i + 1) rest

/-- Looks at what the relays received: number of the relay and text, by relay. -/
def takeReceived (s : Stage) : List (Nat × String) × Stage :=
  (numbered 0 s.exchange.relays.toList,
    { s with
      exchange :=
        { s.exchange with relays := s.exchange.relays.map fun r => { r with received := [] } } })

/-- Looks at what the viewer was told. -/
def takeTold (s : Stage) : List ViewerEvent × Stage := (s.told, { s with told := [] })

/-- Looks at the reports of peers that wait. -/
def takeReports (s : Stage) : List SessionEvent × Stage := (s.reports, { s with reports := [] })

/-- The number of samples of a measure. -/
def sampleCount (m : Measure) (s : Stage) : Nat :=
  s.samples.foldl (fun n x =>
    match x with
    | .elapsed k => if k = m then n + 1 else n
    | .bytes k _ => if k = m then n + 1 else n) 0

/-- The number of bytes sampled under a measure. -/
def sampleBytes (m : Measure) (s : Stage) : Nat :=
  s.samples.foldl (fun n x =>
    match x with
    | .elapsed _ => n
    | .bytes k count => if k = m then n + count else n) 0

end Stage

end CameraViewer.Rehearsal
