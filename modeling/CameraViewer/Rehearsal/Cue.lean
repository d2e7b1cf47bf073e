import CameraViewer.Rehearsal.Stage

/-!
# Rehearsal/Cue — what happens to the client from outside

A cue changes the stage without asking the client: relays send or go away, peers report, channels
drain or close, steps are told to fail, time passes.
-/

namespace CameraViewer.Rehearsal

open Link Peer

/-- One thing that happens from outside. Peers and relays are given by number, the newest by none.
-/
inductive Cue
  | relaySends (relay : Option Nat) (text : String)
  | relayCloses (relay : Option Nat)
  | relayLeaves (relay : Option Nat)
  /-- The next attempts to connect fail. -/
  | failConnects (count : Nat)
  /-- The next peer cannot be made. -/
  | failPeer
  /-- A step fails as often. -/
  | fault (point : FaultPoint) (times : Nat)
  /-- A peer is told what to refuse; what is not given stays. -/
  | instruct (peer : Option Nat) (rejectRemote rejectOffers : Option Bool)
    (failAnswers : Option Nat)
  /-- A peer reports. -/
  | peerReports (peer : Option Nat) (event : PeerEvent)
  /-- A channel of a peer opens, and the peer reports it. -/
  | channelOpens (peer : Option Nat) (label : String)
  | drain (channel bytes : Nat)
  | closeChannel (channel : Nat)
  | plan (channel : Nat) (plan : ChannelPlan)
  /-- Time passes, in milliseconds. -/
  | wait (ms : Nat)
  | viewerLeaves

/-- What a cue led to on the stage. -/
inductive CueResult
  | nothing
  /-- A peer reported, and somebody took the report or not. -/
  | reported (taken : Bool)
  | noPeer
  | noRelay
  | noChannel
deriving DecidableEq, Repr

namespace Stage

/-- The number of the session of a peer. -/
def sessionOf? (peer : Option Nat) (s : Stage) : Option Nat :=
  (s.findPeer? peer).bind fun i => s.peers[i]?.map (·.setup.session)

/-- Something happens to a relay, if there is one. -/
def onRelay (relay : Option Nat) (f : Nat → Exchange → Exchange) (s : Stage) : Bool × Stage :=
  match s.exchange.find? relay with
  | none => (false, s)
  | some i => (true, { s with exchange := f i s.exchange })

/-- Something happens to a channel, if there is one. -/
def channelCue (i : Nat) (f : ScriptedChannel → List SessionEvent × ScriptedChannel) (s : Stage) :
    CueResult × Stage :=
  match s.onChannel i f with
  | (true, s) => (.nothing, s)
  | (false, s) => (.noChannel, s)

/-- A peer reports, if there is one. -/
def peerCue (peer : Option Nat) (event : PeerEvent) (s : Stage) : CueResult × Stage :=
  match s.sessionOf? peer with
  | none => (.noPeer, s)
  | some session =>
    let (taken, s) := s.hear [⟨session, event⟩]
    (.reported taken, s)

/-- A channel comes into being, and its peer reports it. -/
def channelOpens (peer : Option Nat) (label : String) (s : Stage) : CueResult × Stage :=
  let (channel, s) := s.addChannel label (s.sessionOf? peer)
  s.peerCue peer (.channelOpen channel)

/-- Tells a peer what to refuse. -/
def instruct (peer : Option Nat) (rejectRemote rejectOffers : Option Bool)
    (failAnswers : Option Nat) (s : Stage) : CueResult × Stage :=
  match s.findPeer? peer with
  | none => (.noPeer, s)
  | some i =>
    (.nothing,
      { s with
        peers := s.peers.modify i fun p =>
          { p with
            rejectRemote := rejectRemote.getD p.rejectRemote
            rejectOffers := rejectOffers.getD p.rejectOffers
            failAnswers := failAnswers.getD p.failAnswers } })

/-- Something happens from outside. -/
def cue (s : Stage) : Cue → CueResult × Stage
  | .relaySends relay text =>
    let (found, s) := s.onRelay relay fun i x => x.push i text
    (if found then .nothing else .noRelay, s)
  | .relayCloses relay => (.nothing, (s.onRelay relay fun i x => x.close i).2)
  | .relayLeaves relay => (.nothing, (s.onRelay relay fun i x => x.drop i).2)
  | .failConnects count => (.nothing, { s with exchange := { s.exchange with failures := count } })
  | .failPeer => (.nothing, { s with failPeer := true })
  | .fault point times => (.nothing, { s with faults := s.faults.set point times })
  | .instruct peer rejectRemote rejectOffers failAnswers =>
    s.instruct peer rejectRemote rejectOffers failAnswers
  | .peerReports peer event => s.peerCue peer event
  | .channelOpens peer label => s.channelOpens peer label
  | .drain channel bytes => s.channelCue channel (·.drain bytes)
  | .closeChannel channel => s.channelCue channel (·.closeNow)
  | .plan channel plan => s.channelCue channel fun c => ([], { c with plan })
  | .wait ms => (.nothing, { s with now := s.now + ms })
  | .viewerLeaves => (.nothing, { s with viewerGone := true })

end Stage

end CameraViewer.Rehearsal
