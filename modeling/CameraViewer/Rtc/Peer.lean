import CameraViewer.Rtc.CandidateLine
import CameraViewer.Rtc.Capture
import CameraViewer.Rtc.Credentials
import CameraViewer.Rtc.Negotiated
import CameraViewer.Rtc.Server
import CameraViewer.Rtc.Transceiver

/-!
# Rtc/Peer — a peer before it has a transport

A new peer would send and receive one video and one audio track and has one channel. It offers all
of that with the codecs it knows, answers a remote offer section by section with the codecs both
sides know, takes candidates once it has a remote description, and publishes further audio tracks
until it is told to release them. A remote description stays even where a later part of adopting it
fails.
-/

namespace CameraViewer.Rtc

open Peer Signal

/-- One section of an offer or an answer. -/
structure SectionOutline where
  kind : String
  /-- Its name; a section that is turned down has none. -/
  mid : Option String
  /-- A section that is turned down has no direction. -/
  direction : Option Direction
  codecs : List CodecEntry
deriving DecidableEq, Repr, Inhabited

/-- What an offer or an answer of a peer says. -/
structure DescriptorOutline where
  role : DescriptorRole
  sections : List SectionOutline
deriving DecidableEq, Repr, Inhabited

/-- A peer before it has a transport. -/
structure RtcPeer where
  setup : PeerSetup
  transceivers : List Transceiver := [{ kind := .video }, { kind := .audio }]
  /-- The next number to name a transceiver by. -/
  nextMid : Nat := 0
  /-- The offer of the other side. -/
  remote : Option Description := none
  /-- The codecs both sides know. -/
  negotiated : Negotiated := {}
  /-- The peer has begun to look for ways to reach it. -/
  gathering : Bool := false
  closed : Bool := false
deriving DecidableEq, Repr, Inhabited

namespace RtcPeer

/-- How a step is refused, up to where the details would follow. -/
def refused (step : String) : PeerError := .rejected step ""

/-- The longest label of a channel. -/
def labelMax : Nat := 65535

/-- A new peer; all its servers have to be usable. -/
def create (setup : PeerSetup) : Except PeerError RtcPeer :=
  if setup.iceServers.all isUsable ∧ setup.channelLabel.utf8ByteSize ≤ labelMax then .ok { setup }
  else .error (.connection "")

/-- The codecs of a kind: those both sides know once they are settled. -/
def codecs (kind : MediaKind) (p : RtcPeer) : List CodecEntry :=
  (p.negotiated.codecs? kind).getD (codecsFor p.setup.codec kind)

/-- The section of the channel. -/
def channelSection (mid : String) : SectionOutline := ⟨"application", some mid, some .sendrecv, []⟩

/-- The section of a transceiver under a name. Without a codec it is turned down, unless there is a
track to send. -/
def sectionOf? (p : RtcPeer) (t : Transceiver) (mid : Option String) (direction : Direction) :
    Option SectionOutline :=
  let codecs := p.codecs t.kind
  if !codecs.isEmpty then some ⟨t.kind.name, mid, some direction, codecs⟩
  else if t.hasTrack then none
  else some ⟨t.kind.name, none, none, []⟩

/-! ## Offers -/

/-- The sections of an offer: one for each transceiver that was not stopped, and the channel. -/
def offerSections? (p : RtcPeer) : Option (List SectionOutline) := do
  let live := p.transceivers.filter (!·.stopped)
  let sections ← live.mapM fun t => p.sectionOf? t t.mid t.direction
  return sections ++ [channelSection (toString live.length)]

/-- Each transceiver finds its direction in the first section of its name. -/
def agrees (sections : List SectionOutline) (p : RtcPeer) : Bool :=
  p.transceivers.all fun t =>
    ((sections.find? (·.mid = t.mid)).bind (·.direction)) = some t.direction

/-- Makes an offer, which has to agree with the transceivers. New ways can only be looked for after
the first ones. -/
def createOffer (iceRestart : Bool) (p : RtcPeer) : Except PeerError DescriptorOutline × RtcPeer :=
  if p.closed ∨ iceRestart ∧ !p.gathering then (.error (refused "create offer"), p)
  else
    let (transceivers, nextMid) := nameAll p.nextMid p.transceivers
    let p := { p with transceivers, nextMid, gathering := true }
    match p.offerSections?.filter p.agrees with
    | some sections => (.ok ⟨.offer, sections⟩, p)
    | none => (.error (refused "create offer"), p)

/-! ## Answers -/

/-- What a transceiver answers to a section. -/
def answered (offered : Direction) (t : Transceiver) : Direction :=
  if offered = .sendrecv then t.direction else offered.reversed.meet t.direction

/-- The sections that answer those of the other side, each from the first transceiver of its name
that is left. -/
def answerSections? (p : RtcPeer) :
    List SectionUse → List Transceiver → Option (List SectionOutline)
  | [], _ => some []
  | .none :: rest, ts => p.answerSections? rest ts
  | .unnamed :: _, _ => none
  | .channel mid :: rest, ts => do return channelSection mid :: (← p.answerSections? rest ts)
  | .track mid _ direction :: rest, ts => do
    let (t, ts) ← pick? (·.mid = some mid) ts
    return (← p.sectionOf? t mid (answered direction t)) :: (← p.answerSections? rest ts)

/-- Makes an answer to the offer of the other side. -/
def createAnswer (p : RtcPeer) : Except PeerError DescriptorOutline × RtcPeer :=
  match p.remote with
  | none => (.error (refused "create answer"), p)
  | some d =>
    if p.closed then (.error (refused "create answer"), p)
    else
      let p := { p with gathering := true }
      match p.answerSections? (d.sections.map (·.use)) p.transceivers with
      | some sections => (.ok ⟨.answer, sections⟩, p)
      | none => (.error (refused "create answer"), p)

/-! ## Descriptors and candidates -/

/-- Adopts a descriptor of this side. Its text has to be the one the peer made last, which is
random, so no text that comes from elsewhere is taken. -/
def setLocal (d : SessionDescriptor) (p : RtcPeer) : Except PeerError Unit × RtcPeer :=
  match Description.read? d.sdp with
  | none => (.error (refused "parse descriptor"), p)
  | some _ => (.error (refused "set local descriptor"), p)

/-- Adopts an offer of the other side: settles the codecs, finds transceivers for the sections, and
begins to look for a connection, up to the first fault; tells whether there was none. -/
def adopt (d : Description) (p : RtcPeer) : Bool × RtcPeer :=
  match p.negotiated.update (codecsFor p.setup.codec) d.sections with
  | (false, negotiated) => (false, { p with remote := some d, negotiated })
  | (true, negotiated) =>
    let (associated, transceivers) := associate d.sections p.transceivers
    let reachable := associated && d.isReachable
    (reachable && d.isUsable,
      { p with
        remote := some d, negotiated, transceivers,
        gathering := p.gathering || reachable && (d.isUsable || !d.candidates.isEmpty) })

/-- Adopts a descriptor of the other side: one offer. -/
def setRemote (d : SessionDescriptor) (p : RtcPeer) : Except PeerError Unit × RtcPeer :=
  match Description.read? d.sdp with
  | none => (.error (refused "parse descriptor"), p)
  | some description =>
    if p.closed ∨ p.remote.isSome ∨ d.role ≠ .offer then
      (.error (refused "set remote descriptor"), p)
    else
      match p.adopt description with
      | (true, p) => (.ok (), p)
      | (false, p) => (.error (refused "set remote descriptor"), p)

/-- Takes a candidate. -/
def addCandidate (c : Candidate) (p : RtcPeer) : Except PeerError Unit × RtcPeer :=
  if p.remote.isSome ∧ !p.closed ∧ isAcceptable c.candidate then
    (.ok (), { p with gathering := true })
  else (.error (refused "add candidate"), p)

/-! ## Tracks -/

/-- Publishes an audio source of a label, which has to have a track, on a transceiver of its own. -/
def attach (label : String) (hasTrack : Bool) (p : RtcPeer) : Except PeerError Unit × RtcPeer :=
  if !hasTrack then (.error (.rejected "attach media" (label ++ " has no track")), p)
  else if p.closed then (.error (refused "attach media"), p)
  else (.ok (), { p with transceivers := p.transceivers ++ [{ kind := .audio }] })

/-- Stops publishing for good; tells how many tracks were released. -/
def release (p : RtcPeer) : Nat × RtcPeer :=
  ((p.transceivers.filter (·.hasTrack)).length,
    { p with transceivers := p.transceivers.map Transceiver.stop })

/-- Ends the connection. -/
def close (p : RtcPeer) : RtcPeer := { p with transceivers := [], closed := true }

end RtcPeer

end CameraViewer.Rtc
