import CameraViewer.Peer.Connectivity
import CameraViewer.Signal.Descriptor
import CameraViewer.Signal.IceServer
import CameraViewer.Text.Quoted

/-!
# Peer/Basic — a peer connection as the session sees it

What a session asks of a peer (`PeerRequest`, each with its `Reply`), what the peer reports on its
own (`PeerEvent`), and the handles of what it deals in: local media and reliable channels. A peer
may refuse any request with a `PeerError`.
-/

namespace CameraViewer.Peer

open Signal

/-- A video codec the viewer may prefer. -/
inductive Codec
  | h264
  | vp8
  | vp9
deriving DecidableEq, Repr, Inhabited

namespace Codec

/-- The codec of a name, in any case. -/
def ofName? (name : String) : Option Codec :=
  match Text.lowerAscii name with
  | "h264" => some .h264
  | "vp8" => some .vp8
  | "vp9" => some .vp9
  | _ => none

/-- The codec of a small name. -/
def ofExactName? : String → Option Codec
  | "h264" => some .h264
  | "vp8" => some .vp8
  | "vp9" => some .vp9
  | _ => none

/-- The media type of a codec. -/
def mime : Codec → String
  | .h264 => "video/H264"
  | .vp8 => "video/VP8"
  | .vp9 => "video/VP9"

end Codec

/-- Negotiation steps that the state of a session may forbid. -/
inductive ForbiddenStep
  /-- A remote offer meets an unanswered local one. -/
  | acceptOffer
  /-- An answer comes without an offer. -/
  | applyAnswer
  /-- A second offer before the first is answered. -/
  | createOffer
deriving DecidableEq, Repr

/-- How a forbidden step is described. -/
def ForbiddenStep.description : ForbiddenStep → String
  | .acceptOffer => "accept remote offer with a local offer outstanding"
  | .applyAnswer => "apply answer without a local offer"
  | .createOffer => "create offer while another is unanswered"

/-- Why a negotiation step failed. -/
inductive PeerError
  /-- The peer refused a step. -/
  | rejected (step reason : String)
  /-- The session is in no state for it. -/
  | forbidden (step : ForbiddenStep) (state : Connectivity)
  /-- The connection itself failed. -/
  | connection (reason : String)
  /-- The session is over. -/
  | closed
deriving DecidableEq, Repr

namespace PeerError

/-- The name of a cause. -/
def name : PeerError → String
  | .rejected _ _ => "Rejected"
  | .forbidden _ _ => "InvalidState"
  | .connection _ => "Peer"
  | .closed => "Closed"

/-- What is said about a failure. -/
def message : PeerError → String
  | .rejected step reason => "peer rejected " ++ step ++ ": " ++ reason
  | .forbidden step state => step.description ++ " not allowed while " ++ state.name
  | .connection reason => "peer connection error: " ++ reason
  | .closed => "session closed"

end PeerError

/-- A local source of media, handed out by the capture. -/
structure LocalMedia where
  /-- Which acquisition it came from. -/
  serial : Nat
  /-- What it is called. -/
  label : String
deriving DecidableEq, Repr, Inhabited

/-- A reliable channel of a peer. -/
structure ChannelHandle where
  /-- Which channel it is. -/
  serial : Nat
  /-- What it is called. -/
  label : String
deriving DecidableEq, Repr, Inhabited

/-- What a new peer is made with. -/
structure PeerSetup where
  /-- The session it belongs to. -/
  session : Nat
  /-- Servers it may use. -/
  iceServers : List IceServer
  /-- Label of its reliable channel. -/
  channelLabel : String
  /-- The preferred codec. -/
  codec : Option Codec
deriving DecidableEq, Repr, Inhabited

/-- What a session asks of its peer. -/
inductive PeerRequest
  /-- Makes an offer, over new network paths if asked. -/
  | createOffer (iceRestart : Bool)
  /-- Makes an answer to the remote offer. -/
  | createAnswer
  /-- Adopts a descriptor of this side. -/
  | setLocal (descriptor : SessionDescriptor)
  /-- Adopts a descriptor of the other side. -/
  | setRemote (descriptor : SessionDescriptor)
  /-- Takes a way to reach the other side. -/
  | addCandidate (candidate : Candidate)
  /-- Publishes local media. -/
  | attachMedia (media : LocalMedia)
  /-- Stops publishing; tells how many sources were released. -/
  | releaseOutbound
  /-- Ends the connection. -/
  | close
deriving DecidableEq, Repr

/-- What a peer answers to a request, if it does not refuse. -/
abbrev PeerRequest.Answer : PeerRequest → Type
  | .createOffer _ => SessionDescriptor
  | .createAnswer => SessionDescriptor
  | .releaseOutbound => Nat
  | _ => Unit

/-- What a peer reports on its own. -/
inductive PeerEvent
  /-- A way to reach this side. -/
  | localCandidate (candidate : Candidate)
  /-- The connection changed. -/
  | connectivity (state : Connectivity)
  /-- A reliable channel opened. -/
  | channelOpen (channel : ChannelHandle)
  /-- A text came in on the channel. -/
  | channelText (text : String)
  /-- Bytes came in on the channel. -/
  | channelBinary (size : Nat)
  /-- A channel closed. -/
  | channelClosed (label : String)
  /-- A channel has drained to its low mark. -/
  | bufferedAmountLow (label : String)
  /-- Remote media arrived. -/
  | remoteTrack (kind id : String)
deriving DecidableEq, Repr

/-- A report with the session it comes from. -/
structure SessionEvent where
  /-- The session whose peer reports. -/
  session : Nat
  /-- The report. -/
  event : PeerEvent
deriving DecidableEq, Repr

/-! ## Traces -/

/-- A value that may be missing, as traces show it. -/
def traceOption {α : Type} (f : α → String) : Option α → String
  | none => "None"
  | some a => "Some(" ++ f a ++ ")"

/-- A candidate as traces show it. -/
def traceCandidate (c : Candidate) : String :=
  "ConnectivityCandidate \x7b candidate: " ++ Text.quoted c.candidate
    ++ ", sdp_mid: " ++ traceOption Text.quoted c.sdpMid
    ++ ", sdp_mline_index: " ++ traceOption (fun n => toString n.toNat) c.sdpMLineIndex
    ++ ", username_fragment: " ++ traceOption Text.quoted c.usernameFragment ++ " \x7d"

/-- A report as traces show it; texts and bytes by their length. -/
def PeerEvent.trace : PeerEvent → String
  | .localCandidate c => "LocalCandidate(" ++ traceCandidate c ++ ")"
  | .connectivity s => "Connectivity(" ++ s.name ++ ")"
  | .channelOpen c => "ChannelOpen(" ++ Text.quoted c.label ++ ")"
  | .channelText t => "ChannelText(" ++ toString t.utf8ByteSize ++ ")"
  | .channelBinary n => "ChannelBinary(" ++ toString n ++ ")"
  | .channelClosed label => "ChannelClosed \x7b label: " ++ Text.quoted label ++ " \x7d"
  | .bufferedAmountLow label => "BufferedAmountLow \x7b label: " ++ Text.quoted label ++ " \x7d"
  | .remoteTrack kind id =>
    "RemoteTrack \x7b kind: " ++ Text.quoted kind ++ ", id: " ++ Text.quoted id ++ " \x7d"

end CameraViewer.Peer
