import CameraViewer.Peer.Basic
import CameraViewer.Session.Event

/-!
# World/Basic — everything outside of the client

The client acts on the world through requests: to its peers, to their channels, to the capture, to
the relay sockets, to the viewer, and to the meter. `World` is any type that can answer them, each
answer leading to a new world; it may refuse, and answer the same request differently at another
time. All machines of this library are written against it.
-/

namespace CameraViewer

open Peer Session Transfer

/-! ## A world -/

namespace World

/-! ## Requests -/

/-- What the meter counts. -/
inductive Measure
  /-- From a remote offer to the answer. -/
  | answerRemoteOffer
  /-- Making an offer. -/
  | localOffer
  /-- From the start of a session to its first connection. -/
  | timeToConnected
  /-- Time a job was paused. -/
  | transferPaused
  /-- A chunk that was sent. -/
  | chunkSent
deriving DecidableEq, Repr, Inhabited

/-- The name of a measure in summaries. -/
def Measure.name : Measure → String
  | .answerRemoteOffer => "negotiation.answer"
  | .localOffer => "negotiation.offer"
  | .timeToConnected => "session.time_to_connected"
  | .transferPaused => "transfer.paused"
  | .chunkSent => "transfer.chunk"

/-- After how many samples a measure is summed up. -/
def Measure.reportEvery : Measure → Nat
  | .timeToConnected => 1
  | .answerRemoteOffer => 10
  | .localOffer => 10
  | .transferPaused => 10
  | .chunkSent => 200

/-- One sample: a stretch of time or a number of bytes. -/
inductive Sample
  | elapsed (measure : Measure)
  | bytes (measure : Measure) (count : Nat)
deriving DecidableEq, Repr

/-- What is asked of a reliable channel. -/
inductive ChannelRequest
  /-- Whether it is open. -/
  | isOpen
  /-- How many bytes wait in it. -/
  | bufferedAmount
  /-- At how many waiting bytes it reports that it has drained. -/
  | setLowMark (threshold : Nat)
  /-- Sends a text. -/
  | sendText (text : String)
  /-- Sends bytes. -/
  | sendBytes (data : Bytes)
  /-- Closes it. -/
  | close

/-- What a channel answers. -/
abbrev ChannelRequest.Reply : ChannelRequest → Type
  | .isOpen => Bool
  | .bufferedAmount => Nat
  | .sendText _ => Except TransferError Unit
  | .sendBytes _ => Except TransferError Unit
  | _ => Unit

/-- What the client asks of the world. -/
inductive Request
  /-- A new peer. -/
  | createPeer (setup : PeerSetup)
  /-- Something of the peer of a session. -/
  | peer (session : Nat) (request : PeerRequest)
  /-- Something of a channel. -/
  | channel (channel : ChannelHandle) (request : ChannelRequest)
  /-- A local source of media. -/
  | acquireMedia
  /-- Stops a local source of media. -/
  | stopMedia (media : LocalMedia)
  /-- Starts a connection attempt; what becomes of it is reported later under its generation. -/
  | dial (generation : Nat) (url : String)
  /-- Gives up an attempt and the socket that came of it. -/
  | hangUp (generation : Nat)
  /-- Writes a text to a socket. -/
  | write (socket : Nat) (text : String)
  /-- Shows an event to the viewer. -/
  | tell (event : ViewerEvent)
  /-- Notes a sample. -/
  | note (sample : Sample)

/-- What the world answers. A written text may find nobody at the other end. -/
abbrev Request.Reply : Request → Type
  | .createPeer _ => Except PeerError Unit
  | .peer _ r => Except PeerError r.Answer
  | .channel _ r => r.Reply
  | .acquireMedia => Except PeerError LocalMedia
  | .write _ _ => Bool
  | _ => Unit

end World

/-- A world answers every request and goes on as another state of itself. -/
class World (ω : Type) where
  /-- The answer to a request and the world after it. -/
  perform : (r : World.Request) → ω → r.Reply × ω

namespace World

variable {ω : Type} [World ω]

/-- Asks the world. -/
def ask (r : Request) : StateM ω r.Reply := fun w => World.perform r w

/-! ## What is asked of a peer -/

/-- Asks the peer of a session for an offer. -/
def createOffer (session : Nat) (iceRestart : Bool) :
    StateM ω (Except PeerError Signal.SessionDescriptor) :=
  ask (.peer session (.createOffer iceRestart))

/-- Asks the peer of a session for an answer. -/
def createAnswer (session : Nat) : StateM ω (Except PeerError Signal.SessionDescriptor) :=
  ask (.peer session .createAnswer)

/-- Hands the peer of a session a descriptor of this side. -/
def setLocal (session : Nat) (d : Signal.SessionDescriptor) : StateM ω (Except PeerError Unit) :=
  ask (.peer session (.setLocal d))

/-- Hands the peer of a session a descriptor of the other side. -/
def setRemote (session : Nat) (d : Signal.SessionDescriptor) : StateM ω (Except PeerError Unit) :=
  ask (.peer session (.setRemote d))

/-- Hands the peer of a session a candidate. -/
def addCandidate (session : Nat) (c : Signal.Candidate) : StateM ω (Except PeerError Unit) :=
  ask (.peer session (.addCandidate c))

/-- Publishes local media over the peer of a session. -/
def attachMedia (session : Nat) (m : LocalMedia) : StateM ω (Except PeerError Unit) :=
  ask (.peer session (.attachMedia m))

/-- Ends all publishing of a session. -/
def releaseOutbound (session : Nat) : StateM ω (Except PeerError Nat) :=
  ask (.peer session .releaseOutbound)

/-- Closes the peer of a session. -/
def closePeer (session : Nat) : StateM ω (Except PeerError Unit) := ask (.peer session .close)

/-- Makes a peer. -/
def createPeer (setup : PeerSetup) : StateM ω (Except PeerError Unit) := ask (.createPeer setup)

/-! ## What is asked of a channel -/

/-- Whether a channel is open. -/
def isOpen (c : ChannelHandle) : StateM ω Bool := ask (.channel c .isOpen)

/-- How many bytes wait in a channel. -/
def bufferedAmount (c : ChannelHandle) : StateM ω Nat := ask (.channel c .bufferedAmount)

/-- Sets the low mark of a channel. -/
def setLowMark (c : ChannelHandle) (threshold : Nat) : StateM ω Unit :=
  ask (.channel c (.setLowMark threshold))

/-- Sends a text on a channel. -/
def sendText (c : ChannelHandle) (text : String) : StateM ω (Except TransferError Unit) :=
  ask (.channel c (.sendText text))

/-- Sends bytes on a channel. -/
def sendBytes (c : ChannelHandle) (data : Bytes) : StateM ω (Except TransferError Unit) :=
  ask (.channel c (.sendBytes data))

/-- Closes a channel. -/
def closeChannel (c : ChannelHandle) : StateM ω Unit := ask (.channel c .close)

/-! ## What else is asked -/

/-- Acquires a microphone. -/
def acquireMedia : StateM ω (Except PeerError LocalMedia) := ask .acquireMedia

/-- Stops a microphone. -/
def stopMedia (m : LocalMedia) : StateM ω Unit := ask (.stopMedia m)

/-- Starts a connection attempt. -/
def dial (generation : Nat) (url : String) : StateM ω Unit := ask (.dial generation url)

/-- Gives up an attempt. -/
def hangUp (generation : Nat) : StateM ω Unit := ask (.hangUp generation)

/-- Writes a text to a socket; false where nobody is left to read it. -/
def write (socket : Nat) (text : String) : StateM ω Bool := ask (.write socket text)

/-- Shows an event to the viewer. -/
def tell (event : ViewerEvent) : StateM ω Unit := ask (.tell event)

/-- Notes a sample. -/
def note (sample : Sample) : StateM ω Unit := ask (.note sample)

end World

end CameraViewer
