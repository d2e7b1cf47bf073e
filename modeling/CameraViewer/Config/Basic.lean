import CameraViewer.Peer.Basic
import CameraViewer.Transfer.Limits

/-!
# Config/Basic — what the client is set up with

`ClientConfig` with its defaults, and `ConfigError`, the causes for which a setting is refused.
-/

namespace CameraViewer.Config

open Peer Signal Transfer

/-- Address of the relay, in parts. -/
structure Endpoint where
  scheme : String := "wss"
  host : String := "localhost"
  /-- Without a port it is that of the scheme. -/
  port : Option UInt16 := none
  path : String := "ws"
deriving DecidableEq, Repr, Inhabited

/-- The server a session may use unless told otherwise. -/
def defaultStunUrl : String := "stun:stun.l.google.com:19302"

/-- What the client is set up with. Times are in milliseconds. -/
structure ClientConfig where
  /-- Where the relay is. -/
  endpoint : Endpoint := {}
  /-- From the loss of a connection to the next attempt. -/
  reconnectMs : Nat := 5000
  /-- Servers of the first session; later ones use what the relay has announced. -/
  iceServers : List IceServer := [.stun defaultStunUrl]
  /-- What this side starts a session with: an answer waits for the offer of the other side. -/
  role : DescriptorRole := .answer
  /-- The microphone may be used. -/
  talkBack : Bool := true
  /-- The device may be told to record. -/
  recording : Bool := true
  /-- The preferred codec. -/
  codec : Option Codec := none
  /-- Label of the channel that files go over. -/
  channelLabel : String := "web page channel"
  /-- Bounds on what is sent. -/
  limits : TransferLimits := {}
  /-- From one status to the next. -/
  statusMs : Option Nat := none
deriving DecidableEq, Repr, Inhabited

/-- Why a setting was refused. -/
inductive ConfigError
  /-- The parts do not make an address of a relay. -/
  | invalidEndpoint (url reason : String)
  /-- A setting has to be a number. -/
  | invalidNumber (name value : String)
  /-- A setting has to be one of a few words. -/
  | invalidChoice (name value : String)
deriving DecidableEq, Repr

namespace ConfigError

/-- The name of a cause. -/
def name : ConfigError → String
  | .invalidEndpoint _ _ => "InvalidEndpoint"
  | .invalidNumber _ _ => "InvalidNumber"
  | .invalidChoice _ _ => "InvalidChoice"

/-- What is said about a refusal. -/
def message : ConfigError → String
  | .invalidEndpoint url reason => "invalid relay endpoint " ++ url ++ ": " ++ reason
  | .invalidNumber name value => name ++ " must be a number, got " ++ Text.quoted value
  | .invalidChoice name value => name ++ " has unsupported value " ++ Text.quoted value

end ConfigError

end CameraViewer.Config
