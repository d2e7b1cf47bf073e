import CameraViewer.Config.Basic

/-!
# Config/Environment — settings from variables

Each setting has a variable; what is not set has its default. Numbers may have blanks around them,
words are taken as they are. The first variable that cannot be read is reported.
-/

namespace CameraViewer.Config

open Peer Signal

/-- The values of the variables that are set. -/
abbrev Environment : Type := String → Option String

/-- The environment of a list of names and values. -/
def Environment.ofList (vars : List (String × String)) : Environment := fun name => vars.lookup name

/-! ## Names of the variables -/

def schemeVar : String := "LOOKOUT_RELAY_SCHEME"
def hostVar : String := "LOOKOUT_RELAY_HOST"
def portVar : String := "LOOKOUT_RELAY_PORT"
def pathVar : String := "LOOKOUT_RELAY_PATH"
def reconnectVar : String := "LOOKOUT_RECONNECT_MS"
def disableStunVar : String := "LOOKOUT_DISABLE_STUN"
def stunUrlVar : String := "LOOKOUT_STUN_URL"
def roleVar : String := "LOOKOUT_ROLE"
def codecVar : String := "LOOKOUT_CODEC"
def statusVar : String := "LOOKOUT_STATUS_INTERVAL_MS"
def talkBackVar : String := "LOOKOUT_TALK_BACK"
def recordingVar : String := "LOOKOUT_RECORDING"
def channelLabelVar : String := "LOOKOUT_CHANNEL_LABEL"

/-- All variables of the settings. -/
def variableNames : List String :=
  [schemeVar, hostVar, portVar, pathVar, reconnectVar, disableStunVar, stunUrlVar, roleVar,
    codecVar, statusVar, talkBackVar, recordingVar, channelLabelVar]

/-! ## Reading one variable -/

/-- A switch is on for `1` and for `true` in any case. -/
def isOn (value : String) : Bool := value = "1" || Text.sameIgnoringCase value "true"

/-- A switch, or its default where it is not set. -/
def readFlag (env : Environment) (name : String) (default : Bool) : Bool :=
  ((env name).map isOn).getD default

/-- A number below a bound, if it is set. -/
def readNumber (env : Environment) (name : String) (bound : Nat) :
    Except ConfigError (Option Nat) :=
  match env name with
  | none => .ok none
  | some value =>
    match Text.readNumeral? bound (Text.trim value.toList) with
    | some n => .ok (some n)
    | none => .error (.invalidNumber name value)

/-- What this side starts with. -/
def readRole (env : Environment) : Except ConfigError DescriptorRole :=
  match env roleVar with
  | none => .ok .answer
  | some "answer" => .ok .answer
  | some "offer" => .ok .offer
  | some other => .error (.invalidChoice roleVar other)

/-- The preferred codec, if one is set. -/
def readCodec (env : Environment) : Except ConfigError (Option Codec) :=
  match env codecVar with
  | none => .ok none
  | some value =>
    match Codec.ofName? value with
    | some c => .ok (some c)
    | none => .error (.invalidChoice codecVar value)

/-- The servers of the first session. -/
def readIceServers (env : Environment) : List IceServer :=
  if readFlag env disableStunVar false then [] else [.stun ((env stunUrlVar).getD defaultStunUrl)]

/-! ## Reading all of them -/

/-- The settings of an environment. -/
def ClientConfig.ofEnvironment (env : Environment) : Except ConfigError ClientConfig := do
  let defaults : ClientConfig := {}
  let port ← readNumber env portVar UInt16.size
  let reconnect ← readNumber env reconnectVar UInt64.size
  let role ← readRole env
  let codec ← readCodec env
  let status ← readNumber env statusVar UInt64.size
  return {
    endpoint :=
      { scheme := (env schemeVar).getD defaults.endpoint.scheme
        host := (env hostVar).getD defaults.endpoint.host
        port := port.map UInt16.ofNat
        path := (env pathVar).getD defaults.endpoint.path }
    reconnectMs := reconnect.getD defaults.reconnectMs
    iceServers := readIceServers env
    role
    talkBack := readFlag env talkBackVar defaults.talkBack
    recording := readFlag env recordingVar defaults.recording
    codec
    channelLabel := (env channelLabelVar).getD defaults.channelLabel
    limits := defaults.limits
    statusMs := status.filter (· > 0) }

end CameraViewer.Config
