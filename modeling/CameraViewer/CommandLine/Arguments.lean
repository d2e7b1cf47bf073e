import CameraViewer.Peer.Basic
import CameraViewer.Telemetry.Logging

/-!
# CommandLine/Arguments — what a command line can ask for

Settings take a value, switches do not. `Arguments` is what was asked for so far; every setting and
every switch can be given once.
-/

namespace CameraViewer.CommandLine

open Peer Telemetry

/-! ## Names -/

/-- Names that take a value. -/
inductive Setting
  | scheme
  | host
  | port
  | path
  | sendClip
  | codec
  | statusInterval
  | logLevel
  | logFile
deriving DecidableEq, Repr

namespace Setting

/-- The name behind the dashes. -/
def name : Setting → String
  | .scheme => "scheme"
  | .host => "host"
  | .port => "port"
  | .path => "path"
  | .sendClip => "send-clip"
  | .codec => "codec"
  | .statusInterval => "status-interval-ms"
  | .logLevel => "log-level"
  | .logFile => "log-file"

/-- All settings. -/
def all : List Setting :=
  [.scheme, .host, .port, .path, .sendClip, .codec, .statusInterval, .logLevel, .logFile]

/-- The setting of a name. -/
def ofName? (name : String) : Option Setting := all.find? (·.name = name)

end Setting

/-- Names that take no value. -/
inductive Switch
  | offer
  | record
  | talk
  | help
  | version
deriving DecidableEq, Repr

namespace Switch

/-- The name behind the dashes. -/
def name : Switch → String
  | .offer => "offer"
  | .record => "record"
  | .talk => "talk"
  | .help => "help"
  | .version => "version"

/-- All switches. -/
def all : List Switch := [.offer, .record, .talk, .help, .version]

/-- The switch of a name. -/
def ofName? (name : String) : Option Switch := all.find? (·.name = name)

/-- The switch of a letter. -/
def ofLetter? : Char → Option Switch
  | 'h' => some .help
  | 'V' => some .version
  | _ => none

end Switch

/-! ## Refusals -/

/-- Why a command line is not followed. -/
inductive Refusal
  /-- Nothing of this name is known. -/
  | unknown (word : String)
  /-- A setting without a value. -/
  | missingValue (setting : Setting)
  /-- The value is none of a few words. -/
  | unknownChoice (setting : Setting) (value : String)
  /-- A path that is empty. -/
  | emptyPath (setting : Setting)
  /-- The value is no number, or one too great. -/
  | badNumber (setting : Setting) (value : String)
  /-- A switch with a value. -/
  | needlessValue (switch : Switch)
  /-- A name that was given before. -/
  | repeated (name : String)
  /-- Help is asked for. -/
  | help
  /-- The version is asked for. -/
  | version
deriving DecidableEq, Repr

/-- The class of a refusal. -/
def Refusal.kind : Refusal → String
  | .unknown _ => "UnknownArgument"
  | .missingValue _ => "InvalidValue"
  | .unknownChoice _ _ => "InvalidValue"
  | .emptyPath _ => "InvalidValue"
  | .badNumber _ _ => "ValueValidation"
  | .needlessValue _ => "TooManyValues"
  | .repeated _ => "ArgumentConflict"
  | .help => "DisplayHelp"
  | .version => "DisplayVersion"

/-! ## Arguments

A setting may be given once, and is read as soon as its value is there. -/

/-- What was asked for. -/
structure Arguments where
  scheme : Option String := none
  host : Option String := none
  port : Option UInt16 := none
  path : Option String := none
  /-- This side makes the first offer. -/
  offer : Bool := false
  /-- Path of a file to send. -/
  sendClip : Option String := none
  /-- The device shall record once there is a session. -/
  record : Bool := false
  /-- The microphone shall be live once there is a session. -/
  talk : Bool := false
  codec : Option Codec := none
  /-- From one status to the next, in milliseconds. -/
  statusMs : Option Nat := none
  logLevel : Option LogLevel := none
  logFile : Option String := none
deriving DecidableEq, Repr, Inhabited

namespace Arguments

/-- A setting was given. -/
def has (a : Arguments) : Setting → Bool
  | .scheme => a.scheme.isSome
  | .host => a.host.isSome
  | .port => a.port.isSome
  | .path => a.path.isSome
  | .sendClip => a.sendClip.isSome
  | .codec => a.codec.isSome
  | .statusInterval => a.statusMs.isSome
  | .logLevel => a.logLevel.isSome
  | .logFile => a.logFile.isSome

/-- A value that is read, or else the refusal of it. -/
def orRefuse {α : Type} (r : Refusal) : Option α → Except Refusal α
  | some a => .ok a
  | none => .error r

/-- A path that is not empty. -/
def readPath (s : Setting) (value : String) : Except Refusal String :=
  if value = "" then .error (.emptyPath s) else .ok value

/-- A port: zero may have a minus sign. -/
def readPort? (value : String) : Option UInt16 :=
  (match value.toList with
  | '-' :: '+' :: _ => none
  | '-' :: digits => Text.readNumeral? 1 digits
  | cs => Text.readNumeral? UInt16.size cs).map UInt16.ofNat

/-- Takes the value of a setting. -/
def put (s : Setting) (value : String) (a : Arguments) : Except Refusal Arguments := do
  if a.has s then throw (.repeated s.name)
  match s with
  | .scheme => return { a with scheme := some value }
  | .host => return { a with host := some value }
  | .port => return { a with port := some (← orRefuse (.badNumber s value) (readPort? value)) }
  | .path => return { a with path := some value }
  | .sendClip => return { a with sendClip := some (← readPath s value) }
  | .codec =>
    let read := Codec.ofExactName? value
    return { a with codec := some (← orRefuse (.unknownChoice s value) read) }
  | .statusInterval =>
    let read := Text.readNumeral? UInt64.size value.toList
    return { a with statusMs := some (← orRefuse (.badNumber s value) read) }
  | .logLevel =>
    let read := LogLevel.ofName? value
    return { a with logLevel := some (← orRefuse (.unknownChoice s value) read) }
  | .logFile => return { a with logFile := some (← readPath s value) }

/-- Turns a switch on. -/
def turnOn (w : Switch) (a : Arguments) : Except Refusal Arguments :=
  let once := fun (on : Bool) (a : Arguments) => if on then .error (.repeated w.name) else .ok a
  match w with
  | .offer => once a.offer { a with offer := true }
  | .record => once a.record { a with record := true }
  | .talk => once a.talk { a with talk := true }
  | .help => .error .help
  | .version => .error .version

end Arguments

end CameraViewer.CommandLine
