import CameraViewer.CommandLine.Arguments
import CameraViewer.CommandLine.Token
import CameraViewer.Config.Environment

/-!
# CommandLine/Reader — reading a command line

Words are read one by one. The value of a setting may stand in a word of its own; it is taken when
the next name comes or the words are over, so a word that is not known is reported before the value
in front of it. Some settings that are not given are taken from variables.
-/

namespace CameraViewer.CommandLine

open Config

/-- A command line that is being read. -/
structure Reader where
  /-- What was taken. -/
  taken : Arguments := {}
  /-- The last setting and its value if that came, as long as they are not taken. -/
  waiting : Option (Setting × Option String) := none
deriving Repr, Inhabited

namespace Reader

/-- Takes the setting that waits. -/
def finish (r : Reader) : Except Refusal Arguments :=
  match r.waiting with
  | none => .ok r.taken
  | some (s, none) => .error (.missingValue s)
  | some (s, some value) => r.taken.put s value

/-- Reads a setting, which waits for its value if it has none. -/
def readSetting (s : Setting) (value : Option String) (r : Reader) : Except Refusal Reader := do
  let taken ← r.finish
  match value with
  | some value => return { taken := ← taken.put s value }
  | none => return { taken, waiting := some (s, none) }

/-- Reads a switch. -/
def readSwitch (w : Switch) (r : Reader) : Except Refusal Reader := do
  return { taken := ← (← r.finish).turnOn w }

/-- Reads a name with what is attached to it. -/
def readName (name : String) (value : Option String) (r : Reader) : Except Refusal Reader :=
  match Setting.ofName? name, Switch.ofName? name with
  | some s, _ => r.readSetting s value
  | none, some w => if value.isSome then .error (.needlessValue w) else r.readSwitch w
  | none, none => .error (.unknown ("--" ++ name))

/-- Reads a plain word, which has to be the value of the setting that waits. -/
def readPlain (text : String) (r : Reader) : Except Refusal Reader :=
  match r.waiting with
  | some (s, none) => .ok { r with waiting := some (s, some text) }
  | _ => .error (.unknown text)

/-- Reads a letter. -/
def readLetter (letter : Char) (r : Reader) : Except Refusal Reader :=
  match Switch.ofLetter? letter with
  | some w => r.readSwitch w
  | none => .error (.unknown ("-" ++ letter.toString))

/-- Reads all words. Nothing may follow two dashes. -/
def readWords (r : Reader) : List String → Except Refusal Arguments
  | [] => r.finish
  | word :: rest =>
    match Token.ofWord word with
    | .long name value => (r.readName name value).bind fun r => r.readWords rest
    | .short letter => (r.readLetter letter).bind fun r => r.readWords rest
    | .plain text => (r.readPlain text).bind fun r => r.readWords rest
    | .terminator =>
      match rest with
      | [] => r.finish
      | next :: _ => .error (.unknown next)

end Reader

/-! ## Variables -/

def logLevelVar : String := "LOOKOUT_LOG_LEVEL"
def logFileVar : String := "LOOKOUT_LOG_FILE"

/-- Settings that a variable can give. -/
def settingVars : List (Setting × String) :=
  [(.codec, codecVar), (.logLevel, logLevelVar), (.logFile, logFileVar)]

/-- Takes a setting from its variable, unless it was given. -/
def Arguments.orVariable (env : Environment) (a : Arguments) (entry : Setting × String) :
    Except Refusal Arguments :=
  if a.has entry.1 then .ok a
  else
    match env entry.2 with
    | none => .ok a
    | some value => a.put entry.1 value

/-- What a command line asks for, with the settings that variables give. -/
def Arguments.read (words : List String) (env : Environment) : Except Refusal Arguments := do
  settingVars.foldlM (Arguments.orVariable env) (← ({} : Reader).readWords words)

end CameraViewer.CommandLine
