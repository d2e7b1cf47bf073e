import CameraViewer.Clip.Basic
import CameraViewer.CommandLine.Invocation
import CameraViewer.Rehearsal.Program

/-!
# Main — the program

Reads the command line and the environment, starts the client, and prints what there is to report.
There is no transport in here, so every connection is refused and the client tries again until it is
ended.
-/

namespace CameraViewer

open CommandLine Config Rehearsal Session Transfer

/-- What the program is called. -/
def programName : String := "camera-viewer"

/-- The version of the program. -/
def programVersion : String := "0.1.0"

/-- How the program is called. -/
def usage : String :=
  "Usage: " ++ programName ++ " [OPTIONS]\n\nOptions:\n"
    ++ String.join (Setting.all.map fun s => "      --" ++ s.name ++ " <VALUE>\n")
    ++ String.join (Switch.all.map fun w => "      --" ++ w.name ++ "\n")

/-- What is said about a command line that is not followed. -/
def refusalText : Refusal → String
  | .unknown word => "unexpected argument " ++ Text.quoted word
  | .missingValue s => "a value is required for --" ++ s.name
  | .unknownChoice s value => "invalid value " ++ Text.quoted value ++ " for --" ++ s.name
  | .emptyPath s => "a value is required for --" ++ s.name
  | .badNumber s value => "invalid value " ++ Text.quoted value ++ " for --" ++ s.name
  | .needlessValue w => "--" ++ w.name ++ " takes no value"
  | .repeated name => "--" ++ name ++ " cannot be used multiple times"
  | .help => usage
  | .version => programName ++ " " ++ programVersion

/-- The values of all variables the program looks at. -/
def readEnvironment : IO Environment := do
  let names := variableNames ++ settingVars.map (·.2)
  let vars ← names.filterMapM fun name => do
    return (← IO.getEnv name).map fun value => (name, value)
  return .ofList vars

/-- Says why the program does not start. -/
def fail (message : String) : IO UInt32 := do
  IO.eprintln ("❌ " ++ message)
  return 1

/-- The file to send, if there is one, or what kept it from being read. -/
def readClip? (path : Option String) : IO (Except String (Option Clip)) :=
  match path with
  | none => return .ok none
  | some path => do
    try
      let bytes ← IO.FS.readBinFile path
      return .ok ((Payload.ofBytes? bytes.data).map (Clip.ofFile path))
    catch e => return .error ("reading " ++ path ++ ": " ++ toString e)

/-- The command that sends a file. -/
def sendCommand (c : Clip) : SessionCommand := .sendClip c.name c.mime c.data

/-- Time between two looks at the client, in milliseconds. -/
def pace : Nat := 50

/-- Prints what was reported and lets time pass, until the client has ended. -/
partial def watch (r : ClientRun) : IO Unit := do
  let (lines, r) := r.takePrinted
  lines.forM (IO.println ·)
  if !r.ended then
    IO.sleep (UInt32.ofNat pace)
    watch (r.waitRefused pace)

/-- Runs the client of an address. -/
def runClient (url : String) (i : Invocation) : IO UInt32 := do
  match ← readClip? i.sendClip with
  | .error message => fail message
  | .ok clip =>
    let r := ClientRun.startRefused url i
    watch ((clip.map fun c => (r.command (sendCommand c)).2).getD r)
    return 0

/-- Opens the log file, so that it is there. -/
def openLog (path : Option String) : IO (Except String Unit) :=
  match path with
  | none => return .ok ()
  | some path => do
    try
      discard (IO.FS.Handle.mk path .append)
      return .ok ()
    catch e =>
      let name := Text.quoted path
      return .error ("failed to open log file " ++ name ++ ": " ++ toString e)

/-- Starts what a command line that was read asks for. -/
def startProgram (a : Arguments) (env : Environment) : IO UInt32 := do
  match ← openLog a.logFile with
  | .error message => fail message
  | .ok () =>
    match a.invocation env with
    | .error e => fail e.message
    | .ok i =>
      match i.config.relayUrl with
      | .error e => fail e.message
      | .ok url => runClient url i

end CameraViewer

open CameraViewer CameraViewer.CommandLine

/-- The program. -/
def main (words : List String) : IO UInt32 := do
  let env ← readEnvironment
  match Arguments.read words env with
  | .ok a => startProgram a env
  | .error .help => do IO.println (refusalText .help); return 0
  | .error .version => do IO.println (refusalText .version); return 0
  | .error r => do IO.eprintln ("error: " ++ refusalText r); return 2
