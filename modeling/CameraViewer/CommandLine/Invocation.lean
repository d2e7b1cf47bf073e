import CameraViewer.CommandLine.Reader
import CameraViewer.Config.Endpoint
import CameraViewer.Session.Pending

/-!
# CommandLine/Invocation — from a command line to a client

The command line is read first, then the log is set up, then the settings are read from the
environment; what the command line says goes before what the environment says. The address of the
relay is looked at last.
-/

namespace CameraViewer.CommandLine

open Config Session Telemetry

/-- The settings with what the command line says in their place. An interval of zero says nothing.
-/
def Arguments.override (a : Arguments) (c : ClientConfig) : ClientConfig :=
  { c with
    endpoint :=
      { scheme := a.scheme.getD c.endpoint.scheme
        host := a.host.getD c.endpoint.host
        port := a.port <|> c.endpoint.port
        path := a.path.getD c.endpoint.path }
    role := if a.offer then .offer else c.role
    codec := a.codec <|> c.codec
    statusMs := a.statusMs.filter (· > 0) <|> c.statusMs }

/-- What the program is to do. -/
structure Invocation where
  config : ClientConfig
  logLevel : LogLevel
  /-- Where the log goes; without a file it goes to the terminal. -/
  logFile : Option String
  /-- Path of a file to send. -/
  sendClip : Option String
  /-- What is started at the first connection. -/
  pending : PendingActions
deriving Repr

/-- What the program is to do in an environment. -/
def Arguments.invocation (a : Arguments) (env : Environment) : Except ConfigError Invocation := do
  let config ← ClientConfig.ofEnvironment env
  return {
    config := a.override config
    logLevel := a.logLevel.getD .warn
    logFile := a.logFile
    sendClip := a.sendClip
    pending := { record := a.record, talk := a.talk } }

/-- Why the program does not start. -/
inductive StartError
  /-- The command line is not followed. -/
  | refused (refusal : Refusal)
  /-- The log cannot be set up. -/
  | log (cause : InitError)
  /-- A setting is refused. -/
  | config (cause : ConfigError)
deriving DecidableEq, Repr

/-- The whole report on a log that cannot be set up; it ends with the cause beneath. -/
def logReport : InitError → String
  | .io path cause => (InitError.io path cause).message ++ ": " ++ cause.message
  | .configure => InitError.configure.message

/-- Reads everything a start needs: the address of the relay and what the program is to do. -/
def prepare (files : FileTree) (owner : LogOwner) (words : List String) (env : Environment) :
    Except StartError (String × Invocation) := do
  let a ← (Arguments.read words env).mapError .refused
  (initLogging files owner a.logFile).mapError .log
  let i ← (a.invocation env).mapError .config
  let url ← i.config.relayUrl.mapError .config
  return (url, i)

end CameraViewer.CommandLine
