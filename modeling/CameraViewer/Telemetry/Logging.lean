import CameraViewer.Text.Quoted

/-!
# Telemetry/Logging — levels of the log and where it goes

The levels with their filters, and why a log file cannot be opened. The filter of the finest levels
keeps the libraries underneath at `info`.
-/

namespace CameraViewer.Telemetry

/-- How much is logged. -/
inductive LogLevel
  | error
  | warn
  | info
  | debug
  | trace
deriving DecidableEq, Repr, Inhabited

namespace LogLevel

/-- The word of a level. -/
def name : LogLevel → String
  | .error => "error"
  | .warn => "warn"
  | .info => "info"
  | .debug => "debug"
  | .trace => "trace"

/-- All levels, the coarsest first. -/
def all : List LogLevel := [.error, .warn, .info, .debug, .trace]

/-- The level of a word, in small letters. -/
def ofName? (word : String) : Option LogLevel := all.find? (·.name = word)

/-- Levels that show where a line comes from. -/
def showsTargets : LogLevel → Bool
  | .debug => true
  | .trace => true
  | _ => false

end LogLevel

/-- The libraries underneath, whose traces are noise. -/
def noisyTargets : List String :=
  ["tokio_tungstenite", "tungstenite", "webrtc", "webrtc_ice", "webrtc_sctp", "webrtc_dtls",
    "webrtc_srtp", "webrtc_mdns", "mio"]

/-- The client at a level, everything else at `info`. -/
def clientFilter (level : LogLevel) : String :=
  "info" ++ String.join
    (["lookout_client_core", "lookout", "relay_proto"].map fun t => "," ++ t ++ "=" ++ level.name)

/-- The filter of a level; without one, nothing is logged. -/
def baseFilter : Option LogLevel → String
  | none => "off"
  | some .debug => clientFilter .debug
  | some .trace => clientFilter .trace
  | some level => level.name

/-- The filter of a level, and whether it quiets the libraries underneath. -/
def defaultFilter (level : Option LogLevel) (allowNoise : Bool) : String × Bool :=
  if level = some .trace ∧ !allowNoise then
    (baseFilter level ++ String.join (noisyTargets.map fun t => "," ++ t ++ "=info"), true)
  else (baseFilter level, false)

/-! ## Opening the log -/

/-- Why a file cannot be opened. -/
inductive OpenFailure
  | notFound
  | notADirectory
  | isADirectory
  | nameTooLong
  | noDevice
  | nulByte
deriving DecidableEq, Repr

/-- What the system says about a failure. -/
def OpenFailure.message : OpenFailure → String
  | .notFound => "No such file or directory (os error 2)"
  | .notADirectory => "Not a directory (os error 20)"
  | .isADirectory => "Is a directory (os error 21)"
  | .nameTooLong => "File name too long (os error 36)"
  | .noDevice => "No such device or address (os error 6)"
  | .nulByte => "file name contained an unexpected NUL byte"

/-- What a path leads to. -/
inductive FileKind
  | file
  | directory
  /-- A directory that shows what is there; nothing can be made in it. -/
  | display
  /-- A terminal that nobody sits at. -/
  | terminal
deriving DecidableEq, Repr

/-- Whether paths go on from here. -/
def FileKind.holdsFiles : FileKind → Bool
  | .directory => true
  | .display => true
  | _ => false

/-- The files and directories there are, by their names from the root on. -/
structure FileTree where
  entries : List (List String × FileKind)

namespace FileTree

/-- Entries of one kind in a directory. -/
def inDirectory (kind : FileKind) (here : List String) (names : List String) :
    List (List String × FileKind) :=
  names.map fun name => (here ++ [name], kind)

/-- The directories, devices and settings that every system has. -/
def bare : FileTree where
  entries :=
    inDirectory .directory []
        ["bin", "boot", "dev", "etc", "home", "lib", "lib64", "media", "mnt", "opt", "root", "run",
          "sbin", "srv", "sys", "tmp", "usr", "var"]
      ++ inDirectory .directory ["usr"]
        ["bin", "games", "include", "lib", "lib64", "libexec", "local", "sbin", "share", "src"]
      ++ inDirectory .directory ["usr", "local"]
        ["bin", "etc", "games", "include", "lib", "man", "sbin", "share", "src"]
      ++ inDirectory .directory ["var"]
        ["backups", "cache", "lib", "local", "lock", "log", "mail", "opt", "run", "spool", "tmp"]
      ++ inDirectory .directory ["dev"] ["mqueue", "pts", "shm"]
      ++ inDirectory .directory ["run"] ["lock"]
      ++ inDirectory .directory ["etc"]
        ["alternatives", "apt", "cron.d", "cron.daily", "default", "dpkg", "init.d", "ld.so.conf.d",
          "logrotate.d", "opt", "pam.d", "profile.d", "security", "skel", "ssl", "systemd"]
      ++ inDirectory .display [] ["proc"]
      ++ inDirectory .display ["proc"] ["self", "sys"]
      ++ inDirectory .display ["dev"] ["fd"]
      ++ inDirectory .terminal ["dev"] ["tty"]
      ++ inDirectory .file ["proc"] ["cpuinfo", "meminfo", "uptime", "version"]
      ++ inDirectory .file ["dev"]
        ["full", "null", "ptmx", "random", "stderr", "stdin", "stdout", "urandom", "zero"]
      ++ inDirectory .file ["etc"]
        ["bash.bashrc", "environment", "fstab", "group", "gshadow", "host.conf", "hostname",
          "hosts", "issue", "ld.so.cache", "ld.so.conf", "mtab", "nsswitch.conf", "os-release",
          "passwd", "profile", "resolv.conf", "shadow", "shells", "subgid", "subuid"]

/-- What the names from the root on lead to. -/
def kind? (names : List String) (t : FileTree) : Option FileKind :=
  if names.isEmpty then some .directory else t.entries.lookup names

/-- The longest name of a file, in bytes. -/
def longestName : Nat := 255

/-- Paths of so many bytes are too long as a whole. -/
def pathLimit : Nat := 4096

/-- Follows names from a directory on; the directory they lead to, by its names. -/
def walk (t : FileTree) : List String → List String → Except OpenFailure (List String)
  | here, [] => .ok here
  | here, name :: rest =>
    if name = "." then walk t here rest
    else if name = ".." then walk t here.dropLast rest
    else if longestName < name.utf8ByteSize then .error .nameTooLong
    else
      match t.kind? (here ++ [name]) with
      | none => .error .notFound
      | some kind =>
        if kind.holdsFiles then walk t (here ++ [name]) rest else .error .notADirectory

/-- Opens a name in a directory to write at its end, and makes the file if it is not there. -/
def openIn (t : FileTree) (here : List String) (name : String) : Except OpenFailure Unit :=
  if name = "." ∨ name = ".." then .error .isADirectory
  else if longestName < name.utf8ByteSize then .error .nameTooLong
  else
    match t.kind? (here ++ [name]) with
    | some .file => .ok ()
    | some .terminal => .error .noDevice
    | some _ => .error .isADirectory
    | none => if t.kind? here = some .display then .error .notFound else .ok ()

/-- Opens a file to write at its end, and makes it if its directory is there. A slash at the end
asks for a directory, whatever is there. A relative path starts at a directory of its own that holds
nothing. -/
def openToAppend (path : String) (t : FileTree) : Except OpenFailure Unit := do
  let cs := path.toList
  let names := ((Text.splitAtChar '/' cs).filter (!·.isEmpty)).map String.ofList
  if '\x00' ∈ cs then .error .nulByte
  else if cs.isEmpty then .error .notFound
  else if pathLimit ≤ path.utf8ByteSize then .error .nameTooLong
  else
    match names.getLast? with
    | none => .error .isADirectory
    | some last =>
      let here ← t.walk (if cs.head? = some '/' then [] else ["tmp", "here"]) names.dropLast
      if cs.getLast? = some '/' then .error .isADirectory else t.openIn here last

end FileTree

/-- Why logging could not be set up. -/
inductive InitError
  /-- The log file cannot be opened. -/
  | io (path : String) (cause : OpenFailure)
  /-- There is a log already. -/
  | configure
deriving DecidableEq, Repr

namespace InitError

/-- The name of a cause. -/
def name : InitError → String
  | .io _ _ => "Io"
  | .configure => "Configure"

/-- What is said about a failure. -/
def message : InitError → String
  | .io path cause =>
    "failed to open log file " ++ Text.quoted path ++ ": " ++ cause.message
  | .configure =>
    "failed to configure logger: a global default trace dispatcher has already been set"

end InitError

/-- Who writes the log of the program. -/
inductive LogOwner
  /-- Nobody yet. -/
  | nobody
  /-- This library. -/
  | here
  /-- Somebody else. -/
  | elsewhere
deriving DecidableEq, Repr

/-- Sets up logging into a file or, without one, to the terminal. Once this library writes the log,
there is nothing more to set up; the file is opened before it shows that somebody else writes it. -/
def initLogging (tree : FileTree) (owner : LogOwner) (file : Option String) :
    Except InitError Unit :=
  if owner = .here then .ok ()
  else
    match file.map fun path => (path, tree.openToAppend path) with
    | some (path, .error cause) => .error (.io path cause)
    | _ => if owner = .elsewhere then .error .configure else .ok ()

end CameraViewer.Telemetry
