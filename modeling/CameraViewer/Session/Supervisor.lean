import CameraViewer.Channel.Notice
import CameraViewer.Config.Basic
import CameraViewer.Negotiation.Machine
import CameraViewer.Session.Routing
import CameraViewer.Transfer.Queue

/-!
# Session/Supervisor — the current session and all that outlives it

Every opening of the link ends the current session and starts a new one. The supervisor keeps what
goes beyond a session: the servers announced by the relay, the files that wait, the controls of the
device, and the flags. It acts on openings, deliveries of the relay, reports of the peer, and
commands; reports of any session but the current one are dropped.
-/

namespace CameraViewer.Session

open Channel Config Control Link Negotiation Peer Signal Transfer World

/-- A session that is not over. -/
structure LiveSession where
  /-- Its negotiation, which also knows its number. -/
  machine : Machine
  /-- The channel that opened last under the configured label. -/
  channel : Option ChannelHandle := none
  /-- The channel was handed to the transfer queue. -/
  channelAttached : Bool := false
  /-- Local media that is live. -/
  media : List LocalMedia := []

/-- Number of a session. -/
def LiveSession.id (live : LiveSession) : Nat := live.machine.session

/-- The current session and all that outlives it. -/
structure Supervisor where
  /-- What the client is set up with. -/
  config : ClientConfig
  /-- Servers of the next session. -/
  iceServers : List IceServer
  /-- Number of the latest session. -/
  lastSession : Nat := 0
  /-- The current session. -/
  session : Option LiveSession := none
  /-- Files on their way. -/
  transfers : TransferQueue
  /-- The controls of the device, normalized. -/
  catalog : Catalog := .empty
  /-- What goes on besides. -/
  flags : SessionFlags := {}

/-- What the viewer is told when the device refuses to record. -/
def recordRefusedNotice : String := "Recording thread is already running"

namespace Supervisor

variable {ω : Type} [World ω]

/-- A supervisor without a session. -/
def new (config : ClientConfig) : Supervisor :=
  { config, iceServers := config.iceServers, transfers := .new config.limits }

/-- Number of the current session. -/
def sessionId (s : Supervisor) : Option Nat := s.session.map LiveSession.id

/-- How far the current session has come. -/
def connectivity (s : Supervisor) : Option Connectivity := s.session.map (·.machine.state)

/-- The client at a glance. -/
def status (link : LinkState) (s : Supervisor) : StatusSnapshot :=
  ⟨link, s.sessionId, s.connectivity, s.flags, s.transfers.activeProgress,
    s.transfers.waiting.length⟩

/-! ## Telling and stopping -/

/-- Tells the viewer about files, in order. -/
def tellTransfers : List TransferProgress → StateM ω Unit
  | [] => pure ()
  | p :: rest => do
    tell (.transfer p)
    tellTransfers rest

/-- Stops local media. -/
def stopAll : List LocalMedia → StateM ω Unit
  | [] => pure ()
  | m :: rest => do
    stopMedia m
    stopAll rest

/-- Tells the viewer about a state that differs from the one before. -/
def tellChange (before : Connectivity) (m : Machine) : StateM ω Unit :=
  if m.state = before then pure () else tell (.connectivity m.session m.state)

/-- Closes the channel of a session, if it has one. -/
def closeChannelOf (live : LiveSession) : StateM ω Unit :=
  match live.channel with
  | some c => closeChannel c
  | none => pure ()

/-- Ends the current session: its media stops, its channel and its peer are closed, and the file
being sent is given up. -/
def teardown (s : Supervisor) : StateM ω Supervisor := do
  match s.session with
  | none => return s
  | some live =>
    stopAll live.media
    let _ ← releaseOutbound live.id
    closeChannelOf live
    let (reports, transfers) := s.transfers.onChannelClosed
    tellTransfers reports
    let (change, _) ← live.machine.stop
    if change.isSome then tell (.connectivity live.id .closed)
    let wasLive := !live.media.isEmpty || s.flags.talking
    if wasLive then tell (.localMedia false)
    return { s with session := none, transfers, flags := { s.flags with talking := false } }

/-- Ends the current session and clears the flags. -/
def shutdown (s : Supervisor) : StateM ω Supervisor := do
  return { ← s.teardown with flags := {} }

/-! ## Openings of the link -/

/-- What the peer of the next session is made with. -/
def nextSetup (s : Supervisor) : PeerSetup :=
  ⟨s.lastSession + 1, s.iceServers, s.config.channelLabel, s.config.codec⟩

/-- Makes the first offer of a session, if it is for this side to make. -/
def openSession (link : RelayLink) (m : Machine) : StateM ω Machine := do
  tell (.connectivity m.session m.state)
  if m.shouldInitiate then
    let (_, next) ← m.initiate (link.send ·)
    tellChange m.state next
    return next
  else
    return m

/-- Starts a new session over a link that has just opened. -/
def onLinkOpen (link : RelayLink) (s : Supervisor) : StateM ω Supervisor := do
  let s ← s.teardown
  let setup := s.nextSetup
  let s := { s with lastSession := setup.session }
  match ← createPeer setup with
  | .error _ => return s
  | .ok () =>
    let machine ← openSession link { session := setup.session, role := s.config.role }
    return { s with session := some { machine } }

/-! ## Reports of the peer -/

/-- The greatest message of a session: the remote description may lower that of this side. -/
def maxMessageOf (s : Supervisor) (m : Machine) : Nat :=
  match m.remoteDescriptor with
  | some d => negotiatedMax d.sdp s.config.limits.localMax
  | none => s.config.limits.localMax

/-- Hands the channel to the transfer queue once it is open and the session is connected. -/
def attachChannelIfReady (s : Supervisor) : StateM ω Supervisor := do
  match s.session with
  | none => return s
  | some live =>
    if live.channelAttached ∨ live.machine.state ≠ .connected then return s
    match live.channel with
    | none => return s
    | some channel =>
      let (reports, transfers) ← s.transfers.attach channel (s.maxMessageOf live.machine)
      tellTransfers reports
      return { s with session := some { live with channelAttached := true }, transfers }

/-- Stops publishing. -/
def releaseMedia (s : Supervisor) : StateM ω Supervisor := do
  match s.session with
  | none => return s
  | some live =>
    stopAll live.media
    let _ ← releaseOutbound live.id
    tell (.localMedia false)
    return { s with
      session := some { live with media := [] }, flags := { s.flags with talking := false } }

/-- Follows a change of the current session. -/
def onTransition (t : Transition) (s : Supervisor) : StateM ω Supervisor := do
  match s.session with
  | none => return s
  | some live =>
    tell (.connectivity live.id t.target)
    match t.target with
    | .connected => s.attachChannelIfReady
    | .disconnected => s.releaseMedia
    | .failed => s.releaseMedia
    | .closed => s.teardown
    | .new => return s
    | .connecting => return s

/-- The viewer sees the new controls, normalized. -/
def replaceCatalog (c : Catalog) (s : Supervisor) : StateM ω Supervisor := do
  tell (.catalog c.normalized)
  return { s with catalog := c.normalized }

/-- Acts on notices of the device, in order. -/
def onNotices : List ChannelNotice → Supervisor → StateM ω Supervisor
  | [], s => pure s
  | .notify message :: rest, s => do
    tell (.notice message)
    onNotices rest s
  | .catalog c :: rest, s => do
    let s ← s.replaceCatalog c
    onNotices rest s

/-- Acts on a text of the device; one that cannot be read is dropped. -/
def onChannelText (text : String) (s : Supervisor) : StateM ω Supervisor :=
  match ChannelNotice.read text with
  | .ok notices => onNotices notices s
  | .error _ => pure s

/-- Acts on a report of the peer of the current session. -/
def onReport (link : RelayLink) (live : LiveSession) (s : Supervisor) :
    PeerEvent → StateM ω Supervisor
  | .localCandidate c => do
    let _ ← link.send (.candidate c)
    return s
  | .connectivity reported => do
    let (change, machine) ← live.machine.onConnectivity (link.send ·) reported
    let s := { s with session := some { live with machine } }
    match change with
    | some t => s.onTransition t
    | none => return s
  | .channelOpen channel => do
    if channel.label ≠ s.config.channelLabel then return s
    attachChannelIfReady { s with session := some { live with channel := some channel } }
  | .channelText text => s.onChannelText text
  | .channelBinary _ => return s
  | .channelClosed label => do
    if label ≠ s.config.channelLabel then return s
    let (reports, transfers) := s.transfers.onChannelClosed
    tellTransfers reports
    return { s with
      session := some { live with channel := none, channelAttached := false }, transfers }
  | .bufferedAmountLow label => do
    if label ≠ s.config.channelLabel then return s
    let (reports, transfers) ← s.transfers.onBufferedAmountLow
    tellTransfers reports
    return { s with transfers }
  | .remoteTrack kind id => do
    tell (.remoteTrack kind id)
    return s

/-- Acts on a report of any peer. -/
def onPeerEvent (link : RelayLink) (e : SessionEvent) (s : Supervisor) : StateM ω Supervisor := do
  match s.session with
  | none => return s
  | some live => if live.id = e.session then onReport link live s e.event else return s

/-! ## Deliveries of the relay -/

/-- Acts on a message. -/
def onMessage (link : RelayLink) (s : Supervisor) : Envelope → StateM ω Supervisor
  | .sessionDescription d => do
    match s.session with
    | none => return s
    | some live =>
      let (_, machine) ← live.machine.onRemoteDescriptor (link.send ·) d
      tellChange live.machine.state machine
      return { s with session := some { live with machine } }
  | .candidate c => do
    match s.session with
    | none => return s
    | some live =>
      let (_, machine) ← live.machine.onRemoteCandidate c
      return { s with session := some { live with machine } }
  | .iceServers servers => return { s with iceServers := servers.toList }
  | .userControl value reset => do
    tell (.deviceControl value reset)
    return { s with catalog := (value.map s.catalog.note).getD s.catalog }
  | .command cmd arg => do
    tell (.remoteCommand cmd arg)
    match cmd with
    | .record => return { s with flags := { s.flags with recording := arg = .start } }
    | .talk => return s
  | .recordRefused _ => do
    tell (.notice recordRefusedNotice)
    return { s with flags := { s.flags with recording := false } }
  | .roster entries => do
    tell (.roster entries)
    return s

/-- Acts on deliveries, in order. -/
def onDeliveries (link : RelayLink) : List Delivery → Supervisor → StateM ω Supervisor
  | [], s => pure s
  | .catalog c :: rest, s => do
    let s ← s.replaceCatalog c
    onDeliveries link rest s
  | .message e :: rest, s => do
    let s ← s.onMessage link e
    onDeliveries link rest s

/-- Acts on a text of the relay. -/
def dispatch (link : RelayLink) (text : String) (s : Supervisor) :
    StateM ω (Routed × Supervisor) := do
  let s ← onDeliveries link (route text).2 s
  return ((route text).1, s)

/-! ## Commands -/

/-- Makes an offer on the current session. -/
def offer (link : RelayLink) (s : Supervisor) : StateM ω Supervisor := do
  match s.session with
  | none => return s
  | some live =>
    let (_, machine) ← live.machine.initiate (link.send ·)
    tellChange live.machine.state machine
    return { s with session := some { live with machine } }

/-- Tells the device to record or not, if that is allowed and changes anything. -/
def record (link : RelayLink) (start : Bool) (s : Supervisor) : StateM ω Supervisor := do
  if !s.config.recording ∨ s.flags.recording = start then return s
  match ← link.send (.start .record start) with
  | .ok () => return { s with flags := { s.flags with recording := start } }
  | .error _ => return s

/-- Stops the microphone. -/
def talkStop (link : RelayLink) (live : LiveSession) (s : Supervisor) : StateM ω Supervisor := do
  if !s.flags.talking then return s
  stopAll live.media
  let _ ← link.send (.start .talk false)
  tell (.localMedia false)
  return { s with
    session := some { live with media := [] }, flags := { s.flags with talking := false } }

/-- The microphone may be started now. -/
def canTalk (live : LiveSession) (s : Supervisor) : Bool :=
  s.config.talkBack && !s.flags.talking && live.machine.state = .connected
    && !live.machine.awaitingAnswer

/-- Offers again with a source that has just been attached; where no offer can be made the
microphone stops at once. -/
def talkOver (link : RelayLink) (source : LocalMedia) (live : LiveSession) (s : Supervisor) :
    StateM ω Supervisor := do
  let _ ← link.send (.start .talk true)
  match ← live.machine.initiate (link.send ·) with
  | (.error _, machine) =>
    stopAll (live.media ++ [source])
    let _ ← link.send (.start .talk false)
    return { s with session := some { live with machine, media := [] } }
  | (.ok (), machine) =>
    tell (.localMedia true)
    return { s with
      session := some { live with machine, media := live.media ++ [source] }
      flags := { s.flags with talking := true } }

/-- Starts the microphone. -/
def talkStart (link : RelayLink) (live : LiveSession) (s : Supervisor) : StateM ω Supervisor := do
  if !s.canTalk live then return s
  match ← acquireMedia with
  | .error _ => return s
  | .ok source =>
    match ← attachMedia live.id source with
    | .error _ =>
      stopMedia source
      return s
    | .ok () => s.talkOver link source live

/-- Starts or stops the microphone in the current session. -/
def talk (link : RelayLink) (start : Bool) (s : Supervisor) : StateM ω Supervisor := do
  match s.session with
  | none => return s
  | some live => if start then s.talkStart link live else s.talkStop link live

/-- Puts a file into the queue; an empty one is refused. -/
def sendClip (name mime : String) (data : Payload) (s : Supervisor) : StateM ω Supervisor := do
  match TransferJob.new name mime data with
  | .error e =>
    tell (.notice e.message)
    return s
  | .ok job =>
    let (reports, transfers) ← s.transfers.enqueue job
    tellTransfers reports
    return { s with transfers }

/-- Sets a control of the device, known by name, to a value that depends on its range. -/
def sendControl (link : RelayLink) (name : String) (value : ControlDescriptor → Int64)
    (s : Supervisor) : StateM ω Unit := do
  match s.catalog.find? name with
  | none => pure ()
  | some d =>
    let _ ← link.send (.setControl d.id (value d))

/-- The value of a control on the device, for a presented one. -/
def deviceValueOf (value : Int64) (d : ControlDescriptor) : Int64 :=
  if d.isToggle then ControlDescriptor.toggleValue (value ≠ 0) else d.deviceValue value

/-- Acts on a command. -/
def onCommand (link : RelayLink) (s : Supervisor) : SessionCommand → StateM ω Supervisor
  | .offer => s.offer link
  | .record start => s.record link start
  | .talk start => s.talk link start
  | .sendClip name mime data => s.sendClip name mime data
  | .setControl name value => do
    s.sendControl link name (deviceValueOf value)
    return s
  | .toggleControl name checked => do
    s.sendControl link name fun _ => ControlDescriptor.toggleValue checked
    return s
  | .resetControls => do
    let _ ← link.send .resetControls
    return s
  | .status => do
    tell (.status (s.status link.state))
    return s
  | .stop => s.shutdown
  | .shutdown => s.shutdown

end Supervisor

end CameraViewer.Session
