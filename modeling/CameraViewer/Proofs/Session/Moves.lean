import CameraViewer.Proofs.Negotiation.Runs
import CameraViewer.Proofs.Transfer.Runs
import CameraViewer.Session.Supervisor

/-!
# Proofs/Session/Moves — what a supervisor can do

A `Move` is one thing a supervisor can do, with all it asks of the world. Whatever the world
answers, every operation is a sequence of moves: that is what `Proofs/Session/Operations` shows.
What holds after every move holds after every operation.
-/

namespace CameraViewer.Session

open Config Control Link Negotiation Peer Signal Transfer World

/-! ## What goes out -/

/-- Sending a message over a link: what it adds to the record, and its result. -/
inductive Sends (link : RelayLink) (e : Envelope) : List Entry → Except LinkError Unit → Prop
  | written {socket : ℕ} (hopen : link.state = .opened) (hsocket : link.socket = some socket)
    (reached : Bool) :
    Sends link e [.asked (.write socket e.text) reached]
      (if reached then .ok () else .error .channelClosed)
  | unsent (hclosed : ∀ socket, link.state = .opened → link.socket ≠ some socket) :
    Sends link e [] (.error .notConnected)

/-- What a negotiation hands to a link. -/
def Writes (link : RelayLink) (e : Envelope) (es : List Entry) : Prop := ∃ r, Sends link e es r

/-- What showing an event adds to the record. -/
def shown (e : ViewerEvent) : Entry := .asked (.tell e) ()

/-- What telling about files adds to the record. -/
def shownTransfers (reports : List TransferProgress) : List Entry :=
  reports.map fun p => shown (.transfer p)

/-- What stopping media adds to the record. -/
def stops (media : List LocalMedia) : List Entry := media.map fun m => .asked (.stopMedia m) ()

/-- What telling about a changed state adds to the record. -/
def shownChange (before : Connectivity) (m : Machine) : List Entry :=
  if m.state = before then [] else [shown (.connectivity m.session m.state)]

/-- Events that say nothing of the state of session, media, files and controls. -/
def ViewerEvent.IsPlain : ViewerEvent → Prop
  | .link _ | .connectivity _ _ | .localMedia _ | .transfer _ | .catalog _ => False
  | _ => True

/-- Messages to the device, which are not part of a negotiation. -/
def IsPlainMessage : Envelope → Prop
  | .userControl _ _ | .command _ _ => True
  | _ => False

namespace Supervisor

/-- What closing the channel of a session adds to the record. -/
def closes (live : LiveSession) : List Entry :=
  live.channel.toList.map fun c => .asked (.channel c .close) ()

/-- What is asked to end all publishing of a session. -/
def releases (live : LiveSession) (released : Except PeerError ℕ) : List Entry :=
  stops live.media ++ [Machine.told live.id .releaseOutbound released]

/-- What the viewer is told when the media of a session ended with it. -/
def shownSilence (live : LiveSession) (s : Supervisor) : List Entry :=
  if !live.media.isEmpty || s.flags.talking then [shown (.localMedia false)] else []

/-- The end of a session. -/
inductive TearsDown (s : Supervisor) (live : LiveSession) : List Entry → Supervisor → Prop
  | intro {es : List Entry} {change : Option Transition} {m : Machine}
    (released : Except PeerError ℕ) (hstop : Machine.Stops live.machine es change m) :
    TearsDown s live
      (releases live released ++ (closes live ++ (shownTransfers s.transfers.onChannelClosed.1
        ++ (es ++ (shownChange live.machine.state m ++ shownSilence live s)))))
      { s with
        session := none
        transfers := s.transfers.onChannelClosed.2
        flags := { s.flags with talking := false } }

/-- The calls that continue a negotiation. -/
def Continues : Machine.Call → Prop
  | .descriptor _ | .candidate _ | .initiate => True
  | _ => False

/-- What the occasion of a move entitles a supervisor to. -/
structure Grant where
  /-- Acting on what the peer of a session reports. -/
  report : ℕ → PeerEvent → Prop
  /-- Taking a file. -/
  clip : Prop
  /-- Starting a new session. -/
  session : Prop
  /-- Taking over new controls. -/
  catalog : Prop

/-- No grant at all. -/
def Grant.none : Grant := ⟨fun _ _ => False, False, False, False⟩

/-- Reports that may find a channel open in a session that is connected. -/
def Grant.attach (P : Grant) (session : ℕ) : Prop :=
  P.report session (.connectivity .connected) ∨ ∃ c, P.report session (.channelOpen c)

/-- Occasions on which the transfer queue may use its channel. -/
def Grant.Serves (P : Grant) : Prop :=
  P.clip ∨ (∃ session label, P.report session (.bufferedAmountLow label))
    ∨ ∃ session, P.attach session

/-- One thing a supervisor with the grant `P` can do: what it asks, and the supervisor after it. -/
inductive Move (P : Grant) (l : RelayLink) (s : Supervisor) : List Entry → Supervisor → Prop
  /-- It shows something. -/
  | tell {e : ViewerEvent} (he : e.IsPlain) : Move P l s [shown e] s
  /-- It sends something. -/
  | send {e : Envelope} {es : List Entry} {r : Except LinkError Unit} (he : IsPlainMessage e)
    (h : Sends l e es r) : Move P l s es s
  /-- There are new servers. -/
  | servers (servers : List IceServer) : Move P l s [] { s with iceServers := servers }
  /-- There are new controls. -/
  | catalog (hcatalog : P.catalog) (c : Catalog) :
    Move P l s [shown (.catalog c.normalized)] { s with catalog := c.normalized }
  /-- A control was set. -/
  | control (v : ControlValue) : Move P l s [] { s with catalog := s.catalog.note v }
  /-- The device records or not. -/
  | recording (recording : Bool) : Move P l s [] { s with flags := { s.flags with recording } }
  /-- A file comes to the queue. -/
  | enqueue {job : TransferJob} {es : List Entry} {rs : List TransferProgress} {q : TransferQueue}
    (hclip : P.clip) (hjob : TransferQueue.Call.Admissible s.transfers (.enqueue job))
    (h : s.transfers.Ran (.enqueue job) es rs q) :
    Move P l s (es ++ shownTransfers rs) { s with transfers := q }
  /-- The channel has drained. -/
  | drained {live : LiveSession} {es : List Entry} {rs : List TransferProgress} {q : TransferQueue}
    (hs : s.session = some live)
    (hown : P.report live.id (.bufferedAmountLow s.config.channelLabel))
    (h : s.transfers.Ran .bufferedAmountLow es rs q) :
    Move P l s (es ++ shownTransfers rs) { s with transfers := q }
  /-- The negotiation goes on. -/
  | negotiate {live : LiveSession} {c : Machine.Call} {es : List Entry} {r : Machine.Outcome}
    {m : Machine} (hs : s.session = some live) (hcall : Continues c)
    (h : Machine.Performs (Writes l) live.machine c es r m) :
    Move P l s (es ++ shownChange live.machine.state m)
      { s with session := some { live with machine := m } }
  /-- The peer reports; the session stays or comes to a state in which media may go on. -/
  | report {live : LiveSession} {reported : Connectivity} {es : List Entry}
    {change : Option Transition} {m : Machine} (hs : s.session = some live)
    (h : Machine.Reports (Writes l) live.machine reported es change m)
    (hstate : m.state = live.machine.state
      ∨ m.state ≠ .disconnected ∧ m.state ≠ .failed ∧ m.state ≠ .closed) :
    Move P l s (es ++ shownChange live.machine.state m)
      { s with session := some { live with machine := m } }
  /-- The connection is lost, and the media of this side ends. -/
  | degrade {live : LiveSession} {reported : Connectivity} {es : List Entry}
    {change : Option Transition} {m : Machine} (hs : s.session = some live)
    (h : Machine.Reports (Writes l) live.machine reported es change m)
    (hchange : m.state ≠ live.machine.state) (hstate : m.state = .disconnected ∨ m.state = .failed)
    (released : Except PeerError ℕ) :
    Move P l s
      (es ++ (shownChange live.machine.state m
        ++ (releases { live with machine := m } released ++ [shown (.localMedia false)])))
      { s with
        session := some { live with machine := m, media := [] }
        flags := { s.flags with talking := false } }
  /-- The peer reports that it is closed, and the session ends. -/
  | collapse {live : LiveSession} {reported : Connectivity} {es fs : List Entry}
    {change : Option Transition} {m : Machine} {s' : Supervisor} (hs : s.session = some live)
    (h : Machine.Reports (Writes l) live.machine reported es change m)
    (hchange : m.state ≠ live.machine.state) (hstate : m.state = .closed)
    (hend : TearsDown { s with session := some { live with machine := m } }
      { live with machine := m }
      fs s') :
    Move P l s (es ++ (shownChange live.machine.state m ++ fs)) s'
  /-- A candidate of this side is sent. -/
  | candidate {live : LiveSession} {c : Candidate} {es : List Entry} {r : Except LinkError Unit}
    (hs : s.session = some live) (hown : P.report live.id (.localCandidate c))
    (h : Sends l (.candidate c) es r) : Move P l s es s
  /-- The channel of the session opened. -/
  | channel {live : LiveSession} {c : ChannelHandle} (hs : s.session = some live)
    (hown : P.report live.id (.channelOpen c)) (hlabel : c.label = s.config.channelLabel) :
    Move P l s [] { s with session := some { live with channel := some c } }
  /-- The channel is handed to the transfer queue. -/
  | attach {live : LiveSession} {c : ChannelHandle} {es : List Entry} {rs : List TransferProgress}
    {q : TransferQueue} (hs : s.session = some live) (hown : P.attach live.id)
    (hnew : live.channelAttached = false)
    (hstate : live.machine.state = .connected) (hc : live.channel = some c)
    (h : s.transfers.Ran (.attach c (s.maxMessageOf live.machine)) es rs q) :
    Move P l s (es ++ shownTransfers rs)
      { s with session := some { live with channelAttached := true }, transfers := q }
  /-- The channel is gone. -/
  | detach {live : LiveSession} (hs : s.session = some live)
    (hown : P.report live.id (.channelClosed s.config.channelLabel)) :
    Move P l s (shownTransfers s.transfers.onChannelClosed.1)
      { s with
        session := some { live with channel := none, channelAttached := false }
        transfers := s.transfers.onChannelClosed.2 }
  /-- There is no microphone. -/
  | talkDenied {live : LiveSession} (hs : s.session = some live) (htalk : s.canTalk live = true)
    (e : PeerError) : Move P l s [.asked .acquireMedia (.error e)] s
  /-- The peer does not take the microphone. -/
  | talkRefused {live : LiveSession} (hs : s.session = some live) (htalk : s.canTalk live = true)
    (source : LocalMedia) (e : PeerError) :
    Move P l s
      [.asked .acquireMedia (.ok source), Machine.told live.id (.attachMedia source) (.error e),
        .asked (.stopMedia source) ()] s
  /-- The microphone cannot be offered. -/
  | talkFailed {live : LiveSession} {es fs gs : List Entry} {e : PeerError}
    {r r' : Except LinkError Unit} {m : Machine} (hs : s.session = some live)
    (htalk : s.canTalk live = true) (source : LocalMedia)
    (hstart : Sends l (.start .talk true) es r)
    (hoffer : Machine.Offers (Writes l) false live.machine fs (.error e) m)
    (hstop : Sends l (.start .talk false) gs r') :
    Move P l s
      (.asked .acquireMedia (.ok source) :: Machine.told live.id (.attachMedia source) (.ok ())
        :: (es ++ (fs ++ (stops (live.media ++ [source]) ++ gs))))
      { s with session := some { live with machine := m, media := [] } }
  /-- The microphone is live. -/
  | talkStarted {live : LiveSession} {es fs : List Entry} {r : Except LinkError Unit} {m : Machine}
    (hs : s.session = some live) (htalk : s.canTalk live = true) (source : LocalMedia)
    (hstart : Sends l (.start .talk true) es r)
    (hoffer : Machine.Offers (Writes l) false live.machine fs (.ok ()) m) :
    Move P l s
      (.asked .acquireMedia (.ok source) :: Machine.told live.id (.attachMedia source) (.ok ())
        :: (es ++ (fs ++ [shown (.localMedia true)])))
      { s with
        session := some { live with machine := m, media := live.media ++ [source] }
        flags := { s.flags with talking := true } }
  /-- The microphone is stopped. -/
  | talkStopped {live : LiveSession} {es : List Entry} {r : Except LinkError Unit}
    (hs : s.session = some live) (htalk : s.flags.talking = true)
    (hstop : Sends l (.start .talk false) es r) :
    Move P l s (stops live.media ++ (es ++ [shown (.localMedia false)]))
      { s with
        session := some { live with media := [] }
        flags := { s.flags with talking := false } }
  /-- The session ends. -/
  | teardown {live : LiveSession} {es : List Entry} {s' : Supervisor} (hs : s.session = some live)
    (h : TearsDown s live es s') : Move P l s es s'
  /-- Without a session the flags are cleared. -/
  | clear (hs : s.session = none) : Move P l s [] { s with flags := {} }
  /-- A session does not come about. -/
  | refused (hs : s.session = none) (hnew : P.session) (e : PeerError) :
    Move P l s [.asked (.createPeer s.nextSetup) (.error e)]
      { s with lastSession := s.lastSession + 1 }
  /-- A session starts. -/
  | created (hs : s.session = none) (hnew : P.session) :
    Move P l s
      [.asked (.createPeer s.nextSetup) (.ok ()), shown (.connectivity (s.lastSession + 1) .new)]
      { s with
        lastSession := s.lastSession + 1
        session := some { machine := { session := s.lastSession + 1, role := s.config.role } } }

/-- What becomes of a channel that may have to wait for its session to be connected, or for its
opening.
-/
inductive Attaches (s : Supervisor) : List Entry → Supervisor → Prop
  /-- It waits, or was handed over before. -/
  | waits : Attaches s [] s
  /-- It is handed to the transfer queue. -/
  | handed {live : LiveSession} {c : ChannelHandle} {es : List Entry} {rs : List TransferProgress}
    {q : TransferQueue} (hs : s.session = some live) (hnew : live.channelAttached = false)
    (hstate : live.machine.state = .connected) (hc : live.channel = some c)
    (h : s.transfers.Ran (.attach c (s.maxMessageOf live.machine)) es rs q) :
    Attaches s (es ++ shownTransfers rs)
      { s with session := some { live with channelAttached := true }, transfers := q }

/-- A catalog replaces the one before, and the viewer sees it. -/
inductive Adopts (s : Supervisor) : Option Catalog → List Entry → Supervisor → Prop
  | kept : Adopts s none [] s
  | replaced (c : Catalog) :
    Adopts s (some c) [shown (.catalog c.normalized)] { s with catalog := c.normalized }

/-- What the handlers of messages do, one for each kind; the first two need a session. -/
inductive Handles (link : RelayLink) (s : Supervisor) : Envelope → List Entry → Supervisor → Prop
  | descriptor {live : LiveSession} {d : SessionDescriptor} {es : List Entry}
    {r : Except PeerError DescriptorOutcome} {m : Machine} (hs : s.session = some live)
    (h : Machine.TakesDescriptor (Writes link) live.machine d es r m) :
    Handles link s (.sessionDescription d) (es ++ shownChange live.machine.state m)
      { s with session := some { live with machine := m } }
  | candidate {live : LiveSession} {c : Candidate} {es : List Entry}
    {r : Except PeerError CandidateOutcome} {m : Machine} (hs : s.session = some live)
    (h : Machine.TakesCandidate live.machine c es r m) :
    Handles link s (.candidate c) es { s with session := some { live with machine := m } }
  | noDescriptor (d : SessionDescriptor) (hs : s.session = none) :
    Handles link s (.sessionDescription d) [] s
  | noCandidate (c : Candidate) (hs : s.session = none) : Handles link s (.candidate c) [] s
  | iceServers (servers : IceServerList) :
    Handles link s (.iceServers servers) [] { s with iceServers := servers.toList }
  | userControl (value : Option ControlValue) (reset : Bool) :
    Handles link s (.userControl value reset) [shown (.deviceControl value reset)]
      { s with catalog := (value.map s.catalog.note).getD s.catalog }
  | recording (arg : CommandArg) :
    Handles link s (.command .record arg) [shown (.remoteCommand .record arg)]
      { s with flags := { s.flags with recording := arg = .start } }
  | talking (arg : CommandArg) :
    Handles link s (.command .talk arg) [shown (.remoteCommand .talk arg)] s
  | recordRefused (data : Json.Value) :
    Handles link s (.recordRefused data) [shown (.notice recordRefusedNotice)]
      { s with flags := { s.flags with recording := false } }
  | roster (entries : List RosterEntry) :
    Handles link s (.roster entries) [shown (.roster entries)] s

/-- Moves one after the other. -/
inductive Moves (P : Grant) (link : RelayLink) : Supervisor → List Entry → Supervisor → Prop
  | refl (s : Supervisor) : Moves P link s [] s
  | step {s s' s'' : Supervisor} {es es' : List Entry} (first : Move P link s es s')
    (rest : Moves P link s' es' s'') : Moves P link s (es ++ es') s''

/-- What an opening of the link does: the old session ends, whatever the link is like, then a new
one is asked for, and that may make its first offer. -/
def Opens (link : RelayLink) (s : Supervisor) (es : List Entry) (s' : Supervisor) : Prop :=
  ∃ ended asked begun between next, es = ended ++ (asked ++ begun)
    ∧ (∀ P l, Moves P l s ended between) ∧ between.session = none
    ∧ (∀ P : Grant, P.session → Move P link between asked next) ∧ ∀ P, Moves P link next begun s'

section
variable {P : Grant} {link : RelayLink} {s s' s'' : Supervisor}
  {es es' : List Entry}

/-! ## Sequences of moves -/

theorem Move.moves (h : Move P link s es s') : Moves P link s es s' := by
  have hone := Moves.step h (.refl s')
  rwa [List.append_nil] at hone

theorem Moves.trans (h : Moves P link s es s') (h' : Moves P link s' es' s'') :
    Moves P link s (es ++ es') s'' := by
  induction h with
  | refl => exact h'
  | step first _ ih =>
    rw [List.append_assoc]
    exact .step first (ih h')

/-- An opening is a sequence of moves, if the occasion may start a session. -/
theorem Opens.moves (h : Opens link s es s') (hnew : P.session) : Moves P link s es s' := by
  obtain ⟨ended, asked, begun, between, next, rfl, hended, -, hasked, hbegun⟩ := h
  exact (hended P link).trans (.step (hasked P hnew) (hbegun P))

/-- So is an attachment to a channel, in a session that the occasion is about. -/
theorem Attaches.moves {live : LiveSession} (h : Attaches s es s') (hs : s.session = some live)
    (hown : P.attach live.id) : Moves P link s es s' := by
  cases h with
  | waits => exact .refl s
  | handed hs' hnew hstate hc h =>
    obtain rfl := Option.some.inj (hs.symm.trans hs')
    exact (Move.attach hs hown hnew hstate hc h).moves

/-- A catalog is adopted in one move, on an occasion that brings one. -/
theorem Adopts.moves {c : Option Catalog} (h : Adopts s c es s') (hcatalog : P.catalog) :
    Moves P link s es s' := by
  cases h with
  | kept => exact .refl s
  | replaced c => exact (Move.catalog hcatalog c).moves

/-- Every handler makes one of the moves, or none. -/
theorem Handles.moves {e : Envelope} (h : Handles link s e es s') : Moves P link s es s' := by
  cases h with
  | @descriptor live d es r m hs h =>
    exact (Move.negotiate (c := .descriptor d) hs trivial (.descriptor h)).moves
  | @candidate live c es r m hs h =>
    have hmove :=
      (Move.negotiate (P := P) (l := link) (c := .candidate c) hs trivial (.candidate h)).moves
    rwa [shownChange, if_pos h.state_eq, List.append_nil] at hmove
  | noDescriptor | noCandidate => exact .refl s
  | iceServers servers => exact (Move.servers servers.toList).moves
  | userControl value reset =>
    have htell :=
      (Move.tell (P := P) (l := link) (s := s) (e := .deviceControl value reset) trivial).moves
    cases value with
    | none => exact htell
    | some v => exact htell.trans (Move.control v).moves
  | recording arg =>
    have htell := Move.tell (P := P) (l := link) (s := s) (e := .remoteCommand .record arg) trivial
    exact htell.moves.trans (Move.recording _).moves
  | talking arg => exact (Move.tell (e := .remoteCommand .talk arg) trivial).moves
  | recordRefused data =>
    have htell := Move.tell (P := P) (l := link) (s := s) (e := .notice recordRefusedNotice) trivial
    exact htell.moves.trans (Move.recording false).moves
  | roster entries => exact (Move.tell (e := .roster entries) trivial).moves

/-! ## Between two operations

What every move keeps: the setup, and that the queue has a channel only from the session. -/

theorem TearsDown.config_eq {live : LiveSession} (h : TearsDown s live es s') :
    s'.config = s.config := by
  cases h
  rfl

/-- The setup is never touched. -/
theorem Move.config_eq (h : Move P link s es s') : s'.config = s.config := by
  cases h with
  | collapse _ _ _ _ h | teardown _ h => exact h.config_eq
  | _ => rfl

/-- A supervisor between two operations: the queue is settled, and has a channel only if the session
handed it one. -/
structure Ready (s : Supervisor) : Prop where
  settled : s.transfers.Settled
  detached : (∀ live ∈ s.session, live.channelAttached = false) → s.transfers.channel = none

/-- The end of a session takes the channel back from the queue. -/
theorem TearsDown.ready {live : LiveSession} (h : TearsDown s live es s') (hr : s.Ready) :
    s'.Ready := by
  cases h
  exact ⟨hr.settled.opening (c := .channelClosed) trivial .closed, fun _ => rfl⟩

/-- The queue is not touched, and no channel is taken back from it. -/
theorem Ready.congr (hr : s.Ready) (htransfers : s'.transfers = s.transfers)
    (hattached : (∀ live ∈ s'.session, live.channelAttached = false) →
      ∀ live ∈ s.session, live.channelAttached = false) : s'.Ready :=
  ⟨htransfers ▸ hr.settled, fun h => htransfers ▸ hr.detached (hattached h)⟩

/-- A session that changes keeps what it handed over. -/
theorem attached_congr {live live' : LiveSession} (hs : s.session = some live)
    (hs' : s'.session = some live') (h : live'.channelAttached = live.channelAttached) :
    (∀ live ∈ s'.session, live.channelAttached = false) →
      ∀ live ∈ s.session, live.channelAttached = false := by
  rw [hs, hs']
  rintro hall _ ⟨⟩
  exact h ▸ hall live' rfl

/-- **Every move keeps a supervisor ready.** -/
theorem Ready.move (hr : s.Ready) (h : Move P link s es s') : s'.Ready := by
  cases h with
  | tell | send | servers | catalog | control | recording | candidate | clear | talkDenied
  | talkRefused => exact ⟨hr.settled, hr.detached⟩
  | enqueue _ hjob h =>
    refine ⟨hr.settled.ran hjob.made h, fun hall => ?_⟩
    exact (h.channel_eq (by simp) (by simp)).trans (hr.detached hall)
  | drained _ _ h =>
    refine ⟨hr.settled.ran (c := .bufferedAmountLow) trivial h, fun hall => ?_⟩
    exact (h.channel_eq (by simp) (by simp)).trans (hr.detached hall)
  | negotiate hs | report hs | degrade hs | channel hs | talkFailed hs | talkStarted hs
  | talkStopped hs => exact hr.congr rfl (attached_congr hs rfl rfl)
  | collapse hs _ _ _ hend =>
    refine hend.ready (hr.congr rfl (attached_congr hs rfl rfl))
  | attach _ _ _ _ _ h =>
    refine ⟨hr.settled.ran (c := .attach _ _) trivial h, fun hnone => ?_⟩
    exact absurd (hnone _ rfl) (by simp)
  | detach => exact ⟨hr.settled.opening (c := .channelClosed) trivial .closed, fun _ => rfl⟩
  | teardown _ h => exact h.ready hr
  | refused hs => exact ⟨hr.settled, hr.detached⟩
  | created hs =>
    refine hr.congr rfl fun _ => ?_
    rw [hs]
    exact fun _ h => nomatch h

/-- Hence every operation leaves the supervisor ready for the next one. -/
theorem Ready.moves (hr : s.Ready) (h : Moves P link s es s') : s'.Ready := by
  induction h with
  | refl => exact hr
  | step first _ ih => exact ih (hr.move first)

theorem ready_new (config : ClientConfig) : (new config).Ready :=
  ⟨TransferQueue.settled_new _, fun _ => rfl⟩

end

end Supervisor

end CameraViewer.Session
