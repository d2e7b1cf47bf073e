import CameraViewer.Proofs.Session.Peers

/-!
# Proofs/Session/Endings — what ends a session, and what that leaves of the files

`SessionChange` lists what can become of the session with a call (`sessionChange_of_may`). A call
either keeps it (`Stays`) or ends it, and then gives up the file on its way (`GivesUpActive`): the
viewer is told that the file on its way is given up, and nothing else becomes of the queue
(`SessionChange.stays_or_givesUpActive`).

That a session stays does not need the record: `Returns` forgets what was asked on the way.
-/

namespace CameraViewer.Session

open Channel Config Control Link Negotiation Peer Signal Transfer World

/-! ## What the viewer is told of files -/

/-- The report on a file, where the viewer is told one. -/
def update? : Entry → Option TransferProgress
  | .asked (.tell (.transfer p)) _ => some p
  | _ => none

/-- All that the viewer is told of files. -/
def updatesIn (record : List Entry) : List TransferProgress := record.filterMap update?

@[simp] theorem updatesIn_nil : updatesIn [] = [] := rfl

theorem updatesIn_cons {e : Entry} (he : update? e = none) (es : List Entry) :
    updatesIn (e :: es) = updatesIn es :=
  List.filterMap_cons_none he

@[simp] theorem updatesIn_append (es fs : List Entry) :
    updatesIn (es ++ fs) = updatesIn es ++ updatesIn fs :=
  List.filterMap_append

@[simp] theorem updatesIn_shownTransfers (reports : List TransferProgress) :
    updatesIn (shownTransfers reports) = reports := by
  rw [updatesIn, shownTransfers, List.filterMap_map]
  exact List.filterMap_some

theorem updatesIn_eq_nil {es : List Entry} (h : ∀ e ∈ es, update? e = none) : updatesIn es = [] :=
  List.filterMap_eq_nil_iff.mpr h

@[simp] theorem updatesIn_stops (media : List LocalMedia) : updatesIn (stops media) = [] :=
  updatesIn_eq_nil (by simp [stops, update?])

@[simp] theorem updatesIn_shownChange (before : Connectivity) (m : Machine) :
    updatesIn (shownChange before m) = [] := by
  rw [shownChange]
  split <;> rfl

/-- Nothing is told of files behind the scenes. -/
theorem updatesIn_backstage {es : List Entry} (h : ∀ e ∈ es, IsBackstage e) : updatesIn es = [] :=
  updatesIn_eq_nil fun e he => by cases h e he <;> rfl

/-- A negotiation says nothing of files. -/
theorem updatesIn_negotiation (link : RelayLink) {session : ℕ} {es record : List Entry}
    (h : ∀ e ∈ es, Machine.Made (Writes link) session record e) : updatesIn es = [] :=
  updatesIn_backstage (backstage_negotiation h)

namespace Supervisor

@[simp] theorem updatesIn_releases (live : LiveSession) (released : Except PeerError ℕ) :
    updatesIn (releases live released) = [] := by
  rw [releases, updatesIn_append, updatesIn_stops]
  rfl

@[simp] theorem updatesIn_closes (live : LiveSession) : updatesIn (closes live) = [] :=
  updatesIn_backstage (backstage_closes live)

@[simp] theorem updatesIn_shownSilence (live : LiveSession) (s : Supervisor) :
    updatesIn (shownSilence live s) = [] := by
  rw [shownSilence]
  split <;> rfl

/-! ## Sessions that go on, and files that are given up

The queue outlives the session: at the end of one the file on its way fails, and all that wait go on
waiting for the next. -/

/-- The session goes on, and no file is given to the queue. -/
structure Stays (s s' : Supervisor) : Prop where
  session : s.session.isSome → s'.session.isSome
  nextId : s'.transfers.nextId = s.transfers.nextId

/-- The file on its way is given up, and nothing else becomes of the queue. -/
structure GivesUpActive (s : Supervisor) (es : List Entry) (s' : Supervisor) : Prop where
  updates : updatesIn es = s.transfers.onChannelClosed.1
  transfers : s'.transfers = s.transfers.onChannelClosed.2

section
variable {s s' : Supervisor} {live : LiveSession} {es fs : List Entry}

theorem Stays.refl (s : Supervisor) : Stays s s := ⟨id, rfl⟩

theorem Stays.trans {s'' : Supervisor} (h : Stays s s') (h' : Stays s' s'') : Stays s s'' :=
  ⟨fun hs => h'.session (h.session hs), h'.nextId.trans h.nextId⟩

/-- The session is another one, and the queue the same. -/
theorem stays_of_eq (hsession : s'.session.isSome) (h : s'.transfers = s.transfers) : Stays s s' :=
  ⟨fun _ => hsession, congrArg TransferQueue.nextId h⟩

/-- A call that keeps the session keeps its number. -/
theorem Stays.sessionId_eq {P : Grant} {link : RelayLink} {n : ℕ} (h : Stays s s')
    (ha : s.LatestOngoing) (hm : Moves P link s es s') (hnew : ¬P.session)
    (hs : s.sessionId = some n) :
    s'.sessionId = some n := by
  obtain ⟨live, hlive, -⟩ := Option.map_eq_some_iff.mp hs
  obtain ⟨live', hlive'⟩ := Option.isSome_iff_exists.mp (h.session (by simp [hlive]))
  have hid := sessionId_of_eq_some hlive'
  rw [hid, ← hm.sessionId_of ha hnew hid, hs]

/-- **The end of a session gives up the file on its way**, and no other. -/
theorem TearsDown.givesUpActive (h : TearsDown s live es s') : GivesUpActive s es s' := by
  cases h with
  | intro released hstop =>
    have hnone := updatesIn_negotiation default hstop.entries
    exact ⟨by simp [hnone], rfl⟩

/-- A call of the queue that gives it no job. -/
theorem nextId_eq_of_ran {q q' : TransferQueue} {c : TransferQueue.Call} {es : List Entry}
    {rs : List TransferProgress} (h : q.Ran c es rs q') (hc : ∀ job, c ≠ .enqueue job) :
    q'.nextId = q.nextId := by
  obtain ⟨_, _, q₁, _, _, ho, hm, -, -⟩ := h
  have hopen : q₁.nextId = q.nextId := by
    cases ho with
    | enqueue job => exact absurd rfl (hc job)
    | attach | wake | sleep | idle | closed => rfl
  clear ho
  induction hm with
  | refl => exact hopen
  | step first _ ih =>
    refine ih ?_
    cases first <;> exact hopen

/-- A catalog says nothing of the session or its files. -/
theorem Adopts.stays {c : Option Catalog} (h : Adopts s c es s') : Stays s s' := by
  cases h with
  | kept => exact .refl s
  | replaced c => exact ⟨id, rfl⟩

theorem Handles.stays {link : RelayLink} {e : Envelope} (h : Handles link s e es s') :
    Stays s s' := by
  cases h with
  | descriptor | candidate => exact stays_of_eq rfl rfl
  | noDescriptor | noCandidate | talking | roster => exact .refl s
  | iceServers | userControl | recording | recordRefused => exact ⟨id, rfl⟩

/-! ## Operations that keep the session

Each is a sequence of moves, but moves do not say that a session goes on; it is read off the
operations themselves. -/

variable {ω : Type} [World ω]

/-- A catalog that is replaced leaves the session as it is. -/
theorem stays_replaceCatalog (c : Catalog) (s : Supervisor) :
    Returns (σ := Recorded ω) (s.replaceCatalog c) (Stays s) :=
  (yields_replaceCatalog c s).returns fun _ _ h => h.stays

theorem stays_onNotices (notices : List ChannelNotice) (s : Supervisor) :
    Returns (σ := Recorded ω) (onNotices notices s) (Stays s) := by
  induction notices generalizing s with
  | nil => exact returns_pure (.refl s)
  | cons notice rest ih =>
    cases notice with
    | notify message =>
      rw [onNotices]
      exact returns_bind fun _ => ih s
    | catalog c =>
      rw [onNotices]
      exact (stays_replaceCatalog c s).bind fun s₁ h t => h.trans (ih s₁ t)

theorem stays_onChannelText (text : String) (s : Supervisor) :
    Returns (σ := Recorded ω) (s.onChannelText text) (Stays s) := by
  rw [onChannelText]
  split
  · exact stays_onNotices _ s
  · exact returns_pure (.refl s)

theorem stays_onMessage (link : RelayLink) (s : Supervisor) (e : Envelope) :
    Returns (σ := Recorded ω) (s.onMessage link e) (Stays s) :=
  (yields_onMessage link s e).returns fun _ _ h => h.stays

theorem stays_onDeliveries (link : RelayLink) (deliveries : List Delivery) (s : Supervisor) :
    Returns (σ := Recorded ω) (onDeliveries link deliveries s) (Stays s) := by
  induction deliveries generalizing s with
  | nil => exact returns_pure (.refl s)
  | cons delivery rest ih =>
    cases delivery with
    | catalog c =>
      rw [onDeliveries]
      exact (stays_replaceCatalog c s).bind fun s₁ h t => h.trans (ih s₁ t)
    | message e =>
      rw [onDeliveries]
      exact (stays_onMessage link s e).bind fun s₁ h t => h.trans (ih s₁ t)

/-- A session that is handed its channel is still the same one. -/
theorem Attaches.stays (h : Attaches s es s') : Stays s s' := by
  cases h with
  | waits => exact .refl s
  | handed _ _ _ _ h => exact ⟨fun _ => rfl, nextId_eq_of_ran h nofun⟩

theorem stays_attachChannelIfReady {s : Supervisor} (hr : s.Ready) :
    Returns (σ := Recorded ω) s.attachChannelIfReady (Stays s) :=
  (yields_attachChannelIfReady hr).returns fun _ _ h => h.stays

theorem stays_releaseMedia (s : Supervisor) : Returns (σ := ω) s.releaseMedia (Stays s) := by
  rw [releaseMedia]
  split
  · exact returns_pure (.refl s)
  · repeat refine returns_bind fun _ => ?_
    exact returns_pure (stays_of_eq rfl rfl)

/-- A change of the current session that does not close it. -/
theorem stays_onTransition {t : Transition} (ht : t.target ≠ .closed) {s : Supervisor}
    (hr : s.Ready) :
    Returns (σ := Recorded ω) (s.onTransition t) (Stays s) := by
  rw [onTransition]
  split
  · exact returns_pure (.refl s)
  refine returns_bind fun _ => ?_
  cases htarget : t.target with
  | connected => exact stays_attachChannelIfReady hr
  | disconnected | failed => exact stays_releaseMedia s
  | closed => exact absurd htarget ht
  | new | connecting => exact returns_pure (.refl s)

/-- A report of the peer, if it is not on the connection. -/
theorem stays_onReport (link : RelayLink) {s : Supervisor} (hr : s.Ready) {live : LiveSession}
    (hs : s.session = some live) {e : PeerEvent} (he : ∀ state, e ≠ .connectivity state) :
    Returns (σ := Recorded ω) (s.onReport link live e) (Stays s) := by
  cases e with
  | localCandidate | remoteTrack =>
    rw [onReport]
    exact returns_bind fun _ => returns_pure (.refl s)
  | connectivity state => exact absurd rfl (he state)
  | channelOpen c =>
    rw [onReport]
    split
    · exact returns_pure (.refl s)
    · have hopen : Ready { s with session := some { live with channel := some c } } :=
        hr.congr rfl (attached_congr hs rfl rfl)
      have hstays : Stays s { s with session := some { live with channel := some c } } :=
        stays_of_eq rfl rfl
      exact fun t => hstays.trans (stays_attachChannelIfReady hopen t)
  | channelText text => exact stays_onChannelText text s
  | channelBinary => exact returns_pure (.refl s)
  | channelClosed label =>
    rw [onReport]
    split
    · exact returns_pure (.refl s)
    · exact returns_bind fun _ => returns_pure ⟨fun _ => rfl, rfl⟩
  | bufferedAmountLow label =>
    rw [onReport]
    split
    · exact returns_pure (.refl s)
    · refine Returns.bind ?_ fun r h => returns_bind fun _ => returns_pure ⟨id, h⟩
      exact (TransferQueue.yields_run (c := .bufferedAmountLow) hr.settled trivial).returns
        fun es r h => nextId_eq_of_ran h (by rintro _ ⟨⟩)

/-- A report of any peer that is not on its connection. -/
theorem stays_onPeerEvent (link : RelayLink) {s : Supervisor} (hr : s.Ready) {e : SessionEvent}
    (he : ∀ state, e.event ≠ .connectivity state) :
    Returns (σ := Recorded ω) (s.onPeerEvent link e) (Stays s) := by
  rw [onPeerEvent]
  split
  · exact returns_pure (.refl s)
  · rename_i live hs
    split
    · exact stays_onReport link hr hs he
    · exact returns_pure (.refl s)

/-- Talking begins and ends within a session. -/
theorem stays_talk (link : RelayLink) (start : Bool) (s : Supervisor) :
    Returns (σ := ω) (s.talk link start) (Stays s) := by
  rw [talk]
  split
  · exact returns_pure (.refl s)
  rename_i live hs
  split
  · rw [talkStart]
    split
    · exact returns_pure (.refl s)
    refine returns_bind fun acquired => ?_
    split
    · exact returns_pure (.refl s)
    refine returns_bind fun attached => ?_
    split
    · exact returns_bind fun _ => returns_pure (.refl s)
    rw [talkOver]
    refine returns_bind fun _ => returns_bind fun r => ?_
    split
    · exact returns_bind fun _ => returns_bind fun _ => returns_pure (stays_of_eq rfl rfl)
    · exact returns_bind fun _ => returns_pure (stays_of_eq rfl rfl)
  · rw [talkStop]
    split
    · exact returns_pure (.refl s)
    · repeat refine returns_bind fun _ => ?_
      exact returns_pure (stays_of_eq rfl rfl)

/-- A command that ends nothing and gives no file. -/
theorem stays_onCommand (link : RelayLink) (s : Supervisor) {c : SessionCommand}
    (hclip : ∀ name mime data, c ≠ .sendClip name mime data) (hstop : c ≠ .stop)
    (hshutdown : c ≠ .shutdown) : Returns (σ := ω) (s.onCommand link c) (Stays s) := by
  cases c with
  | offer =>
    rw [onCommand, offer]
    split
    · exact returns_pure (.refl s)
    · exact returns_bind fun _ => returns_bind fun _ => returns_pure (stays_of_eq rfl rfl)
  | record start =>
    rw [onCommand, record]
    split
    · exact returns_pure (.refl s)
    refine returns_bind fun r => ?_
    split
    · exact returns_pure ⟨id, rfl⟩
    · exact returns_pure (.refl s)
  | talk start => exact stays_talk link start s
  | sendClip name mime data => exact absurd rfl (hclip name mime data)
  | setControl | toggleControl | resetControls | status =>
    rw [onCommand]
    exact returns_bind fun _ => returns_pure (.refl s)
  | stop => exact absurd rfl hstop
  | shutdown => exact absurd rfl hshutdown

/-- A file that is given to the queue ends nothing. -/
theorem session_sendClip (name mime : String) (data : Payload) (s : Supervisor) :
    Returns (σ := ω) (s.sendClip name mime data) fun s' => s'.session = s.session := by
  rw [sendClip]
  split
  · exact returns_bind fun _ => returns_pure rfl
  · exact returns_bind fun _ => returns_bind fun _ => returns_pure rfl

/-! ## What becomes of the session

A call keeps the session, ends it, begins another, or does both in turn. `sessionChange_of_may`
tells the cases apart by the call and the state of the session. -/

/-- The calls that end a session: an opening of the link, an order to stop, and a report of its peer
that it is closed. -/
inductive Call.Ends (live : LiveSession) : Call → Prop
  | opened : Ends live .linkOpen
  | stopped : Ends live (.command .stop)
  | shutdown : Ends live (.command .shutdown)
  | closed : Ends live (.peer ⟨live.id, .connectivity .closed⟩)

/-- An order to stop and one to shut down both end the session. -/
theorem Call.ends_command {cmd : SessionCommand} (h : cmd = .stop ∨ cmd = .shutdown) :
    (Call.command cmd).Ends live := by
  rcases h with rfl | rfl
  · exact .stopped
  · exact .shutdown

/-- What an opening of the link does when the session before has ended: there is no peer for the
next one, or it starts and may make its first offer. -/
inductive Begins (link : RelayLink) (s : Supervisor) : List Entry → Supervisor → Prop
  | refused (e : PeerError) :
    Begins link s [.asked (.createPeer s.nextSetup) (.error e)]
      { s with lastSession := s.lastSession + 1 }
  | started :
    Begins link s
      [.asked (.createPeer s.nextSetup) (.ok ()), shown (.connectivity (s.lastSession + 1) .new)]
      { s with
        lastSession := s.lastSession + 1
        session := some { machine := { session := s.lastSession + 1, role := s.config.role } } }
  | offered {m : Machine} {es : List Entry} {r : Except PeerError Unit}
    (h : Machine.Offers (Writes link) false
      { session := s.lastSession + 1, role := s.config.role } es r m) :
    Begins link s
      (.asked (.createPeer s.nextSetup) (.ok ()) :: shown (.connectivity (s.lastSession + 1) .new)
        :: (es ++ shownChange .new m))
      { s with lastSession := s.lastSession + 1, session := some { machine := m } }

/-- The session whose peer reports that it is closed ends, but its negotiation has ended before. -/
inductive Collapses (link : RelayLink) (s : Supervisor) (live : LiveSession) :
    List Entry → Supervisor → Prop
  | intro {m : Machine} {es fs : List Entry} {change : Option Transition} {s' : Supervisor}
    (h : Machine.Reports (Writes link) live.machine .closed es change m)
    (hclosed : m.state = .closed)
    (hend : TearsDown { s with session := some { live with machine := m } }
      { live with machine := m }
      fs s') :
    Collapses link s live (es ++ shown (.connectivity m.session m.state) :: fs) s'

/-- What becomes of the session with a call. -/
inductive SessionChange (link : RelayLink) (s : Supervisor) : Call → List Entry → Supervisor → Prop
  /-- It goes on, if there is one. -/
  | stays {c : Call} {es : List Entry} {s' : Supervisor} (hopen : c ≠ .linkOpen)
    (hcall : ∀ live, s.session = some live → ¬ c.Ends live) (h : Stays s s') :
    SessionChange link s c es s'
  /-- The first one may begin. -/
  | begins {es : List Entry} {s' : Supervisor} (hs : s.session = none) (h : Begins link s es s') :
    SessionChange link s .linkOpen es s'
  /-- It ends, and another one may begin. -/
  | replaced {live : LiveSession} {es fs : List Entry} {between s' : Supervisor}
    (hs : s.session = some live) (hend : TearsDown s live es between)
    (h : Begins link between fs s') : SessionChange link s .linkOpen (es ++ fs) s'
  /-- It is stopped. -/
  | stopped {live : LiveSession} {cmd : SessionCommand} {es : List Entry} {between : Supervisor}
    (hs : s.session = some live) (hcmd : cmd = .stop ∨ cmd = .shutdown)
    (hend : TearsDown s live es between) :
    SessionChange link s (.command cmd) es { between with flags := {} }
  /-- Its peer is closed. -/
  | collapsed {live : LiveSession} {es : List Entry} {s' : Supervisor} (hs : s.session = some live)
    (h : Collapses link s live es s') :
    SessionChange link s (.peer ⟨live.id, .connectivity .closed⟩) es s'

/-- **An opening of the link** ends the session before, if there is one, and then begins the next.
-/
theorem yields_begins (link : RelayLink) (s : Supervisor) :
    Yields (ω := ω) (s.onLinkOpen link) fun es s' =>
      (s.session = none ∧ Begins link s es s')
        ∨ ∃ live ended begun between, s.session = some live ∧ es = ended ++ begun
          ∧ TearsDown s live ended between ∧ Begins link between begun s' := by
  rw [onLinkOpen]
  refine Yields.bind (P := fun ended between => (s.session = none ∧ ended = [] ∧ between = s)
    ∨ ∃ live, s.session = some live ∧ TearsDown s live ended between) ?_
    fun ended between hend => ?_
  · cases hs : s.session with
    | none =>
      rw [teardown, hs]
      exact yields_pure (.inl ⟨rfl, rfl, rfl⟩)
    | some live => exact (yields_teardown_of hs).mono fun _ _ h => .inr ⟨live, rfl, h⟩
  refine Yields.mono (P := Begins link between) ?_ fun begun s' h => ?_
  · refine yields_ask_bind _ fun reply => ?_
    rcases reply with e | ⟨⟩
    · exact yields_pure (.refused e)
    refine (yields_openSession link _).bind_pure fun es m hopen => ?_
    obtain ⟨fs, rfl, hfs⟩ := hopen
    obtain ⟨rfl, rfl⟩ | ⟨gs, r, hoffer, rfl⟩ := hfs
    · exact .started
    · exact .offered hoffer
  · rcases hend with ⟨hs, rfl, rfl⟩ | ⟨live, hs, hend⟩
    · exact .inl ⟨hs, h⟩
    · exact .inr ⟨live, ended, begun, between, hs, rfl, hend, h⟩

/-- A change of the current session that closes it. -/
theorem yields_onTransition_closed {t : Transition} (ht : t.target = .closed) {s : Supervisor}
    {live : LiveSession} (hs : s.session = some live) :
    Yields (ω := ω) (s.onTransition t) fun es s' =>
      ∃ fs, es = shown (.connectivity live.id t.target) :: fs ∧ TearsDown s live fs s' := by
  rw [onTransition, hs]
  refine yields_ask_bind _ fun _ => ?_
  rw [ht]
  exact (yields_teardown_of hs).mono fun es s' h => ⟨es, rfl, h⟩

/-- **A report on the connection** keeps the session, unless it is over for the peer. -/
theorem sessionChange_connectivity (link : RelayLink) {s : Supervisor} (hr : s.Ready)
    (ha : s.LatestOngoing) (n : ℕ) (reported : Connectivity) :
    Yields (ω := ω) (s.onPeerEvent link ⟨n, .connectivity reported⟩) fun es s' =>
      SessionChange link s (.peer ⟨n, .connectivity reported⟩) es s' := by
  have hopen : Call.peer ⟨n, .connectivity reported⟩ ≠ .linkOpen := by rintro ⟨⟩
  rw [onPeerEvent]
  split
  · rename_i hs
    exact yields_pure (.stays hopen (fun live hlive => by simp [hs] at hlive) (.refl s))
  rename_i live hs
  have hother : reported ≠ .closed ∨ live.id ≠ n →
      ∀ live, s.session = some live → ¬ (Call.peer ⟨n, .connectivity reported⟩).Ends live := by
    rintro hne other hlive hends
    obtain rfl := Option.some.inj (hs.symm.trans hlive)
    cases hends
    simp at hne
  split
  case isFalse hid => exact yields_pure (.stays hopen (hother (.inr hid)) (.refl s))
  rename_i hid
  rw [onReport]
  refine (Machine.yields_onConnectivity (yields_writes link) reported live.machine).bind
    fun es r h => ?_
  obtain ⟨change, m⟩ := r
  replace h : Machine.Reports (Writes link) live.machine reported es change m := h
  have hlive := (ha live hs).opened
  have hready : Ready { s with session := some { live with machine := m } } :=
    hr.congr rfl (attached_congr hs rfl rfl)
  have hstays : Stays s { s with session := some { live with machine := m } } := stays_of_eq rfl rfl
  have hcall : m.state ≠ .closed →
      ∀ live, s.session = some live → ¬ (Call.peer ⟨n, .connectivity reported⟩).Ends live :=
    fun hclosed => hother (.inl fun hreported => hclosed ((h.closed_iff hlive).mpr hreported))
  obtain ⟨rfl, hsame⟩ | ⟨rfl, hdiffers⟩ := h.change_or
  · exact yields_pure (.stays hopen (hcall fun hclosed => hlive (hsame.symm.trans hclosed)) hstays)
  subst hid
  by_cases hclosed : m.state = .closed
  · obtain rfl := (h.closed_iff hlive).mp hclosed
    refine (yields_onTransition_closed (t := ⟨live.machine.state, m.state⟩) hclosed rfl).mono
      fun fs s' hfs => .collapsed hs ?_
    obtain ⟨gs, rfl, hend⟩ := hfs
    exact .intro h hclosed hend
  · have htransition := yields_onTransition (ω := ω)
      (P := (Call.peer ⟨live.id, .connectivity reported⟩).grant) hr hs h hdiffers rfl
    refine (htransition.of_returns (stays_onTransition ?_ hready)).mono fun fs s' h => ?_
    · exact hclosed
    · exact .stays hopen (hcall hclosed) (hstays.trans h)

/-- **An order to stop** ends the session, if there is one. -/
theorem sessionChange_shutdown (link : RelayLink) {cmd : SessionCommand}
    (hcmd : cmd = .stop ∨ cmd = .shutdown) (s : Supervisor) :
    Yields (ω := ω) s.shutdown fun es s' => SessionChange link s (.command cmd) es s' := by
  have hopen : Call.command cmd ≠ .linkOpen := by rintro ⟨⟩
  rw [shutdown]
  cases hs : s.session with
  | none =>
    rw [teardown, hs]
    refine yields_pure (.stays hopen (fun live hlive => by simp [hs] at hlive) ?_)
    exact ⟨id, rfl⟩
  | some live =>
    refine (yields_teardown_of hs).bind_pure fun es s' h => ?_
    exact .stopped hs hcmd h

/-- **What becomes of the session with a call**, if that gives no file to the queue. -/
theorem sessionChange_of_may {link : RelayLink} {s s' : Supervisor} (hr : s.Ready)
    (ha : s.LatestOngoing) {c : Call}
    (hclip : ∀ name mime data, c ≠ .command (.sendClip name mime data)) {es : List Entry}
    (hmay : May (fun _ _ => c.run link s) es s') : SessionChange link s c es s' := by
  cases c with
  | linkOpen =>
    rcases hmay.spec fun ω _ => yields_begins link s with
      ⟨hs, h⟩ | ⟨live, es, fs, between, hs, rfl, hend, h⟩
    · exact .begins hs h
    · exact .replaced hs hend h
  | frame text =>
    refine .stays nofun (fun live _ => nofun) ?_
    exact hmay.returns fun ω _ t => stays_onDeliveries link (route text).2 s t
  | peer event =>
    obtain ⟨n, e⟩ := event
    by_cases he : ∃ state, e = .connectivity state
    · obtain ⟨state, rfl⟩ := he
      exact hmay.spec fun ω _ => sessionChange_connectivity link hr ha n state
    · have hother : ∀ state, e ≠ .connectivity state := fun state hstate => he ⟨state, hstate⟩
      refine .stays nofun (fun live _ hends => ?_) ?_
      · cases hends
        exact hother _ rfl
      · exact hmay.returns fun ω _ => stays_onPeerEvent link hr hother
  | command cmd =>
    by_cases hcmd : cmd = .stop ∨ cmd = .shutdown
    · refine May.spec (m := fun _ _ => s.shutdown) ?_ fun ω _ => sessionChange_shutdown link hcmd s
      rcases hcmd with rfl | rfl <;> exact hmay
    · obtain ⟨hstop, hshutdown⟩ := not_or.mp hcmd
      refine .stays nofun (fun live _ hends => ?_) ?_
      · cases hends <;> contradiction
      · refine hmay.returns fun ω _ => stays_onCommand link s ?_ hstop hshutdown
        rintro name mime data rfl
        exact hclip name mime data rfl

/-! ## Every end gives up the file on its way -/

/-- A session that begins leaves the queue alone. -/
theorem Begins.transfers_eq {link : RelayLink} (h : Begins link s es s') :
    s'.transfers = s.transfers := by
  cases h <;> rfl

theorem Begins.updatesIn_eq {link : RelayLink} (h : Begins link s es s') : updatesIn es = [] := by
  cases h with
  | refused | started => rfl
  | offered h =>
    rw [updatesIn_cons rfl, updatesIn_cons rfl, updatesIn_append,
      updatesIn_negotiation link h.entries,
      updatesIn_shownChange, List.append_nil]

/-- A peer that closes gives up the file on its way as well. -/
theorem Collapses.givesUpActive {link : RelayLink} (h : Collapses link s live es s') :
    GivesUpActive s es s' := by
  cases h with
  | intro h _ hend =>
    refine ⟨?_, hend.givesUpActive.transfers⟩
    rw [updatesIn_append, updatesIn_negotiation link h.entries, updatesIn_cons rfl]
    exact hend.givesUpActive.updates

/-- **A call keeps the session, or gives up the file on its way.** -/
theorem SessionChange.stays_or_givesUpActive {link : RelayLink} {c : Call}
    (h : SessionChange link s c es s') :
    (Stays s s' ∧ (c = .linkOpen → s.session = none)) ∨ GivesUpActive s es s' := by
  cases h with
  | stays hopen _ h => exact .inl ⟨h, fun hc => absurd hc hopen⟩
  | begins hs h =>
    refine .inl ⟨⟨fun hsome => ?_, congrArg TransferQueue.nextId h.transfers_eq⟩, fun _ => hs⟩
    rw [hs] at hsome
    cases hsome
  | replaced _ hend h =>
    refine .inr ⟨?_, h.transfers_eq.trans hend.givesUpActive.transfers⟩
    rw [updatesIn_append, hend.givesUpActive.updates, h.updatesIn_eq, List.append_nil]
  | stopped _ _ hend => exact .inr ⟨hend.givesUpActive.updates, hend.givesUpActive.transfers⟩
  | collapsed _ h => exact .inr h.givesUpActive

end

end Supervisor

end CameraViewer.Session
