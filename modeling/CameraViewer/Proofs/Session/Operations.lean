import CameraViewer.Proofs.Negotiation.States
import CameraViewer.Proofs.Session.Moves

/-!
# Proofs/Session/Operations — the operations of a supervisor are moves

For each operation one lemma: whatever the world answers, it is a sequence of moves. The main ones
are those for openings of the link, reports of peers, texts of the relay, and commands.
-/

namespace CameraViewer.Session

open Channel Config Control Link Negotiation Peer Signal Transfer World

variable {ω : Type} [World ω]

/-- Sending over a link. -/
theorem yields_send (link : RelayLink) (e : Envelope) :
    Yields (ω := ω) (link.send e) fun es r => Sends link e es r := by
  rw [RelayLink.send]
  split
  · rename_i socket hopen hsocket
    exact yields_ask_bind _ fun reached => yields_pure (.written hopen hsocket reached)
  · rename_i hnot
    exact yields_pure (.unsent fun socket hopen hsocket => hnot socket hopen hsocket)

/-- What a negotiation hands to a link is a message sent over it. -/
theorem yields_writes (link : RelayLink) (e : Envelope) :
    Yields (ω := ω) (link.send e) fun es _ => Writes link e es :=
  (yields_send link e).mono fun _ r h => ⟨r, h⟩

namespace Supervisor

variable {P : Grant}

theorem yields_tell (e : ViewerEvent) : Yields (ω := ω) (tell e) fun es _ => es = [shown e] :=
  yields_ask _ fun _ => rfl

theorem yields_tellTransfers (reports : List TransferProgress) :
    Yields (ω := ω) (tellTransfers reports) fun es _ => es = shownTransfers reports := by
  induction reports with
  | nil => exact yields_pure rfl
  | cons p rest ih =>
    rw [tellTransfers]
    exact yields_ask_bind _ fun _ => ih.mono fun _ _ h => congrArg _ h

theorem yields_stopAll (media : List LocalMedia) :
    Yields (ω := ω) (stopAll media) fun es _ => es = stops media := by
  induction media with
  | nil => exact yields_pure rfl
  | cons m rest ih =>
    rw [stopAll]
    exact yields_ask_bind _ fun _ => ih.mono fun _ _ h => congrArg _ h

theorem yields_tellChange (before : Connectivity) (m : Machine) :
    Yields (ω := ω) (tellChange before m) fun es _ => es = shownChange before m := by
  rw [tellChange, shownChange]
  split
  · exact yields_pure rfl
  · exact yields_tell _

/-- Closing the channel of a session asks for it only if there is one. -/
theorem yields_closeChannelOf (live : LiveSession) :
    Yields (ω := ω) (closeChannelOf live) fun es _ => es = closes live := by
  rw [closeChannelOf, closes]
  cases live.channel
  · exact yields_pure rfl
  · exact yields_ask _ fun _ => rfl

/-- Stopping media and ending all publishing. -/
theorem yields_release {α : Type} {live : LiveSession}
    {f : Except PeerError ℕ → StateM (Recorded ω) α} {Q : List Entry → α → Prop}
    (hf : ∀ released, Yields (f released) fun es a => Q (releases live released ++ es) a) :
    Yields (do stopAll live.media; f (← releaseOutbound live.id)) Q := by
  refine (yields_stopAll live.media).bind_eq fun _ => yields_ask_bind _ fun released =>
    (hf released).mono fun es a h => ?_
  rwa [releases, List.append_assoc] at h

/-! ## The end of a session

The teardown asks nothing of the link, so what follows holds with every grant. -/

/-- Telling that media ended, if there was any. -/
theorem yields_silence {α : Type} (live : LiveSession) (s : Supervisor) (a : α) :
    Yields (ω := ω)
      (if !live.media.isEmpty || s.flags.talking then do tell (.localMedia false); pure a
        else pure a)
      fun es b => es = shownSilence live s ∧ b = a := by
  rw [shownSilence]
  split
  · exact yields_ask_bind _ fun _ => yields_pure ⟨rfl, rfl⟩
  · exact yields_pure ⟨rfl, rfl⟩

/-- **The end of a session**, in the order of the teardown. -/
theorem yields_teardown_of {s : Supervisor} {live : LiveSession} (hs : s.session = some live) :
    Yields (ω := ω) s.teardown fun es s' => TearsDown s live es s' := by
  rw [teardown, hs]
  refine yields_release fun released => (yields_closeChannelOf live).bind_eq fun _ =>
    (yields_tellTransfers _).bind_eq fun _ => (Machine.yields_stop live.machine).bind
      fun es r h => ?_
  obtain ⟨change, m⟩ := r
  replace h : Machine.Stops live.machine es change m := h
  have hend := TearsDown.intro (s := s) released h
  cases h with
  | closed =>
    have hsame : shownChange live.machine.state live.machine = [] := if_pos rfl
    refine (yields_silence live s _).mono fun fs s' hfs => ?_
    obtain ⟨rfl, rfl⟩ := hfs
    rwa [hsame, List.nil_append] at hend
  | stopped hopen =>
    have hclosed : shownChange live.machine.state live.machine.ended
        = [shown (.connectivity live.id .closed)] := if_neg hopen.symm
    refine yields_ask_bind _ fun _ => (yields_silence live s _).mono fun fs s' hfs => ?_
    obtain ⟨rfl, rfl⟩ := hfs
    rwa [hclosed] at hend

/-- The end of a session needs no grant and no link. -/
theorem yields_teardown (s : Supervisor) :
    Yields (ω := ω) s.teardown fun es s' =>
      (∀ P link, Moves P link s es s') ∧ s'.session = none := by
  cases hs : s.session with
  | none =>
    rw [teardown, hs]
    exact yields_pure ⟨fun _ _ => .refl s, hs⟩
  | some live =>
    refine (yields_teardown_of hs).mono fun es s' h => ⟨fun _ _ => (Move.teardown hs h).moves, ?_⟩
    cases h
    rfl

/-- A shutdown is the end of the session, if there is one. -/
theorem yields_shutdown (link : RelayLink) (s : Supervisor) :
    Yields (ω := ω) s.shutdown fun es s' => Moves P link s es s' := by
  rw [shutdown]
  refine (yields_teardown s).bind fun es s' h => yields_pure ?_
  exact (h.1 P link).trans (Move.clear h.2).moves

/-! ## Openings of the link -/

/-- A new session shows itself, and may make its first offer. -/
theorem yields_openSession (link : RelayLink) (m : Machine) :
    Yields (ω := ω) (openSession link m) fun es m' =>
      ∃ fs, es = shown (.connectivity m.session m.state) :: fs
        ∧ (fs = [] ∧ m' = m
          ∨ ∃ gs r, Machine.Offers (Writes link) false m gs r m'
            ∧ fs = gs ++ shownChange m.state m') := by
  rw [openSession]
  refine yields_ask_bind _ fun _ => ?_
  split
  · refine (Machine.yields_offer (yields_writes link) false m).bind fun gs r h =>
      (yields_tellChange m.state r.2).bind_eq fun _ => yields_pure ?_
    exact ⟨_, rfl, .inr ⟨gs, r.1, h, by rw [List.append_nil]⟩⟩
  · exact yields_pure ⟨[], rfl, .inl ⟨rfl, rfl⟩⟩

/-- **An opening of the link**: the old session ends before the new one starts. -/
theorem yields_onLinkOpen (link : RelayLink) (s : Supervisor) :
    Yields (ω := ω) (s.onLinkOpen link) fun es s' => Opens link s es s' := by
  rw [onLinkOpen]
  refine (yields_teardown s).bind fun ended between hend => yields_ask_bind _ fun reply => ?_
  obtain ⟨hmoves, hs⟩ := hend
  rcases reply with e | ⟨⟩
  · exact yields_pure ⟨ended, _, [], between, _, rfl, hmoves, hs, fun P hnew => .refused hs hnew e,
      fun P => .refl _⟩
  refine (yields_openSession link _).bind fun fs m hopen => yields_pure ?_
  obtain ⟨gs, rfl, hgs⟩ := hopen
  refine ⟨ended, _, gs, between, _, ?_, hmoves, hs, fun P hnew => .created hs hnew, fun P => ?_⟩
  · rw [List.append_nil]
    rfl
  · obtain ⟨rfl, rfl⟩ | ⟨fs, r, hoffer, rfl⟩ := hgs
    · exact .refl _
    · have hoffered := Move.negotiate (P := P) (s := { between with
        lastSession := between.lastSession + 1
        session := some
          { machine := { session := between.lastSession + 1, role := between.config.role } } })
        (c := .initiate) rfl trivial (.offer hoffer)
      exact hoffered.moves

/-! ## Reports of the peer -/

/-- The channel is handed to the queue once it is open and the session connected. -/
theorem yields_attachChannelIfReady {s : Supervisor} (hr : s.Ready) :
    Yields (ω := ω) s.attachChannelIfReady fun es s' => Attaches s es s' := by
  rw [attachChannelIfReady]
  split
  · exact yields_pure .waits
  rename_i live hs
  split
  · exact yields_pure .waits
  rename_i hready
  obtain ⟨hnew, hstate⟩ := not_or.mp hready
  rw [Bool.not_eq_true] at hnew
  split
  · exact yields_pure .waits
  rename_i c hc
  refine (TransferQueue.yields_run (c := .attach c _) hr.settled trivial).bind fun es r h =>
    (yields_tellTransfers r.1).bind_eq_pure fun _ => ?_
  exact .handed hs hnew (not_not.mp hstate) hc h

theorem yields_replaceCatalog (c : Catalog) (s : Supervisor) :
    Yields (ω := ω) (s.replaceCatalog c) fun es s' => Adopts s (some c) es s' := by
  rw [replaceCatalog]
  exact yields_ask_bind _ fun _ => yields_pure (.replaced c)

/-- Notices are handled one after the other. -/
theorem yields_onNotices (hcatalog : P.catalog) (link : RelayLink) (notices : List ChannelNotice)
    (s : Supervisor) : Yields (ω := ω) (onNotices notices s) fun es s' => Moves P link s es s' := by
  induction notices generalizing s with
  | nil => exact yields_pure (.refl s)
  | cons notice rest ih =>
    cases notice with
    | notify message =>
      rw [onNotices]
      refine yields_ask_bind _ fun _ => (ih s).mono fun _ _ h => ?_
      exact .step (.tell (e := .notice message) trivial) h
    | catalog c =>
      rw [onNotices]
      exact (yields_replaceCatalog c s).bind fun _ s hc =>
        (ih s).mono fun _ _ h => (hc.moves hcatalog).trans h

/-- A text over the channel is decoded into notices, or ignored. -/
theorem yields_onChannelText (hcatalog : P.catalog) (link : RelayLink) (text : String)
    (s : Supervisor) :
    Yields (ω := ω) (s.onChannelText text) fun es s' => Moves P link s es s' := by
  rw [onChannelText]
  split
  · exact yields_onNotices hcatalog link _ s
  · exact yields_pure (.refl s)

/-- What follows a change of the current session: the viewer is told, and the channel is attached or
media stopped. -/
theorem yields_onTransition {link : RelayLink} {s : Supervisor} (hr : s.Ready) {live : LiveSession}
    (hs : s.session = some live) {reported : Connectivity} {es : List Entry}
    {change : Option Transition} {m : Machine}
    (h : Machine.Reports (Writes link) live.machine reported es change m)
    (hchange : m.state ≠ live.machine.state) (hown : P.report live.id (.connectivity reported)) :
    Yields (ω := ω)
      (onTransition ⟨live.machine.state, m.state⟩
        { s with session := some { live with machine := m } })
      fun fs s' => Moves P link s (es ++ fs) s' := by
  have hshown : shownChange live.machine.state m = [shown (.connectivity m.session m.state)] :=
    if_neg hchange
  have hready : Ready { s with session := some { live with machine := m } } :=
    hr.congr rfl (attached_congr hs rfl rfl)
  rw [onTransition]
  refine yields_ask_bind _ fun _ => ?_
  have hmove := Move.report (P := P) hs h
  rw [hshown] at hmove
  cases hstate : m.state with
  | new | connecting =>
    have hdone := (hmove (.inr (by simp [hstate]))).moves
    rw [hstate] at hdone
    exact yields_pure hdone
  | connected =>
    have hdone := (hmove (.inr (by simp [hstate]))).moves
    rw [hstate] at hdone
    refine (yields_attachChannelIfReady hready).mono fun fs s' hfs => ?_
    have hid : LiveSession.id { live with machine := m } = live.id := h.session_eq
    have hattach : P.attach (LiveSession.id { live with machine := m }) := by
      rw [hid]
      exact .inl ((h.connected_iff hchange).mp hstate ▸ hown)
    have hattached : Moves P link _ fs s' := hfs.moves rfl hattach
    have hall := hdone.trans hattached
    rwa [List.append_assoc] at hall
  | disconnected | failed =>
    rw [releaseMedia]
    refine yields_release fun released => yields_ask_bind _ fun _ => yields_pure ?_
    have hdone := (Move.degrade (P := P) hs h hchange (by simp [hstate]) released).moves
    rw [hshown, hstate] at hdone
    exact hdone
  | closed =>
    refine (yields_teardown_of rfl).mono fun fs s' hfs => ?_
    have hdone := (Move.collapse (P := P) hs h hchange hstate hfs).moves
    rw [hshown, hstate] at hdone
    exact hdone

/-- A report of the peer of the current session. -/
theorem yields_onReport (link : RelayLink) {s : Supervisor} (hr : s.Ready) {live : LiveSession}
    (hs : s.session = some live) {e : PeerEvent} (hown : P.report live.id e)
    (hcatalog : ∀ text, e = .channelText text → P.catalog) :
    Yields (ω := ω) (s.onReport link live e) fun es s' => Moves P link s es s' := by
  cases e with
  | localCandidate c =>
    rw [onReport]
    refine (yields_send link (.candidate c)).bind_pure fun es r h => ?_
    exact (Move.candidate hs hown h).moves
  | connectivity reported =>
    rw [onReport]
    refine (Machine.yields_onConnectivity (yields_writes link) reported live.machine).bind
      fun es r h => ?_
    obtain ⟨change, m⟩ := r
    replace h : Machine.Reports (Writes link) live.machine reported es change m := h
    obtain ⟨rfl, hsame⟩ | ⟨rfl, hdiffers⟩ := h.change_or
    · have hmove := (Move.report (P := P) hs h (.inl hsame)).moves
      rw [shownChange, if_pos hsame] at hmove
      exact yields_pure hmove
    · exact yields_onTransition hr hs h hdiffers hown
  | channelOpen c =>
    rw [onReport]
    split
    · exact yields_pure (.refl s)
    · rename_i hlabel
      have hopen := (Move.channel (P := P) (l := link) hs hown (not_not.mp hlabel)).moves
      exact (yields_attachChannelIfReady (hr.moves hopen)).mono fun _ _ h =>
        hopen.trans (h.moves rfl (.inr ⟨c, hown⟩))
  | channelText text => exact yields_onChannelText (hcatalog text rfl) link text s
  | channelBinary => exact yields_pure (.refl s)
  | channelClosed label =>
    rw [onReport]
    split
    · exact yields_pure (.refl s)
    · rename_i hlabel
      obtain rfl := not_not.mp hlabel
      refine (yields_tellTransfers _).bind_eq_pure fun _ => ?_
      exact (Move.detach hs hown).moves
  | bufferedAmountLow label =>
    rw [onReport]
    split
    · exact yields_pure (.refl s)
    · rename_i hlabel
      obtain rfl := not_not.mp hlabel
      refine (TransferQueue.yields_run (c := .bufferedAmountLow) hr.settled trivial).bind
        fun es r h => (yields_tellTransfers r.1).bind_eq_pure fun _ => ?_
      exact (Move.drained hs hown h).moves
  | remoteTrack kind id =>
    rw [onReport]
    exact yields_ask_bind _ fun _ =>
      yields_pure (Move.tell (e := .remoteTrack kind id) trivial).moves

/-- **A report of any peer.** -/
theorem yields_onPeerEvent (link : RelayLink) {s : Supervisor} (hr : s.Ready) {e : SessionEvent}
    (hown : P.report e.session e.event)
    (hcatalog : ∀ text, e.event = .channelText text → P.catalog) :
    Yields (ω := ω) (s.onPeerEvent link e) fun es s' => Moves P link s es s' := by
  rw [onPeerEvent]
  split
  · exact yields_pure (.refl s)
  · rename_i live hs
    split
    · rename_i hid
      exact yields_onReport link hr hs (hid ▸ hown) hcatalog
    · exact yields_pure (.refl s)

/-! ## Texts of the relay -/

/-- One message, by its kind. -/
theorem yields_onMessage (link : RelayLink) (s : Supervisor) (e : Envelope) :
    Yields (ω := ω) (s.onMessage link e) fun es s' => Handles link s e es s' := by
  cases e with
  | sessionDescription d =>
    rw [onMessage]
    split
    · rename_i hs
      exact yields_pure (.noDescriptor d hs)
    · rename_i live hs
      exact (Machine.yields_onRemoteDescriptor (yields_writes link) d live.machine).bind
        fun es r h =>
          (yields_tellChange live.machine.state r.2).bind_eq_pure fun _ => .descriptor hs h
  | candidate c =>
    rw [onMessage]
    split
    · rename_i hs
      exact yields_pure (.noCandidate c hs)
    · rename_i live hs
      exact (Machine.yields_onRemoteCandidate c live.machine).bind_pure
        fun es r h => .candidate hs h
  | iceServers servers => exact yields_pure (.iceServers servers)
  | userControl value reset =>
    rw [onMessage]
    exact yields_ask_bind _ fun _ => yields_pure (.userControl value reset)
  | command cmd arg =>
    cases cmd with
    | record =>
      rw [onMessage]
      exact yields_ask_bind _ fun _ => yields_pure (.recording arg)
    | talk =>
      rw [onMessage]
      exact yields_ask_bind _ fun _ => yields_pure (.talking arg)
  | recordRefused data =>
    rw [onMessage]
    exact yields_ask_bind _ fun _ => yields_pure (.recordRefused data)
  | roster entries =>
    rw [onMessage]
    exact yields_ask_bind _ fun _ => yields_pure (.roster entries)

/-- The deliveries of a text, one after the other. -/
theorem yields_onDeliveries (hcatalog : P.catalog) (link : RelayLink) (deliveries : List Delivery)
    (s : Supervisor) :
    Yields (ω := ω) (onDeliveries link deliveries s) fun es s' => Moves P link s es s' := by
  induction deliveries generalizing s with
  | nil => exact yields_pure (.refl s)
  | cons delivery rest ih =>
    cases delivery with
    | catalog c =>
      rw [onDeliveries]
      exact (yields_replaceCatalog c s).bind fun _ s hc =>
        (ih s).mono fun _ _ h => (hc.moves hcatalog).trans h
    | message e =>
      rw [onDeliveries]
      exact (yields_onMessage link s e).bind fun _ s hm => (ih s).mono fun _ _ h => hm.moves.trans h

/-- **A text of the relay.** -/
theorem yields_dispatch (hcatalog : P.catalog) (link : RelayLink) (text : String) (s : Supervisor) :
    Yields (ω := ω) (s.dispatch link text) fun es r => Moves P link s es r.2 := by
  rw [dispatch]
  refine (yields_onDeliveries hcatalog link _ s).bind_pure fun es s' h => ?_
  exact h

/-! ## Commands

Every command is granted what it needs by the occasion: a file by the command to send it, a session
by none. -/

theorem yields_offer (link : RelayLink) (s : Supervisor) :
    Yields (ω := ω) (s.offer link) fun es s' => Moves P link s es s' := by
  rw [offer]
  split
  · exact yields_pure (.refl s)
  · rename_i live hs
    refine (Machine.yields_offer (yields_writes link) false live.machine).bind fun es r h =>
      (yields_tellChange live.machine.state r.2).bind_eq_pure fun _ => ?_
    exact (Move.negotiate (c := .initiate) hs trivial (.offer h)).moves

theorem yields_record (link : RelayLink) (start : Bool) (s : Supervisor) :
    Yields (ω := ω) (s.record link start) fun es s' => Moves P link s es s' := by
  rw [record]
  split
  · exact yields_pure (.refl s)
  · refine (yields_send link (.start .record start)).bind fun es r h => ?_
    have hsend := (Move.send (P := P) (s := s) (e := .start .record start) trivial h).moves
    rcases r with e | ⟨⟩
    · refine yields_pure ?_
      rwa [List.append_nil]
    · exact yields_pure (hsend.trans (Move.recording start).moves)

theorem yields_talkStop (link : RelayLink) {s : Supervisor} {live : LiveSession}
    (hs : s.session = some live) :
    Yields (ω := ω) (s.talkStop link live) fun es s' => Moves P link s es s' := by
  rw [talkStop]
  cases htalk : s.flags.talking
  · exact yields_pure (.refl s)
  · refine (yields_stopAll live.media).bind_eq fun _ => (yields_send link (.start .talk false)).bind
      fun es r h => yields_ask_bind _ fun _ => yields_pure ?_
    exact (Move.talkStopped hs htalk h).moves

/-- Starting to talk publishes over the current session, and takes the source back if the peer
refuses. -/
theorem yields_talkStart (link : RelayLink) {s : Supervisor} {live : LiveSession}
    (hs : s.session = some live) :
    Yields (ω := ω) (s.talkStart link live) fun es s' => Moves P link s es s' := by
  rw [talkStart]
  cases htalk : s.canTalk live
  · exact yields_pure (.refl s)
  refine yields_ask_bind _ fun acquired => ?_
  rcases acquired with e | source
  · exact yields_pure (Move.talkDenied hs htalk e).moves
  refine yields_ask_bind _ fun attached => ?_
  rcases attached with e | ⟨⟩
  · exact yields_ask_bind _ fun _ => yields_pure (Move.talkRefused hs htalk source e).moves
  rw [talkOver]
  refine (yields_send link (.start .talk true)).bind fun es r hstart =>
    (Machine.yields_offer (yields_writes link) false live.machine).bind fun fs r hoffer => ?_
  obtain ⟨e | ⟨⟩, m⟩ := r
  · refine (yields_stopAll _).bind_eq fun _ => (yields_send link (.start .talk false)).bind_pure
      fun gs r hstop => ?_
    exact (Move.talkFailed hs htalk source hstart hoffer hstop).moves
  · exact yields_ask_bind _ fun _ =>
      yields_pure (Move.talkStarted hs htalk source hstart hoffer).moves

theorem yields_talk (link : RelayLink) (start : Bool) (s : Supervisor) :
    Yields (ω := ω) (s.talk link start) fun es s' => Moves P link s es s' := by
  rw [talk]
  split
  · exact yields_pure (.refl s)
  · rename_i live hs
    cases start
    · exact yields_talkStop link hs
    · exact yields_talkStart link hs

theorem yields_sendClip (link : RelayLink) (name mime : String) (data : Payload) {s : Supervisor}
    (hr : s.Ready) (hclip : P.clip) :
    Yields (ω := ω) (s.sendClip name mime data) fun es s' => Moves P link s es s' := by
  rw [sendClip]
  split
  · rename_i e _
    exact yields_ask_bind _ fun _ => yields_pure (Move.tell (e := .notice e.message) trivial).moves
  · rename_i job hjob
    have hadmissible : TransferQueue.Call.Admissible s.transfers (.enqueue job) :=
      ⟨name, mime, data, hjob⟩
    refine (TransferQueue.yields_run hr.settled hadmissible.made).bind fun es r h =>
      (yields_tellTransfers r.1).bind_eq_pure fun _ => ?_
    exact (Move.enqueue hclip hadmissible h).moves

theorem yields_sendControl (link : RelayLink) (name : String) (value : ControlDescriptor → Int64)
    (s : Supervisor) :
    Yields (ω := ω) (s.sendControl link name value) fun es _ => Moves P link s es s := by
  rw [sendControl]
  split
  · exact yields_pure (.refl s)
  · rename_i d _
    refine (yields_send link (.setControl d.id (value d))).bind_pure fun es r h => ?_
    exact (Move.send (e := .setControl d.id (value d)) trivial h).moves

/-- **A command.** -/
theorem yields_onCommand (link : RelayLink) {s : Supervisor} (hr : s.Ready) {c : SessionCommand}
    (hclip : ∀ name mime data, c = .sendClip name mime data → P.clip) :
    Yields (ω := ω) (s.onCommand link c) fun es s' => Moves P link s es s' := by
  cases c with
  | offer => exact yields_offer link s
  | record start => exact yields_record link start s
  | talk start => exact yields_talk link start s
  | sendClip name mime data =>
    exact yields_sendClip link name mime data hr (hclip name mime data rfl)
  | setControl name | toggleControl name =>
    rw [onCommand]
    refine (yields_sendControl (P := P) link name _ s).bind_pure fun es _ h => ?_
    exact h
  | resetControls =>
    rw [onCommand]
    refine (yields_send link .resetControls).bind_pure fun es r h => ?_
    exact (Move.send (e := .resetControls) trivial h).moves
  | status =>
    rw [onCommand]
    exact yields_ask_bind _ fun _ =>
      yields_pure (Move.tell (e := .status (s.status link.state)) trivial).moves
  | stop | shutdown => exact yields_shutdown link s

end Supervisor

end CameraViewer.Session
