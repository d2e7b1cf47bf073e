import CameraViewer.Proofs.Session.Closings
import CameraViewer.Proofs.Session.Uploads
import CameraViewer.Proofs.Transfer.Sizes

/-!
# Proofs/Session/Channels — files go over the channel of a connected session

The transfer queue has a channel just while the current session has handed it one. That channel
opened in this session, under the label of the configuration, and was handed over when the session
was connected; nothing else is ever sent over, and other channels change nothing
(`Run.keepsToChannels`).

Every move keeps what queue and session know of their channels in step (`ChannelsAgree`); `Serves`
says what becomes of the queue with a call.
-/

namespace CameraViewer.Session

open Config Link Negotiation Peer Signal Transfer World

/-- The channel that an entry makes use of. To close one is not to use it. -/
def usedChannel? : Entry → Option ChannelHandle
  | .asked (.channel _ .close) _ => none
  | .asked (.channel c _) _ => some c
  | _ => none

/-- The label of the channel that a peer reports of. -/
def channelLabel? : PeerEvent → Option String
  | .channelOpen c => some c.label
  | .channelClosed label => some label
  | .bufferedAmountLow label => some label
  | _ => none

/-- No channel is used. -/
def Unused (es : List Entry) : Prop := ∀ e ∈ es, usedChannel? e = none

theorem unused_shownTransfers (reports : List TransferProgress) : Unused (shownTransfers reports) :=
  List.forall_mem_map.mpr fun _ _ => rfl

namespace Supervisor

/-! ## Queue and session agree

The queue has a channel only from the session, and loses it with the session. -/

/-- What queue and session know of their channels: `opened` says which channels opened in which
sessions. -/
structure ChannelsAgree (opened : ℕ → ChannelHandle → Prop) (s : Supervisor) : Prop where
  /-- The queue has a channel just while the session has handed it one. -/
  attached_iff : s.transfers.channel.isSome = true
    ↔ ∃ live, s.session = some live ∧ live.channelAttached = true
  /-- It is one of the session, -/
  queue : ∀ c, s.transfers.channel = some c → ∃ live, s.session = some live ∧ opened live.id c
    ∧ c.label = s.config.channelLabel
  /-- like the one that the session knows. -/
  session : ∀ live c, s.session = some live → live.channel = some c →
    opened live.id c ∧ c.label = s.config.channelLabel

section
variable {P : Grant} {l : RelayLink} {s s' : Supervisor} {es : List Entry}
  {live live' : LiveSession} {opened : ℕ → ChannelHandle → Prop} {config : ClientConfig}
  {steps : List Step} {n : ℕ} {ch : ChannelHandle}

/-- There is neither a session nor a channel. -/
theorem channelsAgree_of_none (hs : s.session = none) (hc : s.transfers.channel = none) :
    ChannelsAgree opened s := by
  refine ⟨by simp [hs, hc], fun c hsome => ?_, fun live c hlive => ?_⟩
  · cases hc.symm.trans hsome
  · cases hs.symm.trans hlive

/-- What is known of openings may grow. -/
theorem ChannelsAgree.mono {opened' : ℕ → ChannelHandle → Prop} (hm : ChannelsAgree opened s)
    (h : ∀ n c, opened n c → opened' n c) : ChannelsAgree opened' s := by
  refine ⟨hm.attached_iff, fun c hc => ?_, fun live c hs hc => ?_⟩
  · obtain ⟨live, hs, hopened, hlabel⟩ := hm.queue c hc
    exact ⟨live, hs, h _ _ hopened, hlabel⟩
  · exact (hm.session live c hs hc).imp_left (h _ _)

/-- Without a session the queue has no channel. -/
theorem ChannelsAgree.channel_eq_none (hm : ChannelsAgree opened s) (hs : s.session = none) :
    s.transfers.channel = none := by
  by_contra hc
  obtain ⟨c, hc⟩ := Option.ne_none_iff_exists'.mp hc
  obtain ⟨live, hlive, -⟩ := hm.queue c hc
  cases hs.symm.trans hlive

/-- A session that changes keeps its channel, and the queue keeps its own. -/
theorem ChannelsAgree.congr (hm : ChannelsAgree opened s) (hs : s.session = some live)
    (hs' : s'.session = some live') (hid : live'.id = live.id)
    (hchannel : live'.channel = live.channel)
    (hattached : live'.channelAttached = live.channelAttached)
    (hqueue : s'.transfers.channel = s.transfers.channel) (hconfig : s'.config = s.config) :
    ChannelsAgree opened s' := by
  refine ⟨?_, fun c hc => ?_, fun other c hother hc => ?_⟩
  · rw [hqueue, hm.attached_iff, hs, hs']
    simp [hattached]
  · obtain ⟨other, hother, hopened, hlabel⟩ := hm.queue c (hqueue ▸ hc)
    obtain rfl := Option.some.inj (hs.symm.trans hother)
    exact ⟨live', hs', hid ▸ hopened, hconfig ▸ hlabel⟩
  · obtain rfl := Option.some.inj (hs'.symm.trans hother)
    rw [hid, hconfig]
    exact hm.session live c hs (hchannel ▸ hc)

/-- After the end of a session neither has a channel. -/
theorem TearsDown.channelsAgree (h : TearsDown s live es s') : ChannelsAgree opened s' := by
  cases h
  exact channelsAgree_of_none rfl rfl

/-- **Every move keeps queue and session in step.** -/
theorem Move.channelsAgree (h : Move P l s es s') (hm : ChannelsAgree opened s)
    (hopened : ∀ n c, P.report n (.channelOpen c) → opened n c) : ChannelsAgree opened s' := by
  cases h with
  | tell | send | servers | catalog | control | recording | candidate | talkDenied | talkRefused
  | clear | refused => exact ⟨hm.attached_iff, hm.queue, hm.session⟩
  | enqueue _ _ h | drained _ _ h =>
    have hchannel := h.channel_eq (by simp) (by simp)
    refine ⟨?_, fun c hc => hm.queue c (hchannel ▸ hc), hm.session⟩
    rw [hchannel]
    exact hm.attached_iff
  | negotiate hs hcall h => exact hm.congr hs rfl (moves_of_continues hcall h).2.2 rfl rfl rfl rfl
  | report hs h | degrade hs h => exact hm.congr hs rfl h.session_eq rfl rfl rfl rfl
  | talkFailed hs _ _ _ hoffer | talkStarted hs _ _ _ hoffer =>
    exact hm.congr hs rfl hoffer.session_eq rfl rfl rfl rfl
  | talkStopped hs => exact hm.congr hs rfl rfl rfl rfl rfl rfl
  | collapse _ _ _ _ hend | teardown _ hend => exact hend.channelsAgree
  | @channel live c hs hown hlabel =>
    refine ⟨?_, fun d hd => ?_, fun other d hother hd => ?_⟩
    · rw [hm.attached_iff, hs]
      simp
    · obtain ⟨other, hother, hopened⟩ := hm.queue d hd
      obtain rfl := Option.some.inj (hs.symm.trans hother)
      exact ⟨_, rfl, hopened⟩
    · obtain rfl := Option.some.inj hother
      obtain rfl := Option.some.inj hd
      exact ⟨hopened _ _ hown, hlabel⟩
  | @attach live c es rs q hs _ hnew hstate hc h =>
    have hknown := hm.session live c hs hc
    have hchannel : q.channel = some c := h.channel_eq_some
    refine ⟨?_, fun d hd => ?_, fun other d hother hd => ?_⟩
    · simp [hchannel]
    · obtain rfl := Option.some.inj (hchannel.symm.trans hd)
      exact ⟨_, rfl, hknown⟩
    · obtain rfl := Option.some.inj hother
      obtain rfl := Option.some.inj (hc.symm.trans hd)
      exact hknown
  | detach =>
    refine ⟨by simp [TransferQueue.onChannelClosed], nofun, fun other d hother hd => ?_⟩
    obtain rfl := Option.some.inj hother
    cases hd
  | created hs =>
    have hnone := hm.channel_eq_none hs
    refine ⟨by simp [hnone], fun d hd => ?_, fun other d hother hd => ?_⟩
    · cases hnone.symm.trans hd
    · obtain rfl := Option.some.inj hother
      cases hd

/-- So does every sequence of moves, if the openings it reports are known. -/
theorem Moves.channelsAgree (h : Moves P l s es s') (hm : ChannelsAgree opened s)
    (hopened : ∀ n c, P.report n (.channelOpen c) → opened n c) : ChannelsAgree opened s' := by
  induction h with
  | refl => exact hm
  | step first _ ih => exact ih (first.channelsAgree hm hopened)

/-! ## What is dropped -/

/-- Reports of the peer of another session change nothing, -/
theorem onPeerEvent_of_other {ω : Type} [World ω] {e : SessionEvent}
    (hother : s.sessionId ≠ some e.session) : s.onPeerEvent (ω := ω) l e = pure s := by
  rw [onPeerEvent]
  split
  · rfl
  · rename_i live hs
    refine if_neg fun hid => hother ?_
    rw [sessionId_of_eq_some hs, hid]

/-- and neither do reports of another channel. -/
theorem onPeerEvent_of_label {ω : Type} [World ω] {e : SessionEvent} {label : String}
    (he : channelLabel? e.event = some label) (hlabel : label ≠ s.config.channelLabel) :
    s.onPeerEvent (ω := ω) l e = pure s := by
  obtain ⟨n, e⟩ := e
  rw [onPeerEvent]
  split
  · rfl
  refine ite_eq_right_iff.mpr fun _ => ?_
  cases e with
  | channelOpen | channelClosed | bufferedAmountLow =>
    obtain rfl := Option.some.inj he
    rw [onReport, if_pos hlabel]
  | _ => cases he

/-! ## What becomes of the queue with a call

Only three occasions let the queue use its channel: it is handed over, a file is given, or the
channel has drained. -/

/-- The occasions on which the queue may use its channel. -/
theorem Call.of_serves {c : Call} (h : c.grant.Serves) :
    (∃ name mime data, c = .command (.sendClip name mime data))
      ∨ ∃ n e, c = .peer ⟨n, e⟩ ∧ ((∃ label, e = .bufferedAmountLow label)
        ∨ e = .connectivity .connected ∨ ∃ ch, e = .channelOpen ch) := by
  rcases h with h | ⟨n, label, h⟩ | ⟨n, h | ⟨ch, h⟩⟩
  · exact .inl h
  · exact .inr ⟨n, _, h, .inl ⟨label, rfl⟩⟩
  · exact .inr ⟨n, _, h, .inr (.inl rfl)⟩
  · exact .inr ⟨n, _, h, .inr (.inr ⟨ch, rfl⟩)⟩

/-- On other occasions no channel is used, -/
theorem Moves.unused (h : Moves P l s es s') (hserve : ¬P.Serves) : Unused es := by
  intro e he
  obtain ⟨_, _, _, _, hmade, _, _⟩ := h.entries e he
  cases hmade with
  | used hserves => exact absurd hserves hserve
  | written _ hx =>
    cases hx
    rfl
  | _ => rfl

/-- and the queue is left alone, as long as session and channel are. -/
theorem Move.transfers_or (h : Move P l s es s') (hserve : ¬P.Serves)
    (hclosed : ∀ n label, ¬P.report n (.channelClosed label)) :
    s'.transfers = s.transfers
      ∨ ∃ live, s.session = some live ∧ s'.session = none := by
  cases h with
  | enqueue hclip => exact absurd (.inl hclip) hserve
  | drained _ hown => exact absurd (.inr (.inl ⟨_, _, hown⟩)) hserve
  | attach _ hown => exact absurd (.inr (.inr ⟨_, hown⟩)) hserve
  | detach _ hown => exact absurd hown (hclosed _ _)
  | collapse hs _ _ _ hend | teardown hs hend => exact .inr ⟨_, hs, hend.said.2.2.1⟩
  | _ => exact .inl rfl

/-- Moves that keep the session and may not serve the queue leave it alone. -/
theorem Moves.transfers_eq (ha : s.LatestOngoing) (h : Moves P l s es s') (hnew : ¬P.session)
    (hserve : ¬P.Serves) (hclosed : ∀ n label, ¬P.report n (.channelClosed label))
    (hsame : ∀ id, s.sessionId = some id → s'.sessionId = some id) :
    s'.transfers = s.transfers := by
  induction h with
  | refl => rfl
  | @step s s₁ s' es fs first rest ih =>
    obtain ⟨hkept, hrest⟩ := first.keeps_session ha rest hnew hsame
    rw [ih (first.tellsStates ha).latestOngoing hrest]
    refine (first.transfers_or hserve hclosed).resolve_right ?_
    rintro ⟨live, hs, hnone⟩
    exact sessionId_ne hnone live.id (hkept live.id (sessionId_of_eq_some hs))

/-- The step hands a channel to the queue, in a session that is connected. -/
structure Attaching (step : Step) (n : ℕ) (ch : ChannelHandle) : Prop where
  detached : step.before.transfers.channel = none
  attached : step.after.transfers.channel = some ch
  session : step.after.sessionId = some n
  connected : step.after.connectivity = some .connected

/-- The queue is left alone, or called with a file, or told that its channel has drained. -/
inductive GoesOn (step : Step) : Prop
  | rests (hqueue : step.after.transfers = step.before.transfers) (hunused : Unused step.made)
  | takes {job : TransferJob} {fs : List Entry} {rs : List TransferProgress}
    (hran : step.before.transfers.Ran (.enqueue job) fs rs step.after.transfers)
    (hmade : step.made = fs ++ shownTransfers rs)
  | drains {fs : List Entry} {rs : List TransferProgress}
    (hran : step.before.transfers.Ran .bufferedAmountLow fs rs step.after.transfers)
    (hmade : step.made = fs ++ shownTransfers rs)

/-- The queue is called with the channel and the greatest message of the session; what was asked
before that uses no channel. -/
def Hands (step : Step) (ch : ChannelHandle) : Prop :=
  ∃ live fs gs rs, step.after.session = some live ∧ step.made = fs ++ (gs ++ shownTransfers rs)
    ∧ Unused fs ∧ step.before.transfers.Ran (.attach ch (step.after.maxMessageOf live.machine))
      gs rs step.after.transfers

/-- What becomes of the queue with a step. -/
inductive Serves (step : Step) : Prop
  /-- It goes on with the channel it has, if it has one. -/
  | goesOn (h : GoesOn step) (hkeeps : ¬LosesChannel step)
  /-- It is handed a channel. -/
  | attaches {n : ℕ} {ch : ChannelHandle} (h : Attaching step n ch) (hhands : Hands step ch)
  /-- It loses its channel. -/
  | loses (hloses : LosesChannel step) (hnone : step.after.transfers.channel = none)
    (hunused : Unused step.made)

/-- What a call of the queue uses is the channel it is left with. -/
theorem eq_some_of_ran {q q' : TransferQueue} {c : TransferQueue.Call} {fs : List Entry}
    {rs : List TransferProgress} (h : q.Ran c fs rs q') {e : Entry}
    (he : e ∈ fs ++ shownTransfers rs) (hch : usedChannel? e = some ch) : q'.channel = some ch := by
  rcases List.mem_append.mp he with he | he
  · cases h.entries e he with
    | channel hc r reply =>
      cases r with
      | close => cases hch
      | _ =>
        obtain rfl := Option.some.inj hch
        exact hc
    | noted => cases hch
  · cases (unused_shownTransfers rs e he).symm.trans hch

theorem GoesOn.channel_eq {step : Step} (h : GoesOn step) :
    step.after.transfers.channel = step.before.transfers.channel := by
  cases h with
  | rests hqueue => rw [hqueue]
  | takes hran | drains hran => exact hran.channel_eq (by simp) (by simp)

theorem GoesOn.maxMessage_eq {step : Step} (h : GoesOn step) :
    step.after.transfers.maxMessage = step.before.transfers.maxMessage := by
  cases h with
  | rests hqueue => rw [hqueue]
  | takes hran | drains hran => exact hran.maxMessage_eq_of_ne (by simp)

theorem GoesOn.used {step : Step} (h : GoesOn step) {e : Entry} (he : e ∈ step.made)
    (hch : usedChannel? e = some ch) : step.after.transfers.channel = some ch := by
  cases h with
  | rests _ hunused => cases (hunused e he).symm.trans hch
  | takes hran hmade | drains hran hmade =>
    rw [hmade] at he
    exact eq_some_of_ran hran he hch

/-- **What is used with a step** is the channel that the queue is left with. -/
theorem Serves.used {step : Step} (h : Serves step) {e : Entry} (he : e ∈ step.made)
    (hch : usedChannel? e = some ch) : step.after.transfers.channel = some ch := by
  cases h with
  | goesOn h => exact h.used he hch
  | attaches _ hhands =>
    obtain ⟨live, fs, gs, rs, -, hmade, hfs, hran⟩ := hhands
    rw [hmade] at he
    rcases List.mem_append.mp he with he | he
    · cases (hfs e he).symm.trans hch
    · exact eq_some_of_ran hran he hch
  | loses _ _ hunused => cases (hunused e he).symm.trans hch

/-- The session goes on, and its channel is not reported closed. -/
theorem not_losesChannel {step : Step}
    (hsame : ∀ n, step.before.sessionId = some n → step.after.sessionId = some n)
    (hcall : ∀ n, step.before.sessionId = some n →
      step.call ≠ .peer ⟨n, .channelClosed step.before.config.channelLabel⟩) :
    ¬LosesChannel step := by
  intro hloses
  cases hloses with
  | channelClosed hs hclosed => exact hcall _ hs hclosed
  | ended hs hend => exact hend (hsame _ hs)

/-- A negotiation uses no channel. -/
theorem unused_negotiation {session : ℕ} {record : List Entry}
    (h : ∀ x ∈ es, Machine.Made (Writes l) session record x) : Unused es := by
  intro x hx
  cases h x hx with
  | told | timed => rfl
  | handed hw hmem =>
    obtain ⟨r, hw⟩ := hw
    cases hw.entries x hmem
    rfl

/-- What a report that the session is connected leads to. -/
theorem yields_connected {ω : Type} [World ω] (l : RelayLink) (hr : s.Ready)
    (hs : s.session = some live) :
    Yields (ω := ω) (s.onPeerEvent l ⟨live.id, .connectivity .connected⟩) fun es s' =>
      ∃ m fs gs, es = fs ++ gs ∧ Unused fs ∧ m.session = live.id
        ∧ Attaches { s with session := some { live with machine := m } } gs s' := by
  rw [onPeerEvent, hs]
  change Yields (if live.id = live.id then _ else _) _
  rw [if_pos rfl, onReport]
  refine (Machine.yields_onConnectivity (yields_writes l) .connected live.machine).bind
    fun es r h => ?_
  obtain ⟨change, m⟩ := r
  replace h : Machine.Reports (Writes l) live.machine .connected es change m := h
  have hunused : Unused es := unused_negotiation h.entries
  have hready : Ready { s with session := some { live with machine := m } } :=
    hr.congr rfl (attached_congr hs rfl rfl)
  obtain ⟨rfl, -⟩ | ⟨rfl, hdiffers⟩ := h.change_or
  · exact yields_pure ⟨m, es, [], rfl, hunused, h.session_eq, .waits⟩
  · have hstate : m.state = .connected := (h.connected_iff hdiffers).mpr rfl
    rw [hstate]
    refine yields_ask_bind _ fun _ => (yields_attachChannelIfReady hready).mono fun gs s' hgs => ?_
    refine ⟨m, es ++ [shown (.connectivity m.session .connected)], gs, ?_, ?_, h.session_eq, hgs⟩
    · exact List.append_cons ..
    · exact List.forall_mem_append.mpr ⟨hunused, List.forall_mem_singleton.mpr rfl⟩

/-- What an opening of the channel leads to. -/
theorem yields_channelOpen {ω : Type} [World ω] (l : RelayLink) (hr : s.Ready)
    (hs : s.session = some live) (hlabel : ch.label = s.config.channelLabel) :
    Yields (ω := ω) (s.onPeerEvent l ⟨live.id, .channelOpen ch⟩)
      (Attaches { s with session := some { live with channel := some ch } }) := by
  rw [onPeerEvent, hs]
  change Yields (if live.id = live.id then _ else _) _
  rw [if_pos rfl, onReport, if_neg (not_not.mpr hlabel)]
  exact yields_attachChannelIfReady (hr.congr rfl (attached_congr hs rfl rfl))

/-- What a report that the channel has drained leads to. -/
theorem yields_bufferedAmountLow {ω : Type} [World ω] (l : RelayLink) (hr : s.Ready)
    (hs : s.session = some live) :
    Yields (ω := ω) (s.onPeerEvent l ⟨live.id, .bufferedAmountLow s.config.channelLabel⟩)
      fun es s' => s'.session = s.session
        ∧ ∃ fs rs, s.transfers.Ran .bufferedAmountLow fs rs s'.transfers
          ∧ es = fs ++ shownTransfers rs := by
  rw [onPeerEvent, hs]
  change Yields (if live.id = live.id then _ else _) _
  rw [if_pos rfl, onReport, if_neg (not_not.mpr rfl)]
  refine (TransferQueue.yields_run (c := .bufferedAmountLow) hr.settled trivial).bind fun es r h =>
    (yields_tellTransfers r.1).bind_eq_pure fun _ => ⟨hs, es, r.1, h, rfl⟩

/-- A channel that is handed to the queue, or waits. -/
theorem serves_of_attaches {c : Call} {s₁ : Supervisor} {fs gs : List Entry} (hr : s.Ready)
    (hs : s.session = some live) (h : Attaches s₁ gs s')
    (hs₁ : s₁ = { s with session := some live' }) (hid : live'.id = live.id)
    (hattached : live'.channelAttached = live.channelAttached) (hfs : Unused fs)
    (hcall : ∀ n, s.sessionId = some n → c ≠ .peer ⟨n, .channelClosed s.config.channelLabel⟩) :
    Serves ⟨s, l, c, fs ++ gs, s'⟩ := by
  subst hs₁
  have hbefore := sessionId_of_eq_some hs
  cases h with
  | waits =>
    rw [List.append_nil]
    refine .goesOn (.rests rfl hfs) (not_losesChannel (fun n hn => ?_) hcall)
    change some live'.id = some n
    rw [hid, ← hbefore]
    exact hn
  | @handed live₁ ch es rs q hs' hnew hstate hc h =>
    obtain rfl : live' = live₁ := Option.some.inj hs'
    refine .attaches (n := live.id) ⟨hr.detached ?_, h.channel_eq_some, ?_, ?_⟩ ?_
    · rw [hs]
      rintro _ ⟨⟩
      exact hattached ▸ hnew
    · exact congrArg some hid
    · exact congrArg some hstate
    · exact ⟨_, fs, es, rs, rfl, rfl, hfs, h⟩

/-! ## Runs

For each use of a channel the step is found that handed it over, and nothing between took it back.
-/

/-- A report of a peer on which the queue may use its channel. -/
theorem Run.serves_peer (hr : Run config steps s) {e : PeerEvent}
    (hmay : May (fun _ _ => s.onPeerEvent l ⟨n, e⟩) es s')
    (he : (∃ label, e = .bufferedAmountLow label) ∨ e = .connectivity .connected
      ∨ ∃ ch, e = .channelOpen ch) :
    Serves ⟨s, l, .peer ⟨n, e⟩, es, s'⟩ := by
  have hready := hr.trail.ready
  have hcall : ∀ m, s.sessionId = some m →
      Call.peer ⟨n, e⟩ ≠ .peer ⟨m, .channelClosed s.config.channelLabel⟩ := by
    rintro m - ⟨⟩
    simp at he
  have hdropped : es = [] ∧ s' = s → Serves ⟨s, l, .peer ⟨n, e⟩, es, s'⟩ := by
    rintro ⟨rfl, rfl⟩
    exact .goesOn (.rests rfl (List.forall_mem_nil _)) (not_losesChannel (fun _ => id) hcall)
  by_cases hown : s.sessionId = some n
  swap
  · exact hdropped (hmay.of_pure fun ω _ => onPeerEvent_of_other hown)
  obtain ⟨live, hs, rfl⟩ := Option.map_eq_some_iff.mp hown
  rcases he with ⟨label, rfl⟩ | rfl | ⟨ch, rfl⟩
  · by_cases hlabel : label = s.config.channelLabel
    · subst hlabel
      obtain ⟨hsession, fs, rs, hran, hmade⟩ :=
        hmay.spec fun ω _ => yields_bufferedAmountLow l hready hs
      refine .goesOn (.drains hran hmade) (not_losesChannel (fun m hm => ?_) hcall)
      exact (congrArg (Option.map LiveSession.id) hsession).trans hm
    · exact hdropped (hmay.of_pure fun ω _ => onPeerEvent_of_label rfl hlabel)
  · obtain ⟨m, fs, gs, rfl, hfs, hid, h⟩ := hmay.spec fun ω _ => yields_connected l hready hs
    exact serves_of_attaches hready hs h rfl hid rfl hfs hcall
  · by_cases hlabel : ch.label = s.config.channelLabel
    · have h := hmay.spec fun ω _ => yields_channelOpen l hready hs hlabel
      exact serves_of_attaches hready hs h rfl rfl rfl (List.forall_mem_nil _) hcall
    · exact hdropped (hmay.of_pure fun ω _ => onPeerEvent_of_label rfl hlabel)

/-- A command to send a file. -/
theorem Run.serves_sendClip (hr : Run config steps s) {name mime : String} {data : Payload}
    (hmay : May (fun _ _ => s.sendClip name mime data) es s') :
    Serves ⟨s, l, .command (.sendClip name mime data), es, s'⟩ := by
  have hsession : s'.session = s.session :=
    hmay.returns fun ω _ => session_sendClip name mime data s
  have hkeeps : ¬LosesChannel ⟨s, l, .command (.sendClip name mime data), es, s'⟩ :=
    not_losesChannel (fun n hn => (congrArg (Option.map LiveSession.id) hsession).trans hn)
      fun _ _ => nofun
  cases hjob : TransferJob.new name mime data with
  | error e =>
    obtain ⟨rfl, rfl⟩ := hmay.spec
      (P := fun es s' => es = [shown (.notice e.message)] ∧ s' = s) fun ω _ => by
        rw [sendClip, hjob]
        exact yields_ask_bind _ fun _ => yields_pure ⟨rfl, rfl⟩
    exact .goesOn (.rests rfl (List.forall_mem_singleton.mpr rfl)) hkeeps
  | ok job =>
    obtain ⟨fs, rs, hran, hmade⟩ :=
      hmay.spec fun ω _ => yields_sendClip_ran name mime data hr.trail.ready hjob
    exact .goesOn (.takes hran hmade) hkeeps

/-- The channel of the current session closes, or another one. -/
theorem Run.serves_channelClosed (hr : Run config steps s) {label : String}
    (hmay : May (fun _ _ => s.onPeerEvent l ⟨n, .channelClosed label⟩) es s')
    (hunused : Unused es) : Serves ⟨s, l, .peer ⟨n, .channelClosed label⟩, es, s'⟩ := by
  have hdropped : es = [] ∧ s' = s → ¬(s.sessionId = some n ∧ label = s.config.channelLabel) →
      Serves ⟨s, l, .peer ⟨n, .channelClosed label⟩, es, s'⟩ := by
    rintro ⟨rfl, rfl⟩ hother
    refine .goesOn (.rests rfl (List.forall_mem_nil _)) (not_losesChannel (fun _ => id) ?_)
    intro m hm hcall
    obtain ⟨rfl, hlabel⟩ : n = m ∧ label = s'.config.channelLabel := by simpa using hcall
    exact hother ⟨hm, hlabel⟩
  by_cases hown : s.sessionId = some n
  swap
  · exact hdropped (hmay.of_pure fun ω _ => onPeerEvent_of_other hown) fun h => hown h.1
  by_cases hlabel : label = s.config.channelLabel
  swap
  · exact hdropped (hmay.of_pure fun ω _ => onPeerEvent_of_label rfl hlabel) fun h => hlabel h.2
  subst hlabel
  obtain ⟨live, hs, rfl⟩ := Option.map_eq_some_iff.mp hown
  have hgives := hmay.spec fun ω _ => givesUpActive_channelClosed l hs
  refine .loses (.channelClosed hown rfl) ?_ hunused
  rw [hgives.transfers]
  rfl

/-- **What becomes of the queue with every call of a run.** -/
theorem Run.serves {c : Call} (hr : Run config steps s) (hmay : May (fun _ _ => c.run l s) es s') :
    Serves ⟨s, l, c, es, s'⟩ := by
  have hready := hr.trail.ready
  have ha := hr.trail.tellsHistories.2
  have hmoves := hmay.spec fun ω _ => yields_run l hready c
  by_cases hserve : c.grant.Serves
  · rcases Call.of_serves hserve with ⟨name, mime, data, rfl⟩ | ⟨n, e, rfl, he⟩
    · exact hr.serves_sendClip hmay
    · exact hr.serves_peer hmay he
  have hunused := hmoves.unused hserve
  have hclip : ∀ name mime data, c ≠ .command (.sendClip name mime data) :=
    fun name mime data hc => hserve (.inl ⟨name, mime, data, hc⟩)
  have hfate := sessionChange_of_may hready ha hclip hmay
  have hover : ∀ {live}, s.session = some live → c.Ends live →
      s'.transfers = s.transfers.onChannelClosed.2 → Serves ⟨s, l, c, es, s'⟩ := by
    intro live hs hends hqueue
    refine .loses (.ended (sessionId_of_eq_some hs) (hfate.over ha hs hends)) ?_ hunused
    rw [hqueue]
    rfl
  cases hfate with
  | stays hopen _ hstays =>
    by_cases hclosed : ∃ n label, c = .peer ⟨n, .channelClosed label⟩
    · obtain ⟨n, label, rfl⟩ := hclosed
      exact hr.serves_channelClosed hmay hunused
    have hcall : ∀ n label, c ≠ .peer ⟨n, .channelClosed label⟩ :=
      fun n label hc => hclosed ⟨n, label, hc⟩
    have hsame : ∀ n, s.sessionId = some n → s'.sessionId = some n := fun n =>
      hstays.sessionId_eq ha hmoves hopen
    have hqueue := hmoves.transfers_eq ha hopen hserve hcall hsame
    exact .goesOn (.rests hqueue hunused) (not_losesChannel hsame fun n _ => hcall n _)
  | begins hs h =>
    refine .goesOn (.rests h.transfers_eq hunused) (not_losesChannel (fun n hn => ?_)
      fun _ _ => nofun)
    exact absurd hn (sessionId_ne hs n)
  | replaced hs hend h => exact hover hs .opened (h.transfers_eq.trans hend.givesUpActive.transfers)
  | stopped hs hcmd hend => exact hover hs (Call.ends_command hcmd) hend.givesUpActive.transfers
  | collapsed hs h => exact hover hs .closed h.givesUpActive.transfers

/-- The channel was reported open while the session was the current one. -/
def OpenedIn (steps : List Step) (n : ℕ) (ch : ChannelHandle) : Prop :=
  ∃ step ∈ steps, step.before.sessionId = some n ∧ step.call = .peer ⟨n, .channelOpen ch⟩

/-- The channel was handed to the queue in the session, which was connected, and since then neither
has the channel closed nor the session ended. -/
def HeldSince (steps : List Step) (n : ℕ) (ch : ChannelHandle) : Prop :=
  ∃ front step since, steps = front ++ step :: since ∧ Attaching step n ch
    ∧ ∀ later ∈ since, ¬LosesChannel later

theorem OpenedIn.append (h : OpenedIn steps n ch) (later : List Step) :
    OpenedIn (steps ++ later) n ch := by
  obtain ⟨step, hmem, hstep⟩ := h
  exact ⟨step, List.mem_append_left _ hmem, hstep⟩

/-- A supervisor between two calls knows only channels that opened in its session. -/
theorem Run.channelsAgree (hr : Run config steps s) : ChannelsAgree (OpenedIn steps) s := by
  induction hr with
  | start => exact channelsAgree_of_none rfl rfl
  | @call steps s s' l c es before hmay ih =>
    have hbefore : ChannelsAgree (OpenedIn (steps ++ [⟨s, l, c, es, s'⟩])) s :=
      ih.mono fun n ch h => h.append _
    by_cases hother : ∃ e, c = .peer e ∧ s.sessionId ≠ some e.session
    · obtain ⟨e, rfl, hother⟩ := hother
      obtain ⟨-, rfl⟩ := hmay.of_pure fun ω _ => onPeerEvent_of_other hother
      exact hbefore
    refine (hmay.spec fun ω _ => yields_run l before.trail.ready c).channelsAgree hbefore
      fun n ch hcall => ?_
    refine ⟨_, List.mem_append_right _ List.mem_cons_self, ?_, hcall⟩
    by_contra hn
    exact hother ⟨_, hcall, hn⟩

/-- The channel was handed to the queue with the step `handing`, as `HeldSince` has it. -/
def HandedBy (steps : List Step) (n : ℕ) (ch : ChannelHandle) (handing : Step) : Prop :=
  ∃ front since, steps = front ++ handing :: since ∧ Attaching handing n ch
    ∧ ∀ later ∈ since, ¬LosesChannel later

/-- The channel of the queue has been there since it was handed over, and so has the greatest
message. -/
theorem Run.handedBy (hr : Run config steps s) (hch : s.transfers.channel = some ch) :
    ∃ n handing, s.sessionId = some n ∧ HandedBy steps n ch handing ∧ Hands handing ch
      ∧ s.transfers.maxMessage = handing.after.transfers.maxMessage := by
  induction hr with
  | start => cases hch
  | @call steps s s' l c es before hmay ih =>
    cases before.serves hmay with
    | goesOn h hkeeps =>
      obtain ⟨n, handing, hn, ⟨front, since, rfl, hattaching, hsince⟩, hhands, hmax⟩ :=
        ih (h.channel_eq.symm.trans hch)
      refine ⟨n, handing, ?_, ⟨front, since ++ [_], List.append_assoc .., hattaching, ?_⟩, hhands,
        h.maxMessage_eq.trans hmax⟩
      · by_contra hend
        exact hkeeps (.ended hn hend)
      · exact List.forall_mem_append.mpr ⟨hsince, List.forall_mem_singleton.mpr hkeeps⟩
    | @attaches n other h hhands =>
      obtain rfl : other = ch := Option.some.inj (h.attached.symm.trans hch)
      exact ⟨n, _, h.session, ⟨steps, [], rfl, h, List.forall_mem_nil _⟩, hhands, rfl⟩
    | loses _ hnone => cases hnone.symm.trans hch

/-- The channel of the queue has been there since it was handed over. -/
theorem Run.heldSince (hr : Run config steps s) (hch : s.transfers.channel = some ch) :
    ∃ n, s.sessionId = some n ∧ HeldSince steps n ch := by
  obtain ⟨n, handing, hn, ⟨front, since, hsteps, hattaching, hsince⟩, -, -⟩ := hr.handedBy hch
  exact ⟨n, hn, front, handing, since, hsteps, hattaching, hsince⟩

/-- What is said of the channels in a run. -/
structure KeepsToChannels (config : ClientConfig) (steps : List Step) (s : Supervisor) : Prop where
  /-- The queue has a channel just while the session has handed it one, -/
  attached_iff : s.transfers.channel.isSome = true
    ↔ ∃ live, s.session = some live ∧ live.channelAttached = true
  /-- and is handed no other before this one closes or the session ends. -/
  once : ∀ step ∈ steps, step.before.transfers.channel ≠ none → ¬LosesChannel step →
    GoesOn step ∧ step.after.transfers.channel = step.before.transfers.channel
  /-- The channel in use opened in the current session, under the label of the configuration, and
  was handed over when this was connected; it has not closed since. -/
  frames : ∀ before step later, steps = before ++ step :: later →
    ∀ e ∈ step.made, ∀ ch, usedChannel? e = some ch →
      ch.label = config.channelLabel ∧ ∃ n, step.after.sessionId = some n
        ∧ OpenedIn (before ++ [step]) n ch ∧ HeldSince (before ++ [step]) n ch
  /-- Other channels change nothing. -/
  foreign : ∀ step ∈ steps, ∀ n e label, step.call = .peer ⟨n, e⟩ → channelLabel? e = some label →
    label ≠ config.channelLabel → step.made = [] ∧ step.after = step.before

/-- **Files go over the channel of a connected session**, and over no other. -/
theorem Run.keepsToChannels (hr : Run config steps s) : KeepsToChannels config steps s := by
  refine ⟨hr.channelsAgree.attached_iff, ?_, ?_, ?_⟩
  · rintro ⟨t, l, c, es, t'⟩ hmem hch hkeeps
    obtain ⟨before, later, rfl⟩ := List.append_of_mem hmem
    obtain ⟨hrun, hmay⟩ := hr.split rfl
    cases hrun.serves hmay with
    | goesOn h => exact ⟨h, h.channel_eq⟩
    | attaches h => exact absurd h.detached hch
    | loses hloses => exact absurd hloses hkeeps
  · rintro before ⟨t, l, c, es, t'⟩ later hsteps e he ch hused
    obtain ⟨hrun, hmay⟩ := hr.split hsteps
    have hnext := hrun.call hmay
    have hch := (hrun.serves hmay).used he hused
    obtain ⟨live, hs, hopened, hlabel⟩ := hnext.channelsAgree.queue ch hch
    obtain ⟨n, hn, hheld⟩ := hnext.heldSince hch
    obtain rfl : live.id = n := Option.some.inj ((sessionId_of_eq_some hs).symm.trans hn)
    rw [hnext.trail.config_eq] at hlabel
    exact ⟨hlabel, _, hn, hopened, hheld⟩
  · rintro ⟨t, l, c, es, t'⟩ hmem n e label hcall he hlabel
    obtain ⟨before, later, rfl⟩ := List.append_of_mem hmem
    obtain ⟨hrun, hmay⟩ := hr.split rfl
    obtain rfl : c = .peer ⟨n, e⟩ := hcall
    rw [← hrun.trail.config_eq] at hlabel
    exact hmay.of_pure fun ω _ => onPeerEvent_of_label (e := ⟨n, e⟩) he hlabel

/-- The channel that files go over. -/
def fileChannel : ChannelHandle := ⟨1, ({} : ClientConfig).channelLabel⟩

/-- The channel opens and there is a file, but both wait until the session is connected; then
another channel closes, and last this one. -/
def handedSteps : List Step :=
  let opened := play (new {}) sampleLink .linkOpen
  let channel := opened.after.play sampleLink (.peer ⟨1, .channelOpen fileChannel⟩)
  let given := channel.after.play sampleLink (clipCall "a.wav" (oneByte 1))
  let connected := given.after.play sampleLink (.peer ⟨1, .connectivity .connected⟩)
  let foreign := connected.after.play sampleLink (.peer ⟨1, .channelClosed "chat"⟩)
  [opened, channel, given, connected, foreign,
    foreign.after.play sampleLink (.peer ⟨1, .channelClosed fileChannel.label⟩)]

/-- The channel of the sample is used when the session is connected, and not before. -/
theorem keepsToChannels_handedSteps : ∃ s, Run {} handedSteps s ∧ KeepsToChannels {} handedSteps s
    ∧ (handedSteps.map fun step => step.made.filterMap usedChannel?)
      = [[], [], [], List.replicate 7 fileChannel, [], []]
    ∧ (handedSteps.map fun step => step.after.transfers.channel)
      = [none, none, none, some fileChannel, some fileChannel, none] := by
  have hstart : Run {} [] (new {}) := .start
  have hopened := hstart.play sampleLink .linkOpen
  have hchannel := hopened.play sampleLink (.peer ⟨1, .channelOpen fileChannel⟩)
  have hgiven := hchannel.play sampleLink (clipCall "a.wav" (oneByte 1))
  have hconnected := hgiven.play sampleLink (.peer ⟨1, .connectivity .connected⟩)
  have hforeign := hconnected.play sampleLink (.peer ⟨1, .channelClosed "chat"⟩)
  have hr := hforeign.play sampleLink (.peer ⟨1, .channelClosed fileChannel.label⟩)
  exact ⟨_, hr, hr.keepsToChannels, by decide +kernel, by decide +kernel⟩

end

end Supervisor

end CameraViewer.Session
