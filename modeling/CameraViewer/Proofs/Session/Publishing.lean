import CameraViewer.Proofs.Session.Microphone

/-!
# Proofs/Session/Publishing — what stays attached to a peer

A source of media is attached to the peer of a session when the viewer begins to talk; `sendersOf`
reads off a record which are attached, and which of these were stopped. Of those attached the ones
not stopped are the media of the current session (`Trail.sendersFollow`). Those stopped stay
attached: only a lost connection and the end of a session release them (`Run.publishes`). A viewer
who stops talking leaves the source attached (`not_withdrawn_stoppedTalkSteps`), and one who begins
again attaches another.
-/

namespace CameraViewer.Session

open Config Link Negotiation Peer Signal Transfer World

/-! ## What the record says of senders

A source that was stopped stays attached to the peer until it is released, so the record keeps both
facts of a sender. -/

/-- A source that is attached to a peer. -/
structure Sender where
  /-- The source. -/
  source : LocalMedia
  /-- It was stopped. -/
  stopped : Bool
deriving DecidableEq

namespace Sender

/-- A sender whose source is stopped, if it is that source. -/
def stop (source : LocalMedia) (p : Sender) : Sender :=
  if p.source = source then { p with stopped := true } else p

/-- What an entry makes of the senders of a session: a new peer has none, and a release leaves none.
-/
def next (session : ℕ) (senders : List Sender) : Entry → List Sender
  | .asked (.createPeer setup) (.ok ()) => if setup.session = session then [] else senders
  | .asked (.peer id (.attachMedia source)) (.ok ()) =>
    if id = session then senders ++ [⟨source, false⟩] else senders
  | .asked (.peer id .releaseOutbound) (.ok _) => if id = session then [] else senders
  | .asked (.stopMedia source) _ => senders.map (stop source)
  | _ => senders

/-- What a record makes of them. -/
def after (session : ℕ) (senders : List Sender) (record : List Entry) : List Sender :=
  record.foldl (next session) senders

/-- The sources that are attached. -/
def sources (senders : List Sender) : List LocalMedia := senders.map source

/-- The sources that are attached and were not stopped. -/
def unstopped (senders : List Sender) : List LocalMedia :=
  sources (senders.filter fun p => !p.stopped)

/-- An entry that has nothing to do with senders. -/
def IsQuiet (e : Entry) : Prop := ∀ session senders, next session senders e = senders

variable {session : ℕ} {senders : List Sender} {es fs : List Entry}

@[simp] theorem after_nil : after session senders [] = senders := rfl

@[simp] theorem after_cons (e : Entry) :
    after session senders (e :: es) = after session (next session senders e) es := rfl

@[simp] theorem after_append :
    after session senders (es ++ fs) = after session (after session senders es) fs :=
  List.foldl_append

theorem after_quiet (h : ∀ e ∈ es, IsQuiet e) : after session senders es = senders := by
  refine List.foldlRecOn (motive := (· = senders)) es (next session) rfl fun ps hps e he => ?_
  rw [h e he session ps, hps]

@[simp] theorem source_stop (m : LocalMedia) (p : Sender) : (stop m p).source = p.source := by
  rw [stop]
  split_ifs <;> rfl

@[simp] theorem stopped_stop (m : LocalMedia) (p : Sender) :
    (stop m p).stopped = (p.stopped || decide (p.source = m)) := by
  rw [stop]
  split_ifs with h <;> simp [h]

/-- Sources are stopped one after the other. -/
theorem after_stops_cons (m : LocalMedia) (rest : List LocalMedia) :
    after session senders (stops (m :: rest))
      = after session (senders.map (stop m)) (stops rest) := rfl

/-- Stopping sources detaches none. -/
theorem sources_after_stops (media : List LocalMedia) :
    sources (after session senders (stops media)) = sources senders := by
  induction media generalizing senders with
  | nil => rfl
  | cons m rest ih =>
    rw [after_stops_cons, ih, sources, List.map_map]
    exact List.map_congr_left fun p _ => source_stop m p

/-- A source that is stopped is not among the others any more. -/
theorem unstopped_map_stop (m : LocalMedia) :
    unstopped (senders.map (stop m)) = (unstopped senders).filter (· ≠ m) := by
  have hsource : source ∘ stop m = source := funext (source_stop m)
  rw [unstopped, unstopped, sources, sources, List.filter_map, List.map_map, hsource,
    List.filter_map, List.filter_filter]
  congr 1
  refine List.filter_congr fun p _ => ?_
  simp [Bool.and_comm]

/-- Sources that are stopped are stopped where they are attached. -/
theorem unstopped_after_stops (media : List LocalMedia) :
    unstopped (after session senders (stops media)) = (unstopped senders).filter (· ∉ media) := by
  induction media generalizing senders with
  | nil => simp [stops]
  | cons m rest ih =>
    rw [after_stops_cons, ih, unstopped_map_stop, List.filter_filter]
    refine List.filter_congr fun x _ => ?_
    simp [Bool.and_comm]

/-! ### What is quiet -/

theorem quiet_shown (e : ViewerEvent) : IsQuiet (shown e) := fun _ _ => rfl

theorem quiet_shownTransfers (reports : List TransferProgress) :
    ∀ e ∈ shownTransfers reports, IsQuiet e :=
  List.forall_mem_map.mpr fun _ _ => quiet_shown _

theorem quiet_shownChange (before : Connectivity) (m : Machine) :
    ∀ e ∈ shownChange before m, IsQuiet e := by
  rw [shownChange]
  split_ifs
  · exact List.forall_mem_nil _
  · exact List.forall_mem_singleton.mpr (quiet_shown _)

theorem quiet_sends {link : RelayLink} {e : Envelope} {r : Except LinkError Unit}
    (h : Sends link e es r) : ∀ x ∈ es, IsQuiet x := by
  cases h with
  | written => exact List.forall_mem_singleton.mpr fun _ _ => rfl
  | unsent => exact List.forall_mem_nil _

theorem quiet_asks {channel : Option ChannelHandle} (h : ∀ x ∈ es, TransferQueue.Asks channel x) :
    ∀ x ∈ es, IsQuiet x := by
  intro x hx
  cases h x hx <;> exact fun _ _ => rfl

/-- What a negotiation signals attaches and stops nothing. -/
theorem quiet_signals {link : RelayLink} {session : ℕ}
    (h : ∀ x ∈ es, Machine.Signals (Writes link) session x) : ∀ x ∈ es, IsQuiet x := by
  intro x hx
  cases h x hx with
  | told r _ hr => cases r <;> first | exact fun _ _ => rfl | exact hr.elim
  | timed => exact fun _ _ => rfl
  | handed hwrites hmem =>
    obtain ⟨_, hsends⟩ := hwrites
    exact quiet_sends hsends x hmem

theorem quiet_aside {e : Entry} (h : Supervisor.IsAside e) : IsQuiet e := by
  cases h <;> exact fun _ _ => rfl

end Sender

/-- What is attached to the peer of a session, by a record. -/
def sendersOf (session : ℕ) (record : List Entry) : List Sender := Sender.after session [] record

/-- A request to end all publishing that was refused. -/
def refusesRelease : Entry → Bool
  | .asked (.peer _ .releaseOutbound) (.error _) => true
  | _ => false

/-- Every request to end all publishing was granted. -/
def AllReleased (record : List Entry) : Prop := ∀ e ∈ record, refusesRelease e = false

theorem AllReleased.left {es fs : List Entry} (h : AllReleased (es ++ fs)) : AllReleased es :=
  (List.forall_mem_append.mp h).1

theorem AllReleased.right {es fs : List Entry} (h : AllReleased (es ++ fs)) : AllReleased fs :=
  (List.forall_mem_append.mp h).2

namespace Supervisor

open Sender

/-! ## Moves

What is attached is compared with the media of the session, over the moves that keep a session; a
new session starts without either. -/

/-- A state in which nothing is attached: the session is not connected yet, or not any more. -/
def Unconnected (state : Connectivity) : Prop :=
  state = .new ∨ state = .disconnected ∨ state = .failed

/-- The senders of a session go along with its media: those not stopped stay its media, and where
releases are granted there are none while it is unconnected. -/
structure FollowsSenders (es : List Entry) (live live' : LiveSession) : Prop where
  unstopped : ∀ senders, unstopped senders = live.media →
    Sender.unstopped (after live.id senders es) = live'.media
  withdrawn : AllReleased es → ∀ senders, (Unconnected live.machine.state → senders = []) →
    Unconnected live'.machine.state → after live.id senders es = []

section
variable {P : Grant} {l : RelayLink} {s s' : Supervisor} {es fs : List Entry}
  {live live' : LiveSession}

/-- A move that has nothing to do with senders. -/
theorem followsSenders_of_quiet (hes : ∀ e ∈ es, IsQuiet e) (hmedia : live'.media = live.media)
    (hstate : Unconnected live'.machine.state → Unconnected live.machine.state) :
    FollowsSenders es live live' where
  unstopped senders h := by rw [after_quiet hes, h, hmedia]
  withdrawn _ senders h hoff := by rw [after_quiet hes, h (hstate hoff)]

/-- Whoever is connected is not unconnected. -/
theorem not_unconnected {state : Connectivity} (h : state = .connected) : ¬Unconnected state := by
  rintro (hnew | hdisconnected | hfailed) <;> simp_all

/-- A negotiation that goes on does not lose a connection. -/
theorem unconnected_of_continues {H : Envelope → List Entry → Prop} {m m' : Machine}
    {c : Machine.Call} {r : Machine.Outcome} (hcall : Continues c)
    (h : Machine.Performs H m c es r m') (hoff : Unconnected m'.state) : Unconnected m.state := by
  rcases state_or_of_continues hcall h with hsame | hconnecting
  · rwa [← hsame]
  · rw [hconnecting] at hoff
    simp [Unconnected] at hoff

theorem unconnected_of_reports {H : Envelope → List Entry → Prop} {m m' : Machine}
    {reported : Connectivity} {change : Option Transition}
    (h : Machine.Reports H m reported es change m')
    (hstate : m'.state = m.state
      ∨ m'.state ≠ .disconnected ∧ m'.state ≠ .failed ∧ m'.state ≠ .closed)
    (hoff : Unconnected m'.state) : Unconnected m.state := by
  by_cases hnew : m.state = .new
  · exact .inl hnew
  rcases hstate with hsame | ⟨hdisconnected, hfailed, -⟩
  · rwa [← hsame]
  -- a session that is not new any more does not become new again
  obtain hnew' : m'.state = .new := by
    rcases hoff with h | h | h
    · exact h
    · exact absurd h hdisconnected
    · exact absurd h hfailed
  rcases (h.moves fun _ => hnew).move with hsame | hmove
  · exact absurd (hsame.symm.trans hnew') hnew
  · rw [hnew'] at hmove
    cases hm : m.state <;> simp [hm, Connectivity.canMoveTo] at hmove

/-- One after the other. -/
theorem FollowsSenders.trans {mid : LiveSession} (h : FollowsSenders es live mid)
    (hid : mid.id = live.id) (h' : FollowsSenders fs mid live') :
    FollowsSenders (es ++ fs) live live' := by
  refine ⟨fun senders hsenders => ?_, fun hall senders hnone hoff => ?_⟩
  · rw [after_append, ← hid]
    exact h'.unstopped _ (hid ▸ h.unstopped senders hsenders)
  · rw [after_append, ← hid]
    exact h'.withdrawn hall.right _ (hid ▸ h.withdrawn hall.left senders hnone) hoff

/-- Quiet entries before a move do not matter. -/
theorem followsSenders_append_left (hes : ∀ e ∈ es, IsQuiet e) (h : FollowsSenders fs live live') :
    FollowsSenders (es ++ fs) live live' :=
  (followsSenders_of_quiet hes rfl id).trans rfl h

theorem followsSenders_append_right (h : FollowsSenders es live live') (hid : live'.id = live.id)
    (hfs : ∀ e ∈ fs, IsQuiet e) : FollowsSenders (es ++ fs) live live' :=
  h.trans hid (followsSenders_of_quiet hfs rfl id)

theorem followsSenders_cons {e : Entry} (he : IsQuiet e) (h : FollowsSenders fs live live') :
    FollowsSenders (e :: fs) live live' :=
  (followsSenders_of_quiet (List.forall_mem_singleton.mpr he) rfl id).trans rfl h

/-- Stopping the media of a session leaves nothing that is not stopped. -/
theorem followsSenders_stops (hmedia : live'.media = [])
    (hstate : live'.machine.state = live.machine.state) :
    FollowsSenders (stops live.media) live live' := by
  refine ⟨fun senders hsenders => ?_, fun _ senders hnone hoff => ?_⟩
  · rw [unstopped_after_stops, hsenders, hmedia]
    exact List.filter_eq_nil_iff.mpr fun m hm => by simp [hm]
  · have hsources : sources (after live.id senders (stops live.media)) = sources senders :=
      sources_after_stops live.media
    rw [hnone (hstate ▸ hoff)] at hsources ⊢
    exact List.map_eq_nil_iff.mp hsources

/-- Ending all publishing leaves nothing attached, if it is granted. -/
theorem followsSenders_releases {ended : LiveSession} (hid : ended.id = live.id)
    (hended : ended.media = live.media) (hmedia : live'.media = [])
    (released : Except PeerError ℕ) :
    FollowsSenders (releases ended released) live live' := by
  have hafter : ∀ senders, after live.id senders (releases ended released)
      = next live.id (after live.id senders (stops live.media))
          (Machine.told live.id .releaseOutbound released) := fun senders => by
    rw [releases, hid, hended, after_append]
    rfl
  refine ⟨fun senders hsenders => ?_, fun hall senders _ _ => ?_⟩
  · rw [hafter, hmedia]
    cases released with
    | ok => exact congrArg Sender.unstopped (if_pos rfl)
    | error =>
      have hstops : FollowsSenders (stops live.media) live { live with media := [] } :=
        followsSenders_stops rfl rfl
      exact hstops.unstopped senders hsenders
  · have hgranted := hall.right _ List.mem_cons_self
    rw [hafter]
    cases released with
    | ok => exact if_pos rfl
    | error => cases hgranted

/-- A source is attached to a session that is connected. -/
theorem followsSenders_attach (source : LocalMedia) (hmedia : live'.media = live.media ++ [source])
    (hstate : live'.machine.state = .connected) :
    FollowsSenders [Machine.told live.id (.attachMedia source) (.ok ())] live live' := by
  have hafter : ∀ senders,
      after live.id senders [Machine.told live.id (.attachMedia source) (.ok ())]
        = senders ++ [⟨source, false⟩] := fun _ => if_pos rfl
  refine ⟨fun senders hsenders => ?_, fun _ _ _ hoff => absurd hoff (not_unconnected hstate)⟩
  rw [hafter, hmedia, ← hsenders]
  simp [unstopped, sources]

/-- To take up talking a source is acquired, attached, announced and offered; what follows finds it
attached. -/
theorem followsSenders_acquired (source : LocalMedia) (hconnected : live.machine.state = .connected)
    {e : Envelope} {r : Except LinkError Unit} {m : Machine} {offered : Except PeerError Unit}
    (hstart : Sends l e es r)
    (hoffer : Machine.Offers (Writes l) false live.machine fs offered m) {gs : List Entry}
    (hgs : FollowsSenders gs { live with media := live.media ++ [source] } live') :
    FollowsSenders (.asked .acquireMedia (.ok source)
      :: Machine.told live.id (.attachMedia source) (.ok ()) :: (es ++ (fs ++ gs))) live live' := by
  have hattach : FollowsSenders _ live { live with media := live.media ++ [source] } :=
    followsSenders_attach source rfl hconnected
  refine followsSenders_cons (fun _ _ => rfl) (hattach.trans rfl ?_)
  refine followsSenders_append_left (quiet_sends hstart) ?_
  exact followsSenders_append_left (quiet_signals hoffer.signals) hgs

/-- **Every move keeps the senders of a session in step with its media**; a new session has none. -/
theorem Move.followsSenders (hd : s.TalksOverOneSource) (h : Move P l s es s')
    (hs' : s'.session = some live') :
    (∃ live, s.session = some live ∧ live.id = live'.id ∧ FollowsSenders es live live')
      ∨ live'.media = [] ∧ ∀ senders, after live'.id senders es = [] := by
  cases h with
  | tell | catalog =>
    exact .inl ⟨_, hs', rfl, followsSenders_of_quiet (List.forall_mem_singleton.mpr (quiet_shown _))
      rfl id⟩
  | send _ h | candidate _ _ h =>
    exact .inl ⟨_, hs', rfl, followsSenders_of_quiet (quiet_sends h) rfl id⟩
  | servers | control | recording =>
    exact .inl ⟨_, hs', rfl, followsSenders_of_quiet (List.forall_mem_nil _) rfl id⟩
  | enqueue _ _ h | drained _ _ h =>
    refine .inl ⟨_, hs', rfl, followsSenders_of_quiet ?_ rfl id⟩
    exact List.forall_mem_append.mpr ⟨quiet_asks h.entries, quiet_shownTransfers _⟩
  | negotiate hs hcall h =>
    cases hs'
    have hid := (moves_of_continues hcall h).2.2.symm
    refine .inl ⟨_, hs, hid, followsSenders_of_quiet ?_ rfl (unconnected_of_continues hcall h)⟩
    refine List.forall_mem_append.mpr ⟨?_, quiet_shownChange _ _⟩
    exact quiet_signals (h.signals (by rintro rfl; exact hcall))
  | report hs h hstate =>
    cases hs'
    refine .inl ⟨_, hs, h.session_eq.symm, followsSenders_of_quiet ?_
      rfl (unconnected_of_reports h hstate)⟩
    exact List.forall_mem_append.mpr ⟨quiet_signals h.signals, quiet_shownChange _ _⟩
  | @degrade live _ es _ m hs h _ _ released =>
    cases hs'
    refine .inl ⟨_, hs, h.session_eq.symm, ?_⟩
    refine followsSenders_append_left (quiet_signals h.signals)
      (followsSenders_append_left (quiet_shownChange _ _) ?_)
    have hid : LiveSession.id { live with machine := m } = live.id := h.session_eq
    have hreleases : FollowsSenders _ live { live with machine := m, media := [] } :=
      followsSenders_releases hid rfl rfl released
    exact followsSenders_append_right hreleases h.session_eq
      (List.forall_mem_singleton.mpr (quiet_shown _))
  | collapse _ _ _ _ hend | teardown _ hend =>
    cases hend
    cases hs'
  | channel hs =>
    cases hs'
    exact .inl ⟨_, hs, rfl, followsSenders_of_quiet (List.forall_mem_nil _) rfl id⟩
  | attach hs _ _ _ _ h =>
    cases hs'
    refine .inl ⟨_, hs, rfl, followsSenders_of_quiet ?_ rfl id⟩
    exact List.forall_mem_append.mpr ⟨quiet_asks h.entries, quiet_shownTransfers _⟩
  | detach hs =>
    cases hs'
    exact .inl ⟨_, hs, rfl, followsSenders_of_quiet (quiet_shownTransfers _) rfl id⟩
  | talkDenied =>
    exact .inl ⟨_, hs', rfl, followsSenders_of_quiet (List.forall_mem_singleton.mpr fun _ _ => rfl)
      rfl id⟩
  | talkRefused hs htalk source e =>
    obtain rfl := Option.some.inj (hs.symm.trans hs')
    have hmedia := (microphone_of_canTalk hd hs htalk).1
    refine .inl ⟨_, hs, rfl, fun senders hsenders => ?_, fun _ _ _ hoff => ?_⟩
    · show Sender.unstopped (senders.map (Sender.stop source)) = _
      rw [unstopped_map_stop, hsenders, hmedia, List.filter_nil]
    · exact absurd hoff (not_unconnected (of_canTalk htalk).2.2)
  | @talkFailed live es fs gs _ _ _ m hs htalk source hstart hoffer hstop =>
    cases hs'
    have hconnected := (of_canTalk htalk).2.2
    have hstate : m.state = .connected := (hoffer.state_eq hconnected).trans hconnected
    refine .inl ⟨_, hs, hoffer.session_eq.symm, ?_⟩
    have hstops : FollowsSenders _ { live with media := live.media ++ [source] }
        { live with machine := m, media := [] } :=
      followsSenders_stops rfl (hstate.trans hconnected.symm)
    refine followsSenders_acquired source hconnected hstart hoffer ?_
    exact followsSenders_append_right hstops hoffer.session_eq (quiet_sends hstop)
  | @talkStarted live es fs _ m hs htalk source hstart hoffer =>
    cases hs'
    have hconnected := (of_canTalk htalk).2.2
    have hstate : m.state = .connected := (hoffer.state_eq hconnected).trans hconnected
    refine .inl ⟨_, hs, hoffer.session_eq.symm, ?_⟩
    have hshown := List.forall_mem_singleton.mpr (quiet_shown (.localMedia true))
    refine followsSenders_acquired source hconnected hstart hoffer ?_
    exact followsSenders_of_quiet hshown rfl fun hoff => absurd hoff (not_unconnected hstate)
  | talkStopped hs _ hstop =>
    cases hs'
    refine .inl ⟨_, hs, rfl, followsSenders_append_right (followsSenders_stops rfl rfl) rfl ?_⟩
    refine List.forall_mem_append.mpr ⟨quiet_sends hstop, ?_⟩
    exact List.forall_mem_singleton.mpr (quiet_shown _)
  | clear hs | refused hs =>
    rw [show _ = _ from hs] at hs'
    cases hs'
  | created hs =>
    cases hs'
    exact .inr ⟨rfl, fun senders => if_pos rfl⟩

/-! ## Rounds of talk

A command to talk attaches at most one source, and neither command releases any. -/

/-- The source an entry attaches to the peer of a session. -/
def attachment? (session : ℕ) : Entry → Option LocalMedia
  | .asked (.peer id (.attachMedia source)) (.ok ()) => if id = session then some source else none
  | _ => none

/-- The sources that were attached to the peer of a session, whatever became of them. -/
def attachments (session : ℕ) (record : List Entry) : List LocalMedia :=
  record.filterMap (attachment? session)

/-- What a command to begin or to end talking does to the senders of a session: it releases none, a
command to begin attaches one source at most, and a command to end none. -/
structure Round (session : ℕ) (start : Bool) (es : List Entry) : Prop where
  kept : ∀ senders, sources (after session senders es) = sources senders ++ attachments session es
  single : (attachments session es).length ≤ 1
  ended : start = false → attachments session es = []

/-- Nothing is attached or released. -/
def AttachesNothing (session : ℕ) (es : List Entry) : Prop :=
  attachments session es = [] ∧ ∀ senders, sources (after session senders es) = sources senders

section
variable {session : ℕ}

theorem AttachesNothing.append (h : AttachesNothing session es) (h' : AttachesNothing session fs) :
    AttachesNothing session (es ++ fs) :=
  ⟨by
    rw [attachments, List.filterMap_append, ← attachments, ← attachments, h.1, h'.1,
      List.nil_append],
    fun senders => by rw [after_append, h'.2, h.2]⟩

theorem attachesNothing_of_quiet (hes : ∀ e ∈ es, IsQuiet e) : AttachesNothing session es := by
  refine ⟨List.filterMap_eq_nil_iff.mpr fun e he => ?_, fun senders => by rw [after_quiet hes]⟩
  have hnext := hes e he session []
  unfold attachment?
  split
  · split_ifs with hid
    · subst hid
      rw [next, if_pos rfl] at hnext
      cases hnext
    · rfl
  · rfl

theorem attachesNothing_stops (media : List LocalMedia) : AttachesNothing session (stops media) :=
  ⟨List.filterMap_eq_nil_iff.mpr (List.forall_mem_map.mpr fun _ _ => rfl),
    fun _ => sources_after_stops media⟩

/-- A command that attaches nothing is a round, whichever it is. -/
theorem AttachesNothing.round (h : AttachesNothing session es) (start : Bool) :
    Round session start es :=
  ⟨fun senders => by rw [h.1, h.2, List.append_nil], by simp [h.1], fun _ => h.1⟩

/-- A source is attached, and nothing else is attached or released. -/
theorem round_attach (source : LocalMedia) (h : AttachesNothing session es) :
    Round session true (.asked .acquireMedia (.ok source)
      :: Machine.told session (.attachMedia source) (.ok ()) :: es) := by
  have hattached : attachments session (.asked .acquireMedia (.ok source)
      :: Machine.told session (.attachMedia source) (.ok ()) :: es) = [source] := by
    have hfirst : attachment? session (Machine.told session (.attachMedia source) (.ok ()))
        = some source := if_pos rfl
    rw [attachments, List.filterMap_cons_none rfl, List.filterMap_cons_some hfirst,
      ← attachments, h.1]
  refine ⟨fun senders => ?_, by rw [hattached]; rfl, nofun⟩
  have hnext : next session senders (Machine.told session (.attachMedia source) (.ok ()))
      = senders ++ [⟨source, false⟩] := if_pos rfl
  rw [hattached, after_cons, after_cons, h.2]
  show sources (next session senders (Machine.told session (.attachMedia source) (.ok ()))) = _
  rw [hnext, sources, List.map_append, ← sources]
  rfl

/-- Ending to talk stops the source, and releases nothing. -/
theorem yields_talkStop_round {ω : Type} [World ω] (link : RelayLink) (live : LiveSession)
    (s : Supervisor) :
    Yields (ω := ω) (s.talkStop link live) fun es _ => Round live.id false es := by
  rw [talkStop]
  cases s.flags.talking
  · exact yields_pure ((attachesNothing_of_quiet (List.forall_mem_nil _)).round _)
  refine (yields_stopAll live.media).bind_eq fun _ => (yields_send link (.start .talk false)).bind
    fun es r hsend => yields_ask_bind _ fun _ => yields_pure ?_
  have hquiet := List.forall_mem_append.mpr
    ⟨quiet_sends hsend, List.forall_mem_singleton.mpr (quiet_shown (.localMedia false))⟩
  exact ((attachesNothing_stops live.media).append (attachesNothing_of_quiet hquiet)).round _

/-- Beginning to talk attaches the source, or stops it where the peer refuses. -/
theorem yields_talkStart_round {ω : Type} [World ω] (link : RelayLink) (live : LiveSession)
    (s : Supervisor) :
    Yields (ω := ω) (s.talkStart link live) fun es _ => Round live.id true es := by
  rw [talkStart]
  cases s.canTalk live
  · exact yields_pure ((attachesNothing_of_quiet (List.forall_mem_nil _)).round _)
  refine yields_ask_bind _ fun acquired => ?_
  obtain e | source := acquired
  · have hquiet := List.forall_mem_singleton.mpr
      (show IsQuiet (.asked .acquireMedia (.error e)) from fun _ _ => rfl)
    exact yields_pure ((attachesNothing_of_quiet hquiet).round _)
  refine yields_ask_bind _ fun attached => ?_
  obtain e | ⟨⟩ := attached
  · refine yields_ask_bind _ fun _ => yields_pure ?_
    have hquiet : ∀ x ∈ [Entry.asked .acquireMedia (.ok source),
        Machine.told live.id (.attachMedia source) (.error e)], IsQuiet x :=
      List.forall_mem_cons.mpr ⟨fun _ _ => rfl, List.forall_mem_singleton.mpr fun _ _ => rfl⟩
    exact ((attachesNothing_of_quiet hquiet).append (attachesNothing_stops [source])).round _
  rw [talkOver]
  refine (yields_send link (.start .talk true)).bind fun es r hstart =>
    (Machine.yields_offer (yields_writes link) false live.machine).bind fun fs r hoffer => ?_
  have hstarted : AttachesNothing live.id es := attachesNothing_of_quiet (quiet_sends hstart)
  have hoffered := hstarted.append (attachesNothing_of_quiet (quiet_signals hoffer.signals))
  obtain ⟨e | ⟨⟩, m⟩ := r
  · refine (yields_stopAll _).bind_eq fun _ => (yields_send link (.start .talk false)).bind_pure
      fun gs r hstop => ?_
    refine round_attach source ?_
    rw [← List.append_assoc]
    exact hoffered.append ((attachesNothing_stops _).append
      (attachesNothing_of_quiet (quiet_sends hstop)))
  · refine yields_ask_bind _ fun _ => yields_pure (round_attach source ?_)
    rw [← List.append_assoc]
    exact hoffered.append (attachesNothing_of_quiet (List.forall_mem_singleton.mpr (quiet_shown _)))

/-- **A command to begin or to end talking** is a round. -/
theorem yields_talk_round {ω : Type} [World ω] (link : RelayLink) (start : Bool) {s : Supervisor}
    {live : LiveSession} (hs : s.session = some live) :
    Yields (ω := ω) (s.talk link start) fun es _ => Round live.id start es := by
  rw [talk, hs]
  cases start
  · exact yields_talkStop_round link live s
  · exact yields_talkStart_round link live s

end

end

/-! ## Runs -/

section
variable {config : ClientConfig} {record : List Entry} {steps : List Step} {s : Supervisor}

/-- On a trail the senders of the current session and its media agree. -/
theorem Trail.sendersFollow (ht : Trail config record s) {live : LiveSession}
    (hs : s.session = some live) :
    unstopped (sendersOf live.id record) = live.media
      ∧ (AllReleased record → Unconnected live.machine.state → sendersOf live.id record = []) := by
  induction ht generalizing live with
  | start => cases hs
  | aside _ hes ih =>
    rw [sendersOf, after_append, after_quiet fun e he => quiet_aside (hes e he)]
    exact ⟨(ih hs).1, fun hall => (ih hs).2 hall.left⟩
  | move before hm ih =>
    rw [sendersOf, after_append]
    obtain ⟨old, hold, hid, hsenders⟩ | ⟨hmedia, hnone⟩ :=
      hm.followsSenders before.followsMicrophone.2 hs
    · rw [← hid]
      refine ⟨hsenders.unstopped _ (ih hold).1, fun hall => ?_⟩
      exact hsenders.withdrawn hall.right _ ((ih hold).2 hall.left)
    · rw [hnone, hmedia]
      exact ⟨rfl, fun _ _ => rfl⟩

/-- What is said of what is attached to the peers of a run. -/
structure Publishes (steps : List Step) (s : Supervisor) : Prop where
  /-- What is attached to the current peer and was not stopped is the media of the session. -/
  live : ∀ live, s.session = some live →
    unstopped (sendersOf live.id (recordOf steps)) = live.media
  /-- That is one source while the viewer talks, and none otherwise. -/
  single : ∀ live, s.session = some live → live.media.length = if s.flags.talking then 1 else 0
  /-- Nothing is attached in a session that is not connected yet, or not any more, if all releases
  were granted. -/
  withdrawn : AllReleased (recordOf steps) → ∀ live, s.session = some live →
    Unconnected live.machine.state → sendersOf live.id (recordOf steps) = []
  /-- A command to begin or to end talking releases nothing; it attaches one source at most, and
  none to end. -/
  rounds : ∀ before step later start live, steps = before ++ step :: later →
    step.call = .command (.talk start) → step.before.session = some live →
      Round live.id start step.made

/-- **What is attached and not stopped is the media of the session**; what was stopped stays
attached until the connection is lost. -/
theorem Run.publishes (hr : Run config steps s) : Publishes steps s := by
  refine ⟨fun live hs => (hr.trail.sendersFollow hs).1, fun live hs => ?_, fun hall live hs =>
    (hr.trail.sendersFollow hs).2 hall, fun before step later start live hsteps hcall hs => ?_⟩
  · have hd := hr.trail.followsMicrophone.2
    cases htalk : s.flags.talking
    · rw [hd.silent htalk live hs]
      rfl
    · obtain ⟨other, hother, source, hsource, -⟩ := hd.talking htalk
      obtain rfl := Option.some.inj (hs.symm.trans hother)
      rw [hsource]
      rfl
  · obtain ⟨-, hmay⟩ := hr.split hsteps
    rw [hcall] at hmay
    exact hmay.spec fun ω _ => yields_talk_round step.link start hs

/-- The viewer talks, and stops. -/
def stoppedTalkSteps : List Step :=
  let first := play (new talkingConfig) sampleLink .linkOpen
  let second := first.after.play sampleLink (.peer ⟨1, .connectivity .connected⟩)
  let third := second.after.play sampleLink (.command (.talk true))
  [first, second, third, third.after.play sampleLink (.command (.talk false))]

/-- The viewer does not talk any more, and the session has no media. -/
theorem run_stoppedTalkSteps :
    ∃ s live, Run talkingConfig stoppedTalkSteps s ∧ s.session = some live
    ∧ s.flags.talking = false ∧ live.id = 1 ∧ live.media = [] := by
  have hstart : Run talkingConfig [] (new talkingConfig) := .start
  have hfirst := hstart.play sampleLink .linkOpen
  have hsecond := hfirst.play sampleLink (.peer ⟨1, .connectivity .connected⟩)
  have hthird := hsecond.play sampleLink (.command (.talk true))
  exact ⟨_, _, hthird.play sampleLink (.command (.talk false)), rfl, rfl, rfl, rfl⟩

/-- The session of the sample has no media, as the theorem says of it. -/
theorem publishes_stoppedTalkSteps : ∃ s live, Run talkingConfig stoppedTalkSteps s
    ∧ Publishes stoppedTalkSteps s ∧ s.session = some live ∧ live.media = [] := by
  obtain ⟨s, live, hr, hs, -, -, hmedia⟩ := run_stoppedTalkSteps
  exact ⟨s, live, hr, hr.publishes, hs, hmedia⟩

/-- What the viewer stopped stays attached: every release was granted, for none was asked. -/
theorem not_withdrawn_stoppedTalkSteps : ∃ s live, Run talkingConfig stoppedTalkSteps s
    ∧ AllReleased (recordOf stoppedTalkSteps) ∧ s.session = some live ∧ s.flags.talking = false
    ∧ live.media = [] ∧ sources (sendersOf live.id (recordOf stoppedTalkSteps)) = [default] := by
  obtain ⟨s, live, hr, hs, htalk, hid, hmedia⟩ := run_stoppedTalkSteps
  refine ⟨s, live, hr, ?_, hs, htalk, hmedia, ?_⟩
  · rw [AllReleased]
    decide
  · rw [hid]
    decide

end

end Supervisor

end CameraViewer.Session
