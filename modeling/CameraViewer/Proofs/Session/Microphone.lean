import CameraViewer.Proofs.Session.Lives

/-!
# Proofs/Session/Microphone — the microphone is live only while the viewer talks

Sources of media are acquired, stopped, and told of to the viewer; `microphone` reads off a record
which are live and what the viewer was told last. Every move keeps that reading in step with the
supervisor (`Move.followsMicrophone`), and also that it has a source only to talk over it
(`TalksOverOneSource`): in a session that is connected or about to be. `Run.muted` draws the
conclusion.
-/

namespace CameraViewer.Session

open Config Link Negotiation Peer Signal Transfer World

/-! ## What the record says of the microphone

The microphone is read off the record alone, so that what is said of it does not rest on the flags
of the supervisor. -/

/-- What was made of the microphone. -/
structure Microphone where
  /-- The sources that were acquired and not stopped, the oldest first. -/
  live : List LocalMedia := []
  /-- What the viewer was told last. -/
  sending : Bool := false
deriving DecidableEq

namespace Microphone

/-- What an entry makes of it. -/
def next (mic : Microphone) : Entry → Microphone
  | .asked .acquireMedia (.ok source) => { mic with live := mic.live ++ [source] }
  | .asked (.stopMedia source) _ => { mic with live := mic.live.erase source }
  | .asked (.tell (.localMedia sending)) _ => { mic with sending }
  | _ => mic

/-- What a record makes of it. -/
def after (mic : Microphone) (record : List Entry) : Microphone := record.foldl next mic

/-- An entry that has nothing to do with it. -/
def IsQuiet (e : Entry) : Prop := ∀ mic : Microphone, mic.next e = mic

variable {mic : Microphone} {es fs : List Entry}

@[simp] theorem after_nil : mic.after [] = mic := rfl

@[simp] theorem after_cons (e : Entry) : mic.after (e :: es) = (mic.next e).after es := rfl

@[simp] theorem after_append : mic.after (es ++ fs) = (mic.after es).after fs := List.foldl_append

theorem after_quiet (h : ∀ e ∈ es, IsQuiet e) : mic.after es = mic := by
  refine List.foldlRecOn (motive := (· = mic)) es next rfl fun m hm e he => ?_
  rw [h e he m, hm]

/-- Stopping all that is live leaves nothing live. -/
theorem after_stops (media : List LocalMedia) (sending : Bool) :
    (⟨media, sending⟩ : Microphone).after (stops media) = ⟨[], sending⟩ := by
  induction media with
  | nil => rfl
  | cons source rest ih =>
    have hnext : (⟨source :: rest, sending⟩ : Microphone).next (.asked (.stopMedia source) ())
        = ⟨rest, sending⟩ := by
      rw [next, List.erase_cons_head]
    rw [stops, List.map_cons, after_cons, hnext]
    exact ih

/-! ### What is quiet -/

theorem quiet_of_backstage (h : ∀ e ∈ es, IsBackstage e) : ∀ e ∈ es, IsQuiet e := by
  intro e he mic
  cases h e he <;> rfl

theorem quiet_shownTransfers (reports : List TransferProgress) :
    ∀ e ∈ shownTransfers reports, IsQuiet e :=
  List.forall_mem_map.mpr fun _ _ _ => rfl

theorem quiet_shownChange (before : Connectivity) (m : Machine) :
    ∀ e ∈ shownChange before m, IsQuiet e := by
  rw [shownChange]
  split_ifs
  · exact List.forall_mem_nil _
  · exact List.forall_mem_singleton.mpr fun _ => rfl

theorem quiet_shown {e : ViewerEvent} (he : e.IsPlain) : IsQuiet (shown e) := by
  intro mic
  cases e with
  | localMedia => exact he.elim
  | _ => rfl

theorem quiet_aside {e : Entry} (h : Supervisor.IsAside e) : IsQuiet e := by
  intro mic
  cases h <;> rfl

/-- The end of all publishing. -/
theorem after_releases (live : LiveSession) (released : Except PeerError ℕ) (sending : Bool) :
    (⟨live.media, sending⟩ : Microphone).after (Supervisor.releases live released)
      = ⟨[], sending⟩ := by
  rw [Supervisor.releases, after_append, after_stops]
  rfl

end Microphone

/-- The microphone by a record. -/
def microphone (record : List Entry) : Microphone := Microphone.after {} record

namespace Supervisor

open Microphone

/-! ## Moves -/

/-- The microphone as a supervisor has it. -/
def microphone (s : Supervisor) : Microphone := ⟨(s.session.map (·.media)).getD [], s.flags.talking⟩

/-- A state in which media may go on. -/
def MayTalk (state : Connectivity) : Prop := state = .connected ∨ state = .connecting

/-- A supervisor that has a source of media only to talk over it. -/
structure TalksOverOneSource (s : Supervisor) : Prop where
  talking : s.flags.talking = true → ∃ live, s.session = some live ∧ ∃ source, live.media = [source]
    ∧ s.config.talkBack = true ∧ MayTalk live.machine.state
  silent : s.flags.talking = false → ∀ live, s.session = some live → live.media = []

section
variable {P : Grant} {l : RelayLink} {s s' : Supervisor} {es : List Entry}
  {live live' : LiveSession}

theorem microphone_eq_some (hs : s.session = some live) :
    s.microphone = ⟨live.media, s.flags.talking⟩ := by
  rw [microphone, hs]
  rfl

theorem microphone_eq_none (hs : s.session = none) : s.microphone = ⟨[], s.flags.talking⟩ := by
  rw [microphone, hs]
  rfl

/-- Nobody talks without a session. -/
theorem TalksOverOneSource.talking_eq_false (hd : s.TalksOverOneSource) (hs : s.session = none) :
    s.flags.talking = false := by
  refine Bool.eq_false_iff.mpr fun htalk => ?_
  obtain ⟨live, hlive, -⟩ := hd.talking htalk
  rw [hs] at hlive
  cases hlive

/-- A session changes, but neither its media nor what its state allows. -/
theorem TalksOverOneSource.congr (hd : s.TalksOverOneSource) (hs : s.session = some live)
    (hs' : s'.session = some live') (hmedia : live'.media = live.media)
    (hflags : s'.flags = s.flags) (hconfig : s'.config = s.config)
    (hstate : MayTalk live.machine.state → MayTalk live'.machine.state) :
    s'.TalksOverOneSource := by
  refine ⟨fun htalk => ?_, fun htalk other hother => ?_⟩
  · obtain ⟨other, hother, source, hsource, hback, hmay⟩ := hd.talking (hflags ▸ htalk)
    obtain rfl := Option.some.inj (hs.symm.trans hother)
    exact ⟨live', hs', source, hmedia.trans hsource, hconfig ▸ hback, hstate hmay⟩
  · obtain rfl := Option.some.inj (hs'.symm.trans hother)
    exact hmedia.trans (hd.silent (hflags ▸ htalk) live hs)

/-- Without media nobody talks. -/
theorem talksOverOneSource_of_silent (htalk : s.flags.talking = false)
    (hmedia : ∀ live, s.session = some live → live.media = []) : s.TalksOverOneSource :=
  ⟨fun h => absurd (htalk.symm.trans h) Bool.false_ne_true, fun _ => hmedia⟩

/-- The microphone goes along with the record, and the supervisor has a source of media only to talk
over it. -/
structure FollowsMicrophone (s : Supervisor) (es : List Entry) (s' : Supervisor) : Prop where
  microphone : s.microphone.after es = s'.microphone
  talksOverOneSource : s'.TalksOverOneSource

/-- A move that has nothing to do with the microphone. -/
theorem followsMicrophone_of_quiet (hes : ∀ e ∈ es, IsQuiet e)
    (hsame : s'.microphone = s.microphone) (hd : s'.TalksOverOneSource) :
    FollowsMicrophone s es s' :=
  ⟨(after_quiet hes).trans hsame.symm, hd⟩

/-- The current session changes, but neither its media nor what its state allows. -/
theorem followsMicrophone_of_congr (hd : s.TalksOverOneSource) (hes : ∀ e ∈ es, IsQuiet e)
    (hs : s.session = some live) (hs' : s'.session = some live') (hmedia : live'.media = live.media)
    (hflags : s'.flags = s.flags) (hconfig : s'.config = s.config)
    (hstate : MayTalk live.machine.state → MayTalk live'.machine.state) :
    FollowsMicrophone s es s' := by
  refine followsMicrophone_of_quiet hes ?_ (hd.congr hs hs' hmedia hflags hconfig hstate)
  rw [microphone_eq_some hs, microphone_eq_some hs', hmedia, hflags]

/-- A negotiation that goes on leaves the state, unless it starts to connect. -/
theorem state_or_of_continues {H : Envelope → List Entry → Prop} {m m' : Machine} {c : Machine.Call}
    {r : Machine.Outcome} (hcall : Continues c) (h : Machine.Performs H m c es r m') :
    m'.state = m.state ∨ m'.state = .connecting := by
  cases h with
  | descriptor h => exact h.state_or
  | candidate h => exact .inl h.state_eq
  | offer h => exact h.state_or
  | report | stop => exact hcall.elim

theorem mayTalk_of_continues {H : Envelope → List Entry → Prop} {m m' : Machine} {c : Machine.Call}
    {r : Machine.Outcome} (hcall : Continues c) (h : Machine.Performs H m c es r m')
    (hmay : MayTalk m.state) : MayTalk m'.state := by
  rcases state_or_of_continues hcall h with hsame | hconnecting
  · rwa [hsame]
  · exact .inr hconnecting

/-- Media may go on after a report that does not end the connection. -/
theorem mayTalk_of_reports {H : Envelope → List Entry → Prop} {m m' : Machine}
    {reported : Connectivity} {change : Option Transition}
    (h : Machine.Reports H m reported es change m')
    (hstate : m'.state = m.state
      ∨ m'.state ≠ .disconnected ∧ m'.state ≠ .failed ∧ m'.state ≠ .closed)
    (hmay : MayTalk m.state) : MayTalk m'.state := by
  have hnew : m.state ≠ .new := by rcases hmay with h | h <;> simp [h]
  rcases hstate with hsame | ⟨hdisconnected, hfailed, hclosed⟩
  · rwa [hsame]
  rcases (h.moves fun _ => hnew).move with hsame | hmove
  · rwa [hsame]
  · cases hm : m'.state with
    | new =>
      rw [hm] at hmove
      rcases hmay with h | h <;> simp [h, Connectivity.canMoveTo] at hmove
    | connecting => exact .inr rfl
    | connected => exact .inl rfl
    | disconnected | failed | closed => contradiction

/-- What a negotiation makes of its state, and what the viewer is told of that, is quiet. -/
theorem quiet_negotiated {m : Machine} {before : Connectivity} {session : ℕ} {record : List Entry}
    (h : ∀ e ∈ es, Machine.Made (Writes l) session record e) :
    ∀ e ∈ es ++ shownChange before m, IsQuiet e :=
  List.forall_mem_append.mpr ⟨quiet_of_backstage (backstage_negotiation h), quiet_shownChange _ _⟩

/-- The end of a session stops its media, and the viewer is told if there was any talk. -/
theorem TearsDown.microphone (h : TearsDown s live es s') :
    (⟨live.media, s.flags.talking⟩ : Microphone).after es = ⟨[], false⟩ := by
  cases h with
  | @intro es change m released hstop =>
    have hes : ∀ e ∈ es, IsQuiet e :=
      quiet_of_backstage (backstage_negotiation (l := default) hstop.entries)
    rw [after_append, after_releases, after_append,
      after_quiet (quiet_of_backstage (backstage_closes live)), after_append,
      after_quiet (quiet_shownTransfers _), after_append, after_quiet hes, after_append,
      after_quiet (quiet_shownChange _ _), shownSilence]
    split_ifs with hlive
    · rfl
    · rw [Bool.or_eq_true, not_or, Bool.not_eq_true, Bool.not_eq_true] at hlive
      rw [hlive.2, after_nil]

/-- The end of a session silences the microphone on both sides. -/
theorem TearsDown.followsMicrophone (h : TearsDown s live es s') (hs : s.session = some live) :
    FollowsMicrophone s es s' := by
  have hmic := h.microphone
  cases h
  refine ⟨?_, talksOverOneSource_of_silent rfl fun _ h => nomatch h⟩
  rw [microphone_eq_some hs]
  exact hmic

/-- A session that takes up talking has no source yet. -/
theorem microphone_of_canTalk (hd : s.TalksOverOneSource) (hs : s.session = some live)
    (htalk : s.canTalk live = true) : live.media = [] ∧ s.microphone = ⟨[], false⟩ := by
  have hsilent := (of_canTalk htalk).2.1
  have hmedia := hd.silent hsilent live hs
  rw [microphone_eq_some hs, hmedia, hsilent]
  exact ⟨rfl, rfl⟩

/-- To take up talking a source is acquired, attached, announced and offered; it is live from the
first of these on. -/
theorem after_acquired (source : LocalMedia) {session : ℕ} {e : Envelope}
    {r : Except LinkError Unit} {m m' : Machine} {offered : Except PeerError Unit}
    (hstart : Sends l e es r) (hoffer : Machine.Offers (Writes l) false m fs offered m')
    (gs : List Entry) :
    (⟨[], false⟩ : Microphone).after (.asked .acquireMedia (.ok source)
      :: Machine.told session (.attachMedia source) (.ok ()) :: (es ++ (fs ++ gs)))
      = (⟨[source], false⟩ : Microphone).after gs := by
  have hfs : ∀ e ∈ fs, IsQuiet e := quiet_of_backstage (backstage_negotiation hoffer.entries)
  rw [after_cons, after_cons, after_append, after_quiet (quiet_of_backstage hstart.backstage),
    after_append, after_quiet hfs]
  rfl

/-- **Every move keeps the microphone in step with the record**, and media only to talk over it. -/
theorem Move.followsMicrophone (hd : s.TalksOverOneSource) (h : Move P l s es s') :
    FollowsMicrophone s es s' := by
  cases h with
  | tell he =>
    exact followsMicrophone_of_quiet (List.forall_mem_singleton.mpr (quiet_shown he)) rfl hd
  | send _ h | candidate _ _ h =>
    exact followsMicrophone_of_quiet (quiet_of_backstage h.backstage) rfl hd
  | servers | control | recording =>
    exact followsMicrophone_of_quiet (List.forall_mem_nil _) rfl ⟨hd.talking, hd.silent⟩
  | catalog =>
    refine followsMicrophone_of_quiet (List.forall_mem_singleton.mpr fun _ => rfl) rfl ?_
    exact ⟨hd.talking, hd.silent⟩
  | enqueue _ _ h | drained _ _ h =>
    refine followsMicrophone_of_quiet (List.forall_mem_append.mpr ⟨?_, quiet_shownTransfers _⟩)
      rfl ?_
    · exact quiet_of_backstage (backstage_asks h.entries)
    · exact ⟨hd.talking, hd.silent⟩
  | negotiate hs hcall h =>
    exact followsMicrophone_of_congr hd (quiet_negotiated h.entries) hs rfl rfl rfl rfl
      (mayTalk_of_continues hcall h)
  | report hs h hstate =>
    exact followsMicrophone_of_congr hd (quiet_negotiated h.entries) hs rfl rfl rfl rfl
      (mayTalk_of_reports h hstate)
  | @degrade live reported es change m hs h _ _ released =>
    refine ⟨?_, talksOverOneSource_of_silent rfl fun _ h => by cases h; rfl⟩
    have hreleases := after_releases { live with machine := m } released s.flags.talking
    rw [microphone_eq_some hs, ← List.append_assoc, after_append,
      after_quiet (quiet_negotiated h.entries), after_append, hreleases]
    rfl
  | @collapse live reported es fs change m s' hs h _ _ hend =>
    have hfollows := hend.followsMicrophone rfl
    refine ⟨?_, hfollows.talksOverOneSource⟩
    rw [microphone_eq_some hs, ← List.append_assoc, after_append,
      after_quiet (quiet_negotiated h.entries)]
    exact hfollows.microphone
  | channel hs => exact followsMicrophone_of_congr hd (List.forall_mem_nil _) hs rfl rfl rfl rfl id
  | attach hs _ _ _ _ h =>
    refine followsMicrophone_of_congr hd ?_ hs rfl rfl rfl rfl id
    refine List.forall_mem_append.mpr ⟨?_, quiet_shownTransfers _⟩
    exact quiet_of_backstage (backstage_asks h.entries)
  | detach hs => exact followsMicrophone_of_congr hd (quiet_shownTransfers _) hs rfl rfl rfl rfl id
  | talkDenied =>
    exact followsMicrophone_of_quiet (List.forall_mem_singleton.mpr fun _ => rfl) rfl hd
  | talkRefused hs htalk source e =>
    refine ⟨?_, hd⟩
    rw [(microphone_of_canTalk hd hs htalk).2]
    change (⟨[source].erase source, false⟩ : Microphone) = _
    rw [List.erase_cons_head]
  | @talkFailed live es fs gs e r r' m hs htalk source hstart hoffer hstop =>
    obtain ⟨hmedia, hmic⟩ := microphone_of_canTalk hd hs htalk
    have hsilent := (of_canTalk htalk).2.1
    refine ⟨?_, talksOverOneSource_of_silent hsilent fun _ h => by cases h; rfl⟩
    rw [hmic, hmedia, after_acquired source hstart hoffer, List.nil_append, after_append,
      after_stops, after_quiet (quiet_of_backstage hstop.backstage), Supervisor.microphone, hsilent]
    rfl
  | @talkStarted live es fs r m hs htalk source hstart hoffer =>
    obtain ⟨hmedia, hmic⟩ := microphone_of_canTalk hd hs htalk
    obtain ⟨hback, -, hconnected⟩ := of_canTalk htalk
    have hsource : live.media ++ [source] = [source] := by rw [hmedia, List.nil_append]
    refine ⟨?_, fun _ => ⟨_, rfl, source, hsource, hback, .inl ?_⟩, fun h => nomatch h⟩
    · rw [hmic, after_acquired source hstart hoffer]
      change (⟨[source], true⟩ : Microphone) = ⟨live.media ++ [source], true⟩
      rw [hsource]
    · exact (hoffer.state_eq hconnected).trans hconnected
  | talkStopped hs _ hstop =>
    refine ⟨?_, talksOverOneSource_of_silent rfl fun _ h => by cases h; rfl⟩
    rw [microphone_eq_some hs, after_append, after_stops, after_append,
      after_quiet (quiet_of_backstage hstop.backstage)]
    rfl
  | teardown hs h => exact h.followsMicrophone hs
  | clear hs =>
    have hsilent := hd.talking_eq_false hs
    refine followsMicrophone_of_quiet (List.forall_mem_nil _) ?_
      (talksOverOneSource_of_silent rfl fun _ h => ?_)
    · rw [microphone_eq_none hs, hsilent]
      exact microphone_eq_none hs
    · exact absurd (hs.symm.trans h) nofun
  | refused hs =>
    refine followsMicrophone_of_quiet (List.forall_mem_singleton.mpr fun _ => rfl) rfl ?_
    exact ⟨hd.talking, hd.silent⟩
  | created hs =>
    have hsilent := hd.talking_eq_false hs
    refine followsMicrophone_of_quiet ?_ ?_
      (talksOverOneSource_of_silent hsilent fun _ h => by cases h; rfl)
    · exact List.forall_mem_cons.mpr ⟨fun _ => rfl, List.forall_mem_singleton.mpr fun _ => rfl⟩
    · rw [microphone_eq_none hs]
      rfl

/-! ## Runs -/

variable {config : ClientConfig} {record : List Entry} {steps : List Step}

/-- On a trail the record and the supervisor agree on the microphone. -/
theorem Trail.followsMicrophone (ht : Trail config record s) :
    Session.microphone record = s.microphone ∧ s.TalksOverOneSource := by
  induction ht with
  | start => exact ⟨rfl, talksOverOneSource_of_silent rfl fun _ h => nomatch h⟩
  | aside _ hes ih =>
    rw [Session.microphone, after_append, after_quiet fun e he => quiet_aside (hes e he)]
    exact ih
  | move _ hm ih =>
    have hfollows := hm.followsMicrophone ih.2
    rw [Session.microphone, after_append, ← Session.microphone, ih.1]
    exact ⟨hfollows.microphone, hfollows.talksOverOneSource⟩

/-- What is said of the microphone. -/
structure Muted (config : ClientConfig) (record : List Entry) (s : Supervisor) : Prop where
  /-- While nobody talks, every source that was acquired has been stopped. -/
  silent : s.flags.talking = false → (Session.microphone record).live = []
  /-- Whoever talks does so over one source, the only media of the current session, which is
  connected or about to be, and has leave to talk. -/
  talking : s.flags.talking = true → ∃ live source, s.session = some live
    ∧ (Session.microphone record).live = [source] ∧ live.media = [source]
    ∧ config.talkBack = true ∧ (live.machine.state = .connected ∨ live.machine.state = .connecting)
  /-- Nobody talks without a session. -/
  alone : s.session = none → s.flags.talking = false
  /-- The viewer knows. -/
  told : (Session.microphone record).sending = s.flags.talking

/-- **The microphone is live only while the viewer talks**, and the viewer is told. -/
theorem Run.muted (hr : Run config steps s) : Muted config (recordOf steps) s := by
  obtain ⟨hmic, hd⟩ := hr.trail.followsMicrophone
  refine ⟨fun hsilent => ?_, fun htalk => ?_, hd.talking_eq_false, ?_⟩
  · rw [hmic]
    cases hs : s.session with
    | none => rw [microphone_eq_none hs]
    | some live => rw [microphone_eq_some hs, hd.silent hsilent live hs]
  · obtain ⟨live, hs, source, hsource, hback, hmay⟩ := hd.talking htalk
    refine ⟨live, source, hs, ?_, hsource, hr.trail.config_eq ▸ hback, hmay⟩
    rw [hmic, microphone_eq_some hs, hsource]
  · rw [hmic]
    rfl

/-- A setup with leave to talk. -/
def talkingConfig : ClientConfig := { talkBack := true }

/-- The viewer talks, and the connection is restarted meanwhile. -/
def talkingSteps : List Step :=
  let first := play (new talkingConfig) sampleLink .linkOpen
  let second := first.after.play sampleLink (.peer ⟨1, .connectivity .connected⟩)
  let third := second.after.play sampleLink (.command (.talk true))
  [first, second, third, third.after.play sampleLink (.peer ⟨1, .connectivity .failed⟩)]

/-- The microphone of the sample stays live, in a session that is about to be connected. -/
theorem muted_talkingSteps : ∃ s, Run talkingConfig talkingSteps s
    ∧ Muted talkingConfig (recordOf talkingSteps) s ∧ s.flags.talking = true
    ∧ s.connectivity = some .connecting
    ∧ (Session.microphone (recordOf talkingSteps)).live ≠ [] := by
  have hstart : Run talkingConfig [] (new talkingConfig) := .start
  have hfirst := hstart.play sampleLink .linkOpen
  have hsecond := hfirst.play sampleLink (.peer ⟨1, .connectivity .connected⟩)
  have hthird := hsecond.play sampleLink (.command (.talk true))
  have hr := hthird.play sampleLink (.peer ⟨1, .connectivity .failed⟩)
  exact ⟨_, hr, hr.muted, by decide, by decide, by decide⟩

end

end Supervisor

end CameraViewer.Session
