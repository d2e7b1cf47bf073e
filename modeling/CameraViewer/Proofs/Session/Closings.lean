import CameraViewer.Proofs.Session.Endings

/-!
# Proofs/Session/Closings — which peers are closed

A peer is asked for something only while its session is the current one, and it is closed when that
session is stopped or replaced. A session that ends because its peer reports that it is closed has
a negotiation that is closed already, and ending that closes no peer (`Collapses.closings_eq`).
`Run.closesPeers` tells apart what becomes of the peers of a run: each one is closed at most once,
and left alone from then on.
-/

namespace CameraViewer.Session

open Channel Config Control Link Negotiation Peer Signal Transfer World

/-! ## Entries that are for no peer -/

theorem Sends.addressee {link : RelayLink} {e : Envelope} {es : List Entry}
    {r : Except LinkError Unit} (h : Sends link e es r) : ∀ x ∈ es, addressee? x = none := by
  cases h with
  | written => exact List.forall_mem_singleton.mpr rfl
  | unsent => exact List.forall_mem_nil _

theorem closings_writes (link : RelayLink) (e : Envelope) (es : List Entry) (h : Writes link e es) :
    closings es = [] := by
  obtain ⟨r, h⟩ := h
  exact closings_eq_nil h.addressee

theorem closings_asks {channel : Option ChannelHandle} {es : List Entry}
    (h : ∀ x ∈ es, TransferQueue.Asks channel x) : closings es = [] :=
  closings_eq_nil fun x hx => by cases h x hx <;> rfl

@[simp] theorem closings_stops (media : List LocalMedia) : closings (stops media) = [] :=
  closings_eq_nil (List.forall_mem_map.mpr fun _ _ => rfl)

@[simp] theorem closings_shownTransfers (reports : List TransferProgress) :
    closings (shownTransfers reports) = [] :=
  closings_eq_nil (List.forall_mem_map.mpr fun _ _ => rfl)

theorem addressee_shownChange (before : Connectivity) (m : Machine) :
    ∀ x ∈ shownChange before m, addressee? x = none := by
  rw [shownChange]
  split_ifs
  · exact List.forall_mem_nil _
  · exact List.forall_mem_singleton.mpr rfl

@[simp] theorem closings_shownChange (before : Connectivity) (m : Machine) :
    closings (shownChange before m) = [] :=
  closings_eq_nil (addressee_shownChange before m)

namespace Supervisor

@[simp] theorem closings_releases (live : LiveSession) (released : Except PeerError ℕ) :
    closings (releases live released) = [] := by
  rw [releases, closings_append, closings_stops]
  rfl

@[simp] theorem closings_closes (live : LiveSession) : closings (closes live) = [] :=
  closings_eq_nil (List.forall_mem_map.mpr fun _ _ => rfl)

theorem addressee_shownSilence (live : LiveSession) (s : Supervisor) :
    ∀ x ∈ shownSilence live s, addressee? x = none := by
  rw [shownSilence]
  split_ifs
  · exact List.forall_mem_singleton.mpr rfl
  · exact List.forall_mem_nil _

@[simp] theorem closings_shownSilence (live : LiveSession) (s : Supervisor) :
    closings (shownSilence live s) = [] :=
  closings_eq_nil (addressee_shownSilence live s)

/-! ## Moves

Only the teardown closes a peer, and nothing is asked of the peer after that. -/

section
variable {P : Grant} {l : RelayLink} {s s' : Supervisor} {es : List Entry} {live : LiveSession}
  {id : ℕ}

/-- **The end of a session closes its peer**, unless the negotiation is closed already. -/
theorem TearsDown.closings_eq (h : TearsDown s live es s') :
    closings es = if live.machine.state = .closed then [] else [live.id] := by
  cases h with
  | intro _ hstop => simp [hstop.closings_eq, LiveSession.id]

/-- Only the end of a session closes a peer. -/
theorem Move.closings_or (h : Move P l s es s') :
    closings es = [] ∨ ∃ live, s.session = some live ∧ TearsDown s live es s' := by
  have hsink := closings_writes l
  cases h with
  | tell | servers | catalog | control | recording | channel | clear | talkDenied | talkRefused
  | refused | created => exact .inl rfl
  | send _ h | candidate _ _ h => exact .inl (closings_eq_nil h.addressee)
  | enqueue _ _ h | drained _ _ h | attach _ _ _ _ _ h =>
    exact .inl (by simp [closings_asks h.entries])
  | @negotiate _ c _ _ _ _ hcall h =>
    have hstop : c ≠ .stop := by
      rintro rfl
      exact hcall
    exact .inl (by simp [h.closings_eq hsink hstop])
  | report _ h => exact .inl (by simp [h.closings_eq hsink])
  | degrade _ h =>
    refine .inl ?_
    simp only [closings_append, h.closings_eq hsink, closings_shownChange, closings_releases]
    rfl
  | collapse _ h _ hstate hend =>
    have hnone := hend.closings_eq
    rw [if_pos hstate] at hnone
    exact .inl (by simp [h.closings_eq hsink, hnone])
  | detach => exact .inl (closings_shownTransfers _)
  | @talkFailed _ es fs gs _ _ _ _ _ _ source hstart hoffer hstop =>
    refine .inl ?_
    change closings (es ++ (fs ++ (stops _ ++ gs))) = []
    simp [closings_eq_nil hstart.addressee, closings_eq_nil hstop.addressee,
      hoffer.closings_eq hsink]
  | @talkStarted _ es fs _ _ _ _ source hstart hoffer =>
    refine .inl ?_
    change closings (es ++ (fs ++ [shown _])) = []
    simp only [closings_append, closings_eq_nil hstart.addressee, hoffer.closings_eq hsink]
    rfl
  | talkStopped _ _ hstop =>
    refine .inl ?_
    simp only [closings_append, closings_stops, closings_eq_nil hstop.addressee]
    rfl
  | teardown hs h => exact .inr ⟨_, hs, h⟩

/-- A record that closes nobody is sealed. -/
theorem sealed_of_closings (h : closings es = []) :
    Throughout (fun before e => addressee? e ≠ none → closings before = []) es := by
  intro before e after heq _
  rw [heq, closings_append] at h
  exact (List.append_eq_nil_iff.mp h).1

/-- Nobody is asked for anything after the peer is closed. -/
theorem TearsDown.sealed (h : TearsDown s live es s') :
    Throughout (fun before e => addressee? e ≠ none → closings before = []) es := by
  have hclosings := h.closings_eq
  cases h with
  | @intro es change m released hstop =>
    cases hstop with
    | closed hclosed =>
      rw [if_pos hclosed] at hclosings
      exact sealed_of_closings hclosings
    | stopped hopen reply =>
      have hsaid : ∀ x ∈ shownChange live.machine.state live.machine.ended ++ shownSilence live s,
          addressee? x = none :=
        List.forall_mem_append.mpr ⟨addressee_shownChange _ _, addressee_shownSilence _ _⟩
      have hpre : closings (releases live released
          ++ (closes live ++ shownTransfers s.transfers.onChannelClosed.1)) = [] := by simp
      rw [← List.append_assoc (closes live), ← List.append_assoc]
      refine throughout_append.mpr ⟨sealed_of_closings hpre, fun before e after heq hasked => ?_⟩
      -- What comes after the peer was closed is shown to the viewer only.
      rcases before with _ | ⟨x, before⟩
      · rw [List.append_nil]
        exact hpre
      · have hrest : shownChange live.machine.state live.machine.ended ++ shownSilence live s
            = before ++ e :: after := (List.cons.inj heq).2
        rw [hrest] at hsaid
        exact absurd (hsaid e (List.mem_append_right before List.mem_cons_self)) hasked

/-- No move asks anything of a peer it has closed. -/
theorem Move.sealed (h : Move P l s es s') :
    Throughout (fun before e => addressee? e ≠ none → closings before = []) es := by
  rcases h.closings_or with hnone | ⟨live, -, hend⟩
  · exact sealed_of_closings hnone
  · exact hend.sealed

/-- Only the current session has a peer that is asked for something. -/
theorem Move.addressee_eq (h : Move P l s es s') {e : Entry} (he : e ∈ es)
    (hid : addressee? e = some id) : s.sessionId = some id := by
  cases h.entries e he with
  | told hs =>
    rw [sessionId_of_eq_some hs]
    exact hid
  | written _ hx =>
    cases hx
    cases hid
  | shown | used | closed | noted | acquired | stopped | created => cases hid

/-! ## Sessions that are over

A session is numbered by its opening and never comes back, so no move asks anything of the peer of
one that is over (`Moves.gone`). -/

/-- A session that was there and is over. -/
structure Gone (id : ℕ) (s : Supervisor) : Prop where
  le : id ≤ s.lastSession
  other : s.sessionId ≠ some id

/-- Numbers only grow, and a new peer gets a new one. -/
theorem Advance.last_le {p p' : LatestSession} {ls : List (ℕ × Connectivity)} {cs : List (ℕ × Bool)}
    (h : Advance p ls cs p') : p.last ≤ p'.last ∧ ∀ x ∈ cs, p.last < x.1 := by
  cases h <;> simp

theorem LatestOngoing.le_lastSession (ha : s.LatestOngoing) (hid : s.sessionId = some id) :
    id ≤ s.lastSession := by
  obtain ⟨live, hlive, rfl⟩ := Option.map_eq_some_iff.mp hid
  exact (ha live hlive).session.le

/-- No move brings a session back. -/
theorem Move.gone (ha : s.LatestOngoing) (h : Move P l s es s') (hg : Gone id s) : Gone id s' := by
  have htells := h.tellsStates ha
  obtain ⟨hle, hnew⟩ := htells.advance.last_le
  refine ⟨hg.le.trans hle, fun hid => ?_⟩
  rcases htells.current ha hid with hsame | hcreated
  · exact hg.other hsame
  · exact absurd hg.le (hnew _ hcreated).not_ge

/-- **A session that is over stays so**, and nobody asks its peer any more. -/
theorem Moves.gone (ha : s.LatestOngoing) (h : Moves P l s es s') (hg : Gone id s) :
    Gone id s' ∧ ∀ e ∈ es, addressee? e ≠ some id := by
  induction h with
  | refl => exact ⟨hg, List.forall_mem_nil _⟩
  | step first _ ih =>
    obtain ⟨hgone, hrest⟩ := ih (first.tellsStates ha).latestOngoing (first.gone ha hg)
    refine ⟨hgone, List.forall_mem_append.mpr ⟨fun e he hid => ?_, hrest⟩⟩
    exact hg.other (first.addressee_eq he hid)

/-- The numbers of sessions only grow. -/
theorem Moves.lastSession_le (ha : s.LatestOngoing) (h : Moves P l s es s') :
    s.lastSession ≤ s'.lastSession := by
  induction h with
  | refl => exact le_rfl
  | step first _ ih =>
    have htells := first.tellsStates ha
    exact htells.advance.last_le.1.trans (ih htells.latestOngoing)

/-- What was torn down is over. -/
theorem TearsDown.gone (ha : s.LatestOngoing) (hs : s.session = some live)
    (h : TearsDown s live es s') :
    Gone live.id s' := by
  have hid : live.id = s.lastSession := (ha live hs).session
  cases h
  exact ⟨hid.le, nofun⟩

/-- On a trail nobody is asked for anything after its peer was closed, for its session is over. -/
theorem Trail.sealed {config : ClientConfig} {record : List Entry} (ht : Trail config record s) :
    Throughout (fun before e => ∀ id, addressee? e = some id → id ∉ closings before) record
      ∧ ∀ id ∈ closings record, Gone id s := by
  induction ht with
  | start => exact ⟨fun before e after heq => by simp at heq, List.forall_mem_nil _⟩
  | @aside s record es _ hes ih =>
    have haside : ∀ e ∈ es, addressee? e = none := fun e he => by cases hes e he <;> rfl
    refine ⟨throughout_append.mpr ⟨ih.1, fun before e after heq id hid => ?_⟩, ?_⟩
    · have he := haside e (heq ▸ List.mem_append_right before List.mem_cons_self)
      exact absurd (he.symm.trans hid) nofun
    · rw [closings_append, closings_eq_nil haside, List.append_nil]
      exact ih.2
  | @move P l s s' record es before hm ih =>
    have ha := before.tellsHistories.2
    refine ⟨throughout_append.mpr ⟨ih.1, fun front e after heq id hid => ?_⟩, ?_⟩
    · have he : e ∈ es := heq ▸ List.mem_append_right front List.mem_cons_self
      have hnone : closings front = [] := hm.sealed front e after heq (by rw [hid]; exact nofun)
      rw [closings_append, hnone, List.append_nil]
      exact fun hclosed => (ih.2 id hclosed).other (hm.addressee_eq he hid)
    · rw [closings_append]
      refine List.forall_mem_append.mpr ⟨fun id hid => hm.gone ha (ih.2 id hid), fun id hid => ?_⟩
      rcases hm.closings_or with hnone | ⟨live, hs, hend⟩
      · rw [hnone] at hid
        cases hid
      · rw [hend.closings_eq, if_neg (ha live hs).opened] at hid
        obtain rfl := List.mem_singleton.mp hid
        exact hend.gone ha hs

/-! ## Calls -/

/-- A session that goes on, by moves that begin none, has closed no peer. -/
theorem Moves.closings_eq_nil (ha : s.LatestOngoing) (h : Moves P l s es s') (hnew : ¬P.session)
    (hsame : ∀ id, s.sessionId = some id → s'.sessionId = some id) : closings es = [] := by
  induction h with
  | refl => rfl
  | @step s s₁ s' es fs first rest ih =>
    obtain ⟨hkept, hrest⟩ := first.keeps_session ha rest hnew hsame
    have hfirst : closings es = [] := by
      refine first.closings_or.resolve_right ?_
      rintro ⟨live, hs, hend⟩
      exact (hend.gone ha hs).other (hkept live.id (sessionId_of_eq_some hs))
    rw [closings_append, hfirst, ih (first.tellsStates ha).latestOngoing hrest, List.append_nil]

theorem Begins.closings_eq (h : Begins l s es s') : closings es = [] := by
  cases h with
  | refused | started => rfl
  | @offered m es r h =>
    change closings (es ++ shownChange .new m) = []
    rw [closings_append, h.closings_eq (closings_writes l), closings_shownChange, List.append_nil]

/-- The session that begins is the next one. -/
theorem Begins.sessionId_eq (h : Begins l s es s') (hid : s'.sessionId = some id)
    (hs : s.session = none) :
    id = s.lastSession + 1 := by
  cases h with
  | refused => exact absurd hid (sessionId_ne hs id)
  | started => exact (Option.some.inj hid).symm
  | offered h => exact (Option.some.inj hid).symm.trans h.session_eq

/-- It is none of those before. -/
theorem Begins.sessionId_ne (h : Begins l s es s') (hs : s.session = none)
    (hle : id ≤ s.lastSession) :
    s'.sessionId ≠ some id := by
  intro hid
  have hnext := h.sessionId_eq hid hs
  omega

/-- A session that begins with a peer is the current one. -/
theorem Begins.current (h : Begins l s es s') (hid : (id, true) ∈ creations es) :
    s'.sessionId = some id := by
  cases h with
  | refused =>
    replace hid : (id, true) ∈ [(s.lastSession + 1, false)] := hid
    cases (Prod.mk.inj (List.mem_singleton.mp hid)).2
  | started =>
    replace hid : (id, true) ∈ [(s.lastSession + 1, true)] := hid
    rw [(Prod.mk.inj (List.mem_singleton.mp hid)).1]
    rfl
  | @offered m es r h =>
    have hnone : creations (es ++ shownChange .new m) = [] := by
      have hsilent := silent_of_backstage (backstage_negotiation h.entries)
      rw [creations_append, creations_of_silent hsilent, creations_shownChange]
      rfl
    change (id, true) ∈ (s.lastSession + 1, true) :: creations (es ++ shownChange .new m) at hid
    rw [hnone] at hid
    rw [(Prod.mk.inj (List.mem_singleton.mp hid)).1]
    exact congrArg some h.session_eq

/-- Where the peer reports that it is closed, the teardown that follows closes nobody. -/
theorem Collapses.closings_eq (h : Collapses l s live es s') : closings es = [] := by
  cases h with
  | intro h hclosed hend =>
    have hnone := hend.closings_eq
    rw [if_pos hclosed] at hnone
    rw [closings_append, h.closings_eq (closings_writes l)]
    exact hnone

theorem Collapses.session_eq (h : Collapses l s live es s') : s'.session = none := by
  cases h with
  | intro _ _ hend => exact hend.said.2.2.1

/-- A call that ends a session leaves another one, or none. -/
theorem SessionChange.over {c : Call} (h : SessionChange l s c es s') (ha : s.LatestOngoing)
    (hs : s.session = some live) (hends : c.Ends live) : s'.sessionId ≠ some live.id := by
  cases h with
  | stays _ hcall => exact absurd hends (hcall live hs)
  | begins hnone => cases hnone.symm.trans hs
  | replaced hs' hend h =>
    obtain rfl := Option.some.inj (hs.symm.trans hs')
    obtain ⟨-, -, hnone, hlast⟩ := hend.said
    exact h.sessionId_ne hnone ((ha live hs).session.trans hlast.symm).le
  | @stopped _ _ _ between _ _ hend =>
    exact sessionId_ne (s := { between with flags := {} }) hend.said.2.2.1 live.id
  | collapsed _ h => exact sessionId_ne h.session_eq live.id

/-- What a call leaves of the current session and its peer. -/
inductive Leaves (step : Step) : Prop
  /-- The session goes on, if there is one. -/
  | keeps (hsame : ∀ id, step.before.sessionId = some id → step.after.sessionId = some id
      ∧ step.call ≠ .peer ⟨id, .connectivity .closed⟩)
    (hnone : closings step.made = [])
  /-- It is over, and its peer was closed. -/
  | closes {id : ℕ} (hs : step.before.sessionId = some id) (hend : step.after.sessionId ≠ some id)
    (hcall : step.call ≠ .peer ⟨id, .connectivity .closed⟩) (hone : closings step.made = [id])
  /-- It is over, and its peer was not closed. -/
  | abandons {id : ℕ} (hs : step.before.sessionId = some id) (hend : step.after.sessionId ≠ some id)
    (hcall : step.call = .peer ⟨id, .connectivity .closed⟩) (hnone : closings step.made = [])

/-- **What becomes of the session decides what a call leaves of the peer.** -/
theorem SessionChange.leaves {c : Call} (h : SessionChange l s c es s') (ha : s.LatestOngoing)
    (hm : Moves c.grant l s es s') : Leaves ⟨s, l, c, es, s'⟩ := by
  have hover : ∀ live, s.session = some live → c.Ends live → s'.sessionId ≠ some live.id :=
    fun live hs hends => h.over ha hs hends
  cases h with
  | stays hopen hcall hstays =>
    have hsame : ∀ id, s.sessionId = some id → s'.sessionId = some id := fun id =>
      hstays.sessionId_eq ha hm hopen
    refine .keeps (fun id hid => ⟨hsame id hid, ?_⟩) (hm.closings_eq_nil ha hopen hsame)
    obtain ⟨live, hlive, rfl⟩ := Option.map_eq_some_iff.mp hid
    rintro rfl
    exact hcall live hlive .closed
  | begins hs h => exact .keeps (fun id hid => absurd hid (sessionId_ne hs id)) h.closings_eq
  | @replaced live es fs between s' hs hend h =>
    refine .closes (sessionId_of_eq_some hs) (hover live hs .opened) nofun ?_
    change closings (es ++ fs) = [live.id]
    rw [closings_append, hend.closings_eq, if_neg (ha live hs).opened, h.closings_eq]
    rfl
  | @stopped live cmd es between hs hcmd hend =>
    refine .closes (sessionId_of_eq_some hs) (hover live hs (Call.ends_command hcmd)) nofun ?_
    exact hend.closings_eq.trans (if_neg (ha live hs).opened)
  | collapsed hs h =>
    exact .abandons (sessionId_of_eq_some hs) (hover _ hs .closed) rfl h.closings_eq

/-! ## Runs

The fate of a peer is settled by the call that ends its session (`Fate.call`), and every later call
leaves it alone (`Run.apart`). -/

variable {config : ClientConfig} {steps : List Step} {c : Call}

/-- While a session was the current one, its peer reported that it is closed. -/
def ReportedClosed (id : ℕ) (steps : List Step) : Prop :=
  ∃ step ∈ steps, step.before.sessionId = some id
    ∧ step.call = .peer ⟨id, .connectivity .closed⟩

/-- A call more either is such a report, or changes nothing of it. -/
theorem reportedClosed_concat {step : Step} :
    ReportedClosed id (steps ++ [step]) ↔ ReportedClosed id steps
      ∨ step.before.sessionId = some id ∧ step.call = .peer ⟨id, .connectivity .closed⟩ := by
  simp [ReportedClosed, or_and_right, exists_or]

/-- **What every call of a run leaves.** -/
theorem Run.leaves (hr : Run config steps s) (hmay : May (fun _ _ => c.run l s) es s') :
    Leaves ⟨s, l, c, es, s'⟩ := by
  have hready := hr.trail.ready
  have ha := hr.trail.tellsHistories.2
  have hmoves := hmay.spec fun ω _ => yields_run l hready c
  by_cases hclip : ∃ name mime data, c = .command (.sendClip name mime data)
  · obtain ⟨name, mime, data, rfl⟩ := hclip
    have hsame : s'.session = s.session := hmay.returns fun ω _ => session_sendClip name mime data s
    have hid : ∀ id, s.sessionId = some id → s'.sessionId = some id := fun id hid =>
      (congrArg (Option.map LiveSession.id) hsame).trans hid
    exact .keeps (fun id h => ⟨hid id h, nofun⟩) (hmoves.closings_eq_nil ha nofun hid)
  · have hother : ∀ name mime data, c ≠ .command (.sendClip name mime data) :=
      fun name mime data h => hclip ⟨name, mime, data, h⟩
    exact (sessionChange_of_may hready ha hother hmay).leaves ha hmoves

/-- A call gives a peer only to the session it leaves, and that is a new one. -/
theorem Run.current (hr : Run config steps s) (hmay : May (fun _ _ => c.run l s) es s')
    (hid : (id, true) ∈ creations es) : s'.sessionId = some id ∧ s.lastSession < id := by
  by_cases hopen : c = .linkOpen
  · subst hopen
    rcases hmay.spec fun ω _ => yields_begins l s with
      ⟨hs, h⟩ | ⟨live, ended, begun, between, hs, rfl, hend, h⟩
    · have hcurrent := h.current hid
      exact ⟨hcurrent, by rw [h.sessionId_eq hcurrent hs]; exact Nat.lt_succ_self _⟩
    · obtain ⟨-, hcreations, hnone, hlast⟩ := hend.said
      rw [creations_append, hcreations, List.nil_append] at hid
      have hcurrent := h.current hid
      refine ⟨hcurrent, ?_⟩
      rw [h.sessionId_eq hcurrent hnone, hlast]
      exact Nat.lt_succ_self _
  · have hmoves := hmay.spec fun ω _ => yields_run l hr.trail.ready c
    rw [hmoves.creations_eq_nil hopen] at hid
    cases hid

/-- What became of a peer. -/
inductive Fate (id : ℕ) (steps : List Step) (s : Supervisor) : Prop
  /-- Its session is the current one. -/
  | current (hs : s.sessionId = some id) (hreport : ¬ ReportedClosed id steps)
    (hnone : id ∉ closings (recordOf steps))
  /-- It was closed with its session. -/
  | closed (hg : Gone id s) (hreport : ¬ ReportedClosed id steps)
    (hone : (closings (recordOf steps)).count id = 1)
  /-- It had reported that it is closed. -/
  | abandoned (hg : Gone id s) (hreport : ReportedClosed id steps)
    (hnone : id ∉ closings (recordOf steps))

theorem recordOf_concat {step : Step} :
    recordOf (steps ++ [step]) = recordOf steps ++ step.made := by
  rw [recordOf_append, recordOf_singleton]

/-- **What becomes of a peer with a call.** -/
theorem Fate.call (hf : Fate id steps s) (hr : Run config steps s)
    (hmay : May (fun _ _ => c.run l s) es s') : Fate id (steps ++ [⟨s, l, c, es, s'⟩]) s' := by
  have ha := hr.trail.tellsHistories.2
  have hmoves := hmay.spec fun ω _ => yields_run l hr.trail.ready c
  have hgone : ∀ hg : Gone id s, Gone id s' ∧ id ∉ closings es
      ∧ (ReportedClosed id (steps ++ [⟨s, l, c, es, s'⟩]) ↔ ReportedClosed id steps) := by
    intro hg
    obtain ⟨hg', hasked⟩ := hmoves.gone ha hg
    refine ⟨hg', not_mem_closings hasked, ?_⟩
    rw [reportedClosed_concat]
    exact or_iff_left fun h => hg.other h.1
  cases hf with
  | current hs hreport hnone =>
    have hover : s'.sessionId ≠ some id → Gone id s' := fun hend =>
      ⟨(ha.le_lastSession hs).trans (hmoves.lastSession_le ha), hend⟩
    cases hr.leaves hmay with
    | keeps hsame hnone' =>
      obtain ⟨hs', hcall⟩ := hsame id hs
      refine .current hs' ?_ ?_
      · rw [reportedClosed_concat, not_or]
        exact ⟨hreport, fun h => hcall h.2⟩
      · rwa [recordOf_concat, closings_append, hnone', List.append_nil]
    | closes hs' hend hcall hone =>
      obtain rfl := Option.some.inj (hs.symm.trans hs')
      refine .closed (hover hend) ?_ ?_
      · rw [reportedClosed_concat, not_or]
        exact ⟨hreport, fun h => hcall h.2⟩
      · rw [recordOf_concat, closings_append, hone, List.count_append, List.count_eq_zero.mpr hnone,
          List.count_singleton_self]
    | abandons hs' hend hcall hnone' =>
      obtain rfl := Option.some.inj (hs.symm.trans hs')
      refine .abandoned (hover hend) (reportedClosed_concat.mpr (.inr ⟨hs, hcall⟩)) ?_
      rwa [recordOf_concat, closings_append, hnone', List.append_nil]
  | closed hg hreport hone =>
    obtain ⟨hg', hnone', hiff⟩ := hgone hg
    refine .closed hg' (hiff.not.mpr hreport) ?_
    rw [recordOf_concat, closings_append, List.count_append, hone, List.count_eq_zero.mpr hnone']
  | abandoned hg hreport hnone =>
    obtain ⟨hg', hnone', hiff⟩ := hgone hg
    refine .abandoned hg' (hiff.mpr hreport) ?_
    rw [recordOf_concat, closings_append, List.mem_append, not_or]
    exact ⟨hnone, hnone'⟩

/-- Only sessions there have been have peers that report. -/
theorem Run.le_of_reportedClosed (hr : Run config steps s) (hreport : ReportedClosed id steps) :
    id ≤ s.lastSession := by
  induction hr with
  | start =>
    obtain ⟨step, hstep, -⟩ := hreport
    cases hstep
  | @call steps s s' link c es before hmay ih =>
    have ha := before.trail.tellsHistories.2
    have hmoves := hmay.spec fun ω _ => yields_run link before.trail.ready c
    refine le_trans ?_ (hmoves.lastSession_le ha)
    rcases reportedClosed_concat.mp hreport with hreport | ⟨hs, -⟩
    · exact ih hreport
    · exact ha.le_lastSession hs

/-- **Every peer of a run has a fate.** -/
theorem Run.fate (hr : Run config steps s) (hid : (id, true) ∈ creations (recordOf steps)) :
    Fate id steps s := by
  induction hr with
  | start => simp [creations] at hid
  | @call steps s s' link c es before hmay ih =>
    rw [recordOf_concat, creations_append] at hid
    rcases List.mem_append.mp hid with hid | hid
    · exact (ih hid).call before hmay
    · obtain ⟨hs', hnew⟩ := before.current hmay hid
      have hafter := before.call hmay
      refine .current hs' (fun hreport => ?_) fun hclosed => ?_
      · rcases reportedClosed_concat.mp hreport with hreport | ⟨hs, -⟩
        · exact absurd (before.le_of_reportedClosed hreport) hnew.not_ge
        · exact absurd (before.trail.tellsHistories.2.le_lastSession hs) hnew.not_ge
      · exact (hafter.trail.sealed.2 id hclosed).other hs'

/-- Nobody asks the peer of a session that is over. -/
theorem Run.apart (hr : Run config steps s) {front back : List Step} {step : Step}
    (hsteps : steps = front ++ step :: back) (hg : Gone id step.after) :
    Gone id s ∧ ∀ later ∈ back, ∀ e ∈ later.made, addressee? e ≠ some id := by
  induction hr generalizing back with
  | start => simp at hsteps
  | @call steps s s' link c es before hmay ih =>
    have ha := before.trail.tellsHistories.2
    have hmoves := hmay.spec fun ω _ => yields_run link before.trail.ready c
    rcases split_concat hsteps with ⟨-, rfl, rfl⟩ | ⟨rest, rfl, hrest⟩
    · exact ⟨hg, List.forall_mem_nil _⟩
    · obtain ⟨hgone, hall⟩ := ih hrest
      obtain ⟨hgone', hasked⟩ := hmoves.gone ha hgone
      exact ⟨hgone', List.forall_mem_append.mpr ⟨hall, List.forall_mem_singleton.mpr hasked⟩⟩

/-- What is said of the peers of a run. -/
structure ClosesPeers (steps : List Step) (s : Supervisor) : Prop where
  /-- The peer of the current session has not been closed. -/
  current : ∀ id, s.sessionId = some id → id ∉ closings (recordOf steps)
  /-- A peer whose session is over was closed just once, -/
  closed : ∀ id, (id, true) ∈ creations (recordOf steps) → s.sessionId ≠ some id →
    ¬ ReportedClosed id steps → (closings (recordOf steps)).count id = 1
  /-- unless it had reported that it is closed: then it never was. -/
  abandoned : ∀ id, (id, true) ∈ creations (recordOf steps) → ReportedClosed id steps →
    s.sessionId ≠ some id ∧ id ∉ closings (recordOf steps)
  /-- A peer that was closed is asked for nothing any more, -/
  sealed : ∀ before e after, recordOf steps = before ++ e :: after →
    ∀ id, addressee? e = some id → id ∉ closings before
  /-- nor is any peer in a call after that with which its session ended. -/
  apart : ∀ before step after, steps = before ++ step :: after → ∀ id,
    step.before.sessionId = some id → step.after.sessionId ≠ some id →
    ∀ later ∈ after, ∀ e ∈ later.made, addressee? e ≠ some id

/-- **Every peer is closed once and left alone**, except those that report that they are closed. -/
theorem Run.closesPeers (hr : Run config steps s) : ClosesPeers steps s where
  current id hs hclosed := (hr.trail.sealed.2 id hclosed).other hs
  closed id hid hs hreport := by
    cases hr.fate hid with
    | current hs' => exact absurd hs' hs
    | closed _ _ hone => exact hone
    | abandoned _ hreport' => exact absurd hreport' hreport
  abandoned id hid hreport := by
    cases hr.fate hid with
    | current _ hreport' | closed _ hreport' => exact absurd hreport hreport'
    | abandoned hg _ hnone => exact ⟨hg.other, hnone⟩
  sealed := hr.trail.sealed.1
  apart front step back hsteps id hs hend := by
    obtain ⟨hbefore, hmay⟩ := hr.split hsteps
    have ha := hbefore.trail.tellsHistories.2
    have hmoves := hmay.spec fun ω _ => yields_run step.link hbefore.trail.ready step.call
    have hle := (ha.le_lastSession hs).trans (hmoves.lastSession_le ha)
    exact (hr.apart hsteps ⟨hle, hend⟩).2

/-- A session is replaced by another, which is stopped. -/
def replacedSteps : List Step :=
  let first := play (new {}) sampleLink .linkOpen
  let second := first.after.play sampleLink .linkOpen
  [first, second, second.after.play sampleLink (.command .stop)]

/-- Of the sample both peers are closed. -/
theorem closesPeers_replacedSteps : ∃ s, Run {} replacedSteps s ∧ ClosesPeers replacedSteps s
    ∧ creations (recordOf replacedSteps) = [(1, true), (2, true)]
    ∧ closings (recordOf replacedSteps) = [1, 2] := by
  have hstart : Run {} [] (new {}) := .start
  have hr := ((hstart.play sampleLink .linkOpen).play sampleLink .linkOpen).play sampleLink
    (.command .stop)
  exact ⟨_, hr, hr.closesPeers, by decide, by decide⟩

/-- The peer of a session reports that it is closed. -/
def reportedSteps : List Step :=
  let first := play (new {}) sampleLink .linkOpen
  [first, first.after.play sampleLink (.peer ⟨1, .connectivity .closed⟩)]

/-- The session of the sample is over, and its peer was not closed. -/
theorem not_closed_reportedSteps : ∃ s, Run {} reportedSteps s ∧ s.sessionId = none
    ∧ (1, true) ∈ creations (recordOf reportedSteps) ∧ 1 ∉ closings (recordOf reportedSteps) := by
  have hstart : Run {} [] (new {}) := .start
  have hr := (hstart.play sampleLink .linkOpen).play sampleLink (.peer ⟨1, .connectivity .closed⟩)
  exact ⟨_, hr, by decide, by decide, by decide⟩

end

end Supervisor

end CameraViewer.Session
