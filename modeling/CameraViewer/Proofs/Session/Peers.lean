import CameraViewer.Proofs.Session.Lives

/-!
# Proofs/Session/Peers — one peer after the other

A peer is asked for only when all peers before it are torn down, and only the newest one is ever
asked for anything (`Trail.orderly`). So there is at most one that is not torn down
(`Orderly.unique`).
-/

namespace CameraViewer.Session

open Config Control Link Negotiation Peer Signal Transfer World

namespace Supervisor

/-! ## Order in a record -/

/-- The end of a session stands in the record, and the viewer was told. -/
structure TornDown (id : ℕ) (record : List Entry) : Prop where
  ended : ∃ s live es s', LiveSession.id live = id ∧ TearsDown s live es s' ∧ es <:+: record
  closed : (id, .closed) ∈ lives record

/-- What is due before an entry: the peers before a new one are torn down, and the peer that is
asked for something is the newest one. -/
def InTurn (before : List Entry) : Entry → Prop
  | .asked (.createPeer _) _ => ∀ id, (id, true) ∈ creations before → TornDown id before
  | .asked (.peer id _) _ => (id, true) ∈ creations before ∧ ∀ x ∈ creations before, x.1 ≤ id
  | _ => True

/-- Peers come one after the other. -/
def Orderly (record : List Entry) : Prop :=
  ∀ before e after, record = before ++ e :: after → InTurn before e

/-- A record that goes on is in order if each new entry is in turn. -/
theorem orderly_append {record es : List Entry} :
    Orderly (record ++ es)
      ↔ Orderly record
        ∧ ∀ before e after, es = before ++ e :: after → InTurn (record ++ before) e :=
  throughout_append

theorem TornDown.append {id : ℕ} {record : List Entry} (h : TornDown id record) (es : List Entry) :
    TornDown id (record ++ es) := by
  obtain ⟨⟨s, live, fs, s', hid, hend, hfs⟩, hclosed⟩ := h
  refine ⟨⟨s, live, fs, s', hid, hend, hfs.trans (List.prefix_append record es).isInfix⟩, ?_⟩
  rw [lives_append]
  exact List.mem_append_left _ hclosed

section
variable {P : Grant} {l : RelayLink} {s s' : Supervisor} {es : List Entry}
  {live : LiveSession}

/-! ## Moves keep it

A new peer is asked for only when there is no session, and a session that ends leaves its end in the
record. -/

/-- A move keeps the session, or ends it in due form. -/
theorem Move.keeps_or_ends (h : Move P l s es s') (hs : s.session = some live) :
    s'.sessionId = some live.id
      ∨ ∃ s₀ live₀ fs s₁, LiveSession.id live₀ = live.id ∧ TearsDown s₀ live₀ fs s₁
        ∧ fs <:+: es := by
  have hsame := sessionId_of_eq_some hs
  cases h with
  | tell | send | servers | catalog | control | recording | enqueue | drained | candidate
  | talkDenied | talkRefused => exact .inl hsame
  | negotiate hs' hcall h =>
    obtain rfl := Option.some.inj (hs.symm.trans hs')
    exact .inl (congrArg some (moves_of_continues hcall h).2.2)
  | report hs' h | degrade hs' h =>
    obtain rfl := Option.some.inj (hs.symm.trans hs')
    exact .inl (congrArg some h.session_eq)
  | talkFailed hs' _ _ _ hoffer | talkStarted hs' _ _ _ hoffer =>
    obtain rfl := Option.some.inj (hs.symm.trans hs')
    exact .inl (congrArg some hoffer.session_eq)
  | channel hs' | attach hs' | detach hs' | talkStopped hs' =>
    obtain rfl := Option.some.inj (hs.symm.trans hs')
    exact .inl rfl
  | @collapse _ _ _ _ _ m _ hs' h _ _ hend =>
    obtain rfl := Option.some.inj (hs.symm.trans hs')
    have hid : LiveSession.id { live with machine := m } = live.id := h.session_eq
    refine .inr ⟨_, _, _, _, hid, hend, ?_⟩
    rw [← List.append_assoc]
    exact (List.suffix_append _ _).isInfix
  | teardown hs' hend =>
    obtain rfl := Option.some.inj (hs.symm.trans hs')
    exact .inr ⟨_, _, _, _, rfl, hend, List.infix_rfl⟩
  | clear hs' | refused hs' | created hs' =>
    rw [hs] at hs'
    cases hs'

theorem creations_createPeer (setup : PeerSetup) (reply : Except PeerError Unit)
    (record : List Entry) :
    creations (.asked (.createPeer setup) reply :: record)
      = (setup.session, reply.isOk) :: creations record :=
  List.filterMap_cons_some rfl

/-- Where a session was created, its peer was asked for. -/
theorem exists_of_mem_creations {record : List Entry} {x : ℕ × Bool} (h : x ∈ creations record) :
    ∃ before setup reply after, record = before ++ .asked (.createPeer setup) reply :: after
      ∧ x = (setup.session, reply.isOk) := by
  obtain ⟨e, he, hcreation⟩ := List.mem_filterMap.mp h
  obtain ⟨before, after, rfl⟩ := List.append_of_mem he
  unfold creation? at hcreation
  split at hcreation
  · exact ⟨before, _, _, after, rfl, (Option.some.inj hcreation).symm⟩
  · cases hcreation

theorem mem_lives_of_mem_lifeOf {record : List Entry} {id : ℕ} {state : Connectivity}
    (h : state ∈ lifeOf id record) : (id, state) ∈ lives record := by
  obtain ⟨x, hx, hstate⟩ := List.mem_filterMap.mp h
  split_ifs at hstate with hid
  subst hid
  obtain rfl := Option.some.inj hstate
  exact hx

/-- While a session goes on no peer is asked for. -/
theorem Advance.creations_eq_nil {a : Connectivity} {n : ℕ} {p : LatestSession}
    {ls : List (ℕ × Connectivity)} {cs : List (ℕ × Bool)} (h : Advance ⟨n, some a⟩ ls cs p) :
    cs = [] := by
  cases h <;> rfl

/-- A single move asks for at most one peer. -/
theorem Advance.length_creations_le {p p' : LatestSession} {ls : List (ℕ × Connectivity)}
    {cs : List (ℕ × Bool)} (h : Advance p ls cs p') : cs.length ≤ 1 := by
  cases h <;> simp

/-- The current session is the latest one. -/
theorem LatestOngoing.sessionId_eq {n : ℕ} {a : Connectivity} (ha : s.LatestOngoing)
    (hp : s.latestSession = ⟨n, some a⟩) :
    s.sessionId = some n := by
  obtain ⟨live, hlive, -⟩ := Option.map_eq_some_iff.mp (congrArg LatestSession.now hp)
  have hsession : live.id = s.lastSession := (ha live hlive).session
  have hlast : s.lastSession = n := congrArg LatestSession.last hp
  rw [sessionId_of_eq_some hlive, hsession, hlast]

/-- Where the latest session is over there is none. -/
theorem sessionId_eq_none {n : ℕ} (hp : s.latestSession = ⟨n, none⟩) : s.sessionId = none :=
  sessionId_of_eq_none (Option.map_eq_none_iff.mp (congrArg LatestSession.now hp))

/-- A session that was created by a move is the current one. -/
theorem TellsStates.sessionId_eq {id : ℕ} (h : TellsStates s es s')
    (hid : (id, true) ∈ creations es) :
    s'.sessionId = some id := by
  obtain ⟨hadvance, hgoes⟩ := h
  generalize s.latestSession = p at hadvance
  generalize hp' : s'.latestSession = p' at hadvance
  generalize creations es = cs at hid hadvance
  generalize lives es = ls at hadvance
  cases hadvance with
  | still | moved | ended => cases hid
  | refused => simp at hid
  | @created n =>
    obtain rfl : id = n + 1 := by simpa using hid
    exact hgoes.sessionId_eq hp'

/-- The current session was so before, or was created. -/
theorem TellsStates.current {id : ℕ} (ha : s.LatestOngoing) (h : TellsStates s es s')
    (hid : s'.sessionId = some id) :
    s.sessionId = some id ∨ (id, true) ∈ creations es := by
  obtain ⟨hadvance, hgoes⟩ := h
  generalize hp : s.latestSession = p at hadvance
  generalize hp' : s'.latestSession = p' at hadvance
  generalize creations es = cs at hadvance
  generalize lives es = ls at hadvance
  cases hadvance with
  | still =>
    obtain ⟨n, now⟩ := p
    cases now with
    | none =>
      rw [sessionId_eq_none hp'] at hid
      cases hid
    | some a =>
      rw [ha.sessionId_eq hp]
      rw [hgoes.sessionId_eq hp'] at hid
      exact .inl hid
  | moved =>
    rw [ha.sessionId_eq hp]
    rw [hgoes.sessionId_eq hp'] at hid
    exact .inl hid
  | ended | refused =>
    rw [sessionId_eq_none hp'] at hid
    cases hid
  | created =>
    rw [hgoes.sessionId_eq hp'] at hid
    obtain rfl := Option.some.inj hid
    exact .inr List.mem_cons_self

/-- What a move leaves is in turn. -/
theorem Move.inTurn {config : ClientConfig} {record : List Entry} (ht : Trail config record s)
    (hold : ∀ id, (id, true) ∈ creations record → s.sessionId ≠ some id → TornDown id record)
    (h : Move P l s es s') :
    ∀ before e after, es = before ++ e :: after → InTurn (record ++ before) e := by
  intro before e after heq
  obtain ⟨hhistories, hgoes⟩ := ht.tellsHistories
  have hadvance := (h.tellsStates hgoes).advance
  have hcreations : creations es = creations before ++ creations (e :: after) := by
    rw [heq, creations_append]
  have he : e ∈ es := heq ▸ List.mem_append_right _ List.mem_cons_self
  cases h.entries e he with
  | shown | used | closed | noted | acquired | stopped => trivial
  | written _ hx =>
    cases hx
    trivial
  | @told live hs r reply =>
    rw [latestSession_of_eq_some hs] at hadvance
    have hnone : creations before = [] := by
      have hempty := hadvance.creations_eq_nil
      rw [hcreations] at hempty
      exact (List.append_eq_nil_iff.mp hempty).1
    have hsame : creations (record ++ before) = creations record := by
      rw [creations_append, hnone, List.append_nil]
    have hlast : s.latestSession.last = live.id := (hgoes live hs).session.symm
    have hcreated := (hhistories.created_iff live.id).mpr (ht.current hs).ne_nil
    change (live.id, true) ∈ creations (record ++ before)
      ∧ ∀ x ∈ creations (record ++ before), x.1 ≤ live.id
    rw [hsame, ← hlast]
    exact ⟨hlast ▸ hcreated, hhistories.asked_le⟩
  | created hs reply =>
    intro id hid
    have hnone : creations before = [] := by
      have hlength := hadvance.length_creations_le
      rw [hcreations, List.length_append, creations_createPeer, List.length_cons] at hlength
      exact List.length_eq_zero_iff.mp (by omega)
    rw [creations_append, hnone, List.append_nil] at hid
    exact (hold id hid (sessionId_ne hs id)).append before

/-- **Peers come one after the other**, and all but the current one are torn down. -/
theorem Trail.orderly {config : ClientConfig} {record : List Entry} (ht : Trail config record s) :
    Orderly record
      ∧ ∀ id, (id, true) ∈ creations record → s.sessionId ≠ some id → TornDown id record := by
  induction ht with
  | start =>
    exact ⟨fun before e after heq => by simp at heq, fun id hid => by simp [creations] at hid⟩
  | aside before hes ih =>
    refine ⟨orderly_append.mpr ⟨ih.1, fun before e after heq => ?_⟩, fun id hid hother => ?_⟩
    · have he := hes e (heq ▸ List.mem_append_right _ List.mem_cons_self)
      cases he <;> trivial
    · have hnone := creations_of_silent fun x hx => silent_aside (hes x hx)
      rw [creations_append, hnone, List.append_nil] at hid
      exact (ih.2 id hid hother).append _
  | @move P l s s' record es before hm ih =>
    refine ⟨orderly_append.mpr ⟨ih.1, hm.inTurn before ih.2⟩, fun id hid hother => ?_⟩
    have hclosed := ((before.move hm).past hid hother).1
    refine ⟨?_, mem_lives_of_mem_lifeOf (List.mem_of_getLast? hclosed)⟩
    rw [creations_append] at hid
    rcases List.mem_append.mp hid with hid | hid
    · by_cases hs : s.sessionId = some id
      · obtain ⟨live, hlive, rfl⟩ := Option.map_eq_some_iff.mp hs
        have hends := (hm.keeps_or_ends hlive).resolve_left hother
        obtain ⟨s₀, live₀, fs, s₁, hid₀, hend, hfs⟩ := hends
        exact ⟨s₀, live₀, fs, s₁, hid₀, hend, hfs.trans (List.suffix_append record es).isInfix⟩
      · exact ((ih.2 id hid hs).append es).ended
    · exact absurd ((hm.tellsStates before.tellsHistories.2).sessionId_eq hid) hother

/-- A peer is torn down when another one came after it. -/
theorem Orderly.tornDown {before after : List Entry} {id id' : ℕ} (h : Orderly (before ++ after))
    (hid : (id, true) ∈ creations before) (hid' : (id', true) ∈ creations after) :
    TornDown id (before ++ after) := by
  obtain ⟨between, setup, reply, rest, rfl, -⟩ := exists_of_mem_creations hid'
  have hearlier : (id, true) ∈ creations (before ++ between) := by
    rw [creations_append]
    exact List.mem_append_left _ hid
  rw [← List.append_assoc] at h ⊢
  exact (h (before ++ between) _ rest rfl id hearlier).append _

/-- **At most one peer is not torn down.** -/
theorem Orderly.unique {record : List Entry} {id id' : ℕ} (h : Orderly record)
    (hid : (id, true) ∈ creations record) (hid' : (id', true) ∈ creations record)
    (hup : ¬TornDown id record) (hup' : ¬TornDown id' record) : id = id' := by
  obtain ⟨before, setup, reply, after, rfl, hnew⟩ := exists_of_mem_creations hid'
  have hnext : creations [.asked (.createPeer setup) reply] = [(id', true)] := by
    rw [creations_createPeer, ← hnew]
    rfl
  rw [creations_append, creations_createPeer, ← hnew] at hid
  rcases List.mem_append.mp hid with hid | hid
  · have hlater : (id', true) ∈ creations (.asked (.createPeer setup) reply :: after) := by
      rw [creations_createPeer, ← hnew]
      exact List.mem_cons_self
    exact absurd (h.tornDown hid hlater) hup
  rcases List.mem_cons.mp hid with hid | hid
  · exact (Prod.mk.inj hid).1
  · have hearlier : (id', true) ∈ creations (before ++ [.asked (.createPeer setup) reply]) := by
      rw [creations_append, hnext]
      exact List.mem_append_right _ List.mem_cons_self
    rw [List.append_cons] at h hup'
    exact absurd (h.tornDown hearlier hid) hup'

/-! ## Sequences of moves -/

/-- Moves keep the current session the latest one. -/
theorem Moves.latestOngoing (ha : s.LatestOngoing) (h : Moves P l s es s') : s'.LatestOngoing := by
  induction h with
  | refl => exact ha
  | step first _ ih => exact ih (first.tellsStates ha).latestOngoing

/-- The session after them was current before, or was created by them. -/
theorem Moves.current {id : ℕ} (ha : s.LatestOngoing) (h : Moves P l s es s')
    (hid : s'.sessionId = some id) :
    s.sessionId = some id ∨ (id, true) ∈ creations es := by
  induction h with
  | refl => exact .inl hid
  | step first _ ih =>
    have htells := first.tellsStates ha
    rw [creations_append]
    rcases ih htells.latestOngoing hid with hsame | hcreated
    · exact (htells.current ha hsame).imp_right (List.mem_append_left _)
    · exact .inr (List.mem_append_right _ hcreated)

/-- Without the grant no peer is asked for. -/
theorem Move.creations_eq_nil (h : Move P l s es s') (hnew : ¬P.session) : creations es = [] := by
  refine List.eq_nil_iff_forall_not_mem.mpr fun x hx => hnew ?_
  obtain ⟨before, setup, reply, after, rfl, -⟩ := exists_of_mem_creations hx
  have hmade := h.entries _ (List.mem_append_right before List.mem_cons_self)
  generalize hentry : Entry.asked (.createPeer setup) reply = e at hmade
  cases hmade with
  | created _ hgrant => exact hgrant
  | written _ hx =>
    cases hx
    cases hentry
  | _ => cases hentry

theorem Moves.creations_eq_nil (h : Moves P l s es s') (hnew : ¬P.session) : creations es = [] := by
  induction h with
  | refl => rfl
  | step first _ ih => rw [creations_append, first.creations_eq_nil hnew, ih, List.append_nil]

/-- Without the grant no session becomes the current one. -/
theorem Moves.sessionId_of {id : ℕ} (ha : s.LatestOngoing) (h : Moves P l s es s')
    (hnew : ¬P.session) (hid : s'.sessionId = some id) : s.sessionId = some id := by
  refine (h.current ha hid).resolve_right ?_
  rw [h.creations_eq_nil hnew]
  exact List.not_mem_nil

/-- Where the current session is the same after all moves, the first of them does not end it. -/
theorem Move.keeps_session {s₁ : Supervisor} {fs : List Entry} (ha : s.LatestOngoing)
    (first : Move P l s es s₁) (rest : Moves P l s₁ fs s') (hnew : ¬P.session)
    (hsame : ∀ id, s.sessionId = some id → s'.sessionId = some id) :
    (∀ id, s.sessionId = some id → s₁.sessionId = some id)
      ∧ ∀ id, s₁.sessionId = some id → s'.sessionId = some id := by
  refine ⟨fun id hid => ?_, fun id hid => ?_⟩
  · exact rest.sessionId_of (first.tellsStates ha).latestOngoing hnew (hsame id hid)
  · exact hsame id (first.moves.sessionId_of ha hnew hid)

end

end Supervisor

end CameraViewer.Session
