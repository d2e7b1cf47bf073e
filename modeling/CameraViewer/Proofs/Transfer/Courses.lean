import CameraViewer.Proofs.Transfer.Shipments
import Mathlib.Data.List.Nodup
import Mathlib.Logic.ExistsUnique

/-!
# Proofs/Transfer/Courses — no job is lost, or reported twice

A `Course` is all that is reported of one job. `Trail.keepsTrack`: what a queue reports are
beginnings of courses, one for each job it was given; a job waits, is being sent, or is over, never
two of these at once; and no job is begun before all jobs ahead of it are over.

The account of `Proofs/Transfer/Shipments` says this of each job. What it does not say is how the
reports of different jobs lie to each other; that is `InTurn`, kept by every report (`Occasion`).
-/

namespace CameraViewer.Transfer

open Peer World

/-- Nothing is reported of a job after one of these states. -/
def TransferState.IsFinal : TransferState → Prop
  | .completed | .failed _ => True
  | _ => False

/-- All that is reported of a job, from first to last. -/
inductive Course : List TransferState → Prop
  /-- It was given up before it was begun. -/
  | refused (reason : String) : Course [.waiting, .failed reason]
  /-- It was sent. -/
  | completed (pauses : ℕ) :
    Course (.waiting :: .sending :: (List.replicate pauses .paused ++ [.completed]))
  /-- It was given up on the way. -/
  | failed (pauses : ℕ) (reason : String) :
    Course (.waiting :: .sending :: (List.replicate pauses .paused ++ [.failed reason]))

namespace Fate

/-- **What was reported of a job is the beginning of a course.** -/
theorem exists_course (fate : Fate) :
    ∃ course, Course course ∧ .waiting :: fate.states <+: course := by
  cases fate with
  | unsaid reason => exact ⟨_, .refused reason, List.prefix_rfl⟩
  | underway sent pauses =>
    refine ⟨_, .completed pauses, ?_⟩
    rw [states, List.prefix_cons_inj, List.prefix_cons_inj]
    exact List.prefix_append _ _
  | whole pauses => exact ⟨_, .completed pauses, List.prefix_rfl⟩
  | broken sent pauses reason => exact ⟨_, .failed pauses reason, List.prefix_rfl⟩

/-- A job is over when a final state was reported of it. -/
theorem exists_isFinal {fate : Fate} : (∃ state ∈ fate.states, state.IsFinal) ↔ fate.IsOver := by
  cases fate <;> simp [states, IsOver, TransferState.IsFinal]

end Fate

namespace TransferQueue

/-- A job was reported as completed, or as failed. -/
def IsOver (id : ℕ) (updates : List TransferProgress) : Prop :=
  ∃ p ∈ updates, p.id = id ∧ p.state.IsFinal

/-- Where a job can be. -/
inductive Place
  /-- In the queue. -/
  | waiting
  /-- On its way. -/
  | active
  /-- Done with. -/
  | over

/-- A job is at a place. -/
def At (q : TransferQueue) (updates : List TransferProgress) (id : ℕ) : Place → Prop
  | .waiting => id ∈ q.waiting.map Prod.fst
  | .active => ∃ a ∈ q.active, a.id = id
  | .over => IsOver id updates

/-- Jobs are begun one after the other: where one is, all before it are over. -/
def InTurn (updates : List TransferProgress) : Prop :=
  ∀ before p after, updates = before ++ p :: after → p.state = .sending →
    ∀ id, 1 ≤ id → id < p.id → IsOver id before

/-- What a queue reported of the jobs it was given, and where they are now. -/
structure KeepsTrack (jobs : List TransferJob) (updates : List TransferProgress)
    (q : TransferQueue) : Prop where
  /-- Each job is first said to wait, under its number; the numbers count from one. -/
  given : updates.filter (·.state = .waiting)
    = (numbered jobs).map fun w => w.2.progress w.1 .waiting
  /-- Nothing is reported under any other number. -/
  known : ∀ p ∈ updates, 1 ≤ p.id ∧ p.id ≤ jobs.length
  /-- What is reported of a job is the beginning of a course. -/
  course : ∀ id, 1 ≤ id → id ≤ jobs.length →
    ∃ course, Course course ∧ statesOf id updates <+: course
  /-- A job is at one place. -/
  place : ∀ id, 1 ≤ id → id ≤ jobs.length → ∃! place, q.At updates id place
  /-- The latest jobs are those that wait, in order. -/
  queue : q.waiting <:+ numbered jobs
  /-- A job is begun when all before it are over, -/
  inTurn : InTurn updates
  /-- and so the jobs are begun in order. -/
  ascending : ((updates.filter (·.state = .sending)).map (·.id)).Pairwise (· < ·)

section
variable {limits : TransferLimits} {h : History} {L : List Shipment} {id : ℕ}

/-! ## Where a job is

The ledger of shipments says of each job where it is; the queue alone knows only those that wait and
the active one. -/

/-- Shipments and jobs that wait make up all that was given, in order. -/
theorem Ledger.ids_eq (hL : Ledger limits h L) :
    L.map Shipment.id ++ h.queue.waiting.map Prod.fst
      = List.range' 1 (accepted h.calls).length := by
  rw [← map_fst_numbered, ← hL.order, List.map_append, List.map_map]
  rfl

/-- The numbers ascend. -/
theorem Ledger.sorted (hL : Ledger limits h L) :
    (L.map Shipment.id ++ h.queue.waiting.map Prod.fst).Pairwise (· < ·) := by
  rw [hL.ids_eq]
  exact List.pairwise_lt_range'

/-- The jobs that were given are those that were shipped and those that wait. -/
theorem Ledger.mem_iff (hL : Ledger limits h L) :
    (∃ s ∈ L, s.id = id) ∨ (∃ w ∈ h.queue.waiting, w.1 = id)
      ↔ 1 ≤ id ∧ id ≤ (accepted h.calls).length := by
  have hmem : id ∈ L.map Shipment.id ++ h.queue.waiting.map Prod.fst
      ↔ id ∈ List.range' 1 (accepted h.calls).length := by rw [hL.ids_eq]
  rw [List.mem_append, List.mem_map, List.mem_map, List.mem_range'_1] at hmem
  rw [hmem]
  omega

/-- A state was reported of a job if a report of it says so. -/
theorem mem_statesOf {state : TransferState} {updates : List TransferProgress} :
    state ∈ statesOf id updates ↔ ∃ p ∈ updates, p.id = id ∧ p.state = state := by
  simp [statesOf, and_assoc]

/-- A job is over with its first final state. -/
theorem isOver_iff {updates : List TransferProgress} :
    IsOver id updates ↔ ∃ state ∈ statesOf id updates, state.IsFinal := by
  constructor
  · rintro ⟨p, hp, hid, hfinal⟩
    exact ⟨p.state, mem_statesOf.mpr ⟨p, hp, hid, rfl⟩, hfinal⟩
  · rintro ⟨state, hstate, hfinal⟩
    obtain ⟨p, hp, hid, rfl⟩ := mem_statesOf.mp hstate
    exact ⟨p, hp, hid, hfinal⟩

/-- A shipment is over when a final state was reported. -/
theorem Ledger.isOver_iff (hL : Ledger limits h L) {s : Shipment} (hs : s ∈ L) :
    IsOver s.id h.reports ↔ s.fate.IsOver := by
  rw [TransferQueue.isOver_iff, hL.shipped s hs, ← Fate.exists_isFinal]
  simp [TransferState.IsFinal]

/-- A job that waits is not over. -/
theorem Ledger.not_isOver (hL : Ledger limits h L) {w : ℕ × TransferJob}
    (hw : w ∈ h.queue.waiting) : ¬IsOver w.1 h.reports := by
  rw [TransferQueue.isOver_iff, hL.waiting w hw]
  simp [TransferState.IsFinal]

/-- A shipment does not wait. -/
theorem Ledger.not_waiting (hL : Ledger limits h L) {s : Shipment} (hs : s ∈ L) :
    s.id ∉ h.queue.waiting.map Prod.fst := by
  have hnodup := (List.nodup_append.mp hL.nodup).2.2
  exact fun hw => hnodup s.id (List.mem_map_of_mem hs) s.id hw rfl

/-- The active job is the shipment that is not over. -/
theorem Ledger.active_iff (hL : Ledger limits h L) {s : Shipment} (hs : s ∈ L) :
    (∃ a ∈ h.queue.active, a.id = s.id) ↔ ¬s.fate.IsOver := by
  have hinj := List.inj_on_of_nodup_map (List.nodup_append.mp hL.nodup).1
  constructor
  · rintro ⟨a, ha, hid⟩ hover
    obtain ⟨earlier, last, sent, pauses, rfl, -, hlast⟩ := hL.exists_last ha
    have hmem : last ∈ earlier ++ [last] := List.mem_append_right _ List.mem_cons_self
    obtain rfl := hinj hmem hs (hlast.id_eq.trans hid)
    rw [hlast.fate_eq] at hover
    exact hover
  · intro hopen
    cases ha : h.queue.active with
    | none => exact absurd (hL.over ha s hs) hopen
    | some a =>
      obtain ⟨earlier, last, sent, pauses, rfl, hover, hlast⟩ := hL.exists_last ha
      rcases List.mem_append.mp hs with hs | hs
      · exact absurd (hover s hs) hopen
      · obtain rfl := List.mem_singleton.mp hs
        exact ⟨a, rfl, hlast.id_eq.symm⟩

/-- **A job is at one place.** -/
theorem Ledger.place (hL : Ledger limits h L) (hid : 1 ≤ id ∧ id ≤ (accepted h.calls).length) :
    ∃! place, h.queue.At h.reports id place := by
  rcases hL.mem_iff.mpr hid with ⟨s, hs, rfl⟩ | ⟨w, hw, rfl⟩
  · have hwaiting := hL.not_waiting hs
    by_cases hover : s.fate.IsOver
    · refine ⟨.over, (hL.isOver_iff hs).mpr hover, ?_⟩
      rintro (_ | _ | _) hat
      · exact absurd hat hwaiting
      · exact absurd hover ((hL.active_iff hs).mp hat)
      · rfl
    · refine ⟨.active, (hL.active_iff hs).mpr hover, ?_⟩
      rintro (_ | _ | _) hat
      · exact absurd hat hwaiting
      · rfl
      · exact absurd ((hL.isOver_iff hs).mp hat) hover
  · refine ⟨.waiting, List.mem_map_of_mem hw, ?_⟩
    rintro (_ | _ | _) hat
    · rfl
    · obtain ⟨a, ha, hid⟩ := hat
      obtain ⟨earlier, last, sent, pauses, rfl, -, hlast⟩ := hL.exists_last ha
      have hmem : last ∈ earlier ++ [last] := List.mem_append_right _ List.mem_cons_self
      have hwaits : last.id ∈ h.queue.waiting.map Prod.fst := by
        rw [hlast.id_eq, hid]
        exact List.mem_map_of_mem hw
      exact absurd hwaits (hL.not_waiting hmem)
    · exact absurd hat (hL.not_isOver hw)

/-- What is reported of a job is the beginning of a course. -/
theorem Ledger.course (hL : Ledger limits h L) (hid : 1 ≤ id ∧ id ≤ (accepted h.calls).length) :
    ∃ course, Course course ∧ statesOf id h.reports <+: course := by
  rcases hL.mem_iff.mpr hid with ⟨s, hs, rfl⟩ | ⟨w, hw, rfl⟩
  · rw [hL.shipped s hs]
    exact s.fate.exists_course
  · rw [hL.waiting w hw]
    exact ⟨_, .refused "", [.failed ""], rfl⟩

/-! ## The order of reports -/

/-- When something is reported. -/
inductive Occasion (q : TransferQueue) (p : TransferProgress) : Prop
  /-- A job was given. -/
  | given (hid : p.id = q.nextId) (hp : p.state = .waiting)
  /-- Its turn has come. -/
  | turn {job : TransferJob} {rest : List (ℕ × TransferJob)} (hidle : q.active = none)
    (hw : q.waiting = (p.id, job) :: rest) (hp : p.state ≠ .waiting)
  /-- It was begun before. -/
  | underway {a : ActiveTransfer} (ha : q.active = some a) (hid : p.id = a.id)
    (hp : p.state ≠ .waiting) (hsent : p.state ≠ .sending)

/-- **A move reports at most once.** -/
theorem Move.occasion {q q' : TransferQueue} {es : List Entry} {rs : List TransferProgress}
    (h : Move q es rs q') :
    rs = [] ∨ ∃ p, rs = [p] ∧ q.Occasion p ∧ p.state ≠ .waiting := by
  cases h with
  | look | chunk => exact .inl rfl
  | refuse _ hidle hw | silence _ hidle hw | begin _ hidle hw =>
    exact .inr ⟨_, rfl, .turn hidle hw nofun, nofun⟩
  | last _ ha | broken _ ha | lost _ ha | full _ ha =>
    exact .inr ⟨_, rfl, .underway ha rfl nofun nofun, nofun⟩

/-- And so does an opening. -/
theorem Opening.occasion {q q' : TransferQueue} {c : Call} {es : List Entry}
    {rs : List TransferProgress} (h : Opening q c es rs q') :
    rs = [] ∨ ∃ p, rs = [p] ∧ q.Occasion p := by
  cases h with
  | enqueue job => exact .inr ⟨_, rfl, .given rfl rfl⟩
  | attach | wake | sleep | idle => exact .inl rfl
  | closed =>
    cases ha : q.active with
    | none => exact .inl (by simp [onChannelClosed, ha])
    | some a =>
      refine .inr ⟨a.progress (.failed TransferError.channelClosed.message), ?_, ?_⟩
      · simp [onChannelClosed, ha]
      · exact .underway ha rfl (by rintro ⟨⟩) (by rintro ⟨⟩)

/-- What can be said of reports in the order they were made. -/
structure Paced (updates : List TransferProgress) : Prop where
  inTurn : InTurn updates
  ascending : ((updates.filter (·.state = .sending)).map (·.id)).Pairwise (· < ·)
  positive : ∀ p ∈ updates, 1 ≤ p.id

/-- The oldest job that waits is behind all that were shipped, and before all others that wait. -/
theorem Ledger.turn (hL : Ledger limits h L) {job : TransferJob} {rest : List (ℕ × TransferJob)}
    (hw : h.queue.waiting = (id, job) :: rest) :
    (∀ s ∈ L, s.id < id) ∧ ∀ w ∈ h.queue.waiting, id ≤ w.1 := by
  have hsorted := hL.sorted
  rw [hw, List.map_cons, List.pairwise_append, List.pairwise_cons] at hsorted
  obtain ⟨-, ⟨hrest, -⟩, hshipped⟩ := hsorted
  refine ⟨fun s hs => hshipped _ (List.mem_map_of_mem hs) _ List.mem_cons_self, fun w hmem => ?_⟩
  rw [hw] at hmem
  rcases List.mem_cons.mp hmem with rfl | hmem
  · exact le_rfl
  · exact (hrest _ (List.mem_map_of_mem hmem)).le

/-- A job whose turn has come has only jobs before it that are over. -/
theorem Ledger.over_before (hL : Ledger limits h L) (hidle : h.queue.active = none)
    {job : TransferJob} {rest : List (ℕ × TransferJob)}
    (hw : h.queue.waiting = (id, job) :: rest) {earlier : ℕ} (hpos : 1 ≤ earlier)
    (hlt : earlier < id) : IsOver earlier h.reports := by
  have hmem : (id, job) ∈ h.queue.waiting := hw ▸ List.mem_cons_self
  have hid := hL.mem_iff.mp (.inr ⟨_, hmem, rfl⟩)
  rcases hL.mem_iff.mpr ⟨hpos, hlt.le.trans hid.2⟩ with ⟨s, hs, rfl⟩ | ⟨w, hwait, rfl⟩
  · exact (hL.isOver_iff hs).mpr (hL.over hidle s hs)
  · exact absurd ((hL.turn hw).2 w hwait) (not_le.mpr hlt)

/-- And it is behind all that were begun. -/
theorem Ledger.begun_lt (hL : Ledger limits h L) {job : TransferJob}
    {rest : List (ℕ × TransferJob)} (hw : h.queue.waiting = (id, job) :: rest)
    {p : TransferProgress} (hp : p ∈ h.reports) (hpos : 1 ≤ p.id) (hsending : p.state = .sending) :
    p.id < id := by
  have hle : p.id ≤ (accepted h.calls).length :=
    Nat.lt_succ_iff.mp ((hL.known p hp).trans_eq hL.nextId_eq)
  have hstate : .sending ∈ statesOf p.id h.reports := mem_statesOf.mpr ⟨p, hp, rfl, hsending⟩
  rcases hL.mem_iff.mpr ⟨hpos, hle⟩ with ⟨s, hs, hid⟩ | ⟨w, hwait, hid⟩
  · rw [← hid]
    exact (hL.turn hw).1 s hs
  · rw [← hid, hL.waiting w hwait] at hstate
    exact absurd (List.mem_singleton.mp hstate) nofun

/-- **A report keeps the pace.** -/
theorem Paced.concat (hp : Paced h.reports) (hL : Ledger limits h L) {p : TransferProgress}
    (ho : h.queue.Occasion p) : Paced (h.reports ++ [p]) := by
  have hturn : p.state = .sending → h.queue.active = none
      ∧ ∃ job rest, h.queue.waiting = (p.id, job) :: rest := by
    intro hsending
    cases ho with
    | given _ hstate => exact absurd (hstate.symm.trans hsending) nofun
    | turn hidle hw => exact ⟨hidle, _, _, hw⟩
    | underway _ _ _ hsent => exact absurd hsending hsent
  refine ⟨fun before q after heq hsending id hpos hlt => ?_, ?_, fun q hq => ?_⟩
  · rcases split_concat heq with ⟨rfl, rfl, -⟩ | ⟨later, -, hlater⟩
    · obtain ⟨hidle, job, rest, hw⟩ := hturn hsending
      exact hL.over_before hidle hw hpos hlt
    · exact hp.inTurn before q later hlater hsending id hpos hlt
  · rw [List.filter_append, List.map_append, List.pairwise_append]
    refine ⟨hp.ascending, ?_, fun i hi j hj => ?_⟩
    · exact (List.pairwise_singleton _ p.id).sublist (List.filter_sublist.map _)
    · obtain ⟨q, hq, rfl⟩ := List.mem_map.mp hj
      obtain ⟨r, hr, rfl⟩ := List.mem_map.mp hi
      rw [List.mem_filter, decide_eq_true_eq] at hq hr
      obtain rfl := List.mem_singleton.mp hq.1
      obtain ⟨-, job, rest, hw⟩ := hturn hq.2
      exact hL.begun_lt hw hr.1 (hp.positive r hr.1) hr.2
  · rcases List.mem_append.mp hq with hq | hq
    · exact hp.positive q hq
    obtain rfl := List.mem_singleton.mp hq
    cases ho with
    | given hid =>
      rw [hid, hL.nextId_eq]
      exact Nat.succ_pos _
    | turn _ hw =>
      have hmem : (q.id, _) ∈ h.queue.waiting := hw ▸ List.mem_cons_self
      exact (hL.mem_iff.mp (.inr ⟨_, hmem, rfl⟩)).1
    | underway ha hid =>
      obtain ⟨earlier, last, sent, pauses, rfl, -, hlast⟩ := hL.exists_last ha
      rw [hid, ← hlast.id_eq]
      exact (hL.mem_iff.mp (.inl ⟨last, List.mem_append_right _ List.mem_cons_self, rfl⟩)).1

/-- Hence all reports of a trail are made in turn. -/
theorem Trail.paced (ht : Trail limits h) : Paced h.reports := by
  induction ht with
  | start => exact ⟨fun before p after heq => by simp at heq, .nil, by simp⟩
  | @opening h c es rs q before hc ho ih =>
    obtain ⟨L, hL⟩ := before.ledger
    rcases ho.occasion with rfl | ⟨p, rfl, hp⟩
    · simpa [History.extend] using ih
    · exact ih.concat hL hp
  | @move h es rs q before hm ih =>
    obtain ⟨L, hL⟩ := before.ledger
    rcases hm.occasion with rfl | ⟨p, rfl, hp, -⟩
    · simpa [History.extend] using ih
    · exact ih.concat hL hp

/-- Reports of nothing that waits, while no job is given. -/
theorem given_of_quiet {calls : List Call} {rs : List TransferProgress}
    (hgiven : h.reports.filter (·.state = .waiting)
      = (numbered (accepted h.calls)).map fun w => w.2.progress w.1 .waiting)
    (hcalls : accepted calls = []) (hrs : ∀ p ∈ rs, p.state ≠ .waiting) :
    (h.reports ++ rs).filter (·.state = .waiting)
      = (numbered (accepted (h.calls ++ calls))).map fun w => w.2.progress w.1 .waiting := by
  have hnone : rs.filter (·.state = .waiting) = [] := by simpa using hrs
  rw [List.filter_append, hnone, List.append_nil, accepted_append, hcalls, List.append_nil, hgiven]

/-- **Each job is first said to wait**, under its number. -/
theorem Trail.given (ht : Trail limits h) : h.reports.filter (·.state = .waiting)
    = (numbered (accepted h.calls)).map fun w => w.2.progress w.1 .waiting := by
  induction ht with
  | start => rfl
  | @opening h c es rs q before hc ho ih =>
    cases ho with
    | enqueue job =>
      obtain ⟨L, hL⟩ := before.ledger
      have hjob : accepted [.enqueue job] = [job] := rfl
      simp only [History.extend]
      rw [List.filter_append, ih, accepted_append, hjob, numbered_concat, List.map_append,
        hL.nextId_eq]
      rfl
    | attach | wake | sleep | idle => exact given_of_quiet ih rfl (by simp)
    | closed =>
      refine given_of_quiet ih rfl fun p hp => ?_
      obtain ⟨a, -, rfl⟩ := Option.map_eq_some_iff.mp (Option.mem_toList.mp hp)
      rintro ⟨⟩
  | @move h es rs q before hm ih =>
    refine given_of_quiet ih rfl fun p hp => ?_
    rcases hm.occasion with rfl | ⟨r, rfl, -, hr⟩
    · cases hp
    · exact List.mem_singleton.mp hp ▸ hr

/-- **No job is lost, or reported twice.** -/
theorem Trail.keepsTrack (ht : Trail limits h) :
    KeepsTrack (accepted h.calls) h.reports h.queue := by
  obtain ⟨L, hL⟩ := ht.ledger
  have hpaced := ht.paced
  exact
    { given := ht.given
      known := fun p hp =>
        ⟨hpaced.positive p hp, Nat.lt_succ_iff.mp ((hL.known p hp).trans_eq hL.nextId_eq)⟩
      course := fun id hpos hle => hL.course ⟨hpos, hle⟩
      place := fun id hpos hle => hL.place ⟨hpos, hle⟩
      queue := ⟨_, hL.order⟩
      inTurn := hpaced.inTurn
      ascending := hpaced.ascending }

end

end TransferQueue

end CameraViewer.Transfer
