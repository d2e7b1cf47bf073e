import CameraViewer.Proofs.Transfer.Backpressure
import CameraViewer.Proofs.Transfer.Parcels

/-!
# Proofs/Transfer/Progress — what is reported of the bytes

`Run.accurate`: a report gives the bytes of its job that were taken, with one exception. The cursor
of a job moves before its chunk is sent, so the report on a job that failed because a chunk was
refused counts that chunk (`Accounts.refused`, `not_exact_refusedTurns`).

What a move reports is accurate after it (`ParcelsMatch.tells_move`), and stays so to the end of the
turn, as the job is still then (`Tells.trans`). That reports never go back has an invariant of its
own, `NeverDecreases`.
-/

namespace CameraViewer.Transfer

open Peer World Rehearsal

namespace TransferQueue

section
variable {calls : List Call} {record es fs : List Entry} {reports rs ss : List TransferProgress}
  {q q' : TransferQueue} {a : ActiveTransfer} {id : ℕ} {job : TransferJob}
  {rest : List (ℕ × TransferJob)}

/-! ## What a report says

A report is compared with the bytes that were taken before the turn it is made in, and by its end.
-/

/-- What a report says of the bytes of its job: so many had been taken before the turn, and so many
are by its end. -/
inductive Accounts (made : List Entry) (before after : ℕ) (p : TransferProgress) : Prop
  /-- Nothing of a job that comes to wait or is just begun was taken. -/
  | early (hstate : p.state = .waiting ∨ p.state = .sending) (hqueued : p.queued = 0)
    (hnone : before = 0) (hrest : p.queued < p.total)
  /-- Any other report gives the bytes that were taken; these are all exactly when it is completed.
  -/
  | exact (hstate : p.state ≠ .waiting ∧ p.state ≠ .sending) (hqueued : p.queued = after)
    (hle : p.queued ≤ p.total) (hall : p.queued = p.total ↔ p.state = .completed)
  /-- But where the job failed because a chunk was refused, that chunk is counted too. -/
  | refused {c : ChannelHandle} {chunk : Bytes} {e : TransferError}
    (hasked : .asked (.channel c (.sendBytes chunk)) (.error e) ∈ made)
    (hstate : p.state = .failed e.message) (hpos : 0 < chunk.size)
    (hqueued : p.queued = after + chunk.size) (hle : p.queued ≤ p.total)

/-- A report stays accurate when the turn goes on, if no more is taken of a job that stopped. -/
theorem Accounts.mono {made made' : List Entry} {before before' after after' : ℕ}
    {p : TransferProgress} (h : Accounts made before after p) (hmade : made ⊆ made')
    (hbefore : before' ≤ before)
    (hafter : p.state ≠ .waiting → p.state ≠ .sending → after' = after) :
    Accounts made' before' after' p := by
  cases h with
  | early hstate hqueued hnone hrest =>
    exact .early hstate hqueued (Nat.le_zero.mp (hbefore.trans_eq hnone)) hrest
  | exact hstate hqueued hle hall =>
    exact .exact hstate (hqueued.trans (hafter hstate.1 hstate.2).symm) hle hall
  | refused hasked hstate hpos hqueued hle =>
    have hsame := hafter (by rw [hstate]; nofun) (by rw [hstate]; nofun)
    exact .refused (hmade hasked) hstate hpos (by rw [hqueued, hsame]) hle

/-- What is reported on the way is accurate, and stays so. -/
structure Tells (record : List Entry) (reports : List TransferProgress) (es : List Entry)
    (rs : List TransferProgress) (q : TransferQueue) : Prop where
  grows : ∀ id, bytesOf id reports record ≤ bytesOf id (reports ++ rs) (record ++ es)
  accounts : ∀ p ∈ rs, Accounts es (bytesOf p.id reports record)
    (bytesOf p.id (reports ++ rs) (record ++ es)) p
  still : ∀ p ∈ rs, p.state ≠ .waiting → p.state ≠ .sending → q.Still p.id

/-- Nothing is reported. -/
theorem tells_nil
    (h : ∀ id, bytesOf id reports record ≤ bytesOf id (reports ++ []) (record ++ es)) :
    Tells record reports es [] q := ⟨h, List.forall_mem_nil _, List.forall_mem_nil _⟩

/-- And nothing is taken. -/
theorem tells_quiet (hes : taken es = []) : Tells record reports es [] q :=
  tells_nil fun _ => (bytesOf_quiet hes rfl).ge

/-- One report. -/
theorem tells_single {p : TransferProgress}
    (hgrows : ∀ id, bytesOf id reports record ≤ bytesOf id (reports ++ [p]) (record ++ es))
    (haccounts : Accounts es (bytesOf p.id reports record)
      (bytesOf p.id (reports ++ [p]) (record ++ es)) p)
    (hstill : p.state ≠ .waiting → p.state ≠ .sending → q.Still p.id) :
    Tells record reports es [p] q :=
  ⟨hgrows, List.forall_mem_singleton.mpr haccounts, List.forall_mem_singleton.mpr hstill⟩

/-- One after the other: what comes later takes nothing of the jobs that stopped before. -/
theorem Tells.trans (h : Tells record reports es rs q)
    (hb : ParcelsMatch calls (record ++ es) (reports ++ rs) q) (hm : Moves q fs ss q')
    (h' : Tells (record ++ es) (reports ++ rs) fs ss q') :
    Tells record reports (es ++ fs) (rs ++ ss) q' := by
  have hgrows : ∀ id, bytesOf id (reports ++ rs) (record ++ es)
      ≤ bytesOf id (reports ++ (rs ++ ss)) (record ++ (es ++ fs)) := fun id => by
    rw [← List.append_assoc, ← List.append_assoc]
    exact h'.grows id
  refine ⟨fun id => (h.grows id).trans (hgrows id), ?_, ?_⟩
  · refine List.forall_mem_append.mpr ⟨fun p hp => ?_, fun p hp => ?_⟩
    -- Of a job that was just begun more may be taken later in the turn; its report says nothing of
    -- it.
    · refine (h.accounts p hp).mono (List.subset_append_left _ _) le_rfl fun hwait hsend => ?_
      rw [← List.append_assoc, ← List.append_assoc]
      exact (hb.still_moves hm (h.still p hp hwait hsend)).2
    · refine (h'.accounts p hp).mono (List.subset_append_right _ _) (h.grows p.id) fun _ _ => ?_
      rw [List.append_assoc, List.append_assoc]
  · refine List.forall_mem_append.mpr ⟨fun p hp hwait hsend => ?_, h'.still⟩
    exact (hb.still_moves hm (h.still p hp hwait hsend)).1

/-- A job that failed has stopped, and is not complete. -/
theorem stops_of_failed {p : TransferProgress} {reason : String} (h : p.state = .failed reason) :
    p.state ≠ .waiting ∧ p.state ≠ .sending ∧ p.state ≠ .completed := by
  simp [h]

/-- Of a job that stops, what was taken is reported, as some of it is left. -/
theorem tells_stopped {p : TransferProgress} (hes : taken es = [])
    (hstate : p.state ≠ .waiting ∧ p.state ≠ .sending ∧ p.state ≠ .completed)
    (hqueued : p.queued = bytesOf p.id reports record) (hlt : p.queued < p.total)
    (hstill : q.Still p.id) : Tells record reports es [p] q := by
  have hquiet : ∀ id, bytesOf id (reports ++ [p]) (record ++ es) = bytesOf id reports record :=
    fun id => bytesOf_quiet hes (begun_eq_nil (List.forall_mem_singleton.mpr hstate.2.1))
  refine tells_single (fun id => (hquiet id).ge) ?_ fun _ _ => hstill
  rw [hquiet]
  exact .exact ⟨hstate.1, hstate.2.1⟩ hqueued hlt.le
    ⟨fun hall => absurd hall hlt.ne, fun hdone => absurd hdone hstate.2.2⟩

/-- A job that was active and is not any more is still. -/
theorem ParcelsMatch.still_of_idle (h : ParcelsMatch calls record reports q)
    (ha : q.active = some a) :
    ({ q with active := none } : TransferQueue).Still a.id :=
  ⟨h.active_ne ha, nofun⟩

/-- A job whose turn has come is given up before anything of it was taken. -/
theorem ParcelsMatch.tells_dropped (h : ParcelsMatch calls record reports q)
    (hidle : q.active = none) {p : TransferProgress} (hw : q.waiting = (p.id, job) :: rest)
    (hes : taken es = []) {reason : String} (hstate : p.state = .failed reason)
    (hqueued : p.queued = job.queued) (htotal : p.total = job.total) :
    Tells record reports es [p] { q with waiting := rest } := by
  have hmem : (p.id, job) ∈ q.waiting := hw ▸ List.mem_cons_self
  have hfresh : job.Fresh := h.waiting _ hmem
  have hnone : p.queued = 0 := hqueued.trans hfresh.queued
  refine tells_stopped hes (stops_of_failed hstate)
    (hnone.trans (h.bytesOf_waiting hmem).symm) ?_ ⟨h.head_ne hw, by simp [hidle]⟩
  rw [hnone, htotal]
  exact hfresh.total_pos

/-- The chunk is counted. -/
theorem ParcelsMatch.bytesOf_sent (h : ParcelsMatch calls record reports q) (ha : q.active = some a)
    {chunk : Bytes} {next : TransferJob} (hnext : a.job.nextChunk? = some (chunk, next))
    (c : ChannelHandle) (n : ℕ) (hrs : begun rs = []) :
    bytesOf a.id (reports ++ rs) (record ++ asksSend c n chunk) = next.queued
      ∧ ∀ id, bytesOf id reports record
        ≤ bytesOf id (reports ++ rs) (record ++ asksSend c n chunk) := by
  obtain ⟨ids, parcel, earlier, hbegun, hparcels, -⟩ := h.latest a ha
  have hsent : ∀ id, bytesOf id (reports ++ rs) (record ++ asksSend c n chunk)
      = bytesOf id reports record + if a.id = id then chunk.size else 0 := fun id =>
    bytesOf_send hbegun hparcels (taken_asksSend c n chunk) hrs
  refine ⟨?_, fun id => ?_⟩
  · rw [hsent, if_pos rfl, h.bytesOf_active ha, (TransferJob.queued_of_nextChunk? hnext).1]
  · rw [hsent]
    exact Nat.le_add_right _ _

/-- **A move reports what was taken.** -/
theorem ParcelsMatch.tells_move (h : ParcelsMatch calls record reports q) (hm : Move q es rs q') :
    Tells record reports es rs q' := by
  cases hm with
  | look => exact tells_quiet rfl
  | refuse _ hidle hw => exact h.tells_dropped hidle hw rfl rfl rfl rfl
  | silence _ hidle hw hs =>
    obtain rfl := TransferJob.eq_of_start hs
    exact h.tells_dropped hidle hw rfl rfl rfl rfl
  | begin _ _ hw hs =>
    have hmem := hw ▸ List.mem_cons_self
    have hfresh := h.waiting _ hmem
    obtain rfl := TransferJob.eq_of_start hs
    refine tells_single (fun id => (bytesOf_begin rfl rfl).ge) ?_ fun _ hsend => absurd rfl hsend
    exact .early (.inr rfl) hfresh.queued (h.bytesOf_waiting hmem)
      (hfresh.queued.trans_lt hfresh.total_pos)
  | chunk _ ha _ _ hnext =>
    exact tells_nil (h.bytesOf_sent ha hnext _ _ rfl).2
  | @last c a n _ next _ ha _ _ hnext hend =>
    have hdone : begun [next.progress a.id .completed] = [] := rfl
    obtain ⟨hqueued, hgrows⟩ := h.bytesOf_sent ha hnext c n hdone
    have hall := TransferJob.queued_eq_of_nextChunk? hnext hend
    refine tells_single hgrows ?_ fun _ _ => h.still_of_idle ha
    exact .exact ⟨nofun, nofun⟩ hqueued.symm hall.le ⟨fun _ => rfl, fun _ => hall⟩
  | broken _ ha _ _ hnext e =>
    -- The cursor is past the chunk already, which is in no parcel.
    have hqueued := TransferJob.queued_of_nextChunk? hnext
    refine tells_single (fun id => (bytesOf_quiet rfl rfl).ge) ?_ fun _ _ => h.still_of_idle ha
    refine .refused (List.mem_append_right _ List.mem_cons_self) rfl
      (TransferJob.size_of_nextChunk? hnext).1 ?_ hqueued.2
    rw [bytesOf_quiet rfl rfl]
    exact hqueued.1.trans (congrArg (· + _) (h.bytesOf_active ha).symm)
  | lost _ ha =>
    exact tells_stopped rfl (stops_of_failed rfl) (h.bytesOf_active ha).symm
      (h.active _ ha).queued_lt (h.still_of_idle ha)
  | full _ ha =>
    refine tells_stopped rfl ⟨nofun, nofun, nofun⟩ (h.bytesOf_active ha).symm
      (h.active _ ha).queued_lt ⟨h.active_ne ha, ?_⟩
    rintro _ ⟨⟩ -
    rfl

/-- And so does an opening. -/
theorem ParcelsMatch.tells_opening (h : ParcelsMatch calls record reports q) {c : Call}
    (hmade : c.Made) (ho : Opening q c es rs q') : Tells record reports es rs q' := by
  cases ho with
  | enqueue job =>
    obtain ⟨name, mime, source, hjob⟩ := hmade
    have hfresh := TransferJob.fresh_of_new hjob
    refine tells_single (fun id => (bytesOf_quiet rfl rfl).ge) ?_ fun hwait => absurd rfl hwait
    exact .early (.inl rfl) hfresh.queued h.bytesOf_nextId (hfresh.queued.trans_lt hfresh.total_pos)
  | attach | wake | sleep | idle => exact tells_quiet rfl
  | closed =>
    rw [onChannelClosed]
    cases ha : q.active with
    | none => exact tells_quiet rfl
    | some a =>
      exact tells_stopped rfl (stops_of_failed rfl) (h.bytesOf_active ha).symm
        (h.active a ha).queued_lt ⟨h.active_ne ha, by simp⟩

/-- So does a sequence of moves: what the first one reports stays accurate while the others follow.
-/
theorem ParcelsMatch.tells_moves (h : ParcelsMatch calls record reports q) (hm : Moves q es rs q') :
    Tells record reports es rs q' := by
  induction hm generalizing record reports with
  | refl => exact tells_quiet rfl
  | step first rest ih =>
    have hfirst := h.move first
    exact (h.tells_move first).trans hfirst rest (ih hfirst)

/-- **A turn keeps the parcels in order and reports what was taken.** -/
theorem ParcelsMatch.turned (h : ParcelsMatch calls record reports q) {call : Option Call}
    (hmade : ∀ c ∈ call, c.Made) (ht : q.Turned call es rs q') :
    ParcelsMatch (calls ++ call.toList) (record ++ es) (reports ++ rs) q'
      ∧ Tells record reports es rs q' := by
  cases call with
  | none =>
    rw [Option.toList_none, List.append_nil]
    exact ⟨h.moves ht, h.tells_moves ht⟩
  | some c =>
    obtain ⟨es₁, rs₁, q₁, es₂, rs₂, ho, hm, rfl, rfl⟩ := ht
    have hopened := h.opening (hmade c rfl) ho
    refine ⟨?_, (h.tells_opening (hmade c rfl) ho).trans hopened hm (hopened.tells_moves hm)⟩
    rw [← List.append_assoc, ← List.append_assoc]
    exact hopened.moves hm

/-! ## Reports that follow each other

What was reported of a job bounds its cursor from below (`Reached`), and every later report is made
from the cursor. -/

/-- A job of which `n` bytes were reported has come so far, if it waits or is active. -/
structure Reached (q : TransferQueue) (id n : ℕ) : Prop where
  waiting : ∀ w ∈ q.waiting, w.1 = id → n = 0
  active : ∀ a ∈ q.active, a.id = id → n ≤ a.job.queued

/-- What was reported of a job is never more than what is reported later. -/
structure NeverDecreases (reports : List TransferProgress) (q : TransferQueue) : Prop where
  known : ∀ p ∈ reports, p.id < q.nextId
  reached : ∀ p ∈ reports, q.Reached p.id p.queued
  ascends : reports.Pairwise fun p r => p.id = r.id → p.queued ≤ r.queued

theorem neverDecreases_new (limits : TransferLimits) : NeverDecreases [] (new limits) :=
  ⟨List.forall_mem_nil _, List.forall_mem_nil _, .nil⟩

/-- A move does not turn a cursor back. -/
theorem Reached.move {n : ℕ} (h : q.Reached id n) (hm : Move q es rs q') : q'.Reached id n := by
  refine ⟨fun w hw => h.waiting w (hm.waiting_subset hw), fun a ha hid => ?_⟩
  rcases hm.active_or ha with ⟨w, hw, hwid⟩ | ⟨b, hb, hbid, hle, -⟩
  · rw [h.waiting w hw (hwid.trans hid)]
    exact Nat.zero_le _
  · exact (h.active b hb (hbid.trans hid)).trans hle

/-- Nor does an opening, since the job it gives has a new number. -/
theorem Reached.opening {n : ℕ} (h : q.Reached id n) (hid : id < q.nextId) {c : Call}
    (ho : Opening q c es rs q') : q'.Reached id n := by
  cases ho with
  | enqueue =>
    refine ⟨fun w hw hwid => ?_, h.active⟩
    rcases List.mem_append.mp hw with hw | hw
    · exact h.waiting w hw hwid
    · obtain rfl := List.mem_singleton.mp hw
      exact absurd hwid hid.ne'
  | attach | sleep | idle => exact ⟨h.waiting, h.active⟩
  | @wake _ a _ _ ha =>
    refine ⟨h.waiting, ?_⟩
    rintro _ ⟨⟩ hid
    exact h.active a ha hid
  | closed => exact ⟨h.waiting, nofun⟩

/-- Nothing is reported. -/
theorem NeverDecreases.silent (h : NeverDecreases reports q) (hid : q'.nextId = q.nextId)
    (hreached : ∀ p ∈ reports, q'.Reached p.id p.queued) : NeverDecreases (reports ++ []) q' := by
  rw [List.append_nil]
  exact ⟨fun p hp => hid ▸ h.known p hp, hreached, h.ascends⟩

/-- A report that is not behind the earlier ones. -/
theorem NeverDecreases.concat (h : NeverDecreases reports q) (hid : q.nextId ≤ q'.nextId)
    (hreached : ∀ p ∈ reports, q'.Reached p.id p.queued) {p : TransferProgress}
    (hknown : p.id < q'.nextId) (hahead : ∀ r ∈ reports, r.id = p.id → r.queued ≤ p.queued)
    (hp : q'.Reached p.id p.queued) : NeverDecreases (reports ++ [p]) q' where
  known := List.forall_mem_append.mpr
    ⟨fun r hr => (h.known r hr).trans_le hid, List.forall_mem_singleton.mpr hknown⟩
  reached := List.forall_mem_append.mpr ⟨hreached, List.forall_mem_singleton.mpr hp⟩
  ascends := by
    refine List.pairwise_append.mpr ⟨h.ascends, List.pairwise_singleton _ _, fun r hr => ?_⟩
    exact List.forall_mem_singleton.mpr (hahead r hr)

/-- A report on the oldest job that waits, of which nothing was sent. -/
theorem NeverDecreases.turn (h : NeverDecreases reports q)
    (hb : ParcelsMatch calls record reports q) (hreached : ∀ p ∈ reports, q'.Reached p.id p.queued)
    (hid : q'.nextId = q.nextId) {p : TransferProgress} (hw : q.waiting = (p.id, job) :: rest)
    (hqueued : p.queued = 0) :
    NeverDecreases (reports ++ [p]) q' := by
  have hmem : (p.id, job) ∈ q.waiting := hw ▸ List.mem_cons_self
  have hmem' : p.id ∈ q.numbers reports :=
    List.mem_append_left _ (List.mem_reverse.mpr (List.mem_map_of_mem hmem))
  refine h.concat hid.ge hreached (hid ▸ hb.below _ hmem') (fun r hr hrid => ?_) ?_
  · exact ((h.reached r hr).waiting _ hmem hrid.symm).trans_le (Nat.zero_le _)
  · rw [hqueued]
    exact ⟨fun _ _ _ => rfl, fun _ _ _ => Nat.zero_le _⟩

/-- A report on the active job. -/
theorem NeverDecreases.underway (h : NeverDecreases reports q)
    (hb : ParcelsMatch calls record reports q) (hreached : ∀ p ∈ reports, q'.Reached p.id p.queued)
    (ha : q.active = some a) (hid : q'.nextId = q.nextId) (hwaiting : q'.waiting = q.waiting)
    {p : TransferProgress} (hp : p.id = a.id) (hqueued : a.job.queued ≤ p.queued)
    (hactive : ∀ b ∈ q'.active, b.job.queued = p.queued) :
    NeverDecreases (reports ++ [p]) q' := by
  obtain ⟨ids, _, _, hbegun, -⟩ := hb.latest a ha
  have hmem : p.id ∈ q.numbers reports :=
    List.mem_append_right _ (hbegun ▸ hp ▸ List.mem_cons_self)
  refine h.concat hid.ge hreached (hid ▸ hb.below _ hmem) (fun r hr hrid => ?_) ⟨?_, ?_⟩
  · exact ((h.reached r hr).active a ha (hp.symm.trans hrid.symm)).trans hqueued
  · rw [hwaiting]
    exact fun w hw hwid => absurd (hwid.trans hp) (hb.active_ne ha w hw)
  · exact fun b hb _ => (hactive b hb).ge

/-- **A move reports no less than before.** -/
theorem NeverDecreases.move (h : NeverDecreases reports q)
    (hb : ParcelsMatch calls record reports q) (hm : Move q es rs q') :
    NeverDecreases (reports ++ rs) q' := by
  have hreached : ∀ p ∈ reports, q'.Reached p.id p.queued := fun p hp => (h.reached p hp).move hm
  cases hm with
  | look | chunk => exact h.silent rfl hreached
  | refuse _ _ hw => exact h.turn hb hreached rfl hw (hb.waiting _ (hw ▸ List.mem_cons_self)).queued
  | silence _ _ hw hs | begin _ _ hw hs =>
    have hfresh := hb.waiting _ (hw ▸ List.mem_cons_self)
    obtain rfl := TransferJob.eq_of_start hs
    exact h.turn hb hreached rfl hw hfresh.queued
  | last _ ha _ _ hnext | broken _ ha _ _ hnext =>
    exact h.underway hb hreached ha rfl rfl rfl (TransferJob.le_queued_of_nextChunk? hnext) nofun
  | lost _ ha => exact h.underway hb hreached ha rfl rfl rfl le_rfl nofun
  | full _ ha =>
    refine h.underway hb hreached ha rfl rfl rfl le_rfl ?_
    rintro _ ⟨⟩
    rfl

/-- An opening reports on a job that is new, or on the active one. -/
theorem NeverDecreases.opening (h : NeverDecreases reports q)
    (hb : ParcelsMatch calls record reports q) {c : Call} (hmade : c.Made)
    (ho : Opening q c es rs q') : NeverDecreases (reports ++ rs) q' := by
  have hreached : ∀ p ∈ reports, q'.Reached p.id p.queued := fun p hp =>
    (h.reached p hp).opening (h.known p hp) ho
  cases ho with
  | enqueue job =>
    obtain ⟨name, mime, source, hjob⟩ := hmade
    have hqueued : (job.progress q.nextId .waiting).queued = 0 :=
      (TransferJob.fresh_of_new hjob).queued
    refine h.concat (Nat.le_succ _) hreached (Nat.lt_succ_self _) (fun r hr hrid => ?_) ?_
    · exact absurd hrid (h.known r hr).ne
    · rw [hqueued]
      exact ⟨fun _ _ _ => rfl, fun _ _ _ => Nat.zero_le _⟩
  | attach | wake | sleep | idle => exact h.silent rfl hreached
  | closed =>
    rw [onChannelClosed] at hreached ⊢
    cases ha : q.active with
    | none => exact h.silent rfl hreached
    | some a => exact h.underway hb hreached ha rfl rfl rfl le_rfl (by simp)

theorem NeverDecreases.moves (h : NeverDecreases reports q)
    (hb : ParcelsMatch calls record reports q) (hm : Moves q es rs q') :
    NeverDecreases (reports ++ rs) q' := by
  induction hm generalizing record reports with
  | refl => rwa [List.append_nil]
  | step first _ ih =>
    rw [← List.append_assoc]
    exact ih (h.move hb first) (hb.move first)

theorem NeverDecreases.turned (h : NeverDecreases reports q)
    (hb : ParcelsMatch calls record reports q) {call : Option Call} (hmade : ∀ c ∈ call, c.Made)
    (ht : q.Turned call es rs q') :
    NeverDecreases (reports ++ rs) q' := by
  cases call with
  | none => exact h.moves hb ht
  | some c =>
    obtain ⟨es₁, rs₁, q₁, es₂, rs₂, ho, hm, rfl, rfl⟩ := ht
    rw [← List.append_assoc]
    exact (h.opening hb (hmade c rfl) ho).moves (hb.opening (hmade c rfl) ho) hm

end

/-! ## Runs -/

/-- All that a run reported, in order. -/
def reportsOf (steps : List Step) : List TransferProgress := steps.flatMap Step.reports

/-- A turn more adds its reports at the end. -/
theorem reportsOf_concat (steps : List Step) (step : Step) :
    reportsOf (steps ++ [step]) = reportsOf steps ++ step.reports := by
  simp [reportsOf]

/-- The bytes of a job that were taken in a run. -/
def bytesIn (id : ℕ) (steps : List Step) : ℕ := bytesOf id (reportsOf steps) (recordOf steps)

section
variable {limits : TransferLimits} {steps : List Step} {q : TransferQueue}

/-- What is said of the reports of a run that left the queue `q`. -/
structure Accurate (steps : List Step) (q : TransferQueue) : Prop where
  /-- No job is begun twice, and a parcel is that of the job that was begun with it: its
  announcement, and the first bytes of its file. -/
  distinct : (begun (reportsOf steps)).Nodup
  packed : List.Forall₂ (Holds (accepted (callsOf steps))) (begun (reportsOf steps))
    (parcels (recordOf steps))
  /-- Every report gives the bytes that were taken of its job, but for a chunk that was refused. -/
  reported : ∀ front step back, steps = front ++ step :: back → ∀ p ∈ step.reports,
    Accounts step.made (bytesIn p.id front) (bytesIn p.id (front ++ [step])) p
  /-- And so does the report on the active job, some of which is left. -/
  current : ∀ p ∈ q.activeProgress, p.queued = bytesIn p.id steps ∧ p.queued < p.total
    ∧ ∀ r ∈ reportsOf steps, r.id = p.id → r.queued ≤ p.queued
  /-- The reports on a job never go back. -/
  ascends : (reportsOf steps).Pairwise fun p r => p.id = r.id → p.queued ≤ r.queued

/-- The jobs of a run were made by `TransferJob.new`. -/
theorem Run.made (hr : Run limits steps q) : ∀ step ∈ steps, ∀ c ∈ step.call, c.Made := by
  induction hr with
  | start => exact List.forall_mem_nil _
  | turn _ hmade _ ih => exact List.forall_mem_append.mpr ⟨ih, List.forall_mem_singleton.mpr hmade⟩

/-- The invariants hold of every run. -/
theorem Run.parcelsMatch (hr : Run limits steps q) :
    ParcelsMatch (callsOf steps) (recordOf steps) (reportsOf steps) q
      ∧ NeverDecreases (reportsOf steps) q := by
  induction hr with
  | start => exact ⟨parcelsMatch_new limits, neverDecreases_new limits⟩
  | turn before hmade hmay ih =>
    rw [callsOf_concat, recordOf_concat, reportsOf_concat]
    have hturned := hmay.spec fun ω _ => yields_turn before.settled hmade
    exact ⟨(ih.1.turned hmade hturned).1, ih.2.turned ih.1 hmade hturned⟩

/-- **What is reported is what was taken**, but for a chunk that was refused, whatever the channels
answer. -/
theorem Run.accurate (hr : Run limits steps q) : Accurate steps q := by
  obtain ⟨hmatch, hrises⟩ := hr.parcelsMatch
  refine ⟨?_, hmatch.packed, ?_, ?_, hrises.ascends⟩
  · obtain ⟨-, hsorted, -⟩ := List.pairwise_append.mp hmatch.sorted
    exact hsorted.imp fun h => h.ne'
  · intro front step back hsteps p hp
    obtain ⟨hbefore, -, hturned⟩ := hr.split hsteps
    have hmem : step ∈ steps := hsteps ▸ List.mem_append_right _ List.mem_cons_self
    have htells := (hbefore.parcelsMatch.1.turned (hr.made step hmem) hturned).2
    rw [bytesIn, bytesIn, recordOf_concat, reportsOf_concat]
    exact htells.accounts p hp
  · intro p hp
    obtain ⟨a, ha, rfl⟩ := Option.map_eq_some_iff.mp hp
    refine ⟨(hmatch.bytesOf_active ha).symm, (hmatch.active a ha).queued_lt, fun r hr hid => ?_⟩
    exact (hrises.reached r hr).active a ha hid.symm

end

/-- Two of the three bytes of the first file are taken, one at a time. -/
theorem accurate_sampleTurns : ∃ q, Run {} (playAll (new {}) sampleTurns) q
    ∧ Accurate (playAll (new {}) sampleTurns) q
    ∧ (reportsOf (playAll (new {}) sampleTurns)).map (fun p => (p.id, p.queued, p.state))
      = [(1, 0, .waiting), (1, 0, .sending), (1, 0, .paused), (2, 0, .waiting), (1, 2, .paused)]
    ∧ bytesIn 1 (playAll (new {}) sampleTurns) = 2
    ∧ bytesIn 2 (playAll (new {}) sampleTurns) = 0 := by
  obtain ⟨q, hr⟩ := Run.start.playAll made_sampleTurns
  exact ⟨q, hr, hr.accurate, by decide +kernel, by decide +kernel, by decide +kernel⟩

/-- A file is put in the queue, and then a channel is attached that refuses its only chunk. -/
def refusedTurns : List Step :=
  let given := (new {}).playOn 0 (some (.enqueue sampleJob))
  let channel : ScriptedChannel := { handle := sampleChannel, plan := { failBytes := 1 } }
  let out := given.after.turn (some (.attach sampleChannel 65536))
    (⟨⟨channel⟩, []⟩ : Recorded ScriptedWorld)
  [given, ⟨given.after, some (.attach sampleChannel 65536), out.2.record, out.1.1, out.1.2⟩]

theorem run_refusedTurns : ∃ q, Run {} refusedTurns q := by
  have hgiven : Run {} [(new {}).playOn 0 (some (.enqueue sampleJob))] _ :=
    Run.start.turn (by simpa using made_sampleJob) ⟨ScriptedWorld, inferInstance, _, rfl, rfl⟩
  exact ⟨_, hgiven.turn (by simp [Call.Made]) ⟨ScriptedWorld, inferInstance, _, rfl, rfl⟩⟩

/-- Nothing of the file was taken, but the report on its failure counts all of it. -/
theorem not_exact_refusedTurns : (∃ q, Run {} refusedTurns q)
    ∧ (reportsOf refusedTurns).map (fun p => (p.id, p.queued, p.state))
      = [(1, 0, .waiting), (1, 0, .sending), (1, 3, .failed "channel send failed: injected")]
    ∧ bytesIn 1 refusedTurns = 0 ∧ ∀ p ∈ reportsOf refusedTurns, p.total = 3 :=
  ⟨run_refusedTurns, by decide +kernel, by decide +kernel, by decide +kernel⟩

end TransferQueue

end CameraViewer.Transfer
