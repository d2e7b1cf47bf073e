import CameraViewer.Proofs.Transfer.Sizes

/-!
# Proofs/Transfer/Parcels — the bytes of a job that were taken

An announcement that is taken begins a parcel, and the chunks after it go into that parcel. So the
parcels belong to the jobs that were reported as begun, one each (`bytesOf`), and hold the first
bytes of their files (`Holds`).

`ParcelsMatch` knows the parcel of the active job, and that the others are of jobs before it. A job
that neither waits nor goes on is `Still`, and no more is taken of it (`ParcelsMatch.still_moves`).
-/

namespace CameraViewer.Transfer

open Peer World Rehearsal

/-! ## Parcels

The frames that were taken are sorted into parcels by the announcements among them, without a look
at the queue. -/

/-- An announcement that was taken, and the bytes that came after it. -/
structure Parcel where
  text : String
  bytes : Bytes

/-- A text begins a parcel; bytes go into the latest one. -/
def pack : List Parcel → ChannelHandle × ChannelFrame → List Parcel
  | parcels, (_, .text text) => ⟨text, #[]⟩ :: parcels
  | ⟨text, bytes⟩ :: earlier, (_, .binary data) => ⟨text, bytes ++ data⟩ :: earlier
  | [], (_, .binary _) => []

/-- The parcels of a record, the latest first. -/
def parcels (record : List Entry) : List Parcel := (taken record).foldl pack []

/-- The jobs that were begun, the latest first. -/
def begun (reports : List TransferProgress) : List ℕ :=
  ((reports.filter (·.state = .sending)).map (·.id)).reverse

/-- How many bytes there are under a number. -/
def bytesUnder (id : ℕ) (packed : List (ℕ × Parcel)) : ℕ :=
  ((packed.filter (·.1 = id)).map (·.2.bytes.size)).sum

/-- How many bytes of a job were taken. -/
def bytesOf (id : ℕ) (reports : List TransferProgress) (record : List Entry) : ℕ :=
  bytesUnder id ((begun reports).zip (parcels record))

section
variable {id : ℕ} {record es : List Entry} {reports rs : List TransferProgress}

/-- A record that goes on packs what is taken on top. -/
theorem parcels_append : parcels (record ++ es) = (taken es).foldl pack (parcels record) := by
  rw [parcels, taken_append, List.foldl_append, parcels]

theorem begun_append : begun (reports ++ rs) = begun rs ++ begun reports := by
  simp [begun]

theorem begun_eq_nil (h : ∀ p ∈ rs, p.state ≠ .sending) : begun rs = [] := by
  simpa [begun] using h

theorem bytesUnder_cons (number : ℕ) (parcel : Parcel) (packed : List (ℕ × Parcel)) :
    bytesUnder id ((number, parcel) :: packed)
      = (if number = id then parcel.bytes.size else 0) + bytesUnder id packed := by
  by_cases h : number = id <;> simp [bytesUnder, h]

theorem bytesUnder_eq_zero {ids : List ℕ} {ps : List Parcel} (h : id ∉ ids) :
    bytesUnder id (ids.zip ps) = 0 := by
  have hnone : (ids.zip ps).filter (·.1 = id) = [] := by
    refine List.filter_eq_nil_iff.mpr fun b hb heq => h ?_
    rw [← of_decide_eq_true heq]
    exact (List.of_mem_zip hb).1
  rw [bytesUnder, hnone]
  rfl

/-- No bytes are counted of a job that was not begun. -/
theorem bytesOf_eq_zero (h : id ∉ begun reports) : bytesOf id reports record = 0 :=
  bytesUnder_eq_zero h

/-- Where nothing is taken and nothing begun, all stays. -/
theorem bytesOf_quiet (hes : taken es = []) (hrs : begun rs = []) :
    bytesOf id (reports ++ rs) (record ++ es) = bytesOf id reports record := by
  rw [bytesOf, parcels_append, begun_append, hes, hrs]
  rfl

/-- A parcel is empty at first. -/
theorem bytesOf_begin {c : ChannelHandle} {text : String} {number : ℕ}
    (hes : taken es = [(c, .text text)]) (hrs : begun rs = [number]) :
    bytesOf id (reports ++ rs) (record ++ es) = bytesOf id reports record := by
  rw [bytesOf, parcels_append, begun_append, hes, hrs]
  simp [pack, bytesUnder_cons, bytesOf]

/-- A chunk goes into the parcel of the job that was begun last. -/
theorem bytesOf_send {c : ChannelHandle} {chunk : Bytes} {number : ℕ} {ids : List ℕ}
    {parcel : Parcel} {earlier : List Parcel} (hbegun : begun reports = number :: ids)
    (hparcels : parcels record = parcel :: earlier) (hes : taken es = [(c, .binary chunk)])
    (hrs : begun rs = []) :
    bytesOf id (reports ++ rs) (record ++ es)
      = bytesOf id reports record + if number = id then chunk.size else 0 := by
  rw [bytesOf, bytesOf, parcels_append, begun_append, hes, hrs, hbegun, hparcels]
  by_cases h : number = id
  · simp [pack, bytesUnder_cons, h]
    omega
  · simp [pack, bytesUnder_cons, h]

end

namespace TransferQueue

/-! ## Whose parcels they are

Announcements and jobs that were begun come in the same order, so the parcels find their jobs by
position (`ParcelsMatch`). -/

/-- The parcel is that of the job with this number: its announcement, and the first bytes of its
file. -/
def Holds (jobs : List TransferJob) (id : ℕ) (parcel : Parcel) : Prop :=
  ∃ job, (id, job) ∈ numbered jobs ∧ parcel.text = job.announcement.text
    ∧ ∃ n, parcel.bytes = job.source.bytes.extract 0 n

/-- The parcel is that of a job on its way, up to the cursor. -/
structure ReachesCursor (jobs : List TransferJob) (a : ActiveTransfer) (parcel : Parcel) :
    Prop where
  given : ∃ job, (a.id, job) ∈ numbered jobs ∧ a.job.source = job.source
    ∧ parcel.text = job.announcement.text
  bytes_eq : parcel.bytes = a.job.source.bytes.extract 0 a.job.queued

/-- A parcel keeps its job when more jobs are given. -/
theorem Holds.mono {jobs jobs' : List TransferJob} {id : ℕ} {parcel : Parcel}
    (h : Holds jobs id parcel) (hsub : numbered jobs ⊆ numbered jobs') : Holds jobs' id parcel :=
  let ⟨job, hmem, hparcel⟩ := h
  ⟨job, hsub hmem, hparcel⟩

theorem ReachesCursor.mono {jobs jobs' : List TransferJob} {a : ActiveTransfer} {parcel : Parcel}
    (h : ReachesCursor jobs a parcel) (hsub : numbered jobs ⊆ numbered jobs') :
    ReachesCursor jobs' a parcel :=
  let ⟨job, hmem, hjob⟩ := h.given
  ⟨⟨job, hsub hmem, hjob⟩, h.bytes_eq⟩

/-- The parcel of the job on its way is that of a job. -/
theorem ReachesCursor.holds {jobs : List TransferJob} {a : ActiveTransfer} {parcel : Parcel}
    (h : ReachesCursor jobs a parcel) : Holds jobs a.id parcel := by
  obtain ⟨job, hmem, hsource, htext⟩ := h.given
  exact ⟨job, hmem, htext, a.job.queued, hsource ▸ h.bytes_eq⟩

/-- The numbers of the jobs that wait or were begun, the latest first. -/
def numbers (q : TransferQueue) (reports : List TransferProgress) : List ℕ :=
  (q.waiting.map Prod.fst).reverse ++ begun reports

/-- The parcels are those of the jobs that were begun, and the latest is that of the active job. -/
structure ParcelsMatch (calls : List Call) (record : List Entry) (reports : List TransferProgress)
    (q : TransferQueue) : Prop extends Settled q where
  nextId_eq : q.nextId = (accepted calls).length + 1
  given : ∀ w ∈ q.waiting, w ∈ numbered (accepted calls)
  packed : List.Forall₂ (Holds (accepted calls)) (begun reports) (parcels record)
  sorted : (q.numbers reports).Pairwise (· > ·)
  below : ∀ id ∈ q.numbers reports, id < q.nextId
  latest : ∀ a ∈ q.active, ∃ ids parcel earlier, begun reports = a.id :: ids
    ∧ parcels record = parcel :: earlier ∧ ReachesCursor (accepted calls) a parcel

/-- At first there are neither parcels nor jobs. -/
theorem parcelsMatch_new (limits : TransferLimits) : ParcelsMatch [] [] [] (new limits) where
  toSettled := settled_new limits
  nextId_eq := rfl
  given := by simp [new]
  packed := .nil
  sorted := .nil
  below := by simp [numbers, new, begun]
  latest := by simp [new]

section
variable {calls : List Call} {record es : List Entry} {reports rs : List TransferProgress}
  {q q' : TransferQueue} {a : ActiveTransfer} {id : ℕ} {job : TransferJob}
  {rest : List (ℕ × TransferJob)}

/-- A job that waits was not begun. -/
theorem ParcelsMatch.not_begun (h : ParcelsMatch calls record reports q) {w : ℕ × TransferJob}
    (hw : w ∈ q.waiting) : w.1 ∉ begun reports := by
  obtain ⟨-, -, hdisjoint⟩ := List.pairwise_append.mp h.sorted
  intro hbegun
  have hwaits : w.1 ∈ (q.waiting.map Prod.fst).reverse :=
    List.mem_reverse.mpr (List.mem_map_of_mem hw)
  exact lt_irrefl _ (hdisjoint w.1 hwaits w.1 hbegun)

theorem ParcelsMatch.bytesOf_waiting (h : ParcelsMatch calls record reports q) {w : ℕ × TransferJob}
    (hw : w ∈ q.waiting) : bytesOf w.1 reports record = 0 := bytesOf_eq_zero (h.not_begun hw)

/-- No bytes are taken under a number that is not given yet. -/
theorem ParcelsMatch.bytesOf_nextId (h : ParcelsMatch calls record reports q) :
    bytesOf q.nextId reports record = 0 := by
  refine bytesOf_eq_zero fun hmem => ?_
  exact lt_irrefl _ (h.below _ (List.mem_append_right _ hmem))

/-- **The bytes of the active job** are those its cursor is past. -/
theorem ParcelsMatch.bytesOf_active (h : ParcelsMatch calls record reports q)
    (ha : q.active = some a) :
    bytesOf a.id reports record = a.job.queued := by
  obtain ⟨ids, parcel, earlier, hbegun, hparcels, hcursor⟩ := h.latest a ha
  have hle : a.job.queued ≤ a.job.source.bytes.size := (h.active a ha).queued_lt.le
  have hsize : parcel.bytes.size = a.job.queued := by
    rw [hcursor.bytes_eq, Array.size_extract, Nat.min_eq_left hle, Nat.sub_zero]
  obtain ⟨-, hsorted, -⟩ := List.pairwise_append.mp h.sorted
  rw [hbegun, List.pairwise_cons] at hsorted
  have hother : a.id ∉ ids := fun hmem => lt_irrefl _ (hsorted.1 _ hmem)
  rw [bytesOf, hbegun, hparcels, List.zip_cons_cons, bytesUnder_cons, if_pos rfl,
    bytesUnder_eq_zero hother,
    hsize, Nat.add_zero]

theorem ParcelsMatch.active_ne (h : ParcelsMatch calls record reports q) (ha : q.active = some a) :
    ∀ w ∈ q.waiting, w.1 ≠ a.id := by
  obtain ⟨ids, _, _, hbegun, -⟩ := h.latest a ha
  intro w hw heq
  exact h.not_begun hw (hbegun ▸ heq ▸ List.mem_cons_self)

theorem ParcelsMatch.head_ne (h : ParcelsMatch calls record reports q)
    (hw : q.waiting = (id, job) :: rest) :
    ∀ w ∈ rest, w.1 ≠ id := by
  obtain ⟨hsorted, -⟩ := List.pairwise_append.mp h.sorted
  rw [List.pairwise_reverse, hw, List.map_cons, List.pairwise_cons] at hsorted
  exact fun w hmem => (hsorted.1 _ (List.mem_map_of_mem hmem)).ne'

/-- Calls that give no job change nothing. -/
theorem ParcelsMatch.called (h : ParcelsMatch calls record reports q) {c : Call}
    (hc : accepted [c] = []) :
    ParcelsMatch (calls ++ [c]) record reports q := by
  have hsame : accepted (calls ++ [c]) = accepted calls := by
    rw [accepted_append, hc, List.append_nil]
  refine ⟨h.toSettled, ?_, ?_, ?_, h.sorted, h.below, ?_⟩ <;> rw [hsame]
  exacts [h.nextId_eq, h.given, h.packed, h.latest]

/-- Nothing is taken and nothing begun. -/
theorem ParcelsMatch.quiet (h : ParcelsMatch calls record reports q) (hq : q'.Settled)
    (hid : q'.nextId = q.nextId) (hw : q'.waiting.Sublist q.waiting)
    (hactive : ∀ a ∈ q'.active, ∃ b ∈ q.active, b.id = a.id ∧ b.job = a.job) (hes : taken es = [])
    (hrs : begun rs = []) : ParcelsMatch calls (record ++ es) (reports ++ rs) q' := by
  have hbegun : begun (reports ++ rs) = begun reports := by rw [begun_append, hrs, List.nil_append]
  have hparcels : parcels (record ++ es) = parcels record := by rw [parcels_append, hes]; rfl
  have hnumbers : (q'.numbers (reports ++ rs)).Sublist (q.numbers reports) := by
    rw [numbers, numbers, hbegun]
    exact (hw.map _).reverse.append_right _
  refine ⟨hq, hid.trans h.nextId_eq, fun w hmem => h.given w (hw.subset hmem), ?_,
    h.sorted.sublist hnumbers, fun id hmem => hid ▸ h.below id (hnumbers.subset hmem), ?_⟩
  · rw [hbegun, hparcels]
    exact h.packed
  · intro a ha
    obtain ⟨b, hb, hidb, hjob⟩ := hactive a ha
    obtain ⟨ids, parcel, earlier, hids, hearlier, hcursor⟩ := h.latest b hb
    rw [hbegun, hparcels, ← hidb]
    exact ⟨ids, parcel, earlier, hids, hearlier, hidb ▸ hjob ▸ hcursor.given,
      hjob ▸ hcursor.bytes_eq⟩

/-- A job is begun. -/
theorem ParcelsMatch.begin (h : ParcelsMatch calls record reports q)
    (hw : q.waiting = (a.id, job) :: rest) (hjob : a.job.announcement = job.announcement)
    (hsource : a.job.source = job.source) (hqueued : a.job.queued = 0) {c : ChannelHandle}
    (hq : ({ q with waiting := rest, active := some a } : TransferQueue).Settled)
    (hes : taken es = [(c, .text a.job.announcement.text)]) :
    ParcelsMatch calls (record ++ es) (reports ++ [a.progress .sending])
      { q with waiting := rest, active := some a } := by
  have hbegun : begun (reports ++ [a.progress .sending]) = a.id :: begun reports := begun_append
  have hparcels : parcels (record ++ es) = ⟨job.announcement.text, #[]⟩ :: parcels record := by
    rw [parcels_append, hes, hjob]
    rfl
  have hnumbers : numbers { q with waiting := rest, active := some a }
      (reports ++ [a.progress .sending]) = q.numbers reports := by
    simp [numbers, hbegun, hw]
  have hcursor : ReachesCursor (accepted calls) a ⟨job.announcement.text, #[]⟩ := by
    refine ⟨⟨job, h.given _ (hw ▸ List.mem_cons_self), hsource, rfl⟩, ?_⟩
    rw [hqueued, Array.extract_zero]
  refine ⟨hq, h.nextId_eq, fun w hmem => h.given w (hw ▸ List.mem_cons_of_mem _ hmem), ?_,
    hnumbers ▸ h.sorted, hnumbers ▸ h.below, ?_⟩
  · rw [hbegun, hparcels]
    exact .cons hcursor.holds h.packed
  · rintro _ ⟨⟩
    exact ⟨_, _, _, hbegun, hparcels, hcursor⟩

/-- A chunk is taken. -/
theorem ParcelsMatch.send (h : ParcelsMatch calls record reports q) (ha : q.active = some a)
    {chunk : Bytes} {next : TransferJob} (hnext : a.job.nextChunk? = some (chunk, next))
    {c : ChannelHandle} {active : Option ActiveTransfer}
    (hq : ({ q with active } : TransferQueue).Settled)
    (hactive : ∀ b ∈ active, b.id = a.id ∧ b.job = next) (hes : taken es = [(c, .binary chunk)])
    (hrs : begun rs = []) :
    ParcelsMatch calls (record ++ es) (reports ++ rs) { q with active } := by
  obtain ⟨ids, ⟨text, bytes⟩, earlier, hids, hearlier, hcursor⟩ := h.latest a ha
  obtain ⟨hsource, hextract⟩ := TransferJob.extract_of_nextChunk? hnext
  have hbegun : begun (reports ++ rs) = begun reports := by rw [begun_append, hrs, List.nil_append]
  have hparcels : parcels (record ++ es) = ⟨text, bytes ++ chunk⟩ :: earlier := by
    rw [parcels_append, hes, hearlier]
    rfl
  have hsent : ReachesCursor (accepted calls) { a with job := next } ⟨text, bytes ++ chunk⟩ := by
    have hbytes : bytes = a.job.source.bytes.extract 0 a.job.queued := hcursor.bytes_eq
    refine ⟨hsource ▸ hcursor.given, ?_⟩
    rw [hsource, ← hextract, hbytes]
  have hnumbers : numbers { q with active } (reports ++ rs) = q.numbers reports := by
    rw [numbers, hbegun]
    rfl
  refine ⟨hq, h.nextId_eq, h.given, ?_, hnumbers ▸ h.sorted, hnumbers ▸ h.below, ?_⟩
  · have hpacked := h.packed
    rw [hids, hearlier, List.forall₂_cons] at hpacked
    rw [hbegun, hids, hparcels]
    exact .cons hsent.holds hpacked.2
  · intro b hb
    obtain ⟨hid, hjob⟩ := hactive b hb
    refine ⟨ids, _, earlier, by rw [hbegun, hids, hid], hparcels, ?_⟩
    exact ⟨hid ▸ hjob ▸ hsent.given, hjob ▸ hsent.bytes_eq⟩

/-- A job is given. -/
theorem ParcelsMatch.enqueue (h : ParcelsMatch calls record reports q) (job : TransferJob)
    (hq : Settled
      { q with nextId := q.nextId + 1, waiting := q.waiting ++ [(q.nextId, job)] }) :
    ParcelsMatch (calls ++ [.enqueue job]) (record ++ [])
      (reports ++ [job.progress q.nextId .waiting])
      { q with nextId := q.nextId + 1, waiting := q.waiting ++ [(q.nextId, job)] } := by
  have hjobs : numbered (accepted (calls ++ [.enqueue job]))
      = numbered (accepted calls) ++ [(q.nextId, job)] := by
    rw [accepted_append, h.nextId_eq]
    exact numbered_concat _ job
  have hbegun : begun (reports ++ [job.progress q.nextId .waiting]) = begun reports := begun_append
  have hnumbers : numbers { q with
      nextId := q.nextId + 1, waiting := q.waiting ++ [(q.nextId, job)] }
      (reports ++ [job.progress q.nextId .waiting]) = q.nextId :: q.numbers reports := by
    simp [numbers, hbegun]
  have hsub : numbered (accepted calls) ⊆ numbered (accepted (calls ++ [.enqueue job])) := by
    rw [accepted_append]
    exact numbered_subset _ _
  refine ⟨hq, by simpa [accepted] using h.nextId_eq, ?_, ?_, ?_, ?_, ?_⟩
  · refine List.forall_mem_append.mpr ⟨fun w hw => hsub (h.given w hw), ?_⟩
    exact List.forall_mem_singleton.mpr (hjobs ▸ List.mem_append_right _ List.mem_cons_self)
  · rw [List.append_nil, hbegun]
    exact h.packed.imp fun _ _ hparcel => hparcel.mono hsub
  · rw [hnumbers]
    exact .cons h.below h.sorted
  · rw [hnumbers]
    refine List.forall_mem_cons.mpr ⟨Nat.lt_succ_self _, fun id hmem => ?_⟩
    exact Nat.lt_succ_of_lt (h.below id hmem)
  · intro a ha
    obtain ⟨ids, parcel, earlier, hids, hearlier, hcursor⟩ := h.latest a ha
    rw [List.append_nil, hbegun]
    exact ⟨ids, parcel, earlier, hids, hearlier, hcursor.mono hsub⟩

/-- **A move keeps the parcels in order.** -/
theorem ParcelsMatch.move (h : ParcelsMatch calls record reports q) (hm : Move q es rs q') :
    ParcelsMatch calls (record ++ es) (reports ++ rs) q' := by
  have hq := h.toSettled.move hm
  have hself : ∀ a ∈ q.active, ∃ b ∈ q.active, b.id = a.id ∧ b.job = a.job := fun a ha =>
    ⟨a, ha, rfl, rfl⟩
  cases hm with
  | look => exact h.quiet hq rfl (List.Sublist.refl _) hself rfl rfl
  | refuse _ _ hw | silence _ _ hw =>
    exact h.quiet hq rfl (hw ▸ List.sublist_cons_self _ _) hself rfl rfl
  | begin _ _ hw hs =>
    have hfresh := h.waiting _ (hw ▸ List.mem_cons_self)
    obtain rfl := TransferJob.eq_of_start hs
    exact h.begin (a := ⟨_, _, _, false⟩) hw rfl rfl hfresh.queued hq rfl
  | chunk _ ha _ _ hnext =>
    refine h.send ha hnext hq ?_ rfl rfl
    rintro _ ⟨⟩
    exact ⟨rfl, rfl⟩
  | last _ ha _ _ hnext => exact h.send ha hnext hq nofun rfl rfl
  | broken | lost => exact h.quiet hq rfl (List.Sublist.refl _) nofun rfl rfl
  | full _ ha =>
    refine h.quiet hq rfl (List.Sublist.refl _) ?_ rfl rfl
    rintro _ ⟨⟩
    exact ⟨_, ha, rfl, rfl⟩

/-- And so does an opening. -/
theorem ParcelsMatch.opening (h : ParcelsMatch calls record reports q) {c : Call} (hmade : c.Made)
    (ho : Opening q c es rs q') :
    ParcelsMatch (calls ++ [c]) (record ++ es) (reports ++ rs) q' := by
  have hq := h.toSettled.opening hmade ho
  have hself : ∀ a ∈ q.active, ∃ b ∈ q.active, b.id = a.id ∧ b.job = a.job := fun a ha =>
    ⟨a, ha, rfl, rfl⟩
  cases ho with
  | enqueue job => exact h.enqueue job hq
  | attach | sleep | idle => exact (h.called rfl).quiet hq rfl (List.Sublist.refl _) hself rfl rfl
  | wake _ ha =>
    refine (h.called rfl).quiet hq rfl (List.Sublist.refl _) ?_ rfl rfl
    rintro _ ⟨⟩
    exact ⟨_, ha, rfl, rfl⟩
  | closed =>
    refine (h.called rfl).quiet hq rfl (List.Sublist.refl _) (by simp [onChannelClosed]) rfl ?_
    refine begun_eq_nil fun p hp => ?_
    obtain ⟨a, -, rfl⟩ := Option.map_eq_some_iff.mp (Option.mem_toList.mp hp)
    rintro ⟨⟩

theorem ParcelsMatch.moves (h : ParcelsMatch calls record reports q) (hm : Moves q es rs q') :
    ParcelsMatch calls (record ++ es) (reports ++ rs) q' := by
  induction hm generalizing record reports with
  | refl => simpa using h
  | step first _ ih => simpa using ih (h.move first)

/-! ## Jobs of which no more is taken

A report that a job stopped counts what was taken by then, so nothing may be taken of it in the rest
of the turn. -/

/-- A job that is active after a move waited, or it was active and not further on. -/
theorem Move.active_or (h : Move q es rs q') {a : ActiveTransfer} (ha : a ∈ q'.active) :
    (∃ w ∈ q.waiting, w.1 = a.id)
      ∨ ∃ b ∈ q.active, b.id = a.id ∧ b.job.queued ≤ a.job.queued
        ∧ (b.paused = true → a.paused = true) := by
  cases h with
  | look | refuse | silence => exact .inr ⟨a, ha, rfl, le_rfl, id⟩
  | begin _ _ hw =>
    cases ha
    exact .inl ⟨_, hw ▸ List.mem_cons_self, rfl⟩
  | chunk _ hb _ _ hnext =>
    cases ha
    exact .inr ⟨_, hb, rfl, TransferJob.le_queued_of_nextChunk? hnext, id⟩
  | last | broken | lost => cases ha
  | full _ hb =>
    cases ha
    exact .inr ⟨_, hb, rfl, le_rfl, fun _ => rfl⟩

/-- The job neither waits nor goes on. -/
structure Still (q : TransferQueue) (id : ℕ) : Prop where
  waiting : ∀ w ∈ q.waiting, w.1 ≠ id
  active : ∀ a ∈ q.active, a.id = id → a.paused = true

/-- Only of a job that goes on more is taken. -/
theorem ParcelsMatch.still_move (h : ParcelsMatch calls record reports q) (hm : Move q es rs q')
    (hstill : q.Still id) :
    bytesOf id (reports ++ rs) (record ++ es) = bytesOf id reports record := by
  have hsent : ∀ {c : ChannelHandle} {a : ActiveTransfer} {chunk : Bytes}, q.active = some a →
      a.paused = false → taken es = [(c, .binary chunk)] → begun rs = [] →
      bytesOf id (reports ++ rs) (record ++ es) = bytesOf id reports record := by
    intro c a chunk ha hp hes hrs
    obtain ⟨ids, parcel, earlier, hbegun, hparcels, -⟩ := h.latest a ha
    have hne : a.id ≠ id := fun hid =>
      absurd (hp.symm.trans (hstill.active a ha hid)) Bool.false_ne_true
    rw [bytesOf_send hbegun hparcels hes hrs, if_neg hne, Nat.add_zero]
  cases hm with
  | look | refuse | silence | broken | lost | full => exact bytesOf_quiet rfl rfl
  | begin => exact bytesOf_begin rfl rfl
  | chunk _ ha hp | last _ ha hp => exact hsent ha hp rfl rfl

theorem Still.move (h : q.Still id) (hm : Move q es rs q') : q'.Still id := by
  refine ⟨fun w hw => h.waiting w (hm.waiting_subset hw), fun a ha hid => ?_⟩
  rcases hm.active_or ha with ⟨w, hw, hwid⟩ | ⟨b, hb, hbid, -, hpaused⟩
  · exact absurd (hwid.trans hid) (h.waiting w hw)
  · exact hpaused (h.active b hb (hbid.trans hid))

/-- **No more is taken of a job that is still.** -/
theorem ParcelsMatch.still_moves (h : ParcelsMatch calls record reports q) (hm : Moves q es rs q')
    (hstill : q.Still id) :
    q'.Still id ∧ bytesOf id (reports ++ rs) (record ++ es) = bytesOf id reports record := by
  induction hm generalizing record reports with
  | refl => exact ⟨hstill, by rw [List.append_nil, List.append_nil]⟩
  | step first _ ih =>
    obtain ⟨hafter, hsame⟩ := ih (h.move first) (hstill.move first)
    refine ⟨hafter, ?_⟩
    rw [← List.append_assoc, ← List.append_assoc, hsame, h.still_move first hstill]

end

end TransferQueue

end CameraViewer.Transfer
