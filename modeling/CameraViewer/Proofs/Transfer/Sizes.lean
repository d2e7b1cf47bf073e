import CameraViewer.Proofs.Transfer.Courses

/-!
# Proofs/Transfer/Sizes — chunks fit into messages, and none is left out

A queue settles the size of its chunks when a channel is attached, and a job is started only when a
message can take one. `Trail.fitted`: so it is for the job being sent, as long as there is one, and
all that a call of the queue sends keeps to that size (`Ran.fits`).

A job that is reported as completed was sent whole (`Ledger.sentWhole`). Where no frame was taken at
all, the jobs that do not wait any more have failed (`Ledger.refused`).
-/

namespace CameraViewer.Transfer

open Peer World Rehearsal

/-- The frame that is sent, whether or not the channel takes it. -/
def offered? : Entry → Option (ChannelHandle × ChannelFrame)
  | .asked (.channel c (.sendText text)) _ => some (c, .text text)
  | .asked (.channel c (.sendBytes data)) _ => some (c, .binary data)
  | _ => none

namespace TransferJob

/-- A job that was started has chunks that a message can take. -/
theorem le_of_start {j started : TransferJob} {chunkSize maxMessage : ℕ}
    (h : j.start chunkSize maxMessage = .ok started) : chunkSize ≤ maxMessage := by
  rw [start] at h
  split_ifs at h with hlarge
  exact not_lt.mp hlarge

/-- A window is not empty, and no greater than a chunk. -/
theorem size_of_nextChunk? {j next : TransferJob} {chunk : Bytes}
    (h : j.nextChunk? = some (chunk, next)) : 0 < chunk.size ∧ chunk.size ≤ j.chunkSize := by
  rw [nextChunk?] at h
  split_ifs at h with hdone
  obtain ⟨rfl, -⟩ := Prod.mk.inj (Option.some.inj h)
  have htotal : j.total = j.source.bytes.size := rfl
  obtain ⟨hopen, hpos⟩ : ¬j.source.bytes.size ≤ j.queued ∧ j.chunkSize ≠ 0 := by
    simpa [isComplete, htotal, not_or] using hdone
  rw [Array.size_extract, htotal]
  omega

/-- The cursor goes to the end of the window, which is no further than the end of the file. -/
theorem queued_of_nextChunk? {j next : TransferJob} {chunk : Bytes}
    (h : j.nextChunk? = some (chunk, next)) :
    next.queued = j.queued + chunk.size ∧ next.queued ≤ next.total := by
  have htotal := total_of_nextChunk? h
  rw [nextChunk?] at h
  split_ifs at h with hdone
  obtain ⟨rfl, rfl⟩ := Prod.mk.inj (Option.some.inj h)
  have hsize : j.total = j.source.bytes.size := rfl
  have hopen : j.queued < j.total := by simpa [isComplete] using (not_or.mp hdone).1
  rw [Array.size_extract]
  refine ⟨?_, ?_⟩
  · show min (j.queued + j.chunkSize) j.total = _
    omega
  · rw [htotal]
    exact min_le_right _ _

theorem le_queued_of_nextChunk? {j next : TransferJob} {chunk : Bytes}
    (h : j.nextChunk? = some (chunk, next)) : j.queued ≤ next.queued :=
  (Nat.le_add_right _ _).trans_eq (queued_of_nextChunk? h).1.symm

/-- A window goes on where the cursor was. -/
theorem extract_of_nextChunk? {j next : TransferJob} {chunk : Bytes}
    (h : j.nextChunk? = some (chunk, next)) : next.source = j.source
      ∧ j.source.bytes.extract 0 j.queued ++ chunk = j.source.bytes.extract 0 next.queued := by
  have hle := le_queued_of_nextChunk? h
  rw [nextChunk?] at h
  split_ifs at h
  obtain ⟨rfl, rfl⟩ := Prod.mk.inj (Option.some.inj h)
  refine ⟨rfl, ?_⟩
  rw [Array.extract_append_extract, Nat.zero_min, Nat.max_eq_right hle]

/-- The size of chunks stays as it was settled. -/
theorem chunkSize_of_nextChunk? {j next : TransferJob} {chunk : Bytes}
    (h : j.nextChunk? = some (chunk, next)) : next.chunkSize = j.chunkSize := by
  rw [nextChunk?] at h
  split_ifs at h
  obtain ⟨-, rfl⟩ := Prod.mk.inj (Option.some.inj h)
  rfl

/-- A job that has come to its end has no byte left. -/
theorem queued_eq_of_nextChunk? {j next : TransferJob} {chunk : Bytes}
    (hnext : j.nextChunk? = some (chunk, next)) (hend : next.isComplete = true) :
    next.queued = next.total := by
  have hle : next.total ≤ next.queued := of_decide_eq_true hend
  have htotal := total_of_nextChunk? hnext
  rw [nextChunk?] at hnext
  split_ifs at hnext
  obtain ⟨-, rfl⟩ := Prod.mk.inj (Option.some.inj hnext)
  exact le_antisymm (min_le_right _ _) hle

end TransferJob

namespace TransferQueue

/-- A job is being sent only over a channel, and a message can take its chunks. -/
structure Fitted (q : TransferQueue) : Prop where
  channel : q.channel = none → q.active = none
  chunkSize_eq : ∀ a ∈ q.active, a.job.chunkSize = q.chunkSize
  fits : ∀ a ∈ q.active, q.chunkSize ≤ q.maxMessage

/-- A frame may go out: chunks fit into messages, and it is no empty chunk and none of more than the
size that was settled. -/
def Fits (q : TransferQueue) (frame : ChannelFrame) : Prop :=
  q.chunkSize ≤ q.maxMessage ∧ ∀ data, frame = .binary data → 0 < data.size
    ∧ data.size ≤ q.chunkSize

/-- All frames that are sent may go out. -/
def SendsFitting (q : TransferQueue) (es : List Entry) : Prop :=
  ∀ e ∈ es, ∀ x, offered? e = some x → q.Fits x.2

section
variable {q q' : TransferQueue} {es : List Entry} {rs : List TransferProgress} {c : Call}

/-- Without an active job there is nothing to fit. -/
theorem fitted_of_idle (h : q.active = none) : q.Fitted := by
  refine ⟨fun _ => h, ?_, ?_⟩ <;> simp [h]

/-- Nothing is sent. -/
theorem sendsFitting_of_none (h : ∀ e ∈ es, offered? e = none) : q.SendsFitting es :=
  fun e he _ hx => absurd ((h e he).symm.trans hx) nofun

/-- The announcement of a job that was started. -/
theorem sendsFitting_announce (hfits : q.chunkSize ≤ q.maxMessage) (channel : ChannelHandle)
    (low : ℕ) (job : TransferJob) (result : Except TransferError Unit) :
    q.SendsFitting (asksAnnounce channel low job result) := by
  refine List.forall_mem_cons.mpr ⟨nofun, List.forall_mem_singleton.mpr ?_⟩
  rintro _ ⟨⟩
  exact ⟨hfits, nofun⟩

/-- A chunk of the job being sent, whether or not the channel takes it. -/
theorem Fitted.sends (hq : q.Fitted) {a : ActiveTransfer} (ha : q.active = some a) {chunk : Bytes}
    {next : TransferJob} (hnext : a.job.nextChunk? = some (chunk, next)) (channel : ChannelHandle)
    (buffered : ℕ) (result : Except TransferError Unit) {rest : List Entry}
    (hrest : ∀ e ∈ rest, offered? e = none) :
    q.SendsFitting (asksRoom channel buffered
      ++ .asked (.channel channel (.sendBytes chunk)) result :: rest) := by
  refine List.forall_mem_append.mpr ⟨sendsFitting_of_none (by simp [asksRoom, offered?]), ?_⟩
  refine List.forall_mem_cons.mpr ⟨?_, sendsFitting_of_none hrest⟩
  rintro _ ⟨⟩
  refine ⟨hq.fits a ha, ?_⟩
  rintro _ ⟨⟩
  have hsize := TransferJob.size_of_nextChunk? hnext
  rwa [hq.chunkSize_eq a ha] at hsize

/-- The job being sent fits, and there is a channel. -/
theorem fitted_of_active {channel : ChannelHandle} {a : ActiveTransfer}
    (hc : q.channel = some channel) (ha : q.active = some a) (hsize : a.job.chunkSize = q.chunkSize)
    (hfits : q.chunkSize ≤ q.maxMessage) : q.Fitted := by
  refine ⟨fun hnone => absurd (hc.symm.trans hnone) nofun, fun b hb => ?_, fun _ _ => hfits⟩
  obtain rfl := Option.some.inj (ha.symm.trans hb)
  exact hsize

/-- **A move sends only what fits.** -/
theorem Move.fits (hq : q.Fitted) (h : Move q es rs q') : q'.Fitted ∧ q.SendsFitting es := by
  cases h with
  | look => exact ⟨hq, sendsFitting_of_none (by simp [offered?])⟩
  | refuse => exact ⟨⟨hq.channel, hq.chunkSize_eq, hq.fits⟩, List.forall_mem_nil _⟩
  | silence hc hidle hw hs e =>
    exact ⟨⟨hq.channel, hq.chunkSize_eq, hq.fits⟩,
      sendsFitting_announce (TransferJob.le_of_start hs) _ _ _ _⟩
  | begin hc hidle hw hs =>
    have hle := TransferJob.le_of_start hs
    obtain rfl := TransferJob.eq_of_start hs
    exact ⟨fitted_of_active hc rfl rfl hle, sendsFitting_announce hle _ _ _ _⟩
  | chunk hc ha hp hn hnext hopen =>
    have hsize := (TransferJob.chunkSize_of_nextChunk? hnext).trans (hq.chunkSize_eq _ ha)
    exact ⟨fitted_of_active hc rfl hsize (hq.fits _ ha),
      hq.sends ha hnext _ _ _ (List.forall_mem_singleton.mpr rfl)⟩
  | last hc ha hp hn hnext hend =>
    exact ⟨fitted_of_idle rfl, hq.sends ha hnext _ _ _ (List.forall_mem_singleton.mpr rfl)⟩
  | broken hc ha hp hn hnext e =>
    exact ⟨fitted_of_idle rfl, hq.sends ha hnext _ _ _ (List.forall_mem_nil _)⟩
  | lost => exact ⟨fitted_of_idle rfl, sendsFitting_of_none (by simp [offered?])⟩
  | full hc ha =>
    have hsize := hq.chunkSize_eq _ ha
    exact ⟨fitted_of_active hc rfl hsize (hq.fits _ ha),
      sendsFitting_of_none (by simp [asksRoom, offered?])⟩

/-- A move leaves what was settled for the channel. -/
theorem Move.sizes_eq (h : Move q es rs q') :
    q'.chunkSize = q.chunkSize ∧ q'.maxMessage = q.maxMessage := by
  cases h <;> exact ⟨rfl, rfl⟩

theorem Moves.sizes_eq (h : Moves q es rs q') :
    q'.chunkSize = q.chunkSize ∧ q'.maxMessage = q.maxMessage := by
  induction h with
  | refl => exact ⟨rfl, rfl⟩
  | step first _ ih => exact ⟨ih.1.trans first.sizes_eq.1, ih.2.trans first.sizes_eq.2⟩

/-- What fits is decided by what was settled. -/
theorem SendsFitting.congr (h : q.SendsFitting es)
    (hsame : q'.chunkSize = q.chunkSize ∧ q'.maxMessage = q.maxMessage) : q'.SendsFitting es := by
  intro e he x hx
  rw [Fits, hsame.1, hsame.2]
  exact h e he x hx

/-- Moves send only what fits. -/
theorem Moves.fits (hq : q.Fitted) (h : Moves q es rs q') : q'.Fitted ∧ q.SendsFitting es := by
  induction h with
  | refl => exact ⟨hq, List.forall_mem_nil _⟩
  | step first _ ih =>
    obtain ⟨hnext, hes⟩ := first.fits hq
    obtain ⟨hlast, hrest⟩ := ih hnext
    have hsame := first.sizes_eq
    exact ⟨hlast, List.forall_mem_append.mpr ⟨hes, hrest.congr ⟨hsame.1.symm, hsame.2.symm⟩⟩⟩

/-- An opening sends nothing. -/
theorem Opening.fits (hq : q.Fitted) (hc : ∀ channel m, c = .attach channel m → q.channel = none)
    (ho : Opening q c es rs q') : q'.Fitted ∧ ∀ e ∈ es, offered? e = none := by
  cases ho with
  | enqueue => exact ⟨⟨hq.channel, hq.chunkSize_eq, hq.fits⟩, List.forall_mem_nil _⟩
  | attach => exact ⟨fitted_of_idle (hq.channel (hc _ _ rfl)), List.forall_mem_nil _⟩
  | wake hchannel ha =>
    have hsize := hq.chunkSize_eq _ ha
    exact ⟨fitted_of_active hchannel rfl hsize (hq.fits _ ha), by simp [offered?]⟩
  | sleep => exact ⟨hq, by simp [offered?]⟩
  | idle => exact ⟨hq, List.forall_mem_nil _⟩
  | closed => exact ⟨fitted_of_idle rfl, List.forall_mem_nil _⟩

/-- **A call sends only what fits**, by what the queue has settled then. -/
theorem Ran.fits (hq : q.Fitted) (hc : ∀ channel m, c = .attach channel m → q.channel = none)
    (hr : q.Ran c es rs q') : q'.SendsFitting es := by
  obtain ⟨es₁, rs₁, q₁, es₂, rs₂, ho, hm, rfl, -⟩ := hr
  obtain ⟨hq₁, hnone⟩ := ho.fits hq hc
  have hsent := (hm.fits hq₁).2.congr hm.sizes_eq
  exact List.forall_mem_append.mpr ⟨sendsFitting_of_none hnone, hsent⟩

/-- What is attached settles the size of messages, -/
theorem Ran.maxMessage_eq {channel : ChannelHandle} {maxMessage : ℕ}
    (hr : q.Ran (.attach channel maxMessage) es rs q') : q'.maxMessage = maxMessage := by
  obtain ⟨_, _, _, _, _, ho, hm, -, -⟩ := hr
  rw [hm.sizes_eq.2]
  cases ho
  rfl

/-- and nothing else does. -/
theorem Ran.maxMessage_eq_of_ne (hr : q.Ran c es rs q')
    (hattach : ∀ channel m, c ≠ .attach channel m) :
    q'.maxMessage = q.maxMessage := by
  obtain ⟨_, _, _, _, _, ho, hm, -, -⟩ := hr
  rw [hm.sizes_eq.2]
  cases ho with
  | attach => exact absurd rfl (hattach _ _)
  | enqueue | wake | sleep | idle | closed => rfl

/-- What is being sent fits all along a trail. -/
theorem Trail.fitted {limits : TransferLimits} {h : History} (ht : Trail limits h) :
    h.queue.Fitted := by
  induction ht with
  | start => exact fitted_of_idle rfl
  | opening _ hc ho ih =>
    refine (ho.fits ih ?_).1
    rintro _ _ rfl
    exact hc
  | move _ hm ih => exact (hm.fits ih).1

end

/-! ## Jobs that are over

The account of a shipment says that a completed job has no byte left, and what came before that were
its frames. -/

/-- A job that was reported as completed was sent whole. -/
structure SentWhole (jobs : List TransferJob) (p : TransferProgress) (s : Shipment) : Prop where
  id_eq : s.id = p.id
  given : (s.id, s.job) ∈ numbered jobs
  total_eq : p.total = s.job.total
  /-- No byte is left, -/
  queued_eq : p.queued = p.total
  /-- and the channel took the announcement and then all bytes of the file, in order. -/
  frames : ∃ chunks : List Bytes, s.frames = .text s.job.announcement.text :: chunks.map .binary
    ∧ chunks.flatMap Array.toList = s.job.source.bytes.toList

section
variable {limits : TransferLimits} {h : History} {L : List Shipment} {id : ℕ}

theorem numbered_subset (jobs more : List TransferJob) :
    numbered jobs ⊆ numbered (jobs ++ more) := by
  simp [numbered, List.zipIdx_append]

/-- An opening reports nothing as completed. -/
theorem Opening.not_completed {q q' : TransferQueue} {c : Call} {es : List Entry}
    {rs : List TransferProgress} (ho : Opening q c es rs q') : ∀ p ∈ rs, p.state ≠ .completed := by
  cases ho with
  | enqueue => exact List.forall_mem_singleton.mpr nofun
  | attach | wake | sleep | idle => exact List.forall_mem_nil _
  | closed =>
    intro p hp
    obtain ⟨a, -, rfl⟩ := Option.map_eq_some_iff.mp (Option.mem_toList.mp hp)
    rintro ⟨⟩

/-- **What is reported as completed has no byte left.** -/
theorem Trail.completed (ht : Trail limits h) : ∀ p ∈ h.reports, p.state = .completed →
    ∃ job, (p.id, job) ∈ numbered (accepted h.calls) ∧ p.total = job.total
      ∧ p.queued = p.total := by
  induction ht with
  | start => simp
  | @opening h c es rs q before hc ho ih =>
    intro p hp hstate
    rcases List.mem_append.mp hp with hold | hnew
    · obtain ⟨job, hjob, hsent⟩ := ih p hold hstate
      refine ⟨job, ?_, hsent⟩
      rw [History.extend, accepted_append]
      exact numbered_subset _ _ hjob
    · exact absurd hstate (ho.not_completed p hnew)
  | @move h es rs q before hm ih =>
    intro p hp hstate
    rcases List.mem_append.mp hp with hold | hnew
    · simpa [History.extend] using ih p hold hstate
    cases hm with
    | look | chunk => cases hnew
    | refuse | silence | begin | broken | lost | full =>
      obtain rfl := List.mem_singleton.mp hnew
      cases hstate
    | @last c a n chunk next hc ha _ hn hnext hend =>
      obtain rfl := List.mem_singleton.mp hnew
      obtain ⟨L, hL⟩ := before.ledger
      obtain ⟨earlier, s, sent, pauses, rfl, -, hs⟩ := hL.exists_last ha
      refine ⟨s.job, ?_, ?_, TransferJob.queued_eq_of_nextChunk? hnext hend⟩
      · have hmem : (s.id, s.job) ∈ numbered (accepted h.calls) := by
          rw [← hL.order]
          simp
        simpa [History.extend, TransferJob.progress, hs.id_eq] using hmem
      · have htotal := TransferJob.total_of_nextChunk? hnext
        rw [hs.job_eq] at htotal
        exact htotal

/-- **A job that is reported as completed was sent whole.** -/
theorem Ledger.sentWhole (hL : Ledger limits h L) (ht : Trail limits h) {p : TransferProgress}
    (hp : p ∈ h.reports) (hstate : p.state = .completed) :
    ∃ s ∈ L, SentWhole (accepted h.calls) p s := by
  obtain ⟨job, hjob, htotal, hqueued⟩ := ht.completed p hp hstate
  have hmem : .completed ∈ statesOf p.id h.reports := mem_statesOf.mpr ⟨p, hp, rfl, hstate⟩
  have hplace := hjob
  rw [← hL.order] at hplace
  rcases List.mem_append.mp hplace with hshipped | hw
  · obtain ⟨s, hs, hsame⟩ := List.mem_map.mp hshipped
    obtain ⟨hid, rfl⟩ := Prod.mk.inj hsame
    refine ⟨s, hs, hid, hid ▸ hjob, htotal, hqueued, s.windows, ?_, ?_⟩
    · rw [← hid, hL.shipped s hs] at hmem
      have hcount := Payload.length_windows (p := s.job.source) (n := s.chunkSize)
      cases hfate : s.fate with
      | whole =>
        rw [Shipment.frames, hfate, Fate.frames, TransferJob.stream, ← hcount, List.take_length]
        rfl
      | unsaid | underway | broken => simp [hfate, Fate.states] at hmem
    · exact Payload.flatMap_windows (hL.sound s hs).chunkSize_pos
  · rw [hL.waiting _ hw] at hmem
    cases List.mem_singleton.mp hmem

/-- **Where no frame was taken, no job was begun**: it waits, or has failed. -/
theorem Ledger.refused (hL : Ledger limits h L) (hnone : taken h.record = [])
    (hid : 1 ≤ id ∧ id ≤ (accepted h.calls).length) :
    (id ∈ h.queue.waiting.map Prod.fst ∧ statesOf id h.reports = [.waiting])
      ∨ ∃ reason, statesOf id h.reports = [.waiting, .failed reason] := by
  rcases hL.mem_iff.mpr hid with ⟨s, hs, rfl⟩ | ⟨w, hw, rfl⟩
  · have htagged : s.tagged = [] := List.flatMap_eq_nil_iff.mp (hL.taken_eq.symm.trans hnone) s hs
    have hframes : s.fate.frames s.job s.chunkSize = [] := List.map_eq_nil_iff.mp htagged
    rw [hL.shipped s hs]
    cases hfate : s.fate with
    | unsaid reason => exact .inr ⟨reason, rfl⟩
    | underway | whole | broken =>
      rw [hfate] at hframes
      cases hframes
  · exact .inl ⟨List.mem_map_of_mem hw, hL.waiting w hw⟩

end

end TransferQueue

end CameraViewer.Transfer
