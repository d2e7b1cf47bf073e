import CameraViewer.Proofs.Channel.Announced
import CameraViewer.Proofs.Transfer.Shipments

/-!
# Proofs/Transfer/Stream — what the receiver of files sees

`Reachable.delivered`: whatever its channels answer, what they take from a queue is an announcement
and consecutive windows of one file after the other, each file whole exactly if it was reported as
completed. Without faults nothing is missing either: a queue that has a channel sends what it was
given until a job pauses or none waits.
-/

namespace CameraViewer.Transfer

open Peer World Rehearsal Channel Json

namespace TransferQueue

/-! ## Faults

Without faults no job can fail: the channel takes what is sent, stays, and can carry what was
announced. -/

/-- The channel was closed, or did not take what was sent. -/
def IsFault : Entry → Prop
  | .asked (.channel _ .isOpen) false => True
  | .asked (.channel _ (.sendText _)) (.error _) => True
  | .asked (.channel _ (.sendBytes _)) (.error _) => True
  | _ => False

/-- Nothing went wrong: the channels took everything and stayed, and every one of them can carry the
chunks that were settled for it. -/
structure History.FaultFree (h : History) : Prop where
  answers : ∀ e ∈ h.record, ¬ IsFault e
  kept : ∀ c ∈ h.calls, c ≠ .channelClosed
  sizes : ∀ c m, .attach c m ∈ h.calls →
    0 < m ∧ chunkSizeFor m h.queue.limits.chunkCap ≤ TransferJob.chunkSizeMax

/-- The announcement of a job and all of its chunks. -/
def wholeStream (chunkSize : ℕ) (job : TransferJob) : List ChannelFrame :=
  job.stream chunkSize (job.source.windowCount chunkSize)

section
variable {limits : TransferLimits} {h : History}

theorem Opening.limits_eq {q q' : TransferQueue} {c : Call} {es : List Entry}
    {rs : List TransferProgress} (ho : Opening q c es rs q') : q'.limits = q.limits := by
  cases ho <;> rfl

theorem Move.limits_eq {q q' : TransferQueue} {es : List Entry} {rs : List TransferProgress}
    (hm : Move q es rs q') : q'.limits = q.limits := by
  cases hm <;> rfl

/-- What goes on without faults was without faults before. -/
theorem History.FaultFree.before {calls : List Call} {es : List Entry} {rs : List TransferProgress}
    {q : TransferQueue} (hf : (h.extend calls es rs q).FaultFree) (hq : q.limits = h.queue.limits) :
    h.FaultFree where
  answers e he := hf.answers e (List.mem_append_left _ he)
  kept c hc := hf.kept c (List.mem_append_left _ hc)
  sizes c m hm := by
    have hsizes := hf.sizes c m (List.mem_append_left _ hm)
    simp only [History.extend, hq] at hsizes
    exact hsizes

/-- Chunks that were settled for an attached channel are accepted by every job. -/
theorem History.FaultFree.start_ne_error (hf : h.FaultFree) {L : List Shipment}
    (hL : Ledger limits h L) {c : ChannelHandle} (hc : h.queue.channel = some c) (job : TransferJob)
    (e : TransferError) : job.start h.queue.chunkSize h.queue.maxMessage ≠ .error e := by
  obtain ⟨hpos, hmax⟩ := hf.sizes c _ (hL.attached c hc)
  have hle : h.queue.chunkSize ≤ h.queue.maxMessage := by
    rw [chunkSize, chunkSizeFor]
    omega
  have hmax' : h.queue.chunkSize ≤ TransferJob.chunkSizeMax := hmax
  rw [TransferJob.start, if_neg (not_lt.mpr hle), if_neg (not_lt.mpr hmax')]
  rintro ⟨⟩

/-- **Without faults no job fails.** -/
theorem Trail.not_failed (ht : Trail limits h) (hf : h.FaultFree) :
    ∀ p ∈ h.reports, ∀ reason, p.state ≠ .failed reason := by
  induction ht with
  | start => simp
  | @opening h c es rs q before hc ho ih =>
    have hbefore := ih (hf.before ho.limits_eq)
    intro p hp
    rcases List.mem_append.mp hp with hold | hnew
    · exact hbefore p hold
    cases ho with
    | enqueue =>
      obtain rfl := List.mem_singleton.mp hnew
      exact fun _ he => nomatch he
    | closed =>
      exact absurd rfl (hf.kept .channelClosed (List.mem_append_right _ List.mem_cons_self))
    | attach | wake | sleep | idle => cases hnew
  | @move h es rs q before hm ih =>
    obtain ⟨L, hL⟩ := before.ledger
    have hbefore := hf.before hm.limits_eq
    have hfault : ∀ e ∈ es, ¬ IsFault e := fun e he => hf.answers e (List.mem_append_right _ he)
    intro p hp
    rcases List.mem_append.mp hp with hold | hnew
    · exact ih hbefore p hold
    cases hm with
    | look | chunk => cases hnew
    | refuse hc _ _ he => exact absurd he (hbefore.start_ne_error hL hc _ _)
    | silence | broken | lost => exact absurd trivial (hfault _ (List.mem_of_getLast? rfl))
    | begin | last | full =>
      obtain rfl := List.mem_singleton.mp hnew
      exact fun _ he => nomatch he

/-- Without faults only one channel is ever attached. -/
theorem Trail.attached_once (ht : Trail limits h) (hf : h.FaultFree) :
    ∀ c m, .attach c m ∈ h.calls → h.queue.channel = some c ∧ h.queue.maxMessage = m := by
  induction ht with
  | start => simp
  | @opening h call es rs q before hadm ho ih =>
    have hbefore := ih (hf.before ho.limits_eq)
    intro c m hmem
    rcases List.mem_append.mp hmem with hmem | hmem
    · obtain ⟨hc, hm⟩ := hbefore c m hmem
      cases ho with
      | attach => exact absurd (hc.symm.trans hadm) (by simp)
      | closed =>
        have hcall : Call.channelClosed ∈ h.calls ++ [.channelClosed] :=
          List.mem_append_right _ List.mem_cons_self
        exact absurd rfl (hf.kept .channelClosed hcall)
      | enqueue | wake | sleep | idle => exact ⟨hc, hm⟩
    · obtain rfl := List.mem_singleton.mp hmem
      cases ho
      exact ⟨rfl, rfl⟩
  | @move h es rs q before hm ih =>
    intro c m hmem
    have hkeep := ih (hf.before hm.limits_eq) c m (by simpa [History.extend] using hmem)
    cases hm <;> exact hkeep

/-! ## The stream -/

/-- Without their numbers the jobs are as they were. -/
theorem map_snd_numbered (jobs : List TransferJob) : (numbered jobs).map Prod.snd = jobs := by
  rw [numbered, List.map_map]
  exact List.zipIdx_map_fst 1 jobs

/-- Shipments and jobs that wait are all that was given, in order. -/
theorem Ledger.jobs_eq {L : List Shipment} (hL : Ledger limits h L) :
    L.map Shipment.job ++ h.queue.waiting.map Prod.snd = accepted h.calls := by
  have hjobs := congrArg (List.map Prod.snd) hL.order
  rw [map_snd_numbered, List.map_append, List.map_map] at hjobs
  exact hjobs

/-- The frames on a channel are those of its shipments. -/
theorem Ledger.framesOn_eq {L : List Shipment} (hL : Ledger limits h L) (c : ChannelHandle) :
    framesOn c h.record = (L.filter (·.channel = c)).flatMap Shipment.frames := by
  rw [framesOn, hL.taken_eq]
  clear hL
  induction L with
  | nil => rfl
  | cons s rest ih =>
    rw [List.flatMap_cons, List.filter_append, List.map_append, ih]
    by_cases hc : s.channel = c <;> simp [Shipment.tagged, hc, List.filter_map, Function.comp_def]

/-- What one shipment has come to. -/
structure Accounted (h : History) (s : Shipment) : Prop where
  /-- Its channel was attached, which settled the size of its chunks. -/
  attached : ∃ m, .attach s.channel m ∈ h.calls
    ∧ s.chunkSize = chunkSizeFor m h.queue.limits.chunkCap
  /-- Either it failed and nothing was taken of it, or the announcement and the first chunks were:
  all of them exactly if it was reported as completed. -/
  frames : (s.frames = [] ∧ ∃ reason, statesOf s.id h.reports = [.waiting, .failed reason])
    ∨ ∃ k ≤ s.windows.length,
      s.frames = .text s.job.announcement.text :: (s.windows.take k).map .binary
      ∧ .sending ∈ statesOf s.id h.reports
      ∧ (k = s.windows.length ↔ .completed ∈ statesOf s.id h.reports)
  /-- The announcement is read as kind, name and size of the file. -/
  announced : ∃ file, (Tree.read? s.job.announcement.text).bind ChannelControl.ofTree?
      = some (.sendFile file)
    ∧ file.mime = s.job.mime ∧ file.name = s.job.name ∧ file.size.toNat = s.job.source.size
  /-- The chunks are the file. -/
  laid : s.windows.flatMap Array.toList = s.job.source.bytes.toList
  /-- Every chunk is full but the last, which is not empty. -/
  sizes : ∀ (i : ℕ) (hi : i < s.windows.length), 0 < s.windows[i].size
    ∧ s.windows[i].size ≤ s.chunkSize
    ∧ (i + 1 < s.windows.length → s.windows[i].size = s.chunkSize)

/-- Everything the channels of a queue took belongs to its shipments, and nothing that could be sent
is left waiting. -/
structure Delivered (h : History) (shipments : List Shipment) : Prop where
  /-- The shipments are the first jobs that were given to the queue, numbered in that order. -/
  order : shipments.map (fun s => (s.id, s.job)) ++ h.queue.waiting = numbered (accepted h.calls)
  /-- What a channel took are the frames of its shipments, one after the other. -/
  frames : ∀ c, framesOn c h.record = (shipments.filter (·.channel = c)).flatMap Shipment.frames
  accounted : ∀ s ∈ shipments, Accounted h s
  /-- Without faults the channel takes all files whole; when none is left, it took all of them. -/
  faultFree : h.FaultFree → ∀ c m, .attach c m ∈ h.calls →
    framesOn c h.record
        <+: (accepted h.calls).flatMap (wholeStream (chunkSizeFor m h.queue.limits.chunkCap))
      ∧ (h.queue.active = none → h.queue.waiting = [] → framesOn c h.record
          = (accepted h.calls).flatMap (wholeStream (chunkSizeFor m h.queue.limits.chunkCap)))
  /-- A queue that has a channel, and never found one closed, has no active job or one that pauses,
  and without an active job nothing waits. -/
  rests : h.queue.RestsAfter h.record
  /-- Whatever it is called with next leaves it so, unless that call finds the channel closed, or
  is word of a drained channel and found a job that was left to be sent. -/
  goesOn : ∀ (c : Call) es rs (q : TransferQueue), c.Admissible h.queue →
    May (fun _ _ => c.run h.queue) es (rs, q) → (c = .bufferedAmountLow → h.queue.Rests) →
    q.RestsAfter es

/-- The size that is announced is that of the file. -/
theorem size_announced {j : TransferJob} : (UInt64.ofNat j.total).toNat = j.source.size :=
  UInt64.toNat_ofNat_of_lt' j.source.size_lt

/-- A fate shows in the frames and in the reports. -/
theorem Fate.shown (job : TransferJob) (n : ℕ) {fate : Fate}
    (hfits : fate.Fits (job.source.windowCount n)) :
    (fate.frames job n = [] ∧ ∃ reason, fate.states = [.failed reason])
      ∨ ∃ k ≤ job.source.windowCount n, fate.frames job n = job.stream n k ∧ .sending ∈ fate.states
        ∧ (k = job.source.windowCount n ↔ .completed ∈ fate.states) := by
  cases fate with
  | unsaid reason => exact .inl ⟨rfl, reason, rfl⟩
  | underway sent pauses =>
    have hlt : sent < job.source.windowCount n := hfits
    exact .inr ⟨sent, hlt.le, rfl, by simp [Fate.states], by simp [Fate.states, hlt.ne]⟩
  | whole pauses => exact .inr ⟨_, le_rfl, rfl, by simp [Fate.states], by simp [Fate.states]⟩
  | broken sent pauses reason =>
    have hlt : sent < job.source.windowCount n := hfits
    exact .inr ⟨sent, hlt.le, rfl, by simp [Fate.states], by simp [Fate.states, hlt.ne]⟩

/-- Every shipment is accounted for by its fate. -/
theorem Ledger.accounted {L : List Shipment} (hL : Ledger limits h L) {s : Shipment} (hs : s ∈ L) :
    Accounted h s := by
  have hsound := hL.sound s hs
  have hpos := hsound.chunkSize_pos
  have hlen : s.windows.length = s.job.source.windowCount s.chunkSize := Payload.length_windows
  refine ⟨?_, ?_, ?_, Payload.flatMap_windows hpos, fun i hi => ?_⟩
  · rw [hL.limits_eq]
    exact hsound.attached
  · rw [hL.shipped s hs, hlen]
    rcases Fate.shown s.job s.chunkSize hsound.fits with
      ⟨hnone, reason, hst⟩ | ⟨k, hk, hframes, hst, hall⟩
    · exact .inl ⟨hnone, reason, by rw [hst]⟩
    · exact .inr ⟨k, hk, hframes, .tail _ hst, by simpa using hall⟩
  · exact ⟨_, ChannelControl.ofTree?_read _, rfl, rfl, size_announced⟩
  · rw [hlen] at hi ⊢
    have hwindow : s.windows[i] = s.job.source.window s.chunkSize i := by
      simp [Shipment.windows, Payload.windows]
    rw [hwindow]
    obtain ⟨hsize, hfull, hle⟩ := Payload.size_window hpos hi
    refine ⟨hfull, hle, fun hnext => ?_⟩
    rw [hsize, if_pos hnext]

/-- Shipments that are over and did not fail are whole. -/
theorem Ledger.frames_of_over {L : List Shipment} (hL : Ledger limits h L)
    (hfailed : ∀ p ∈ h.reports, ∀ reason, p.state ≠ .failed reason) {s : Shipment} (hs : s ∈ L)
    (hover : s.fate.IsOver) : s.frames = wholeStream s.chunkSize s.job := by
  have hstates := hL.shipped s hs
  have hno : ∀ reason, .failed reason ∉ statesOf s.id h.reports := by
    intro reason hmem
    obtain ⟨p, hp, hstate⟩ := List.mem_map.mp hmem
    exact hfailed p (List.mem_of_mem_filter hp) reason hstate
  rw [hstates] at hno
  rw [Shipment.frames]
  cases hfate : s.fate with
  | unsaid reason => exact absurd (by simp [hfate, Fate.states]) (hno reason)
  | underway => exact absurd hover (by simp [hfate, Fate.IsOver])
  | whole => rfl
  | broken _ _ reason => exact absurd (by simp [hfate, Fate.states]) (hno reason)

/-- Without faults the channel is on its way through all files. -/
theorem Trail.prefix_of_faultFree (ht : Trail limits h) {L : List Shipment} (hL : Ledger limits h L)
    (hf : h.FaultFree) {c : ChannelHandle} {m : ℕ} (hm : .attach c m ∈ h.calls) :
    framesOn c h.record
        <+: (accepted h.calls).flatMap (wholeStream (chunkSizeFor m limits.chunkCap))
      ∧ (h.queue.active = none → h.queue.waiting = [] → framesOn c h.record
          = (accepted h.calls).flatMap (wholeStream (chunkSizeFor m limits.chunkCap))) := by
  have honce := ht.attached_once hf
  have hall : ∀ s ∈ L, s.channel = c ∧ s.chunkSize = chunkSizeFor m limits.chunkCap := by
    intro s hs
    obtain ⟨n, hn, hsize⟩ := (hL.sound s hs).attached
    obtain ⟨hc, hmax⟩ := honce c m hm
    obtain ⟨hc', hmax'⟩ := honce s.channel n hn
    obtain rfl := Option.some.inj (hc'.symm.trans hc)
    exact ⟨rfl, by rw [hsize, ← hmax', hmax]⟩
  have hframes : framesOn c h.record = L.flatMap Shipment.frames := by
    rw [hL.framesOn_eq, List.filter_eq_self.mpr fun s hs => by simp [(hall s hs).1]]
  have hwhole : ∀ s ∈ L, s.fate.IsOver →
      s.frames = wholeStream (chunkSizeFor m limits.chunkCap) s.job := fun s hs hover => by
    rw [hL.frames_of_over (ht.not_failed hf) hs hover, (hall s hs).2]
  rw [hframes, ← hL.jobs_eq]
  cases hactive : h.queue.active with
  | none =>
    have hover := hL.over hactive
    have hdone : L.flatMap Shipment.frames
        = (L.map Shipment.job).flatMap (wholeStream (chunkSizeFor m limits.chunkCap)) := by
      rw [List.flatMap_map]
      exact List.flatMap_congr fun s hs => hwhole s hs (hover s hs)
    rw [hdone, List.flatMap_append]
    refine ⟨List.prefix_append _ _, fun _ hw => ?_⟩
    rw [hw, List.map_nil, List.flatMap_nil, List.append_nil]
  | some a =>
    obtain ⟨earlier, s, sent, pauses, rfl, hover, hs⟩ := hL.exists_last hactive
    have hdone : earlier.flatMap Shipment.frames
        = (earlier.map Shipment.job).flatMap (wholeStream (chunkSizeFor m limits.chunkCap)) := by
      rw [List.flatMap_map]
      exact List.flatMap_congr fun t ht => hwhole t (List.mem_append_left _ ht) (hover t ht)
    have hlast : s.frames <+: wholeStream (chunkSizeFor m limits.chunkCap) s.job := by
      rw [← (hall s (by simp)).2, Shipment.frames, hs.fate_eq, Fate.frames, wholeStream]
      exact TransferJob.stream_prefix _ _ hs.fits.le
    refine ⟨?_, by rintro ⟨⟩⟩
    rw [List.flatMap_append, hdone, List.flatMap_singleton, List.map_append, List.append_assoc,
      List.flatMap_append, List.prefix_append_right_inj, List.map_singleton, List.singleton_append,
      List.flatMap_cons]
    exact hlast.trans (List.prefix_append _ _)

/-- **What the channels of a queue took**, whatever they answered. -/
theorem Reachable.delivered (hr : Reachable limits h) : ∃ shipments, Delivered h shipments := by
  obtain ⟨L, hL⟩ := hr.trail.ledger
  refine ⟨L, hL.order, hL.framesOn_eq, fun s hs => hL.accounted hs, fun hf c m hm => ?_, hr.rests,
    fun c es rs q hc hrun hrests => hr.goesOn hc hrun hrests⟩
  rw [hL.limits_eq]
  exact hr.trail.prefix_of_faultFree hL hf hm

/-- A file of three bytes, and a channel that takes two bytes at a time. -/
def sampleHistory : History :=
  let given := History.play ⟨new {}, [], [], []⟩ (.enqueue sampleJob)
  given.play (.attach sampleChannel 2)

theorem reachable_sampleHistory : Reachable {} sampleHistory :=
  have hjob : TransferJob.new "clip.wav" "audio/wav" sampleJob.source = .ok sampleJob := rfl
  (Reachable.start.play (c := .enqueue sampleJob) ⟨_, _, _, hjob⟩).play rfl

/-- The sample is accounted for. -/
theorem delivered_sampleHistory :
    Reachable {} sampleHistory ∧ ∃ shipments, Delivered sampleHistory shipments :=
  ⟨reachable_sampleHistory, reachable_sampleHistory.delivered⟩

end

end TransferQueue

end CameraViewer.Transfer
