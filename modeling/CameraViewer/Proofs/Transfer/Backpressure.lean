import CameraViewer.Proofs.Transfer.Draining
import CameraViewer.Proofs.Transfer.Shipments

/-!
# Proofs/Transfer/Backpressure — no more is sent than fits

A chunk goes to a channel only when less waits there than the high mark of its job (`Allowed`). Once
a job was reported as paused, nothing is sent until the queue finds that the channel has drained to
one chunk, or is told that it is closed. `Run.respectsMarks` says so of every run; channels may be
attached at any time here, and the queue may pump between its calls.

`Tracked` is the invariant for the chunks: it knows the active job by what was asked to announce it.
For the pauses none is needed, as a queue whose active job is paused can only look at its channel
(`Move.of_paused`).
-/

namespace CameraViewer

open Peer World Transfer

/-! ## What waits in a channel

A channel is filled by what is sent over it only, so a chunk adds its size to what was read just
before it. -/

namespace Rehearsal.ScriptedChannel

variable (s : ScriptedChannel)

theorem buffered_countSending : s.countSending.buffered = s.buffered := by
  rw [countSending]
  split <;> rfl

/-- A frame that is pushed adds its size at most. -/
theorem buffered_push_le (frame : ChannelFrame) (size : ℕ) :
    (s.push frame size).2.buffered ≤ s.buffered + size := by
  rw [push]
  split
  · exact le_rfl
  · exact Nat.le_add_right _ _

/-- Sending bytes adds no more than these bytes. -/
theorem buffered_sendBytes_le (data : Bytes) :
    (s.sendBytes data).2.buffered ≤ s.buffered + data.size := by
  rw [sendBytes]
  split
  · exact (buffered_countSending _).trans_le (buffered_push_le _ (.binary data) data.size)
  · exact Nat.le_add_right _ _
  · exact (buffered_countSending _).trans_le (buffered_push_le _ (.binary data) data.size)

end Rehearsal.ScriptedChannel

namespace Transfer

open Rehearsal

namespace ScriptedChannels

variable {w w' w'' : ScriptedChannels} {c : ChannelHandle}

/-- By itself a channel does not fill. -/
theorem ChangesUnasked.buffered_le (hd : ChangesUnasked w w') :
    (w'.channel c).buffered ≤ (w.channel c).buffered := by
  cases hd with
  | close | plan => exact le_of_eq (congr_set (·.buffered) rfl)
  | drain d bytes =>
    by_cases hcd : c = d
    · subst hcd
      simp [drained, set, ScriptedChannel.drain]
    · simp [drained, set, hcd]

/-- Nor does it fill while nothing is asked of it. -/
theorem AnswersAll.buffered_le (hs : AnswersAll w [] w') :
    (w'.channel c).buffered ≤ (w.channel c).buffered := by
  generalize hnone : ([] : List Entry) = es at hs
  induction hs with
  | rest => exact le_rfl
  | change first _ ih => exact (ih hnone).trans first.buffered_le
  | answer => cases hnone

/-- **A chunk comes on top of what was read just before it**, or of less. -/
theorem AnswersAll.buffered_sent_le {record : List Entry} {n : ℕ} {chunk : Bytes}
    {reply : Except TransferError Unit}
    (hs : AnswersAll w (record ++ [.asked (.channel c .bufferedAmount) n]) w')
    (ha : Answers w' (.asked (.channel c (.sendBytes chunk)) reply) w'') :
    (w''.channel c).buffered ≤ n + chunk.size := by
  obtain ⟨v, -, hv⟩ := hs.split
  obtain ⟨u, _, -, hread, hchange⟩ := hv.cons
  obtain ⟨rfl, rfl⟩ := hread.of_bufferedAmount
  have hless := hchange.buffered_le (c := c)
  cases ha
  have hsent := (w'.channel c).buffered_sendBytes_le chunk
  simp only [set, Function.update_self, ScriptedChannel.respond]
  omega

end ScriptedChannels

namespace TransferQueue

open ScriptedChannels

/-! ## What may be sent

The bound of a chunk is said of the record alone: the job that was announced last, its size, and
what waited when it was last asked. -/

/-- A text is handed to a channel. -/
def IsText : Entry → Prop
  | .asked (.channel _ (.sendText _)) _ => True
  | _ => False

/-- A chunk is handed to a channel. -/
def IsChunk : Entry → Prop
  | .asked (.channel _ (.sendBytes _)) _ => True
  | _ => False

/-- Something is sent. -/
def IsFrame (e : Entry) : Prop := IsText e ∨ IsChunk e

/-- The latest job that was announced: one that the queue was given, to be sent in chunks of `n`
bytes, the size that was settled when a channel was attached. -/
structure Announced (limits : TransferLimits) (calls : List Call) (record : List Entry)
    (job : TransferJob) (n : ℕ) : Prop where
  given : .enqueue job ∈ calls
  settled : ∃ c m, .attach c m ∈ calls ∧ n = chunkSizeFor m limits.chunkCap
  latest : ∃ front c back, record = front ++ asksAnnounce c n job (.ok ()) ++ back
    ∧ ∀ e ∈ back, ¬ IsText e

/-- A chunk of `job` may be handed to `c`. -/
structure Allowed (limits : TransferLimits) (calls : List Call) (before : List Entry)
    (c : ChannelHandle) (chunk : Bytes) (job : TransferJob) (n : ℕ) : Prop
    extends Announced limits calls before job n where
  /-- It is one of the windows of the job. -/
  window : ∃ i < job.source.windowCount n, chunk = job.source.window n i
  /-- What waits in the channel was read just before, and is below the high mark of the job. -/
  room : ∃ b, before.getLast? = some (.asked (.channel c .bufferedAmount) b)
    ∧ b < (Watermarks.forJob n job.total limits.maxBuffered).high
  /-- After the chunk, less waits in a scripted channel than one chunk above that mark. -/
  bounded : ∀ (w w' w'' : ScriptedChannels) (reply : Except TransferError Unit),
    AnswersAll w before w' →
    Answers w' (.asked (.channel c (.sendBytes chunk)) reply) w'' →
    (w''.channel c).buffered < max (min job.total limits.maxBuffered) (n + 1) + n

/-- If a chunk is handed to a channel, then it may be. -/
def Permitted (limits : TransferLimits) (calls : List Call) (before : List Entry) : Entry → Prop
  | .asked (.channel c (.sendBytes chunk)) _ =>
    ∃ job n, Allowed limits calls before c chunk job n
  | _ => True

section
variable {limits : TransferLimits} {calls calls' : List Call} {record es : List Entry}
  {rs : List TransferProgress} {q q' : TransferQueue} {a : ActiveTransfer} {job : TransferJob}
  {n k : ℕ}

/-- A job that was announced is cut into chunks that are not empty. -/
theorem Announced.chunkSize_pos (h : Announced limits calls record job n) : 0 < n := by
  obtain ⟨_, m, -, rfl⟩ := h.settled
  exact chunkSizeFor_pos m limits.chunkCap

theorem Announced.mono (h : Announced limits calls record job n) (hsub : calls ⊆ calls') :
    Announced limits calls' record job n :=
  let ⟨c, m, hm, hn⟩ := h.settled
  ⟨hsub h.given, ⟨c, m, hsub hm, hn⟩, h.latest⟩

/-- It stays the latest until another one is announced. -/
theorem Announced.goesOn (h : Announced limits calls record job n) (hes : ∀ e ∈ es, ¬ IsText e) :
    Announced limits calls (record ++ es) job n := by
  obtain ⟨front, c, back, rfl, hback⟩ := h.latest
  refine ⟨h.given, h.settled, front, c, back ++ es, List.append_assoc _ _ _, ?_⟩
  exact List.forall_mem_append.mpr ⟨hback, hes⟩

theorem Permitted.mono {e : Entry} (h : Permitted limits calls record e) (hsub : calls ⊆ calls') :
    Permitted limits calls' record e := by
  unfold Permitted at h ⊢
  split
  · obtain ⟨job, n, h⟩ := h
    exact ⟨job, n, h.toAnnounced.mono hsub, h.window, h.room, h.bounded⟩
  · trivial

/-- Where no chunk is sent, nothing can be wrong. -/
theorem throughout_permitted (h : ∀ e ∈ es, ¬ IsChunk e) :
    Throughout (fun before e => Permitted limits calls (record ++ before) e) es := by
  refine throughout_of_mem fun before e he => ?_
  unfold Permitted
  split
  · exact absurd trivial (h _ he)
  · trivial

/-- The active job is `job`, and `k` of its windows of `n` bytes were handed out. -/
structure HandedOut (limits : TransferLimits) (calls : List Call) (record : List Entry)
    (a : ActiveTransfer) (job : TransferJob) (n k : ℕ) : Prop
    extends Announced limits calls record job n where
  job_eq : a.job = job.cut n k
  fits : k < job.source.windowCount n
  watermarks_eq : a.watermarks = .forJob n job.total limits.maxBuffered

theorem HandedOut.mono (h : HandedOut limits calls record a job n k) (hsub : calls ⊆ calls') :
    HandedOut limits calls' record a job n k :=
  ⟨h.toAnnounced.mono hsub, h.job_eq, h.fits, h.watermarks_eq⟩

/-- What was handed out stays so while nothing is announced. -/
theorem HandedOut.goesOn (h : HandedOut limits calls record a job n k)
    (hes : ∀ e ∈ es, ¬ IsText e) :
    HandedOut limits calls (record ++ es) a job n k :=
  ⟨h.toAnnounced.goesOn hes, h.job_eq, h.fits, h.watermarks_eq⟩

/-- **A chunk that is sent after what waits was read may be sent.** -/
theorem HandedOut.allowed (h : HandedOut limits calls record a job n k) (c : ChannelHandle) {b : ℕ}
    (hb : b < a.watermarks.high) {chunk : Bytes} {next : TransferJob}
    (hnext : a.job.nextChunk? = some (chunk, next)) :
    Allowed limits calls (record ++ asksRoom c b) c chunk job n := by
  have hpos := h.chunkSize_pos
  have hwindow := (TransferJob.eq_window_of_nextChunk? hpos h.fits h.job_eq hnext).1
  rw [h.watermarks_eq] at hb
  refine ⟨h.toAnnounced.goesOn (by simp [asksRoom, IsText]), ⟨k, h.fits, hwindow⟩,
    ⟨b, by simp [asksRoom], hb⟩, fun w w' w'' reply hs ha => ?_⟩
  have hread : record ++ asksRoom c b = record ++ [.asked (.channel c .isOpen) true]
      ++ [.asked (.channel c .bufferedAmount) b] := by
    rw [List.append_assoc]
    rfl
  rw [hread] at hs
  have hle : (w''.channel c).buffered ≤ b + chunk.size := hs.buffered_sent_le ha
  have hsize : chunk.size ≤ n := by
    rw [hwindow]
    exact (Payload.size_window hpos h.fits).2.2
  have hmark : b < max (min job.total limits.maxBuffered) (n + 1) := hb
  omega

/-- Hence every chunk of a send is permitted, whatever the channel answers. -/
theorem HandedOut.permitted (h : HandedOut limits calls record a job n k) (c : ChannelHandle)
    {b : ℕ} (hb : b < a.watermarks.high) {chunk : Bytes} {next : TransferJob}
    (hnext : a.job.nextChunk? = some (chunk, next)) (reply : Except TransferError Unit)
    {after : List Entry} (hafter : ∀ e ∈ after, ¬ IsChunk e) :
    Throughout (fun before e => Permitted limits calls (record ++ before) e)
      (asksRoom c b ++ ([.asked (.channel c (.sendBytes chunk)) reply] ++ after)) := by
  refine throughout_append.mpr ⟨throughout_permitted (by simp [asksRoom, IsChunk]), ?_⟩
  refine throughout_append.mpr ⟨throughout_singleton ⟨job, n, ?_⟩, ?_⟩
  · rw [List.append_nil]
    exact h.allowed c hb hnext
  · simp only [← List.append_assoc]
    exact throughout_permitted hafter

/-- All jobs of a queue were given to it, and the active one is the latest that was announced. -/
structure Tracked (limits : TransferLimits) (calls : List Call) (record : List Entry)
    (q : TransferQueue) : Prop extends Settled q where
  limits_eq : q.limits = limits
  given : ∀ w ∈ q.waiting, .enqueue w.2 ∈ calls
  attached : ∀ c ∈ q.channel, .attach c q.maxMessage ∈ calls
  handedOut : ∀ a ∈ q.active, ∃ job n k, HandedOut limits calls record a job n k

/-- A new queue has no job. -/
theorem tracked_new (limits : TransferLimits) : Tracked limits [] [] (new limits) where
  toSettled := settled_new limits
  limits_eq := rfl
  given := by simp [new]
  attached := by simp [new]
  handedOut := by simp [new]

theorem Tracked.mono (h : Tracked limits calls record q) (hsub : calls ⊆ calls') :
    Tracked limits calls' record q where
  toSettled := h.toSettled
  limits_eq := h.limits_eq
  given w hw := hsub (h.given w hw)
  attached c hc := hsub (h.attached c hc)
  handedOut a ha :=
    let ⟨job, n, k, hout⟩ := h.handedOut a ha
    ⟨job, n, k, hout.mono hsub⟩

/-- A queue stays tracked while nothing is announced. -/
theorem Tracked.goesOn (h : Tracked limits calls record q) (hes : ∀ e ∈ es, ¬ IsText e) :
    Tracked limits calls (record ++ es) q where
  toSettled := h.toSettled
  limits_eq := h.limits_eq
  given := h.given
  attached := h.attached
  handedOut a ha :=
    let ⟨job, n, k, hout⟩ := h.handedOut a ha
    ⟨job, n, k, hout.goesOn hes⟩

/-- A queue without an active job is tracked whatever it asked. -/
theorem Tracked.idles (h : Tracked limits calls record q) (hq : q'.Settled)
    (hlimits : q'.limits = q.limits) (hwaiting : q'.waiting ⊆ q.waiting)
    (hattached : ∀ c ∈ q'.channel, .attach c q'.maxMessage ∈ calls) (hidle : q'.active = none) :
    Tracked limits calls es q' where
  toSettled := hq
  limits_eq := hlimits.trans h.limits_eq
  given w hw := h.given w (hwaiting hw)
  attached := hattached
  handedOut := by simp [hidle]

/-- The active job looks different now. -/
theorem Tracked.activate (h : Tracked limits calls record q)
    (hq : Settled { q with active := some a }) (hout : HandedOut limits calls record a job n k) :
    Tracked limits calls record { q with active := some a } where
  toSettled := hq
  limits_eq := h.limits_eq
  given := h.given
  attached := h.attached
  handedOut := by
    rintro _ ⟨⟩
    exact ⟨job, n, k, hout⟩

/-- A job that is announced is the latest. -/
theorem Tracked.begins (h : Tracked limits calls record q) {c : ChannelHandle} {id : ℕ}
    {started : TransferJob} {rest : List (ℕ × TransferJob)} (hc : q.channel = some c)
    (hw : q.waiting = (id, job) :: rest) (hs : job.start q.chunkSize q.maxMessage = .ok started) :
    HandedOut limits calls (record ++ asksAnnounce c (q.watermarksFor job).low started (.ok ()))
      ⟨id, started, q.watermarksFor job, false⟩ job q.chunkSize 0 := by
  have hmem : (id, job) ∈ q.waiting := hw ▸ List.mem_cons_self
  have hfresh := h.waiting _ hmem
  have hpos : 0 < q.chunkSize := chunkSizeFor_pos _ _
  obtain rfl := TransferJob.eq_of_start hs
  refine ⟨⟨h.given _ hmem, ⟨c, _, h.attached c hc, ?_⟩, record, c, [], ?_, List.forall_mem_nil _⟩,
    ?_, Payload.windowCount_pos hpos hfresh.total_pos, ?_⟩
  · rw [chunkSize, h.limits_eq]
  · rw [List.append_nil]
    rfl
  · rw [TransferJob.cut, Nat.zero_mul, ← hfresh.queued]
  · rw [watermarksFor, h.limits_eq]

/-- The low mark of the active job is one chunk. -/
theorem Tracked.low_eq (h : Tracked limits calls record q) (ha : q.active = some a) :
    a.watermarks.low = a.job.chunkSize := by
  obtain ⟨job, n, k, hout⟩ := h.handedOut a ha
  rw [hout.watermarks_eq, hout.job_eq]
  rfl

/-! ## Chunks -/

/-- What is asked on the way is permitted, and the queue is tracked again. -/
structure Proceeds (limits : TransferLimits) (calls : List Call) (record es : List Entry)
    (q : TransferQueue) : Prop where
  tracked : Tracked limits calls (record ++ es) q
  permitted : Throughout (fun before e => Permitted limits calls (record ++ before) e) es

theorem Proceeds.trans {fs : List Entry} (h : Proceeds limits calls record es q)
    (h' : Proceeds limits calls (record ++ es) fs q') :
    Proceeds limits calls record (es ++ fs) q' where
  tracked := by simpa using h'.tracked
  permitted := throughout_append.mpr ⟨h.permitted, by simpa using h'.permitted⟩

theorem Proceeds.mono (h : Proceeds limits calls record es q) (hsub : calls ⊆ calls') :
    Proceeds limits calls' record es q where
  tracked := h.tracked.mono hsub
  permitted before e after heq := (h.permitted before e after heq).mono hsub

/-- **A move asks what is permitted.** -/
theorem Tracked.move (h : Tracked limits calls record q) (hm : Move q es rs q') :
    Proceeds limits calls record es q' := by
  have hq := h.toSettled.move hm
  cases hm with
  | look => exact ⟨h.goesOn (by simp [IsText]), throughout_permitted (by simp [IsChunk])⟩
  | refuse _ hidle hw =>
    refine ⟨h.idles hq rfl ?_ h.attached hidle, throughout_permitted (List.forall_mem_nil _)⟩
    exact hw ▸ List.subset_cons_self _ _
  | silence _ hidle hw =>
    refine ⟨h.idles hq rfl ?_ h.attached hidle,
      throughout_permitted (by simp [asksAnnounce, IsChunk])⟩
    exact hw ▸ List.subset_cons_self _ _
  | begin hc _ hw hs =>
    refine ⟨⟨hq, h.limits_eq, fun w hmem => ?_, h.attached, ?_⟩,
      throughout_permitted (by simp [asksAnnounce, IsChunk])⟩
    · exact h.given w (hw ▸ List.mem_cons_of_mem _ hmem)
    · rintro _ ⟨⟩
      exact ⟨_, _, _, h.begins hc hw hs⟩
  | @chunk c a n chunk next _ ha _ hn hnext hopen =>
    obtain ⟨job, size, k, hout⟩ := h.handedOut a ha
    have hquiet : ∀ e ∈ asksSend c n chunk, ¬ IsText e := by simp [asksSend, asksRoom, IsText]
    obtain ⟨-, hcut⟩ := TransferJob.eq_window_of_nextChunk? hout.chunkSize_pos hout.fits
      hout.job_eq hnext
    rw [hopen, if_neg Bool.false_ne_true] at hcut
    have hnow : HandedOut limits calls (record ++ asksSend c n chunk) { a with job := next } job
        size (k + 1) :=
      ⟨hout.toAnnounced.goesOn hquiet, hcut.1, hcut.2, hout.watermarks_eq⟩
    refine ⟨(h.goesOn hquiet).activate hq hnow, ?_⟩
    exact hout.permitted c hn hnext (.ok ()) (by simp [IsChunk])
  | last _ ha _ hn hnext =>
    obtain ⟨job, size, k, hout⟩ := h.handedOut _ ha
    refine ⟨h.idles hq rfl (List.Subset.refl _) h.attached rfl, ?_⟩
    exact hout.permitted _ hn hnext (.ok ()) (by simp [IsChunk])
  | broken _ ha _ hn hnext e =>
    obtain ⟨job, size, k, hout⟩ := h.handedOut _ ha
    refine ⟨h.idles hq rfl (List.Subset.refl _) h.attached rfl, ?_⟩
    exact hout.permitted _ hn hnext (.error e) (List.forall_mem_nil _)
  | lost =>
    refine ⟨h.idles hq rfl (List.Subset.refl _) h.attached rfl, ?_⟩
    exact throughout_permitted (by simp [IsChunk])
  | @full c a n _ ha =>
    obtain ⟨job, size, k, hout⟩ := h.handedOut a ha
    have hquiet : ∀ e ∈ asksRoom c n, ¬ IsText e := by simp [asksRoom, IsText]
    have hnow : HandedOut limits calls (record ++ asksRoom c n) { a with paused := true } job size
        k :=
      ⟨hout.toAnnounced.goesOn hquiet, hout.job_eq, hout.fits, hout.watermarks_eq⟩
    exact ⟨(h.goesOn hquiet).activate hq hnow, throughout_permitted (by simp [asksRoom, IsChunk])⟩

theorem Tracked.moves (h : Tracked limits calls record q) (hm : Moves q es rs q') :
    Proceeds limits calls record es q' := by
  induction hm generalizing record with
  | refl => exact ⟨by simpa using h, throughout_permitted (List.forall_mem_nil _)⟩
  | step first _ ih =>
    have hfirst := h.move first
    exact hfirst.trans (ih hfirst.tracked)

/-- Nothing is sent before the pump is started. -/
theorem Opening.quiet {c : Call} (ho : Opening q c es rs q') : ∀ e ∈ es, ¬ IsFrame e := by
  cases ho <;> simp [IsFrame, IsText, IsChunk]

/-- An opening sends nothing, and gives the queue a job at most. -/
theorem Tracked.opening (h : Tracked limits calls record q) {c : Call} (hc : c.Made)
    (ho : Opening q c es rs q') : Proceeds limits (calls ++ [c]) record es q' := by
  have hq := h.toSettled.opening hc ho
  have hquiet := ho.quiet
  have hnow : Tracked limits (calls ++ [c]) (record ++ es) q :=
    (h.mono (List.subset_append_left _ _)).goesOn fun e he htext => hquiet e he (.inl htext)
  refine ⟨?_, throughout_permitted fun e he hchunk => hquiet e he (.inr hchunk)⟩
  cases ho with
  | enqueue job =>
    refine ⟨hq, hnow.limits_eq, List.forall_mem_append.mpr ⟨hnow.given, ?_⟩, hnow.attached,
      hnow.handedOut⟩
    exact List.forall_mem_singleton.mpr (List.mem_append_right _ List.mem_cons_self)
  | attach c m =>
    refine ⟨hq, hnow.limits_eq, hnow.given, ?_, hnow.handedOut⟩
    rintro _ ⟨⟩
    exact List.mem_append_right _ List.mem_cons_self
  | wake _ ha =>
    obtain ⟨job, n, k, hout⟩ := hnow.handedOut _ ha
    exact hnow.activate hq ⟨hout.toAnnounced, hout.job_eq, hout.fits, hout.watermarks_eq⟩
  | sleep | idle => exact hnow
  | closed => exact hnow.idles hq rfl (List.Subset.refl _) (by simp [onChannelClosed]) rfl

/-- **A turn asks what is permitted.** -/
theorem Tracked.turned (h : Tracked limits calls record q) {call : Option Call}
    (hmade : ∀ c ∈ call, c.Made) (ht : q.Turned call es rs q') :
    Proceeds limits (calls ++ call.toList) record es q' := by
  cases call with
  | none =>
    rw [Option.toList_none, List.append_nil]
    exact h.moves ht
  | some c =>
    obtain ⟨es₁, rs₁, q₁, es₂, rs₂, ho, hm, rfl, rfl⟩ := ht
    have hopened := h.opening (hmade c rfl) ho
    exact hopened.trans (hopened.tracked.moves hm)

end

/-! ## Pauses

A paused job is released by its channel only: pumping a paused queue looks at the channel and stops.
-/

/-- The queue finds that no more than `n` bytes wait in its channel, or is told that it is closed.
-/
def Step.Releases (step : Step) (n : ℕ) : Prop :=
  step.call = some .channelClosed
    ∨ step.call = some .bufferedAmountLow
      ∧ ∃ c b rest, step.made = .asked (.channel c .bufferedAmount) b :: rest ∧ b ≤ n

section
variable {q q' : TransferQueue} {es : List Entry} {rs : List TransferProgress} {a : ActiveTransfer}

/-- **A queue whose active job is paused can only look at its channel.** -/
theorem Move.of_paused (h : Move q es rs q') (ha : q.active = some a) (hp : a.paused = true) :
    q' = q ∧ rs = [] ∧ ∀ e ∈ es, ¬ IsFrame e := by
  cases h with
  | look => exact ⟨rfl, rfl, by simp [IsFrame, IsText, IsChunk]⟩
  | refuse _ hidle | silence _ hidle | begin _ hidle => exact absurd (hidle.symm.trans ha) nofun
  | chunk _ hb hgoes | last _ hb hgoes | broken _ hb hgoes | lost _ hb hgoes | full _ hb hgoes =>
    obtain rfl := Option.some.inj (hb.symm.trans ha)
    exact absurd (hgoes.symm.trans hp) Bool.false_ne_true

/-- Nor does any sequence of moves get further. -/
theorem Moves.of_paused (h : Moves q es rs q') (ha : q.active = some a) (hp : a.paused = true) :
    q' = q ∧ rs = [] ∧ ∀ e ∈ es, ¬ IsFrame e := by
  induction h with
  | refl => exact ⟨rfl, rfl, List.forall_mem_nil _⟩
  | step first _ ih =>
    obtain ⟨rfl, rfl, hfirst⟩ := first.of_paused ha hp
    obtain ⟨rfl, rfl, hrest⟩ := ih ha
    exact ⟨rfl, rfl, List.forall_mem_append.mpr ⟨hfirst, hrest⟩⟩

/-- What is reported as paused is the active job, and that is paused. -/
theorem Move.paused (h : Move q es rs q') {p : TransferProgress} (hp : p ∈ rs)
    (hstate : p.state = .paused) : ∃ a, q'.active = some a ∧ a.id = p.id ∧ a.paused = true := by
  cases h with
  | look | chunk => cases hp
  | refuse | silence | begin | last | broken | lost =>
    obtain rfl := List.mem_singleton.mp hp
    cases hstate
  | full =>
    obtain rfl := List.mem_singleton.mp hp
    exact ⟨_, rfl, rfl, rfl⟩

/-- What a sequence of moves reports as paused is paused at its end. -/
theorem Moves.paused (h : Moves q es rs q') {p : TransferProgress} (hp : p ∈ rs)
    (hstate : p.state = .paused) : ∃ a, q'.active = some a ∧ a.id = p.id ∧ a.paused = true := by
  induction h with
  | refl => cases hp
  | step first rest ih =>
    rcases List.mem_append.mp hp with hp | hp
    · obtain ⟨a, ha, hid, hpaused⟩ := first.paused hp hstate
      obtain ⟨rfl, -, -⟩ := rest.of_paused ha hpaused
      exact ⟨a, ha, hid, hpaused⟩
    · exact ih hp

/-- **A pause is kept up**, unless it is released. -/
theorem Turned.of_paused {call : Option Call} (h : q.Turned call es rs q') (ha : q.active = some a)
    (hp : a.paused = true) (hkeep : ¬ Step.Releases ⟨q, call, es, rs, q'⟩ a.watermarks.low) :
    q'.active = some a ∧ ∀ e ∈ es, ¬ IsFrame e := by
  cases call with
  | none =>
    obtain ⟨rfl, -, hquiet⟩ := Moves.of_paused h ha hp
    exact ⟨ha, hquiet⟩
  | some c =>
    obtain ⟨es₁, rs₁, q₁, es₂, rs₂, ho, hm, rfl, rfl⟩ := h
    have hopened : q₁.active = some a := by
      cases ho with
      | enqueue | attach | sleep | idle => exact ha
      | wake _ hb _ hlow =>
        obtain rfl := Option.some.inj (hb.symm.trans ha)
        exact absurd (.inr ⟨rfl, _, _, _, rfl, hlow⟩) hkeep
      | closed => exact absurd (.inl rfl) hkeep
    obtain ⟨rfl, -, hquiet⟩ := hm.of_paused hopened hp
    exact ⟨hopened, List.forall_mem_append.mpr ⟨ho.quiet, hquiet⟩⟩

theorem Opening.ne_paused {c : Call} (h : Opening q c es rs q') : ∀ p ∈ rs, p.state ≠ .paused := by
  cases h with
  | enqueue job => exact List.forall_mem_singleton.mpr nofun
  | attach | wake | sleep | idle => exact List.forall_mem_nil _
  | closed => simp [onChannelClosed, ActiveTransfer.progress, TransferJob.progress]

/-- What a turn reports as paused is paused after it. -/
theorem Turned.paused {call : Option Call} (h : q.Turned call es rs q') {p : TransferProgress}
    (hp : p ∈ rs) (hstate : p.state = .paused) :
    ∃ a, q'.active = some a ∧ a.id = p.id ∧ a.paused = true := by
  cases call with
  | none => exact Moves.paused h hp hstate
  | some c =>
    obtain ⟨es₁, rs₁, q₁, es₂, rs₂, ho, hm, rfl, rfl⟩ := h
    rcases List.mem_append.mp hp with hp | hp
    · exact absurd hstate (ho.ne_paused p hp)
    · exact hm.paused hp hstate

end

/-! ## Runs -/

section
variable {limits : TransferLimits} {steps : List Step} {q : TransferQueue}

/-- What is said of the runs of a queue. -/
structure RespectsMarks (limits : TransferLimits) (steps : List Step) : Prop where
  /-- A chunk is sent only when it may be. -/
  chunks : Throughout (Permitted limits (callsOf steps)) (recordOf steps)
  /-- What is reported as paused is the active job. It stays paused, and nothing is sent, until the
  queue finds that no more than a chunk waits in its channel, or is told that it is closed. -/
  pauses : ∀ front first middle back, steps = front ++ first :: middle ++ back →
    ∀ p ∈ first.reports, p.state = .paused →
      ∃ a, first.after.active = some a ∧ a.id = p.id ∧ a.paused = true
        ∧ ((∀ step ∈ middle, ¬ step.Releases a.job.chunkSize) →
          ∀ step ∈ middle, step.after.active = some a ∧ ∀ e ∈ step.made, ¬ IsFrame e)

/-- **All that a run sends is permitted.** -/
theorem Run.proceeds (hr : Run limits steps q) :
    Proceeds limits (callsOf steps) [] (recordOf steps) q := by
  induction hr with
  | start => exact ⟨tracked_new limits, throughout_permitted (List.forall_mem_nil _)⟩
  | turn before hmade hmay ih =>
    rw [callsOf_concat, recordOf_concat]
    have hturned := hmay.spec fun ω _ => yields_turn before.settled hmade
    exact (ih.mono (List.subset_append_left _ _)).trans (ih.tracked.turned hmade hturned)

/-- A pause is kept up to the end of a run that does not release it. -/
theorem Run.of_paused {front middle : List Step} {first : Step} {a : ActiveTransfer}
    (hr : Run limits steps q) (hsteps : steps = front ++ first :: middle)
    (ha : first.after.active = some a) (hp : a.paused = true)
    (hkeep : ∀ step ∈ middle, ¬ step.Releases a.watermarks.low) :
    q.active = some a
      ∧ ∀ step ∈ middle, step.after.active = some a ∧ ∀ e ∈ step.made, ¬ IsFrame e := by
  induction hr generalizing middle with
  | start => simp at hsteps
  | turn before hmade hmay ih =>
    rcases split_concat hsteps with ⟨-, rfl, rfl⟩ | ⟨rest, rfl, hrest⟩
    · exact ⟨ha, List.forall_mem_nil _⟩
    obtain ⟨hkeep, hlast⟩ := List.forall_mem_append.mp hkeep
    obtain ⟨hactive, hquiet⟩ := ih hrest hkeep
    have hturned := hmay.spec fun ω _ => yields_turn before.settled hmade
    have hafter := hturned.of_paused hactive hp (hlast _ List.mem_cons_self)
    exact ⟨hafter.1, List.forall_mem_append.mpr ⟨hquiet, List.forall_mem_singleton.mpr hafter⟩⟩

/-- **A queue sends no more than fits**, whatever its channels answer. -/
theorem Run.respectsMarks (hr : Run limits steps q) : RespectsMarks limits steps where
  chunks := hr.proceeds.permitted
  pauses front first middle back hsteps p hp hstate := by
    obtain ⟨q', hleft⟩ := hr.left hsteps
    obtain ⟨-, hfirst, hturned⟩ := hleft.split rfl
    obtain ⟨a, ha, hid, hpaused⟩ := hturned.paused hp hstate
    refine ⟨a, ha, hid, hpaused, fun hkeep => ?_⟩
    rw [← hfirst.proceeds.tracked.low_eq ha] at hkeep
    exact (hleft.of_paused rfl ha hpaused hkeep).2

end

/-! ## A run with pauses

The channel drains between the turns as its script says, so the job of the sample pauses and goes
on. -/

/-- A world with one channel, which follows its script. All else succeeds. -/
structure ScriptedWorld where
  /-- The channel. -/
  channel : ScriptedChannel

instance : World ScriptedWorld where
  perform
    | .channel _ r, h => ((h.channel.respond r).1, ⟨(h.channel.respond r).2⟩)
    | r, h => ((World.perform r (⟨⟩ : Willing)).1, h)

/-- A turn in that world, when so many bytes wait in the channel. -/
def playOn (q : TransferQueue) (bytes : ℕ) (call : Option Call) : Step :=
  let out := q.turn call
    (⟨⟨{ handle := sampleChannel, buffered := bytes }⟩, []⟩ : Recorded ScriptedWorld)
  ⟨q, call, out.2.record, out.1.1, out.1.2⟩

/-- Turns one after the other. -/
def playAll (q : TransferQueue) : List (ℕ × Option Call) → List Step
  | [] => []
  | (bytes, call) :: rest => q.playOn bytes call :: (q.playOn bytes call).after.playAll rest

theorem Run.playAll {limits : TransferLimits} {turns : List (ℕ × Option Call)} {steps : List Step}
    {q : TransferQueue} (hr : Run limits steps q) (hmade : ∀ t ∈ turns, ∀ c ∈ t.2, c.Made) :
    ∃ q', Run limits (steps ++ q.playAll turns) q' := by
  induction turns generalizing steps q with
  | nil => exact ⟨q, by rwa [TransferQueue.playAll, List.append_nil]⟩
  | cons t rest ih =>
    obtain ⟨hfirst, hrest⟩ := List.forall_mem_cons.mp hmade
    have hplayed : Run limits (steps ++ [q.playOn t.1 t.2]) (q.playOn t.1 t.2).after :=
      hr.turn hfirst ⟨ScriptedWorld, inferInstance, _, rfl, rfl⟩
    obtain ⟨q', hq'⟩ := ih hplayed hrest
    exact ⟨q', by rwa [TransferQueue.playAll, List.append_cons]⟩

/-- A file is sent byte for byte, and another one waits. -/
def sampleTurns : List (ℕ × Option Call) :=
  [(0, some (.enqueue sampleJob)), (0, some (.attach sampleChannel 1)),
    (0, some (.enqueue sampleJob)), (2, some .bufferedAmountLow), (0, none),
    (1, some .bufferedAmountLow)]

/-- The files of the sample were made by `TransferJob.new`. -/
theorem made_sampleTurns : ∀ t ∈ sampleTurns, ∀ c ∈ t.2, c.Made := by
  have hattach : Call.Made (.attach sampleChannel 1) := trivial
  have hlow : Call.Made .bufferedAmountLow := trivial
  simp [sampleTurns, made_sampleJob, hattach, hlow]

/-- The announcement fills the channel. Nothing is sent until it has drained to one byte, and then
two chunks, which fill it again. -/
theorem respectsMarks_sampleTurns : ∃ q, Run {} (playAll (new {}) sampleTurns) q
    ∧ RespectsMarks {} (playAll (new {}) sampleTurns)
    ∧ (playAll (new {}) sampleTurns).map
        (fun step => (step.reports.map (·.state), (taken step.made).length))
      = [([.waiting], 0), ([.sending, .paused], 1), ([.waiting], 0), ([], 0), ([], 0),
          ([.paused], 2)] := by
  obtain ⟨q, hr⟩ := Run.start.playAll made_sampleTurns
  exact ⟨q, hr, hr.respectsMarks, by decide +kernel⟩

end TransferQueue

end Transfer

end CameraViewer
