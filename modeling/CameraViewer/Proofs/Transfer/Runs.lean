import CameraViewer.Proofs.Transfer.Moves

/-!
# Proofs/Transfer/Runs — the runs of a queue

A run calls the operations of a queue one after the other, the channels answering as they like.
Between two moves of a call it is on a `Trail`; `Reachable.trail` says that every call is its
`Opening` and then moves, so that an invariant has to be shown for openings and moves only. In these
runs a channel is attached only where there is none; a `Run` attaches channels at any time, and may
pump between two calls.
-/

namespace CameraViewer.Transfer

open Peer World

namespace TransferQueue

/-! ## Calls -/

/-- What a queue is called with. -/
inductive Call
  /-- A job is to be sent. -/
  | enqueue (job : TransferJob)
  /-- There is a channel. -/
  | attach (channel : ChannelHandle) (maxMessage : ℕ)
  /-- The channel has drained. -/
  | bufferedAmountLow
  /-- The channel is gone. -/
  | channelClosed

/-- The operation behind a call. -/
def Call.run {ω : Type} [World ω] (q : TransferQueue) :
    Call → StateM ω (List TransferProgress × TransferQueue)
  | .enqueue job => q.enqueue job
  | .attach channel maxMessage => q.attach channel maxMessage
  | .bufferedAmountLow => q.onBufferedAmountLow
  | .channelClosed => pure q.onChannelClosed

/-- Jobs are made by `TransferJob.new`, and a channel is attached where there is none. -/
def Call.Admissible (q : TransferQueue) : Call → Prop
  | .enqueue job => ∃ name mime source, TransferJob.new name mime source = .ok job
  | .attach _ _ => q.channel = none
  | _ => True

/-- Jobs are made by `TransferJob.new`; nothing is said of channels. -/
def Call.Made : Call → Prop
  | .enqueue job => ∃ name mime source, TransferJob.new name mime source = .ok job
  | _ => True

/-- A call that is admissible brings a job that was made by `TransferJob.new`. -/
theorem Call.Admissible.made {q : TransferQueue} {c : Call} (h : c.Admissible q) : c.Made := by
  cases c with
  | enqueue => exact h
  | attach | bufferedAmountLow | channelClosed => trivial

/-- A queue with all that happened to it. -/
structure History where
  /-- The queue. -/
  queue : TransferQueue
  /-- What it was called with. -/
  calls : List Call
  /-- What it asked of its channels. -/
  record : List Entry
  /-- What it reported. -/
  reports : List TransferProgress

/-- A history that goes on. -/
def History.extend (h : History) (calls : List Call) (es : List Entry) (rs : List TransferProgress)
    (q : TransferQueue) : History :=
  ⟨q, h.calls ++ calls, h.record ++ es, h.reports ++ rs⟩

/-- The histories of a queue after any number of calls, whatever its channels answer. -/
inductive Reachable (limits : TransferLimits) : History → Prop
  | start : Reachable limits ⟨new limits, [], [], []⟩
  | call {h : History} {c : Call} {es : List Entry} {rs : List TransferProgress} {q : TransferQueue}
    (before : Reachable limits h) (hc : c.Admissible h.queue)
    (hrun : May (fun _ _ => c.run h.queue) es (rs, q)) : Reachable limits (h.extend [c] es rs q)

/-- A history that goes on in the willing world. -/
def History.play (h : History) (c : Call) : History :=
  let out := played fun _ _ => c.run h.queue
  h.extend [c] out.2.record out.1.1 out.1.2

/-- A history goes on with an admissible call in the willing world. -/
theorem Reachable.play {limits : TransferLimits} {h : History} (hr : Reachable limits h) {c : Call}
    (hc : c.Admissible h.queue) : Reachable limits (h.play c) :=
  .call hr hc (may_played _)

/-! ## What a call does

A call does something of its own first and then pumps the queue, unless there is nothing to pump
for. -/

/-- What a call does before it starts to pump. -/
inductive Opening (q : TransferQueue) :
    Call → List Entry → List TransferProgress → TransferQueue → Prop
  /-- The job goes to the end of the queue. -/
  | enqueue (job : TransferJob) :
    Opening q (.enqueue job) [] [job.progress q.nextId .waiting]
      { q with nextId := q.nextId + 1, waiting := q.waiting ++ [(q.nextId, job)] }
  /-- The channel is there. -/
  | attach (c : ChannelHandle) (maxMessage : ℕ) :
    Opening q (.attach c maxMessage) [] [] { q with channel := some c, maxMessage }
  /-- The active job goes on. -/
  | wake {c : ChannelHandle} {a : ActiveTransfer} {n : ℕ} (hc : q.channel = some c)
    (ha : q.active = some a) (hp : a.paused = true) (hn : n ≤ a.watermarks.low) :
    Opening q .bufferedAmountLow
      [.asked (.channel c .bufferedAmount) n, .asked (.note (.elapsed .transferPaused)) ()] []
      { q with active := some { a with paused := false } }
  /-- The channel is still too full. -/
  | sleep {c : ChannelHandle} {a : ActiveTransfer} {n : ℕ} (hc : q.channel = some c)
    (ha : q.active = some a) (hp : a.paused = true) (hn : a.watermarks.low < n) :
    Opening q .bufferedAmountLow [.asked (.channel c .bufferedAmount) n] [] q
  /-- Nothing is paused. -/
  | idle (hp : ∀ a ∈ q.active, q.channel.isSome → a.paused = false) :
    Opening q .bufferedAmountLow [] [] q
  /-- The active job is given up. -/
  | closed :
    Opening q .channelClosed [] (onChannelClosed q).1 (onChannelClosed q).2

/-- An opening leaves the queue settled, so that it can be pumped. -/
theorem Settled.opening {q q' : TransferQueue} {c : Call} {es : List Entry}
    {rs : List TransferProgress} (hq : q.Settled) (hc : c.Made) (ho : Opening q c es rs q') :
    q'.Settled := by
  cases ho with
  | enqueue job =>
    obtain ⟨name, mime, source, hjob⟩ := hc
    refine ⟨fun w hw => ?_, hq.active⟩
    rcases List.mem_append.mp hw with hw | hw
    · exact hq.waiting w hw
    · obtain rfl := List.mem_singleton.mp hw
      exact TransferJob.fresh_of_new hjob
  | attach => exact ⟨hq.waiting, hq.active⟩
  | wake _ ha =>
    refine ⟨hq.waiting, ?_⟩
    rintro _ ⟨⟩
    exact (hq.active _ ha : TransferJob.Underway _)
  | sleep | idle => exact hq
  | closed => exact ⟨hq.waiting, by simp [onChannelClosed]⟩

/-- What a call makes of a queue: its opening, and then moves. -/
def Ran (q : TransferQueue) (c : Call) (es : List Entry) (rs : List TransferProgress)
    (q' : TransferQueue) : Prop :=
  ∃ es₁ rs₁ q₁ es₂ rs₂, Opening q c es₁ rs₁ q₁ ∧ Moves q₁ es₂ rs₂ q' ∧ es = es₁ ++ es₂
    ∧ rs = rs₁ ++ rs₂

/-- **Every call is its opening and then moves, and leaves the queue at rest.** Word that the
channel has drained finds it as the call before left it, where no job pauses. -/
theorem yields_call {ω : Type} [World ω] {q : TransferQueue} (hq : q.Settled) {c : Call}
    (hc : c.Made) : Yields (ω := ω) (c.run q) fun es r => q.Ran c es r.1 r.2
      ∧ ((c = .bufferedAmountLow → q.Rests) → r.2.RestsAfter es) := by
  cases c with
  | enqueue job =>
    have hq' := hq.opening hc (.enqueue job)
    refine (yields_pump_rests hq').bind fun es r h => yields_pure ?_
    rw [List.append_nil]
    exact ⟨⟨_, _, _, _, _, .enqueue job, h.1, rfl, rfl⟩, fun _ => h.2⟩
  | attach c maxMessage =>
    have hq' := hq.opening hc (.attach c maxMessage)
    refine (yields_pump_rests hq').mono fun es r h => ?_
    exact ⟨⟨_, _, _, _, _, .attach c maxMessage, h.1, rfl, rfl⟩, fun _ => h.2⟩
  | bufferedAmountLow =>
    rw [Call.run, onBufferedAmountLow]
    split
    case h_2 hnone =>
      refine yields_pure ⟨⟨_, _, _, _, _, .idle fun a ha hc => ?_, .refl q, rfl, rfl⟩,
        fun hrests => (hrests rfl).after _⟩
      obtain ⟨c, hc⟩ := Option.isSome_iff_exists.mp hc
      exact (hnone c a hc ha).elim
    rename_i c a hc ha
    cases hp : a.paused
    · refine yields_pure ⟨⟨_, _, _, _, _, .idle fun b hb _ => ?_, .refl q, rfl, rfl⟩,
        fun hrests => (hrests rfl).after _⟩
      obtain rfl := Option.some.inj (ha.symm.trans hb)
      exact hp
    refine yields_ask_bind _ fun n => ?_
    by_cases hn : a.watermarks.low < n
    · rw [if_pos hn]
      exact yields_pure ⟨⟨_, _, _, _, _, .sleep hc ha hp hn, .refl q, rfl, rfl⟩,
        fun hrests => (hrests rfl).after _⟩
    rw [if_neg hn]
    refine yields_ask_bind _ fun _ => ?_
    have hwake := Opening.wake hc ha hp (not_lt.mp hn)
    have hq' := hq.opening (c := .bufferedAmountLow) trivial hwake
    refine (yields_pump_rests hq').mono fun es r h => ?_
    exact ⟨⟨_, _, _, _, _, hwake, h.1, rfl, rfl⟩, fun _ => h.2.append [_, _]⟩
  | channelClosed =>
    exact yields_pure ⟨⟨_, _, _, _, _, .closed, .refl _, rfl, (List.append_nil _).symm⟩,
      fun _ hsome => absurd rfl hsome⟩

/-- What a call does, apart from where it stops. -/
theorem yields_run {ω : Type} [World ω] {q : TransferQueue} (hq : q.Settled) {c : Call}
    (hc : c.Made) : Yields (ω := ω) (c.run q) fun es r => q.Ran c es r.1 r.2 :=
  (yields_call hq hc).mono fun _ _ h => h.1

/-! ## Trails

An invariant of a queue is proved for the middle of a call too, so a history is cut into openings
and moves. -/

/-- The histories of a queue in the middle of a call. -/
inductive Trail (limits : TransferLimits) : History → Prop
  | start : Trail limits ⟨new limits, [], [], []⟩
  | opening {h : History} {c : Call} {es : List Entry} {rs : List TransferProgress}
    {q : TransferQueue}
    (before : Trail limits h) (hc : c.Admissible h.queue) (ho : Opening h.queue c es rs q) :
    Trail limits (h.extend [c] es rs q)
  | move {h : History} {es : List Entry} {rs : List TransferProgress} {q : TransferQueue}
    (before : Trail limits h) (hm : Move h.queue es rs q) : Trail limits (h.extend [] es rs q)

theorem Trail.moves {limits : TransferLimits} {h : History} (ht : Trail limits h) {es : List Entry}
    {rs : List TransferProgress} {q : TransferQueue} (hm : Moves h.queue es rs q) :
    Trail limits (h.extend [] es rs q) := by
  generalize hq : h.queue = start at hm
  induction hm generalizing h with
  | refl =>
    subst hq
    simpa [History.extend] using ht
  | step first _ ih =>
    subst hq
    simpa [History.extend] using ih (ht.move first) rfl

/-- A trail goes on with a call. -/
theorem Trail.ran {limits : TransferLimits} {h : History} (ht : Trail limits h) {c : Call}
    (hc : c.Admissible h.queue) {es : List Entry} {rs : List TransferProgress} {q : TransferQueue}
    (hr : h.queue.Ran c es rs q) : Trail limits (h.extend [c] es rs q) := by
  obtain ⟨es₁, rs₁, q₁, es₂, rs₂, ho, hm, rfl, rfl⟩ := hr
  simpa [History.extend] using (ht.opening hc ho).moves hm

theorem Settled.ran {q q' : TransferQueue} {c : Call} {es : List Entry} {rs : List TransferProgress}
    (hq : q.Settled) (hc : c.Made) (hr : q.Ran c es rs q') : q'.Settled := by
  obtain ⟨_, _, _, _, _, ho, hm, -, -⟩ := hr
  exact (hq.opening hc ho).moves hm

/-- Only attaching and closing change the channel of a queue. -/
theorem Ran.channel_eq {q q' : TransferQueue} {c : Call} {es : List Entry}
    {rs : List TransferProgress} (hr : q.Ran c es rs q')
    (hattach : ∀ channel m, c ≠ .attach channel m) (hclosed : c ≠ .channelClosed) :
    q'.channel = q.channel := by
  obtain ⟨_, _, _, _, _, ho, hm, -, -⟩ := hr
  rw [hm.channel_eq]
  cases ho with
  | attach => exact absurd rfl (hattach _ _)
  | closed => exact absurd rfl hclosed
  | enqueue | wake | sleep | idle => rfl

/-- What is attached is the channel of the queue. -/
theorem Ran.channel_eq_some {q q' : TransferQueue} {channel : ChannelHandle} {maxMessage : ℕ}
    {es : List Entry} {rs : List TransferProgress}
    (hr : q.Ran (.attach channel maxMessage) es rs q') :
    q'.channel = some channel := by
  obtain ⟨_, _, _, _, _, ho, hm, -, -⟩ := hr
  rw [hm.channel_eq]
  cases ho
  rfl

/-- **A call asks nothing but the channel it leaves to the queue, and notes samples.** -/
theorem Ran.entries {q q' : TransferQueue} {c : Call} {es : List Entry} {rs : List TransferProgress}
    (hr : q.Ran c es rs q') : ∀ e ∈ es, Asks q'.channel e := by
  obtain ⟨_, _, _, _, _, ho, hm, rfl, -⟩ := hr
  rw [hm.channel_eq]
  refine List.forall_mem_append.mpr ⟨?_, hm.entries⟩
  cases ho with
  | enqueue | attach | idle | closed => exact List.forall_mem_nil _
  | wake hc =>
    refine List.forall_mem_cons.mpr ⟨.channel hc .., ?_⟩
    exact List.forall_mem_singleton.mpr (.noted _)
  | sleep hc => exact List.forall_mem_singleton.mpr (.channel hc ..)

/-- The queue is settled all along its trail. -/
theorem Trail.settled {limits : TransferLimits} {h : History} (ht : Trail limits h) :
    h.queue.Settled := by
  induction ht with
  | start => exact settled_new limits
  | opening _ hc ho ih => exact ih.opening hc.made ho
  | move _ hm ih => exact ih.move hm

/-- **Between two calls a queue is on its trail.** -/
theorem Reachable.trail {limits : TransferLimits} {h : History} (hr : Reachable limits h) :
    Trail limits h := by
  induction hr with
  | start => exact .start
  | call _ hc hrun ih => exact ih.ran hc (hrun.spec fun ω _ => yields_run ih.settled hc.made)

/-- **A call leaves no job waiting that could be sent**, unless it finds the channel closed. -/
theorem Reachable.goesOn {limits : TransferLimits} {h : History} (hr : Reachable limits h)
    {c : Call} {es : List Entry} {rs : List TransferProgress} {q : TransferQueue}
    (hc : c.Admissible h.queue) (hrun : May (fun _ _ => c.run h.queue) es (rs, q))
    (hrests : c = .bufferedAmountLow → h.queue.Rests) : q.RestsAfter es :=
  (hrun.spec fun _ _ => yields_call hr.trail.settled hc.made).2 hrests

/-- Between two calls a queue rests that never found its channel closed. -/
theorem Reachable.rests {limits : TransferLimits} {h : History} (hr : Reachable limits h) :
    h.queue.RestsAfter h.record := by
  induction hr with
  | start => exact fun hsome => absurd rfl hsome
  | @call h c es rs q before hc hrun ih =>
    intro hsome hfound
    obtain ⟨hold, hnew⟩ := List.forall_mem_append.mp hfound
    refine before.goesOn hc hrun (fun hlow => ih ?_ hold) hsome hnew
    have hran := hrun.spec fun ω _ => yields_run before.trail.settled hc.made
    subst hlow
    rwa [← hran.channel_eq (by simp) (by simp)]

/-! ## Runs with any channels

In these runs a channel may be attached where there is one already, and the queue may be pumped at
any time. -/

section
variable {ω : Type} [World ω]

/-- What a queue does at a time: it is called, or it only pumps. -/
def turn (q : TransferQueue) : Option Call → StateM ω (List TransferProgress × TransferQueue)
  | some c => c.run q
  | none => q.pump

end

/-- One turn of a run. -/
structure Step where
  /-- The queue that had its turn. -/
  before : TransferQueue
  /-- What it was called with, if anything. -/
  call : Option Call
  /-- What it asked. -/
  made : List Entry
  /-- What it reported. -/
  reports : List TransferProgress
  /-- The queue after the turn. -/
  after : TransferQueue

/-- What the queue of a run was called with. -/
def callsOf (steps : List Step) : List Call := steps.flatMap fun step => step.call.toList

/-- All that a run asked, in order. -/
def recordOf (steps : List Step) : List Entry := steps.flatMap Step.made

theorem callsOf_concat (steps : List Step) (step : Step) :
    callsOf (steps ++ [step]) = callsOf steps ++ step.call.toList := by
  simp [callsOf]

theorem recordOf_concat (steps : List Step) (step : Step) :
    recordOf (steps ++ [step]) = recordOf steps ++ step.made := by
  simp [recordOf]

/-- The runs of a new queue. -/
inductive Run (limits : TransferLimits) : List Step → TransferQueue → Prop
  | start : Run limits [] (new limits)
  | turn {steps : List Step} {q q' : TransferQueue} {call : Option Call} {es : List Entry}
    {rs : List TransferProgress} (before : Run limits steps q) (hmade : ∀ c ∈ call, c.Made)
    (hmay : May (fun _ _ => q.turn call) es (rs, q')) :
    Run limits (steps ++ [⟨q, call, es, rs, q'⟩]) q'

/-- What a turn makes of a queue. -/
def Turned (q : TransferQueue) : Option Call → List Entry → List TransferProgress →
    TransferQueue → Prop
  | some c => q.Ran c
  | none => Moves q

/-- **What a turn does.** -/
theorem yields_turn {ω : Type} [World ω] {q : TransferQueue} (hq : q.Settled) {call : Option Call}
    (hmade : ∀ c ∈ call, c.Made) :
    Yields (ω := ω) (q.turn call) fun es r => q.Turned call es r.1 r.2 := by
  cases call with
  | none => exact yields_pump hq
  | some c => exact yields_run hq (hmade c rfl)

theorem Settled.turned {q q' : TransferQueue} {call : Option Call} {es : List Entry}
    {rs : List TransferProgress} (hq : q.Settled) (hmade : ∀ c ∈ call, c.Made)
    (ht : q.Turned call es rs q') : q'.Settled := by
  cases call with
  | none => exact hq.moves ht
  | some c => exact hq.ran (hmade c rfl) ht

section
variable {limits : TransferLimits} {steps : List Step} {q : TransferQueue}

theorem Run.settled (hr : Run limits steps q) : q.Settled := by
  induction hr with
  | start => exact settled_new limits
  | turn _ hmade hmay ih => exact ih.turned hmade (hmay.spec fun ω _ => yields_turn ih hmade)

/-- Every turn of a run was taken in a run. -/
theorem Run.split {before later : List Step} {step : Step} (hr : Run limits steps q)
    (hsteps : steps = before ++ step :: later) :
    Run limits before step.before ∧ Run limits (before ++ [step]) step.after
      ∧ step.before.Turned step.call step.made step.reports step.after := by
  induction hr generalizing later with
  | start => simp at hsteps
  | turn hbefore hmade hmay ih =>
    rcases split_concat hsteps with ⟨rfl, rfl, -⟩ | ⟨rest, -, hrest⟩
    · refine ⟨hbefore, hbefore.turn hmade hmay, ?_⟩
      exact hmay.spec fun ω _ => yields_turn hbefore.settled hmade
    · exact ih hrest

/-- The beginning of a run is a run. -/
theorem Run.left {front back : List Step} (hr : Run limits steps q)
    (hsteps : steps = front ++ back) :
    ∃ q', Run limits front q' := by
  cases back with
  | nil => exact ⟨q, by rwa [hsteps, List.append_nil] at hr⟩
  | cons step rest => exact ⟨_, (hr.split hsteps).1⟩

end

/-! ## Samples -/

/-- A channel. -/
def sampleChannel : ChannelHandle := ⟨1, "clips"⟩

/-- A file of three bytes. -/
def sampleJob : TransferJob := ⟨"clip.wav", "audio/wav", ⟨#[1, 2, 3], by decide⟩, 0, 0⟩

theorem made_sampleJob : Call.Made (.enqueue sampleJob) :=
  ⟨"clip.wav", "audio/wav", sampleJob.source, rfl⟩

end TransferQueue

end CameraViewer.Transfer
