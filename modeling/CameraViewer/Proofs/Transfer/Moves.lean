import CameraViewer.Proofs.World.Record
import CameraViewer.Proofs.Transfer.Windows
import CameraViewer.Transfer.Queue

/-!
# Proofs/Transfer/Moves — what a queue can do

A `Move` is one thing a queue can do with its channel, with what it asks of it and what it
reports. Whatever the channel answers, `pump` is a sequence of moves (`yields_pump`), so that what
holds after every move holds after every operation.
-/

namespace CameraViewer.Transfer

open Peer World

namespace TransferJob

/-! ## Jobs between two moves -/

/-- A job that waits: it is not empty, and nothing of it was handed out. -/
structure Fresh (j : TransferJob) : Prop where
  chunkSize : j.chunkSize = 0
  queued : j.queued = 0
  total_pos : 0 < j.total

/-- A job on its way: some of it is left, and it can be cut into chunks. -/
structure Underway (j : TransferJob) : Prop where
  incomplete : j.isComplete = false
  chunkSize_pos : 0 < j.chunkSize

/-- A new job waits with all of its file. -/
theorem fresh_of_new {name mime : String} {source : Payload} {j : TransferJob}
    (h : new name mime source = .ok j) : j.Fresh := by
  rw [new] at h
  split at h
  · cases h
  · rename_i hsize
    obtain rfl := Except.ok.inj h
    exact ⟨rfl, rfl, Nat.pos_of_ne_zero hsize⟩

/-- What a start leaves of a job. -/
theorem eq_of_start {j started : TransferJob} {chunkSize maxMessage : ℕ}
    (h : j.start chunkSize maxMessage = .ok started) : started = { j with chunkSize } := by
  rw [start] at h
  split_ifs at h
  exact (Except.ok.inj h).symm

/-- A job that was started is on its way. -/
theorem underway_of_start {j started : TransferJob} {chunkSize maxMessage : ℕ} (hj : j.Fresh)
    (hpos : 0 < chunkSize) (h : j.start chunkSize maxMessage = .ok started) : started.Underway := by
  obtain rfl := eq_of_start h
  refine ⟨?_, hpos⟩
  have := hj.total_pos
  simpa [isComplete, total, hj.queued, Nat.pos_iff_ne_zero] using this

theorem Underway.queued_lt {j : TransferJob} (h : j.Underway) : j.queued < j.total := by
  simpa [isComplete] using h.incomplete

/-- Something is left of a job that is underway. -/
theorem Underway.exists_nextChunk? {j : TransferJob} (h : j.Underway) :
    ∃ chunk next, j.nextChunk? = some (chunk, next) := by
  rw [nextChunk?, h.incomplete, if_neg (by simpa using h.chunkSize_pos.ne')]
  exact ⟨_, _, rfl⟩

/-- A job that is not at its end after a chunk is still underway. -/
theorem Underway.next {j next : TransferJob} {chunk : Bytes} (h : j.Underway)
    (hnext : j.nextChunk? = some (chunk, next)) (hopen : next.isComplete = false) :
    next.Underway := by
  rw [nextChunk?, h.incomplete, if_neg (by simpa using h.chunkSize_pos.ne')] at hnext
  obtain rfl := (Prod.mk.inj (Option.some.inj hnext)).2
  exact ⟨hopen, h.chunkSize_pos⟩

end TransferJob

theorem chunkSizeFor_pos (maxMessage cap : ℕ) : 0 < chunkSizeFor maxMessage cap := by
  rw [chunkSizeFor]
  omega

namespace TransferQueue

/-! ## Moves

Everything a queue does with its channel is one of a few moves; what holds of every run is proved of
each of them. -/

/-- What is asked when a chunk may be sent: whether the channel is open, and how much waits in it.
-/
def asksRoom (c : ChannelHandle) (buffered : ℕ) : List Entry :=
  [.asked (.channel c .isOpen) true, .asked (.channel c .bufferedAmount) buffered]

/-- What is asked to announce a job. -/
def asksAnnounce (c : ChannelHandle) (low : ℕ) (job : TransferJob)
    (result : Except TransferError Unit) : List Entry :=
  [.asked (.channel c (.setLowMark low)) (),
    .asked (.channel c (.sendText job.announcement.text)) result]

/-- What is asked to send a chunk. -/
def asksSend (c : ChannelHandle) (buffered : ℕ) (chunk : Bytes) : List Entry :=
  asksRoom c buffered ++
    [.asked (.channel c (.sendBytes chunk)) (.ok ()),
    .asked (.note (.bytes .chunkSent chunk.size)) ()]

/-- One thing a queue can do with its channel: what it asks, what it reports, and the queue after
it. -/
inductive Move : TransferQueue → List Entry → List TransferProgress → TransferQueue → Prop
  /-- It looks whether the channel is open. -/
  | look {q : TransferQueue} {c : ChannelHandle} (hc : q.channel = some c) (isOpen : Bool) :
    Move q [.asked (.channel c .isOpen) isOpen] [] q
  /-- The oldest job that waits cannot be cut into chunks. -/
  | refuse {q : TransferQueue} {c : ChannelHandle} {id : ℕ} {job : TransferJob}
    {rest : List (ℕ × TransferJob)} {e : TransferError} (hc : q.channel = some c)
    (hidle : q.active = none) (hw : q.waiting = (id, job) :: rest)
    (he : job.start q.chunkSize q.maxMessage = .error e) :
    Move q [] [job.progress id (.failed e.message)] { q with waiting := rest }
  /-- It cannot be announced. -/
  | silence {q : TransferQueue} {c : ChannelHandle} {id : ℕ} {job started : TransferJob}
    {rest : List (ℕ × TransferJob)} (hc : q.channel = some c) (hidle : q.active = none)
    (hw : q.waiting = (id, job) :: rest) (hs : job.start q.chunkSize q.maxMessage = .ok started)
    (e : TransferError) :
    Move q (asksAnnounce c (q.watermarksFor job).low started (.error e))
      [started.progress id (.failed e.message)] { q with waiting := rest }
  /-- It is announced and becomes the active one. -/
  | begin {q : TransferQueue} {c : ChannelHandle} {id : ℕ} {job started : TransferJob}
    {rest : List (ℕ × TransferJob)} (hc : q.channel = some c) (hidle : q.active = none)
    (hw : q.waiting = (id, job) :: rest) (hs : job.start q.chunkSize q.maxMessage = .ok started) :
    Move q (asksAnnounce c (q.watermarksFor job).low started (.ok ()))
      [started.progress id .sending]
      { q with waiting := rest, active := some ⟨id, started, q.watermarksFor job, false⟩ }
  /-- A chunk of the active job is sent, and something is left of it. -/
  | chunk {q : TransferQueue} {c : ChannelHandle} {a : ActiveTransfer} {n : ℕ} {chunk : Bytes}
    {next : TransferJob} (hc : q.channel = some c) (ha : q.active = some a) (hp : a.paused = false)
    (hn : n < a.watermarks.high) (hnext : a.job.nextChunk? = some (chunk, next))
    (hopen : next.isComplete = false) :
    Move q (asksSend c n chunk) [] { q with active := some { a with job := next } }
  /-- The last chunk of the active job is sent. -/
  | last {q : TransferQueue} {c : ChannelHandle} {a : ActiveTransfer} {n : ℕ} {chunk : Bytes}
    {next : TransferJob} (hc : q.channel = some c) (ha : q.active = some a) (hp : a.paused = false)
    (hn : n < a.watermarks.high) (hnext : a.job.nextChunk? = some (chunk, next))
    (hend : next.isComplete = true) :
    Move q (asksSend c n chunk) [next.progress a.id .completed] { q with active := none }
  /-- A chunk of the active job is not taken. -/
  | broken {q : TransferQueue} {c : ChannelHandle} {a : ActiveTransfer} {n : ℕ} {chunk : Bytes}
    {next : TransferJob} (hc : q.channel = some c) (ha : q.active = some a) (hp : a.paused = false)
    (hn : n < a.watermarks.high) (hnext : a.job.nextChunk? = some (chunk, next))
    (e : TransferError) :
    Move q (asksRoom c n ++ [.asked (.channel c (.sendBytes chunk)) (.error e)])
      [next.progress a.id (.failed e.message)] { q with active := none }
  /-- The channel is found closed under the active job. -/
  | lost {q : TransferQueue} {c : ChannelHandle} {a : ActiveTransfer} (hc : q.channel = some c)
    (ha : q.active = some a) (hp : a.paused = false) :
    Move q [.asked (.channel c .isOpen) false]
      [a.progress (.failed TransferError.channelClosed.message)] { q with active := none }
  /-- The channel is full. -/
  | full {q : TransferQueue} {c : ChannelHandle} {a : ActiveTransfer} {n : ℕ}
    (hc : q.channel = some c)
    (ha : q.active = some a) (hp : a.paused = false) (hn : a.watermarks.high ≤ n) :
    Move q (asksRoom c n) [a.progress .paused] { q with active := some { a with paused := true } }

/-- Moves one after the other. -/
inductive Moves : TransferQueue → List Entry → List TransferProgress → TransferQueue → Prop
  | refl (q : TransferQueue) : Moves q [] [] q
  | step {q q' q'' : TransferQueue} {es es' : List Entry} {rs rs' : List TransferProgress}
    (first : Move q es rs q') (rest : Moves q' es' rs' q'') : Moves q (es ++ es') (rs ++ rs') q''

theorem Move.moves {q q' : TransferQueue} {es : List Entry} {rs : List TransferProgress}
    (h : Move q es rs q') : Moves q es rs q' := by
  have hone := Moves.step h (.refl q')
  rwa [List.append_nil, List.append_nil] at hone

theorem Moves.trans {q q' q'' : TransferQueue} {es es' : List Entry}
    {rs rs' : List TransferProgress} (h : Moves q es rs q') (h' : Moves q' es' rs' q'') :
    Moves q (es ++ es') (rs ++ rs') q'' := by
  induction h with
  | refl => exact h'
  | step first _ ih =>
    rw [List.append_assoc, List.append_assoc]
    exact .step first (ih h')

theorem Move.channel_eq {q q' : TransferQueue} {es : List Entry} {rs : List TransferProgress}
    (h : Move q es rs q') : q'.channel = q.channel := by
  cases h <;> rfl

theorem Moves.channel_eq {q q' : TransferQueue} {es : List Entry} {rs : List TransferProgress}
    (h : Moves q es rs q') : q'.channel = q.channel := by
  induction h with
  | refl => rfl
  | step first _ ih => exact ih.trans first.channel_eq

/-- What waits after a move waited before it. -/
theorem Move.waiting_subset {q q' : TransferQueue} {es : List Entry} {rs : List TransferProgress}
    (h : Move q es rs q') : q'.waiting ⊆ q.waiting := by
  cases h with
  | refuse _ _ hw | silence _ _ hw | begin _ _ hw => exact hw ▸ List.subset_cons_self _ _
  | _ => exact List.Subset.refl _

/-- What a queue with this channel, if any, can ask: something of the channel, or that a sample is
noted. -/
inductive Asks (channel : Option ChannelHandle) : Entry → Prop
  | channel {c : ChannelHandle} (hc : channel = some c) (r : ChannelRequest) (reply : r.Reply) :
    Asks channel (.asked (.channel c r) reply)
  | noted (sample : Sample) : Asks channel (.asked (.note sample) ())

/-- A move asks only the channel of the queue. -/
theorem Move.entries {q q' : TransferQueue} {es : List Entry} {rs : List TransferProgress}
    (h : Move q es rs q') : ∀ e ∈ es, Asks q.channel e := by
  cases h with
  | look hc | lost hc => exact List.forall_mem_singleton.mpr (.channel hc ..)
  | refuse => exact List.forall_mem_nil _
  | silence hc | begin hc | full hc =>
    refine List.forall_mem_cons.mpr ⟨.channel hc .., ?_⟩
    exact List.forall_mem_singleton.mpr (.channel hc ..)
  | chunk hc | last hc =>
    refine List.forall_mem_cons.mpr ⟨.channel hc .., List.forall_mem_cons.mpr ⟨.channel hc .., ?_⟩⟩
    exact List.forall_mem_cons.mpr ⟨.channel hc .., List.forall_mem_singleton.mpr (.noted _)⟩
  | broken hc =>
    refine List.forall_mem_cons.mpr ⟨.channel hc .., List.forall_mem_cons.mpr ⟨.channel hc .., ?_⟩⟩
    exact List.forall_mem_singleton.mpr (.channel hc ..)

theorem Moves.entries {q q' : TransferQueue} {es : List Entry} {rs : List TransferProgress}
    (h : Moves q es rs q') : ∀ e ∈ es, Asks q.channel e := by
  induction h with
  | refl => exact List.forall_mem_nil _
  | step first _ ih =>
    rw [first.channel_eq] at ih
    exact List.forall_mem_append.mpr ⟨first.entries, ih⟩

/-! ## Between two operations -/

/-- A queue between two operations. -/
structure Settled (q : TransferQueue) : Prop where
  waiting : ∀ w ∈ q.waiting, w.2.Fresh
  active : ∀ a ∈ q.active, a.job.Underway

/-- A new queue is settled. -/
theorem settled_new (limits : TransferLimits) : (new limits).Settled :=
  ⟨by simp [new], by simp [new]⟩

/-- **Every move leaves a queue settled.** -/
theorem Settled.move {q q' : TransferQueue} {es : List Entry} {rs : List TransferProgress}
    (hq : q.Settled) (h : Move q es rs q') : q'.Settled := by
  refine ⟨fun w hw => hq.waiting w (h.waiting_subset hw), ?_⟩
  cases h with
  | look | refuse | silence => exact hq.active
  | begin _ _ hw hs =>
    rintro _ ⟨⟩
    have hfresh := hq.waiting _ (hw ▸ List.mem_cons_self)
    exact TransferJob.underway_of_start hfresh (chunkSizeFor_pos _ _) hs
  | chunk _ ha _ _ hnext hopen =>
    rintro _ ⟨⟩
    exact (hq.active _ ha).next hnext hopen
  | last | broken | lost => exact nofun
  | full _ ha =>
    rintro _ ⟨⟩
    exact (hq.active _ ha : TransferJob.Underway _)

theorem Settled.moves {q q' : TransferQueue} {es : List Entry} {rs : List TransferProgress}
    (hq : q.Settled) (h : Moves q es rs q') : q'.Settled := by
  induction h with
  | refl => exact hq
  | step first _ ih => exact ih (hq.move first)

/-! ## At rest

A queue is pumped until it may not go on: the active job pauses or no job waits. Only a channel that
says it is closed keeps it from that. A refused announcement or chunk does not; the job fails, and
the next one has its turn. -/

/-- The channel says that it is closed. -/
def FoundClosed : Entry → Prop
  | .asked (.channel _ .isOpen) false => True
  | _ => False

/-- Nothing can be sent now: the active job pauses or, if there is none, no job waits. -/
structure Rests (q : TransferQueue) : Prop where
  paused : ∀ a ∈ q.active, a.paused = true
  waiting : q.active = none → q.waiting = []

/-- The queue rests, unless it has no channel or found it closed. -/
def RestsAfter (q : TransferQueue) (es : List Entry) : Prop :=
  q.channel ≠ none → (∀ e ∈ es, ¬ FoundClosed e) → q.Rests

/-- Where a job pauses the queue rests, whatever waits behind it. -/
theorem Rests.of_paused {q : TransferQueue} {a : ActiveTransfer} (ha : q.active = some a)
    (hp : a.paused = true) : q.Rests where
  paused b hb := by
    obtain rfl := Option.some.inj (ha.symm.trans hb)
    exact hp
  waiting hidle := by
    rw [ha] at hidle
    cases hidle

/-- A queue without jobs rests. -/
theorem Rests.of_empty {q : TransferQueue} (hidle : q.active = none) (hw : q.waiting = []) :
    q.Rests where
  paused a ha := by
    rw [hidle] at ha
    cases ha
  waiting _ := hw

theorem Rests.after {q : TransferQueue} (h : q.Rests) (es : List Entry) : q.RestsAfter es :=
  fun _ _ => h

/-- What was asked before does not matter. -/
theorem RestsAfter.append {q : TransferQueue} {es : List Entry} (h : q.RestsAfter es)
    (before : List Entry) : q.RestsAfter (before ++ es) :=
  fun hc hfound => h hc fun e he => hfound e (List.mem_append_right _ he)

/-- Nothing is said of a queue that finds its channel closed. -/
theorem RestsAfter.of_closed {q : TransferQueue} {es : List Entry} {c : ChannelHandle}
    (h : .asked (.channel c .isOpen) false ∈ es) : q.RestsAfter es :=
  fun _ hfound => absurd trivial (hfound _ h)

/-! ## Pumping is moving

The operations are walked through once; everything else about the queue is proved of moves. -/

/-- What becomes of a queue when its active job was sent as far as possible. -/
def conclude (a : ActiveTransfer) (q : TransferQueue) :
    SendEnd × TransferJob → List TransferProgress × Bool × TransferQueue
  | (.done, job) => ([job.progress a.id .completed], true, { q with active := none })
  | (.full, job) => ([job.progress a.id .paused], false,
      { q with active := some { a with job, paused := true } })
  | (.failed e, job) => ([job.progress a.id (.failed e.message)], true, { q with active := none })

/-- Where the queue may go on with the next job there is no active one. -/
theorem conclude_eq {a : ActiveTransfer} {q : TransferQueue} {r : SendEnd × TransferJob}
    (h : (q.conclude a r).2.1 = true) : (q.conclude a r).2.2 = { q with active := none } := by
  obtain ⟨_ | _ | _, _⟩ := r
  · rfl
  · cases h
  · rfl

/-- Where the queue may not go on with the next job, the one it sent pauses. -/
theorem rests_conclude {a : ActiveTransfer} {q : TransferQueue} {r : SendEnd × TransferJob}
    (h : (q.conclude a r).2.1 = false) : (q.conclude a r).2.2.Rests := by
  obtain ⟨_ | _ | _, _⟩ := r
  · cases h
  · exact .of_paused rfl rfl
  · cases h

section
variable {ω : Type} [World ω]

theorem advance_eq (c : ChannelHandle) (a : ActiveTransfer) (q : TransferQueue) :
    q.advance (ω := ω) c a = q.conclude a <$> sendUntilFull c a.watermarks.high a.job := by
  rw [advance, map_eq_pure_bind]
  congr 1
  funext ⟨e, job⟩
  cases e <;> rfl

/-- **Sending chunks is moving.** -/
theorem yields_sendUntilFull {q : TransferQueue} {c : ChannelHandle} (hc : q.channel = some c)
    {a : ActiveTransfer} (hp : a.paused = false) (job : TransferJob) (hj : job.Underway) :
    Yields (ω := ω) (sendUntilFull c a.watermarks.high job) fun es r => Moves
      { q with active := some { a with job } } es (q.conclude a r).1 (q.conclude a r).2.2 := by
  induction h : job.total - job.queued using Nat.strong_induction_on generalizing job with
  | _ k ih =>
    obtain ⟨chunk, next, hnext⟩ := hj.exists_nextChunk?
    rw [sendUntilFull, hj.incomplete, if_neg Bool.false_ne_true]
    refine yields_ask_bind _ fun isOpen => ?_
    cases isOpen
    case false =>
      exact yields_pure (Move.lost (q := { q with active := some { a with job } }) hc rfl hp).moves
    refine yields_ask_bind _ fun n => ?_
    by_cases hn : a.watermarks.high ≤ n
    · rw [if_pos hn]
      exact yields_pure
        (Move.full (q := { q with active := some { a with job } }) hc rfl hp hn).moves
    have hroom : n < a.watermarks.high := not_le.mp hn
    rw [if_neg hn]
    split
    · rename_i hnone
      rw [hnext] at hnone
      cases hnone
    rename_i chunk' next' hnext'
    obtain ⟨rfl, rfl⟩ := Prod.mk.inj (Option.some.inj (hnext.symm.trans hnext'))
    refine yields_ask_bind _ fun result => ?_
    obtain e | ⟨⟩ := result
    · exact yields_pure
        (Move.broken (q := { q with active := some { a with job } }) hc rfl hp hroom hnext e).moves
    refine yields_ask_bind _ fun _ => ?_
    cases hend : next.isComplete
    · refine (ih _ ?_ next (hj.next hnext hend) rfl).mono fun es r hrest => ?_
      · have htotal := TransferJob.total_of_nextChunk? hnext
        have hqueued := TransferJob.queued_lt_of_nextChunk? hnext
        omega
      · exact .step
          (.chunk (q := { q with active := some { a with job } }) hc rfl hp hroom hnext hend) hrest
    · rw [sendUntilFull, hend, if_pos rfl]
      exact yields_pure
        (Move.last (q := { q with active := some { a with job } }) hc rfl hp hroom hnext hend).moves

/-- Sending the active job is moving: either it is over or it pauses. -/
theorem yields_advance {q : TransferQueue} {c : ChannelHandle} (hc : q.channel = some c)
    {a : ActiveTransfer} (hp : a.paused = false) (hj : a.job.Underway) :
    Yields (ω := ω) (q.advance c a) fun es r =>
      Moves { q with active := some a } es r.1 r.2.2
        ∧ (r.2.1 = true → r.2.2 = { q with active := none })
        ∧ (r.2.1 = false → r.2.2.Rests) := by
  rw [advance_eq, map_eq_pure_bind]
  refine (yields_sendUntilFull hc hp a.job hj).bind_pure fun es r h => ?_
  exact ⟨h, conclude_eq, rests_conclude⟩

/-- Starting a job is moving: either it is given up or it becomes the active one. -/
theorem yields_start {q : TransferQueue} {c : ChannelHandle} (hc : q.channel = some c)
    (hidle : q.active = none) {id : ℕ} {job : TransferJob} {rest : List (ℕ × TransferJob)}
    (hw : q.waiting = (id, job) :: rest) :
    Yields (ω := ω) ({ q with waiting := rest }.start c id job) fun es r =>
      match r with
      | .error report => Moves q es [report] { q with waiting := rest }
      | .ok a => Moves q es [a.progress .sending] { q with waiting := rest, active := some a }
          ∧ a.paused = false := by
  rw [start]
  split
  · rename_i e he
    exact yields_pure (Move.refuse hc hidle hw he).moves
  rename_i started hs
  rw [announce]
  refine Yields.bind (P := fun es r => es = asksAnnounce c (q.watermarksFor job).low started r)
    ?_ ?_
  · exact yields_ask_bind _ fun _ => yields_ask _ fun _ => rfl
  rintro _ (e | _) rfl
  · refine yields_pure ?_
    rw [List.append_nil]
    exact (Move.silence hc hidle hw hs e).moves
  · refine yields_pure ?_
    rw [List.append_nil]
    exact ⟨(Move.begin hc hidle hw hs).moves, rfl⟩

/-- Going through the jobs that wait is moving, and goes on until a job pauses or none waits. -/
theorem yields_sendWaiting {c : ChannelHandle} : ∀ (waiting : List (ℕ × TransferJob))
    {q : TransferQueue}, q.waiting = waiting → q.channel = some c → q.active = none → q.Settled →
      Yields (ω := ω) (sendWaiting c waiting q) fun es r =>
        Moves q es r.1 r.2 ∧ r.2.RestsAfter es
  | [], q, hw, hc, hidle, _ => by
    rw [sendWaiting]
    exact yields_ask_bind _ fun b =>
      yields_pure ⟨(Move.look hc b).moves, (Rests.of_empty hidle hw).after _⟩
  | (id, job) :: rest, q, hw, hc, hidle, hq => by
    rw [sendWaiting]
    refine yields_ask_bind _ fun isOpen => ?_
    have hlook := (Move.look hc isOpen).moves
    cases isOpen
    case false => exact yields_pure ⟨hlook, .of_closed List.mem_cons_self⟩
    refine (yields_start hc hidle hw).bind fun es r hstart => ?_
    rcases r with report | a
    · have hafter := hq.moves hstart
      have hrests := yields_sendWaiting rest (q := { q with waiting := rest }) rfl hc hidle hafter
      refine hrests.bind_pure fun fs r hrest => ?_
      exact ⟨hlook.trans (hstart.trans hrest.1), hrest.2.append (_ :: es)⟩
    obtain ⟨hstart, hp⟩ := hstart
    have hafter := hq.moves hstart
    refine (yields_advance (q := { q with waiting := rest }) hc hp (hafter.active a rfl)).bind
      fun fs r hsent => ?_
    obtain ⟨sent, _ | _, q'⟩ := r
    · refine yields_pure ?_
      rw [List.append_nil]
      exact ⟨hlook.trans (hstart.trans hsent.1), (hsent.2.2 rfl).after _⟩
    · obtain rfl := hsent.2.1 rfl
      have hidle' := hafter.moves hsent.1
      refine (yields_sendWaiting rest (q := { q with waiting := rest, active := none }) rfl hc rfl
        hidle').bind_pure fun gs r hrest => ?_
      exact ⟨hlook.trans (hstart.trans (hsent.1.trans hrest.1)),
        (hrest.2.append fs).append (_ :: es)⟩

/-- **Pumping is moving**, whatever the channel answers, and goes on until the queue rests. -/
theorem yields_pump_rests {q : TransferQueue} (hq : q.Settled) :
    Yields (ω := ω) q.pump fun es r => Moves q es r.1 r.2 ∧ r.2.RestsAfter es := by
  rw [pump]
  split
  · rename_i hc
    exact yields_pure ⟨.refl q, fun hsome => absurd hc hsome⟩
  · rename_i c hc hidle
    exact yields_sendWaiting q.waiting rfl hc hidle hq
  rename_i c a hc ha
  refine yields_ask_bind _ fun isOpen => ?_
  have hlook := (Move.look hc isOpen).moves
  cases isOpen
  case false => exact yields_pure ⟨hlook, .of_closed List.mem_cons_self⟩
  cases hp : a.paused
  case true => exact yields_pure ⟨hlook, (Rests.of_paused ha hp).after _⟩
  have hsame : { q with active := some a } = q := by rw [← ha]
  refine (yields_advance hc hp (hq.active a ha)).bind fun es r hsent => ?_
  rw [hsame] at hsent
  obtain ⟨sent, _ | _, q'⟩ := r
  · refine yields_pure ?_
    rw [List.append_nil]
    exact ⟨hlook.trans hsent.1, (hsent.2.2 rfl).after _⟩
  · obtain rfl := hsent.2.1 rfl
    refine (yields_sendWaiting q.waiting (q := { q with active := none }) rfl hc rfl
      (hq.moves hsent.1)).bind_pure fun fs r hrest => ?_
    exact ⟨hlook.trans (hsent.1.trans hrest.1), hrest.2.append (_ :: es)⟩

/-- What pumping does, apart from where it stops. -/
theorem yields_pump {q : TransferQueue} (hq : q.Settled) :
    Yields (ω := ω) q.pump fun es r => Moves q es r.1 r.2 :=
  (yields_pump_rests hq).mono fun _ _ h => h.1

end

end TransferQueue

end CameraViewer.Transfer
