import CameraViewer.Proofs.Transfer.Runs
import CameraViewer.Proofs.World.Loops

/-!
# Proofs/Transfer/Pumping — pumping ends

`pump` is two loops, one inside the other. A turn of the inner one (`sendTurn`) sends a chunk, a
turn of the outer one (`pumpTurn`) sends a job. Nothing in a turn says that there is a last one: a
job without a chunk size would be left as done with bytes unsent, and a turn that changes nothing
would be followed by the same turn again. In the runs of a queue neither happens. Whatever the
channel answers, a turn of the inner loop moves the cursor (`Sent`), a turn of the outer loop takes
a job from the queue (`Pumped`), and both loops are left (`Pumps.terminates`).
-/

namespace CameraViewer.Transfer

open Peer World

/-! ## The loop over chunks

The recursion of the queue is compared with a loop whose number of turns is given beforehand: at
most one for each byte that is left. -/

namespace TransferJob

/-- A job that can be cut into chunks, with the cursor inside the file. -/
structure Divisible (j : TransferJob) : Prop where
  chunkSize_pos : 0 < j.chunkSize
  queued_le : j.queued ≤ j.total

theorem Underway.divisible {j : TransferJob} (h : j.Underway) : j.Divisible :=
  ⟨h.chunkSize_pos, h.queued_lt.le⟩

/-- The number of bytes that were not handed out. -/
def unsent (j : TransferJob) : ℕ := j.total - j.queued

/-- **A window moves the cursor forward, and not past the end.** -/
theorem Divisible.exists_nextChunk? {j : TransferJob} (h : j.Divisible)
    (hopen : j.isComplete = false) : ∃ n, j.queued < n ∧ n ≤ j.total
      ∧ j.nextChunk? = some (j.source.bytes.extract j.queued n, { j with queued := n }) := by
  have hlt : j.queued < j.total := by simpa [isComplete] using hopen
  have hpos := h.chunkSize_pos
  rw [nextChunk?, hopen, if_neg (by simpa using hpos.ne')]
  exact ⟨_, by omega, min_le_right _ _, rfl⟩

/-- At its end the cursor stands at the end of the file. -/
theorem Divisible.queued_eq {j : TransferJob} (h : j.Divisible) (hend : j.isComplete = true) :
    j.queued = j.total :=
  h.queued_le.antisymm (by simpa [isComplete] using hend)

end TransferJob

section
variable {ω : Type} [World ω]

/-- A turn of the loop over chunks. -/
def sendTurn (c : ChannelHandle) (high : ℕ) (job : TransferJob) :
    StateM ω (Turn TransferJob (SendEnd × TransferJob)) :=
  if job.isComplete then pure (.leave (.done, job))
  else do
    if !(← isOpen c) then return .leave (.failed .channelClosed, job)
    if high ≤ (← bufferedAmount c) then return .leave (.full, job)
    match job.nextChunk? with
    | none => return .leave (.done, job)
    | some (chunk, next) =>
      match ← sendBytes c chunk with
      | .error e => return .leave (.failed e, next)
      | .ok () =>
        note (.bytes .chunkSent chunk.size)
        return .again next

/-- Sending chunks is one turn, and then the rest. -/
theorem sendUntilFull_eq (c : ChannelHandle) (high : ℕ) (job : TransferJob) :
    sendUntilFull (ω := ω) c high job
      = sendTurn c high job >>= Turn.rest (sendUntilFull c high) := by
  rw [sendUntilFull, sendTurn]
  split
  · rfl
  rw [bind_assoc]
  congr 1
  funext isOpen
  cases isOpen
  · rfl
  simp only [Bool.not_true, Bool.false_eq_true, if_false, bind_assoc]
  congr 1
  funext n
  split
  · rfl
  split
  · rename_i hnone
    rw [hnone]
    rfl
  rename_i chunk next hnext
  rw [hnext]
  refine Eq.trans ?_ (bind_assoc _ _ _).symm
  congr 1
  funext result
  cases result <;> rfl

end

open TransferQueue in
/-- What a turn of the loop over chunks asks and comes to. -/
inductive Sent (c : ChannelHandle) (high : ℕ) (job : TransferJob) :
    List Entry → Turn TransferJob (SendEnd × TransferJob) → Prop
  /-- The cursor is moved forward past a chunk that is sent, and there is another turn. -/
  | moved {buffered n : ℕ} (hroom : buffered < high) (hlt : job.queued < n) (hle : n ≤ job.total) :
    Sent c high job (asksSend c buffered (job.source.bytes.extract job.queued n))
      (.again { job with queued := n })
  /-- Nothing is left to send. -/
  | done (hend : job.queued = job.total) : Sent c high job [] (.leave (.done, job))
  /-- The channel is closed. -/
  | closed :
    Sent c high job [.asked (.channel c .isOpen) false] (.leave (.failed .channelClosed, job))
  /-- The channel is full. -/
  | full {buffered : ℕ} (hfull : high ≤ buffered) :
    Sent c high job (asksRoom c buffered) (.leave (.full, job))
  /-- The channel refuses the chunk. -/
  | refused {buffered n : ℕ} (hroom : buffered < high) (e : TransferError) :
    Sent c high job (asksRoom c buffered ++
        [.asked (.channel c (.sendBytes (job.source.bytes.extract job.queued n))) (.error e)])
      (.leave (.failed e, { job with queued := n }))

/-- **A turn moves the cursor or is the last**, and it is the last with the job done only if nothing
is left. -/
theorem yields_sendTurn {ω : Type} [World ω] (c : ChannelHandle) (high : ℕ) {job : TransferJob}
    (hj : job.Divisible) : Yields (ω := ω) (sendTurn c high job) (Sent c high job) := by
  rw [sendTurn]
  cases hend : job.isComplete
  case true =>
    rw [if_pos rfl]
    exact yields_pure (.done (hj.queued_eq hend))
  rw [if_neg Bool.false_ne_true]
  refine yields_ask_bind _ fun isOpen => ?_
  cases isOpen
  case false => exact yields_pure .closed
  refine yields_ask_bind _ fun buffered => ?_
  by_cases hfull : high ≤ buffered
  · rw [if_pos hfull]
    exact yields_pure (.full hfull)
  rw [if_neg hfull]
  obtain ⟨n, hlt, hle, hnext⟩ := hj.exists_nextChunk? hend
  rw [hnext]
  refine yields_ask_bind _ fun result => ?_
  obtain e | ⟨⟩ := result
  · exact yields_pure (.refused (not_le.mp hfull) e)
  · exact yields_ask_bind _ fun _ => yields_pure (.moved (not_le.mp hfull) hlt hle)

/-- A turn asks four things at most. -/
theorem measured_sendTurn {ω : Type} [World ω] (c : ChannelHandle) (high : ℕ) :
    Measured (ω := ω) (sendTurn c high) TransferJob.Divisible TransferJob.unsent
      fun job => 4 * job.unsent + 3 := by
  refine fun job hj => (yields_sendTurn c high hj).mono fun es t ht => ?_
  cases ht with
  | @moved _ n _ hlt hle =>
    refine ⟨⟨hj.chunkSize_pos, hle⟩, ?_⟩
    show job.total - n < job.total - job.queued
      ∧ 4 + (4 * (job.total - n) + 3) ≤ 4 * (job.total - job.queued) + 3
    omega
  | done => exact Nat.zero_le _
  | closed | full | refused => exact Nat.le_add_left_of_le (by simp [TransferQueue.asksRoom])

namespace TransferQueue

/-! ## The loop over jobs

A turn of this loop sends one job as far as possible; another turn follows only if that job was
taken from the queue (`yields_pumpTurn`). -/

/-- What was reported, and the queue. -/
abbrev Pumping : Type := List TransferProgress × TransferQueue

section
variable {ω : Type} [World ω]

/-- The active job's part of a turn. -/
def sendActive (c : ChannelHandle) (a : ActiveTransfer) (reports : List TransferProgress)
    (q : TransferQueue) : StateM ω (Turn Pumping Pumping) := do
  if a.paused then return .leave (reports, { q with active := some a })
  match ← q.advance c a with
  | (sent, true, q) => return .again (reports ++ sent, q)
  | (sent, false, q) => return .leave (reports ++ sent, q)

/-- A turn of the loop over jobs: it sends the active job or, if there is none, the oldest that
waits. -/
def pumpTurn : Pumping → StateM ω (Turn Pumping Pumping)
  | (reports, q) => do
    match q.channel with
    | none => return .leave (reports, q)
    | some c =>
      if !(← isOpen c) then return .leave (reports, q)
      match q.active with
      | some a => sendActive c a reports q
      | none =>
        match q.waiting with
        | [] => return .leave (reports, q)
        | (id, job) :: rest =>
          match ← start c id job { q with waiting := rest } with
          | .error report => return .again (reports ++ [report], { q with waiting := rest })
          | .ok a => sendActive c a (reports ++ [a.progress .sending]) { q with waiting := rest }

/-- Pumping, after something was reported. -/
def goOn : Pumping → StateM ω Pumping
  | (reports, q) => (fun r => (reports ++ r.1, r.2)) <$> q.pump

theorem goOn_nil (q : TransferQueue) : goOn (ω := ω) ([], q) = q.pump := by
  rw [goOn]
  exact id_map _

/-- Without an active job pumping begins with those that wait. -/
theorem pump_of_idle {q : TransferQueue} {c : ChannelHandle} (hc : q.channel = some c)
    (hidle : q.active = none) : q.pump (ω := ω) = sendWaiting c q.waiting q := by
  rw [pump, hc, hidle]

/-- The queue goes on with the next job only where the active one is over. -/
theorem returns_advance (c : ChannelHandle) (a : ActiveTransfer) (q : TransferQueue) :
    Returns (q.advance (ω := ω) c a) fun r => r.2.1 = true → r.2.2 = { q with active := none } := by
  rw [advance_eq, map_eq_pure_bind]
  exact returns_bind fun _ => returns_pure conclude_eq

/-- A job that was started does not pause. -/
theorem returns_start (c : ChannelHandle) (id : ℕ) (job : TransferJob) (q : TransferQueue) :
    Returns (q.start (ω := ω) c id job) fun r => ∀ a, r = .ok a → a.paused = false := by
  rw [start]
  split
  · exact returns_pure (by simp)
  refine returns_bind fun result => ?_
  cases result
  · exact returns_pure (by simp)
  · refine returns_pure ?_
    rintro _ ⟨⟩
    rfl

/-- What `pump` does with the active job, after something was reported. -/
theorem sendActive_rest {c : ChannelHandle} {a : ActiveTransfer} {q : TransferQueue}
    (hc : q.channel = some c) (hp : a.paused = false) (reports : List TransferProgress) :
    sendActive (ω := ω) c a reports q >>= Turn.rest goOn
      = q.advance c a >>= fun
        | (sent, true, q') =>
          (fun r => (reports ++ (sent ++ r.1), r.2)) <$> sendWaiting c q'.waiting q'
        | (sent, false, q') => pure (reports ++ sent, q') := by
  rw [sendActive, hp, if_neg Bool.false_ne_true, bind_assoc]
  refine (returns_advance c a q).bind_congr fun ⟨sent, on, q'⟩ hr => ?_
  cases on
  case false => rfl
  have hidle : q' = { q with active := none } := hr rfl
  have hpump : q'.pump (ω := ω) = sendWaiting c q'.waiting q' := by
    rw [hidle]
    exact pump_of_idle hc rfl
  show goOn (reports ++ sent, q') = _
  simp only [goOn, hpump, List.append_assoc]

/-- Pumping with an active job. -/
theorem goOn_of_active {c : ChannelHandle} {a : ActiveTransfer} {q : TransferQueue}
    (hc : q.channel = some c) (ha : q.active = some a) (reports : List TransferProgress) :
    goOn (ω := ω) (reports, q) = pumpTurn (reports, q) >>= Turn.rest goOn := by
  rw [goOn, pumpTurn, pump, hc, ha, map_bind, bind_assoc]
  congr 1
  funext isOpen
  cases isOpen
  · simp [Turn.rest]
  cases hp : a.paused
  case true =>
    obtain ⟨limits, channel, maxMessage, waiting, active, nextId⟩ := q
    obtain rfl : active = some a := ha
    simp [sendActive, hp, Turn.rest]
  refine Eq.trans ?_ (sendActive_rest hc hp reports).symm
  simp only [Bool.not_true, Bool.false_eq_true, if_false, map_bind]
  congr 1
  funext r
  obtain ⟨sent, on, q'⟩ := r
  cases on <;> simp

/-- Pumping without an active job. -/
theorem goOn_of_idle {c : ChannelHandle} {q : TransferQueue} (hc : q.channel = some c)
    (hidle : q.active = none) (reports : List TransferProgress) :
    goOn (ω := ω) (reports, q) = pumpTurn (reports, q) >>= Turn.rest goOn := by
  rw [goOn, pump_of_idle hc hidle, pumpTurn]
  obtain ⟨limits, channel, maxMessage, waiting, active, nextId⟩ := q
  obtain rfl : channel = some c := hc
  obtain rfl : active = none := hidle
  cases waiting with
  | nil =>
    rw [sendWaiting, map_bind, bind_assoc]
    congr 1
    funext isOpen
    cases isOpen <;> simp [Turn.rest]
  | cons w rest =>
    rw [sendWaiting, map_bind, bind_assoc]
    congr 1
    funext isOpen
    cases isOpen
    · simp [Turn.rest]
    simp only [Bool.not_true, Bool.false_eq_true, if_false, map_bind, bind_assoc]
    refine (returns_start c w.1 w.2 _).bind_congr fun result hp => ?_
    cases result with
    | error report => simp [goOn, Turn.rest, pump_of_idle]
    | ok a =>
      refine Eq.trans ?_ (sendActive_rest rfl (hp a rfl) _).symm
      rw [map_bind]
      refine (returns_advance c a _).bind_congr fun r hr => ?_
      obtain ⟨sent, on, q'⟩ := r
      cases on
      · simp
      have hwaiting : q'.waiting = rest := congrArg TransferQueue.waiting (hr rfl)
      simp [hwaiting]

/-- Pumping is one turn, and then the rest. -/
theorem goOn_eq (s : Pumping) : goOn (ω := ω) s = pumpTurn s >>= Turn.rest goOn := by
  obtain ⟨reports, q⟩ := s
  cases hc : q.channel with
  | none => simp [goOn, pumpTurn, pump, hc, Turn.rest]
  | some c =>
    cases ha : q.active with
    | none => exact goOn_of_idle hc ha reports
    | some a => exact goOn_of_active hc ha reports

end

/-- The jobs of a queue. -/
def jobs (q : TransferQueue) : List TransferJob :=
  (q.active.map ActiveTransfer.job).toList ++ q.waiting.map Prod.snd

/-- The most that can be asked while a queue is pumped. -/
def asksLeft (q : TransferQueue) : ℕ := (q.jobs.map fun job => 4 * job.unsent + 6).sum + 1

/-- A job is taken from a queue and not put back: the active one, or else the oldest that waits. -/
inductive Removes (q : TransferQueue) : TransferJob → TransferQueue → Prop
  | active {a : ActiveTransfer} (ha : q.active = some a) : Removes q a.job { q with active := none }
  | waiting {id : ℕ} {job : TransferJob} {rest : List (ℕ × TransferJob)} (hidle : q.active = none)
    (hw : q.waiting = (id, job) :: rest) : Removes q job { q with waiting := rest }

section
variable {q q' : TransferQueue} {job : TransferJob}

theorem Removes.jobs_eq (h : Removes q job q') : q.jobs = job :: q'.jobs := by
  cases h with
  | active ha => simp [jobs, ha]
  | waiting hidle hw => simp [jobs, hidle, hw]

theorem Removes.asksLeft_eq (h : Removes q job q') :
    q.asksLeft = 4 * job.unsent + 6 + q'.asksLeft := by
  rw [asksLeft, asksLeft, h.jobs_eq, List.map_cons, List.sum_cons, Nat.add_assoc]

theorem Removes.settled (h : Removes q job q') (hq : q.Settled) : q'.Settled := by
  cases h with
  | active => exact ⟨hq.waiting, by simp⟩
  | waiting _ hw => exact ⟨fun w hmem => hq.waiting w (hw ▸ .tail _ hmem), hq.active⟩

end

/-- What a turn of the loop over jobs comes to, and how much it asks. -/
inductive Pumped (q : TransferQueue) : List Entry → Turn Pumping Pumping → Prop
  /-- A job is done with, and there is another turn. -/
  | removed {es : List Entry} {job : TransferJob} {reports : List TransferProgress}
    {q' : TransferQueue} (h : Removes q job q') (hes : es.length ≤ 4 * job.unsent + 6) :
    Pumped q es (.again (reports, q'))
  /-- The loop is left. -/
  | returned {es : List Entry} (hes : es.length ≤ q.asksLeft) (result : Pumping) :
    Pumped q es (.leave result)

section
variable {ω : Type} [World ω]

/-- Sending chunks asks four things for a byte at most. -/
theorem yields_sendUntilFull_asks (c : ChannelHandle) (high : ℕ) {job : TransferJob}
    (hj : job.Divisible) :
    Yields (ω := ω) (sendUntilFull c high job) fun es _ => es.length ≤ 4 * job.unsent + 3 :=
  (measured_sendTurn c high).yields_whole (fun _ _ => sendUntilFull_eq c high _) job hj

/-- Sending the active job asks no more than four things for each of its bytes, and takes it from
the queue if a turn follows. -/
theorem yields_sendActive {c : ChannelHandle} {a : ActiveTransfer} (hp : a.paused = false)
    (hj : a.job.Divisible) (reports : List TransferProgress) (q : TransferQueue) :
    Yields (ω := ω) (sendActive c a reports q) fun es t => es.length ≤ 4 * a.job.unsent + 3
      ∧ ∀ next, t = .again next → next.2 = { q with active := none } := by
  have hadvance : Yields (ω := ω) (q.advance c a) fun es r => es.length ≤ 4 * a.job.unsent + 3
      ∧ (r.2.1 = true → r.2.2 = { q with active := none }) := by
    rw [advance_eq, map_eq_pure_bind]
    exact (yields_sendUntilFull_asks c _ hj).bind_pure fun es r hes => ⟨hes, conclude_eq⟩
  rw [sendActive, hp, if_neg Bool.false_ne_true]
  refine hadvance.bind fun es ⟨sent, on, q'⟩ ⟨hes, hq'⟩ => ?_
  cases on
  · exact yields_pure ⟨by rwa [List.append_nil], by simp⟩
  · refine yields_pure ⟨by rwa [List.append_nil], ?_⟩
    rintro _ ⟨⟩
    exact hq' rfl

theorem yields_start_asks (c : ChannelHandle) (id : ℕ) (job : TransferJob) (q : TransferQueue) :
    Yields (ω := ω) (q.start c id job) fun es r => es.length ≤ 2
      ∧ ∀ a, r = .ok a → a.paused = false ∧ a.job = { job with chunkSize := q.chunkSize } := by
  rw [start]
  split
  · exact yields_pure ⟨Nat.zero_le _, by simp⟩
  rename_i started hs
  obtain rfl := TransferJob.eq_of_start hs
  rw [announce, bind_assoc]
  refine yields_ask_bind _ fun _ => yields_ask_bind _ fun result => ?_
  cases result
  · exact yields_pure ⟨le_rfl, by simp⟩
  · refine yields_pure ⟨le_rfl, ?_⟩
    rintro _ ⟨⟩
    exact ⟨rfl, rfl⟩

/-- The loop is left after one look. -/
theorem Pumped.looked {q : TransferQueue} (e : Entry) (result : Pumping) :
    Pumped q [e] (.leave result) :=
  .returned (Nat.le_add_left 1 _) result

/-- A turn that is not the last where a job was sent takes that job from the queue. -/
theorem pumped_of_removes {q q' : TransferQueue} {job : TransferJob} {es : List Entry}
    {t : Turn Pumping Pumping} (h : Removes q job q') (hes : es.length ≤ 4 * job.unsent + 6)
    (ht : ∀ next, t = .again next → next.2 = q') : Pumped q es t := by
  cases t with
  | again next =>
    obtain rfl := ht next rfl
    exact .removed h hes
  | leave result => exact .returned (hes.trans (h.asksLeft_eq ▸ Nat.le_add_right _ _)) result

/-- **A turn takes a job from the queue or is the last.** -/
theorem yields_pumpTurn {q : TransferQueue} (hq : q.Settled) (reports : List TransferProgress) :
    Yields (ω := ω) (pumpTurn (reports, q)) (Pumped q) := by
  obtain ⟨limits, channel, maxMessage, waiting, active, nextId⟩ := q
  rw [pumpTurn]
  obtain _ | c := channel
  · exact yields_pure (.returned (Nat.zero_le _) _)
  refine yields_ask_bind _ fun isOpen => ?_
  cases isOpen
  · exact yields_pure (.looked _ _)
  obtain _ | a := active
  case some =>
    cases hp : a.paused
    · refine (yields_sendActive hp (hq.active a rfl).divisible _ _).mono fun es t ⟨hes, ht⟩ => ?_
      exact pumped_of_removes (.active rfl) (Nat.succ_le_succ (hes.trans (by omega))) ht
    · simp only [Bool.not_true, Bool.false_eq_true, if_false, sendActive, hp, if_true]
      exact yields_pure (.looked _ _)
  obtain _ | ⟨⟨id, job⟩, rest⟩ := waiting
  · exact yields_pure (.looked _ _)
  have hremoves := Removes.waiting
    (q := ⟨limits, some c, maxMessage, (id, job) :: rest, none, nextId⟩) rfl rfl
  refine (yields_start_asks c id job _).bind fun es result ⟨hes, hresult⟩ => ?_
  cases result with
  | error report =>
    refine yields_pure (.removed hremoves ?_)
    simp only [List.append_nil, List.length_cons]
    omega
  | ok a =>
    obtain ⟨hp, hjob⟩ := hresult a rfl
    have hfresh := hq.waiting _ List.mem_cons_self
    have hdivisible : a.job.Divisible := by
      rw [hjob]
      exact ⟨chunkSizeFor_pos _ _, hfresh.queued.trans_le (Nat.zero_le _)⟩
    have hunsent : a.job.unsent = job.unsent := by
      rw [hjob]
      rfl
    refine (yields_sendActive hp hdivisible _ _).mono fun fs t ⟨hfs, ht⟩ => ?_
    refine pumped_of_removes hremoves ?_ ht
    simp only [List.length_cons, List.length_append]
    omega

/-- The turns are measured by the jobs in the queue. -/
theorem measured_pumpTurn : Measured (ω := ω) pumpTurn (fun s => s.2.Settled)
    (fun s => s.2.jobs.length) fun s => s.2.asksLeft := by
  refine fun ⟨reports, q⟩ hq => (yields_pumpTurn hq reports).mono fun es t ht => ?_
  cases ht with
  | removed h hes =>
    refine ⟨h.settled hq, ?_⟩
    show _ < q.jobs.length ∧ _ ≤ q.asksLeft
    rw [h.jobs_eq, h.asksLeft_eq]
    exact ⟨Nat.lt_succ_self _, Nat.add_le_add_right hes _⟩
  | returned hes => exact hes

end

/-! ## Pumping ends -/

/-- A job is sent in the turn of a queue: it is active and does not pause, or it is started. -/
inductive Enters (q : TransferQueue) : ChannelHandle → ActiveTransfer → Prop
  | active {c : ChannelHandle} {a : ActiveTransfer} (hc : q.channel = some c)
    (ha : q.active = some a) (hp : a.paused = false) : Enters q c a
  | started {c : ChannelHandle} {a : ActiveTransfer} {id : ℕ} {job : TransferJob}
    {rest : List (ℕ × TransferJob)} {es : List Entry} (hc : q.channel = some c)
    (hidle : q.active = none) (hw : q.waiting = (id, job) :: rest)
    (hmay : May (fun _ _ => start c id job { q with waiting := rest }) es (.ok a)) : Enters q c a

theorem Enters.divisible {q : TransferQueue} {c : ChannelHandle} {a : ActiveTransfer}
    (h : Enters q c a) (hq : q.Settled) : a.job.Divisible := by
  cases h with
  | active _ ha => exact (hq.active a ha).divisible
  | started _ _ hw hmay =>
    have hjob := ((hmay.spec fun ω _ => yields_start_asks _ _ _ _).2 a rfl).2
    have hfresh := hq.waiting _ (hw ▸ List.mem_cons_self)
    rw [hjob]
    exact ⟨chunkSizeFor_pos _ _, hfresh.queued.trans_le (Nat.zero_le _)⟩

/-- Sending a job in chunks comes to an end. -/
structure SendEnds (c : ChannelHandle) (a : ActiveTransfer) : Prop where
  /-- The loop over chunks is left after at most one turn for each byte that was not handed out, and
  one. -/
  returns : ∀ (ω : Type) [World ω],
    loop (ω := Recorded ω) (sendTurn c a.watermarks.high) (a.job.unsent + 1) a.job
      = some <$> sendUntilFull c a.watermarks.high a.job
  /-- In every turn the job can be cut into chunks, and the turn moves the cursor or is the last. -/
  moves : ∀ job, Heads (fun _ _ => sendTurn c a.watermarks.high) a.job job → 0 < job.chunkSize
    ∧ ∀ es t, May (fun _ _ => sendTurn c a.watermarks.high job) es t →
      Sent c a.watermarks.high job es t

/-- **Sending a job ends** after as many chunks as it has bytes, at most. -/
theorem sendEnds {c : ChannelHandle} {a : ActiveTransfer} (hj : a.job.Divisible) :
    SendEnds c a where
  returns ω _ := (measured_sendTurn c a.watermarks.high).loop_eq
    (fun _ _ => sendUntilFull_eq c a.watermarks.high _) _ a.job hj (Nat.lt_succ_self _)
  moves job h := by
    have hjob := h.sound (fun ω _ => measured_sendTurn c a.watermarks.high) hj
    exact ⟨hjob.chunkSize_pos, fun es t hmay => hmay.spec fun ω _ => yields_sendTurn c _ hjob⟩

/-- Pumping a queue comes to an end. -/
structure PumpEnds (q : TransferQueue) : Prop where
  /-- The active job can be cut into chunks. -/
  cut : ∀ a ∈ q.active, 0 < a.job.chunkSize
  /-- The loop over jobs is left after at most one turn for each job, and one. -/
  returns : ∀ (ω : Type) [World ω],
    loop (ω := Recorded ω) pumpTurn (q.jobs.length + 1) ([], q) = some <$> q.pump
  /-- No more is asked than can be asked for these jobs. -/
  asks : ∀ (ω : Type) [World ω], Yields (ω := ω) q.pump fun es _ => es.length ≤ q.asksLeft
  /-- Every turn takes a job from the queue or is the last. -/
  removes : ∀ s, Heads (fun _ _ => pumpTurn) ([], q) s → ∀ es t,
    May (fun _ _ => pumpTurn s) es t → Pumped s.2 es t
  /-- In every turn, sending a job comes to an end. -/
  sends : ∀ s, Heads (fun _ _ => pumpTurn) ([], q) s → ∀ c a, Enters s.2 c a → SendEnds c a

/-- **Pumping a settled queue ends** after as many jobs as it has. -/
theorem Settled.pumpEnds {q : TransferQueue} (hq : q.Settled) : PumpEnds q where
  cut a ha := (hq.active a ha).chunkSize_pos
  returns ω _ := by
    rw [← goOn_nil]
    exact measured_pumpTurn.loop_eq (fun s _ => goOn_eq s) _ ([], q) hq (Nat.lt_succ_self _)
  asks ω _ := by
    rw [← goOn_nil]
    exact measured_pumpTurn.yields_whole (fun s _ => goOn_eq s) ([], q) hq
  removes s h es t hmay := by
    have hs := h.sound (fun ω _ => measured_pumpTurn) hq
    exact hmay.spec fun ω _ => yields_pumpTurn hs s.1
  sends s h c a henters := by
    have hs := h.sound (fun ω _ => measured_pumpTurn) hq
    exact sendEnds (henters.divisible hs)

/-- The queues that are pumped in the runs of a new queue: between two calls, and within one. -/
inductive Pumps (limits : TransferLimits) : TransferQueue → Prop
  | between {steps : List Step} {q : TransferQueue} (hr : Run limits steps q) : Pumps limits q
  | within {steps : List Step} {q q' : TransferQueue} {call : Call} {es : List Entry}
    {rs : List TransferProgress} (hr : Run limits steps q) (hc : call.Made)
    (ho : Opening q call es rs q') : Pumps limits q'

/-- **Pumping always ends**, whatever the channel answers. -/
theorem Pumps.terminates {limits : TransferLimits} {q : TransferQueue} (h : Pumps limits q) :
    PumpEnds q := by
  refine Settled.pumpEnds ?_
  cases h with
  | between hr => exact hr.settled
  | within hr hc ho => exact hr.settled.opening hc ho

/-- A channel is attached to a queue where a file of three bytes waits. -/
theorem pumpEnds_sampleJob : ∃ q, Pumps {} q ∧ PumpEnds q ∧ q.channel = some sampleChannel
    ∧ q.jobs = [sampleJob] ∧ q.asksLeft = 19 := by
  have hmade : ∀ call ∈ some (Call.enqueue sampleJob), call.Made := by simpa using made_sampleJob
  have hr : Run {} [_] _ :=
    Run.start.turn hmade (may_played _)
  have hattach : (Call.attach sampleChannel 65536).Made := trivial
  have hpumps := Pumps.within hr hattach (.attach ..)
  exact ⟨_, hpumps, hpumps.terminates, rfl, rfl, rfl⟩

end TransferQueue

end CameraViewer.Transfer
