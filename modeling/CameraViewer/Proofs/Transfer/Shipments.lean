import CameraViewer.Proofs.Transfer.Runs
import CameraViewer.Rehearsal.Channel

/-!
# Proofs/Transfer/Shipments — the account of a queue

Every job that left the waiting list is a `Shipment`: it went to one channel, in chunks of one
size, and met one `Fate`. Its fate says which frames the channel took for it (`Shipment.frames`)
and what was reported of it (`Shipment.states`). `Trail.ledger` keeps the account of a queue: the
shipments are the first jobs it was given, in order, and what its channels took is what they say,
one after the other.
-/

namespace CameraViewer.Transfer

open Peer World Rehearsal

/-! ## Frames and reports -/

/-- The frame a channel took. -/
def frame? : Entry → Option (ChannelHandle × ChannelFrame)
  | .asked (.channel c (.sendText text)) (.ok ()) => some (c, .text text)
  | .asked (.channel c (.sendBytes data)) (.ok ()) => some (c, .binary data)
  | _ => none

/-- The frames taken by any channel, in order. -/
def taken (record : List Entry) : List (ChannelHandle × ChannelFrame) := record.filterMap frame?

/-- The frames taken by one channel, in order. -/
def framesOn (c : ChannelHandle) (record : List Entry) : List ChannelFrame :=
  ((taken record).filter (·.1 = c)).map (·.2)

/-- The states reported of a job, in order. -/
def statesOf (id : ℕ) (reports : List TransferProgress) : List TransferState :=
  (reports.filter (·.id = id)).map (·.state)

@[simp] theorem taken_nil : taken [] = [] := rfl

@[simp] theorem taken_append (es es' : List Entry) : taken (es ++ es') = taken es ++ taken es' :=
  List.filterMap_append

@[simp] theorem statesOf_nil (id : ℕ) : statesOf id [] = [] := rfl

@[simp] theorem statesOf_append (id : ℕ) (rs rs' : List TransferProgress) :
    statesOf id (rs ++ rs') = statesOf id rs ++ statesOf id rs' := by
  simp [statesOf]

theorem statesOf_eq_nil {id : ℕ} {rs : List TransferProgress} (h : ∀ p ∈ rs, p.id ≠ id) :
    statesOf id rs = [] := by
  simpa [statesOf] using h

/-- Where all reports are of one job, all their states are. -/
theorem statesOf_eq_map {id : ℕ} {rs : List TransferProgress} (h : ∀ p ∈ rs, p.id = id) :
    statesOf id rs = rs.map (·.state) := by
  rw [statesOf, List.filter_eq_self.mpr (by simpa using h)]

/-- Reports of one job say nothing of another. -/
theorem statesOf_of_ne {id n : ℕ} {rs : List TransferProgress} (h : ∀ p ∈ rs, p.id = n)
    (hne : id ≠ n) : statesOf id rs = [] :=
  statesOf_eq_nil fun p hp hid => hne (hid.symm.trans (h p hp))

@[simp] theorem taken_asksRoom (c : ChannelHandle) (n : ℕ) :
    taken (TransferQueue.asksRoom c n) = [] := rfl

@[simp] theorem taken_asksSend (c : ChannelHandle) (n : ℕ) (chunk : Bytes) :
    taken (TransferQueue.asksSend c n chunk) = [(c, .binary chunk)] := rfl

@[simp] theorem taken_isOpen (c : ChannelHandle) (b : Bool) :
    taken [.asked (.channel c .isOpen) b] = [] := rfl

@[simp] theorem taken_refused (c : ChannelHandle) (chunk : Bytes) (e : TransferError) :
    taken [.asked (.channel c (.sendBytes chunk)) (.error e)] = [] := rfl

/-! ## Shipments

A job that left the queue becomes a shipment, with the frames its channel took of it and what became
of it. The `Ledger` keeps all shipments in order, and every move revises the latest one or adds
another (`Ledger.move`). -/

/-- The announcement of a job and as many of its chunks. -/
def TransferJob.stream (j : TransferJob) (chunkSize sent : ℕ) : List ChannelFrame :=
  .text j.announcement.text :: ((j.source.windows chunkSize).take sent).map .binary

/-- One more chunk. -/
theorem TransferJob.stream_succ {j : TransferJob} {n k : ℕ} (hk : k < j.source.windowCount n) :
    j.stream n (k + 1) = j.stream n k ++ [.binary (j.source.window n k)] := by
  have hlt : k < (j.source.windows n).length := by rwa [Payload.length_windows]
  rw [stream, List.take_succ_eq_append_getElem hlt, List.map_append, ← List.cons_append]
  simp [stream, Payload.windows]

/-- Fewer chunks are a beginning of more. -/
theorem TransferJob.stream_prefix (j : TransferJob) (n : ℕ) {k l : ℕ} (h : k ≤ l) :
    j.stream n k <+: j.stream n l :=
  List.cons_prefix_cons.mpr ⟨rfl, (List.take_prefix_take_left h).map _⟩

/-- What became of a job that no longer waits. -/
inductive Fate
  /-- It failed before the receiver was told of it. -/
  | unsaid (reason : String)
  /-- It is being sent. -/
  | underway (sent pauses : ℕ)
  /-- All of it was sent. -/
  | whole (pauses : ℕ)
  /-- It failed on the way. -/
  | broken (sent pauses : ℕ) (reason : String)

namespace Fate

/-- What is on its way or broken has not come to its last window. -/
def Fits (windowCount : ℕ) : Fate → Prop
  | .underway sent _ => sent < windowCount
  | .broken sent _ _ => sent < windowCount
  | _ => True

/-- Nothing more becomes of it. -/
def IsOver : Fate → Prop
  | .underway _ _ => False
  | _ => True

/-- The frames that the channel took. -/
def frames (job : TransferJob) (chunkSize : ℕ) : Fate → List ChannelFrame
  | .unsaid _ => []
  | .underway sent _ => job.stream chunkSize sent
  | .whole _ => job.stream chunkSize (job.source.windowCount chunkSize)
  | .broken sent _ _ => job.stream chunkSize sent

/-- What was reported of a job after it waited. -/
def states : Fate → List TransferState
  | .unsaid reason => [.failed reason]
  | .underway _ pauses => .sending :: List.replicate pauses .paused
  | .whole pauses => .sending :: (List.replicate pauses .paused ++ [.completed])
  | .broken _ pauses reason => .sending :: (List.replicate pauses .paused ++ [.failed reason])

end Fate

/-- A job that no longer waits. -/
structure Shipment where
  /-- Number of the job. -/
  id : ℕ
  /-- The channel it went to. -/
  channel : ChannelHandle
  /-- The job as it waited. -/
  job : TransferJob
  /-- Size of its chunks. -/
  chunkSize : ℕ
  /-- What became of it. -/
  fate : Fate

namespace Shipment

/-- The frames its channel took. -/
def frames (s : Shipment) : List ChannelFrame := s.fate.frames s.job s.chunkSize

/-- The chunks it is cut into. -/
def windows (s : Shipment) : List Bytes := s.job.source.windows s.chunkSize

/-- Its frames with their channel. -/
def tagged (s : Shipment) : List (ChannelHandle × ChannelFrame) := s.frames.map (s.channel, ·)

/-- A shipment of a run: its channel was attached, and that fixed the size of its chunks. -/
structure Sound (calls : List TransferQueue.Call) (cap : ℕ) (s : Shipment) : Prop where
  fresh : s.job.Fresh
  attached : ∃ m, .attach s.channel m ∈ calls ∧ s.chunkSize = chunkSizeFor m cap
  fits : s.fate.Fits (s.job.source.windowCount s.chunkSize)

/-- What is shipped is cut into chunks that are not empty. -/
theorem Sound.chunkSize_pos {calls : List TransferQueue.Call} {cap : ℕ} {s : Shipment}
    (h : s.Sound calls cap) : 0 < s.chunkSize := by
  obtain ⟨m, -, hm⟩ := h.attached
  rw [hm]
  exact chunkSizeFor_pos m cap

theorem Sound.mono {calls calls' : List TransferQueue.Call} {cap : ℕ} {s : Shipment}
    (h : s.Sound calls cap) (hsub : calls ⊆ calls') : s.Sound calls' cap :=
  let ⟨m, hm, hsize⟩ := h.attached
  ⟨h.fresh, ⟨m, hsub hm, hsize⟩, h.fits⟩

/-- A shipment is that of the active job: so many of its windows were taken, and so often it
paused. -/
structure Carried (s : Shipment) (q : TransferQueue) (a : ActiveTransfer) (sent pauses : ℕ) :
    Prop where
  fate_eq : s.fate = .underway sent pauses
  id_eq : s.id = a.id
  channel_eq : q.channel = some s.channel
  job_eq : a.job = s.job.cut s.chunkSize sent
  fits : sent < s.job.source.windowCount s.chunkSize
  chunkSize_pos : 0 < s.chunkSize

/-- The next window of the job that is being sent. -/
theorem Carried.next {s : Shipment} {q : TransferQueue} {a : ActiveTransfer} {sent pauses : ℕ}
    (hs : s.Carried q a sent pauses) {chunk : Bytes} {next : TransferJob}
    (hnext : a.job.nextChunk? = some (chunk, next)) :
    chunk = s.job.source.window s.chunkSize sent
      ∧ if next.isComplete then s.job.source.windowCount s.chunkSize = sent + 1
        else next = s.job.cut s.chunkSize (sent + 1)
          ∧ sent + 1 < s.job.source.windowCount s.chunkSize :=
  TransferJob.eq_window_of_nextChunk? hs.chunkSize_pos hs.fits hs.job_eq hnext

end Shipment

namespace TransferQueue

/-- The jobs a queue was given. -/
def accepted (calls : List Call) : List TransferJob :=
  calls.filterMap fun
    | .enqueue job => some job
    | _ => none

@[simp] theorem accepted_append (cs cs' : List Call) :
    accepted (cs ++ cs') = accepted cs ++ accepted cs' :=
  List.filterMap_append

/-- Jobs with their numbers, which count from one. -/
def numbered (jobs : List TransferJob) : List (ℕ × TransferJob) := (jobs.zipIdx 1).map Prod.swap

/-- A job that is given gets the next number. -/
theorem numbered_concat (jobs : List TransferJob) (job : TransferJob) :
    numbered (jobs ++ [job]) = numbered jobs ++ [(jobs.length + 1, job)] := by
  simp [numbered, List.zipIdx_append, Nat.add_comm]

theorem map_fst_numbered (jobs : List TransferJob) :
    (numbered jobs).map Prod.fst = List.range' 1 jobs.length := by
  rw [numbered, List.map_map, ← List.zipIdx_map_snd]
  rfl

/-- The active job is the latest shipment, and all others are over. -/
def Carries (q : TransferQueue) (shipments : List Shipment) : Prop :=
  match q.active with
  | none => ∀ s ∈ shipments, s.fate.IsOver
  | some a => ∃ earlier s sent pauses, shipments = earlier ++ [s] ∧ (∀ s ∈ earlier, s.fate.IsOver)
      ∧ s.fate = .underway sent pauses ∧ s.id = a.id ∧ q.channel = some s.channel
      ∧ a.job = s.job.cut s.chunkSize sent

/-- The account of a queue. -/
structure Ledger (limits : TransferLimits) (h : History) (shipments : List Shipment) : Prop where
  limits_eq : h.queue.limits = limits
  nextId_eq : h.queue.nextId = (accepted h.calls).length + 1
  /-- First come the shipments, then the jobs that wait. -/
  order : shipments.map (fun s => (s.id, s.job)) ++ h.queue.waiting = numbered (accepted h.calls)
  attached : ∀ c ∈ h.queue.channel, .attach c h.queue.maxMessage ∈ h.calls
  sound : ∀ s ∈ shipments, s.Sound h.calls limits.chunkCap
  taken_eq : taken h.record = shipments.flatMap Shipment.tagged
  shipped : ∀ s ∈ shipments, statesOf s.id h.reports = .waiting :: s.fate.states
  waiting : ∀ w ∈ h.queue.waiting, statesOf w.1 h.reports = [.waiting]
  known : ∀ p ∈ h.reports, p.id < h.queue.nextId
  carries : h.queue.Carries shipments

section
variable {limits : TransferLimits} {h : History} {L : List Shipment}

theorem ledger_start (limits : TransferLimits) : Ledger limits ⟨new limits, [], [], []⟩ [] where
  limits_eq := rfl
  nextId_eq := rfl
  order := rfl
  attached := by simp [new]
  sound := by simp
  taken_eq := rfl
  shipped := by simp
  waiting := by simp [new]
  known := by simp
  carries := by simp [Carries, new]

/-- All numbers differ. -/
theorem Ledger.nodup (hL : Ledger limits h L) :
    (L.map Shipment.id ++ h.queue.waiting.map Prod.fst).Nodup := by
  have hids : L.map Shipment.id ++ h.queue.waiting.map Prod.fst
      = (numbered (accepted h.calls)).map Prod.fst := by
    rw [← hL.order, List.map_append, List.map_map]
    rfl
  rw [hids, map_fst_numbered]
  exact List.nodup_range'

/-- All numbers that were given are below the next one. -/
theorem Ledger.id_lt (hL : Ledger limits h L) {n : ℕ} {job : TransferJob}
    (hmem : (n, job) ∈ L.map (fun s => (s.id, s.job)) ++ h.queue.waiting) : n < h.queue.nextId := by
  rw [hL.order] at hmem
  have hid := List.mem_map_of_mem (f := Prod.fst) hmem
  rw [map_fst_numbered, List.mem_range'_1] at hid
  have := hL.nextId_eq
  omega

/-- Nothing is taken and nothing reported. -/
theorem Ledger.quiet (hL : Ledger limits h L) {calls : List Call} {es : List Entry}
    {q : TransferQueue} (hcalls : accepted calls = []) (hes : taken es = [])
    (hlimits : q.limits = h.queue.limits) (hid : q.nextId = h.queue.nextId)
    (hw : q.waiting = h.queue.waiting)
    (hatt : ∀ c ∈ q.channel, .attach c q.maxMessage ∈ h.calls ++ calls) (hcar : q.Carries L) :
    Ledger limits (h.extend calls es [] q) L where
  limits_eq := hlimits.trans hL.limits_eq
  nextId_eq := by simpa [History.extend, hcalls] using hid.trans hL.nextId_eq
  order := by simpa [History.extend, hcalls, hw] using hL.order
  attached := hatt
  sound s hs := (hL.sound s hs).mono (List.subset_append_left _ _)
  taken_eq := by simpa [History.extend, hes] using hL.taken_eq
  shipped := by simpa [History.extend] using hL.shipped
  waiting := by simpa [History.extend, hw] using hL.waiting
  known := by simpa [History.extend, hid] using hL.known
  carries := hcar

/-- A job comes to the end of the queue. -/
theorem Ledger.enqueue (hL : Ledger limits h L) (job : TransferJob) :
    Ledger limits (h.extend [.enqueue job] [] [job.progress h.queue.nextId .waiting]
      { h.queue with
        nextId := h.queue.nextId + 1
        waiting := h.queue.waiting ++ [(h.queue.nextId, job)] }) L := by
  have hnew : statesOf h.queue.nextId h.reports = [] :=
    statesOf_eq_nil fun p hp => (hL.known p hp).ne
  have hids : ∀ p ∈ [job.progress h.queue.nextId .waiting], p.id = h.queue.nextId :=
    List.forall_mem_singleton.mpr rfl
  refine
    { limits_eq := hL.limits_eq
      nextId_eq := ?_
      order := ?_
      attached := fun c hc => List.mem_append_left _ (hL.attached c hc)
      sound := fun s hs => (hL.sound s hs).mono (List.subset_append_left _ _)
      taken_eq := ?_
      shipped := fun s hs => ?_
      waiting := fun w hw => ?_
      known := fun p hp => ?_
      carries := hL.carries }
  · simpa [History.extend, accepted] using hL.nextId_eq
  · have horder := hL.order
    simp only [History.extend, accepted_append]
    rw [← List.append_assoc, horder, hL.nextId_eq]
    exact (numbered_concat _ job).symm
  · simpa [History.extend] using hL.taken_eq
  · have hlt : s.id < h.queue.nextId :=
      hL.id_lt (List.mem_append_left _ (List.mem_map_of_mem hs))
    simp only [History.extend, statesOf_append]
    rw [statesOf_of_ne hids hlt.ne, List.append_nil, hL.shipped s hs]
  · simp only [History.extend, statesOf_append]
    rcases List.mem_append.mp hw with hw | hw
    · have hlt : w.1 < h.queue.nextId := hL.id_lt (List.mem_append_right _ hw)
      rw [statesOf_of_ne hids hlt.ne, List.append_nil, hL.waiting w hw]
    · obtain rfl := List.mem_singleton.mp hw
      rw [hnew, statesOf_eq_map hids]
      rfl
  · rcases List.mem_append.mp hp with hp | hp
    · exact Nat.lt_succ_of_lt (hL.known p hp)
    · obtain rfl := List.mem_singleton.mp hp
      exact Nat.lt_succ_self _

/-- The oldest job that waits becomes a shipment. -/
theorem Ledger.ship (hL : Ledger limits h L) {s : Shipment} {rest : List (ℕ × TransferJob)}
    (hw : h.queue.waiting = (s.id, s.job) :: rest) {es : List Entry} {rs : List TransferProgress}
    {active : Option ActiveTransfer} (hsound : s.Sound h.calls limits.chunkCap)
    (hes : taken es = s.tagged) (hid : ∀ p ∈ rs, p.id = s.id)
    (hst : rs.map (·.state) = s.fate.states)
    (hcar : Carries { h.queue with waiting := rest, active } (L ++ [s])) :
    Ledger limits (h.extend [] es rs { h.queue with waiting := rest, active }) (L ++ [s]) := by
  have hnodup := hL.nodup
  rw [hw, List.map_cons, List.nodup_append, List.nodup_cons] at hnodup
  obtain ⟨-, ⟨hrest, -⟩, hdisjoint⟩ := hnodup
  refine
    { limits_eq := hL.limits_eq
      nextId_eq := by simpa [History.extend] using hL.nextId_eq
      order := ?_
      attached := by simpa [History.extend] using hL.attached
      sound := fun t ht => ?_
      taken_eq := ?_
      shipped := fun t ht => ?_
      waiting := fun w hmem => ?_
      known := fun p hp => ?_
      carries := hcar }
  · have horder := hL.order
    rw [hw] at horder
    simpa [History.extend] using horder
  · refine Shipment.Sound.mono ?_ (List.subset_append_left _ _)
    rcases List.mem_append.mp ht with ht | ht
    · exact hL.sound t ht
    · rwa [List.mem_singleton.mp ht]
  · simp [History.extend, hL.taken_eq, hes]
  · simp only [History.extend, statesOf_append]
    rcases List.mem_append.mp ht with ht | ht
    · have hne := hdisjoint t.id (List.mem_map_of_mem ht) s.id List.mem_cons_self
      rw [statesOf_of_ne hid hne, List.append_nil, hL.shipped t ht]
    · obtain rfl := List.mem_singleton.mp ht
      rw [hL.waiting (t.id, t.job) (hw ▸ List.mem_cons_self), statesOf_eq_map hid, hst,
        List.singleton_append]
  · have hmem' : w.1 ∈ rest.map Prod.fst := List.mem_map_of_mem hmem
    have hne : w.1 ≠ s.id := fun he => hrest (he ▸ hmem')
    simp only [History.extend, statesOf_append]
    rw [statesOf_of_ne hid hne, List.append_nil, hL.waiting w (hw ▸ List.mem_cons_of_mem _ hmem)]
  · rcases List.mem_append.mp hp with hp | hp
    · exact hL.known p hp
    · rw [hid p hp]
      exact hL.id_lt (List.mem_append_right _ (hw ▸ List.mem_cons_self : (s.id, s.job) ∈ _))

/-- Something becomes of the latest shipment. -/
theorem Ledger.revise {s : Shipment} (hL : Ledger limits h (L ++ [s])) (fate : Fate)
    {calls : List Call} {es : List Entry} {rs : List TransferProgress} {q : TransferQueue}
    (hcalls : accepted calls = []) (hfits : fate.Fits (s.job.source.windowCount s.chunkSize))
    (hes : (fate.frames s.job s.chunkSize).map (s.channel, ·)
      = (s.fate.frames s.job s.chunkSize).map (s.channel, ·) ++ taken es)
    (hrs : ∀ p ∈ rs, p.id = s.id) (hst : fate.states = s.fate.states ++ rs.map (·.state))
    (hlimits : q.limits = h.queue.limits) (hnext : q.nextId = h.queue.nextId)
    (hw : q.waiting = h.queue.waiting) (hatt : ∀ c ∈ q.channel, .attach c q.maxMessage ∈ h.calls)
    (hcar : q.Carries (L ++ [{ s with fate }])) :
    Ledger limits (h.extend calls es rs q) (L ++ [{ s with fate }]) := by
  have hnodup := hL.nodup
  rw [List.map_append, List.nodup_append, List.nodup_append] at hnodup
  obtain ⟨⟨-, -, hearlier⟩, -, hlater⟩ := hnodup
  have hmem : s ∈ L ++ [s] := by simp
  refine
    { limits_eq := hlimits.trans hL.limits_eq
      nextId_eq := by simpa [History.extend, hcalls] using hnext.trans hL.nextId_eq
      order := ?_
      attached := fun c hc => List.mem_append_left _ (hatt c hc)
      sound := fun t ht => ?_
      taken_eq := ?_
      shipped := fun t ht => ?_
      waiting := fun w hmem => ?_
      known := fun p hp => ?_
      carries := hcar }
  · simpa [History.extend, hcalls, hw] using hL.order
  · refine Shipment.Sound.mono ?_ (List.subset_append_left _ _)
    rcases List.mem_append.mp ht with ht | ht
    · exact hL.sound t (List.mem_append_left _ ht)
    · rw [List.mem_singleton.mp ht]
      exact ⟨(hL.sound s hmem).fresh, (hL.sound s hmem).attached, hfits⟩
  · simp [History.extend, hL.taken_eq, Shipment.tagged, Shipment.frames, hes]
  · simp only [History.extend, statesOf_append]
    rcases List.mem_append.mp ht with ht | ht
    · have hne := hearlier t.id (List.mem_map_of_mem ht) s.id (by simp)
      rw [statesOf_of_ne hrs hne, List.append_nil, hL.shipped t (List.mem_append_left _ ht)]
    · obtain rfl := List.mem_singleton.mp ht
      rw [hL.shipped s hmem, statesOf_eq_map hrs, hst, List.cons_append]
  · have hwaits : w ∈ h.queue.waiting := hw ▸ hmem
    have hne : s.id ≠ w.1 :=
      hlater s.id (by simp) w.1 (List.mem_map_of_mem hwaits)
    simp only [History.extend, statesOf_append]
    rw [statesOf_of_ne hrs hne.symm, List.append_nil, hL.waiting w hwaits]
  · show p.id < q.nextId
    rw [hnext]
    rcases List.mem_append.mp hp with hp | hp
    · exact hL.known p hp
    · rw [hrs p hp]
      exact hL.id_lt (List.mem_append_left _ (List.mem_map_of_mem hmem))

/-- The shipment behind the active job. -/
theorem Ledger.exists_last (hL : Ledger limits h L) {a : ActiveTransfer}
    (ha : h.queue.active = some a) :
    ∃ earlier s sent pauses, L = earlier ++ [s] ∧ (∀ s ∈ earlier, s.fate.IsOver)
      ∧ s.Carried h.queue a sent pauses := by
  have hcar := hL.carries
  rw [Carries, ha] at hcar
  obtain ⟨earlier, s, sent, pauses, rfl, hover, hfate, hid, hchannel, hjob⟩ := hcar
  have hsound := hL.sound s (by simp)
  have hfits := hsound.fits
  rw [hfate] at hfits
  exact ⟨earlier, s, sent, pauses, rfl, hover, hfate, hid, hchannel, hjob, hfits,
    hsound.chunkSize_pos⟩

/-- Without an active job every shipment is over. -/
theorem Ledger.over (hL : Ledger limits h L) (ha : h.queue.active = none) :
    ∀ s ∈ L, s.fate.IsOver := by
  have hcar := hL.carries
  rwa [Carries, ha] at hcar

/-- Where all shipments are over, one more that is over leaves the queue without an active job. -/
theorem carries_concat {q : TransferQueue} (ha : q.active = none) {s : Shipment}
    (hL : ∀ s ∈ L, s.fate.IsOver) (hs : s.fate.IsOver) : q.Carries (L ++ [s]) := by
  rw [Carries, ha]
  intro t ht
  rcases List.mem_append.mp ht with ht | ht
  · exact hL t ht
  · rwa [List.mem_singleton.mp ht]

/-- A job that starts now is shipped over the channel that is attached. -/
theorem Ledger.sound_head (hL : Ledger limits h L) {c : ChannelHandle}
    (hc : h.queue.channel = some c) {job : TransferJob} (hjob : job.Fresh) (id : ℕ) (fate : Fate)
    (hfits : fate.Fits (job.source.windowCount h.queue.chunkSize)) :
    Shipment.Sound h.calls limits.chunkCap ⟨id, c, job, h.queue.chunkSize, fate⟩ where
  fresh := hjob
  attached := ⟨h.queue.maxMessage, hL.attached c hc, by rw [chunkSize, hL.limits_eq]⟩
  fits := hfits

/-- The oldest job that waits fails before anything is taken of it. -/
theorem Ledger.refuse (hL : Ledger limits h L) {c : ChannelHandle} {id : ℕ} {job : TransferJob}
    {rest : List (ℕ × TransferJob)} (hc : h.queue.channel = some c) (hidle : h.queue.active = none)
    (hw : h.queue.waiting = (id, job) :: rest) (hjob : job.Fresh) {es : List Entry}
    (hes : taken es = []) {p : TransferProgress} {reason : String} (hid : p.id = id)
    (hp : p.state = .failed reason) :
    ∃ L', Ledger limits (h.extend [] es [p] { h.queue with waiting := rest }) L' := by
  have hsound := hL.sound_head hc hjob id (.unsaid reason) trivial
  have hids : ∀ x ∈ [p], x.id = id := List.forall_mem_singleton.mpr hid
  have hstates : [p].map (·.state) = [.failed reason] := by rw [List.map_singleton, hp]
  exact ⟨_, hL.ship hw hsound hes hids hstates (carries_concat hidle (hL.over hidle) trivial)⟩

/-- The job that is being sent fails. -/
theorem Ledger.breaks {s : Shipment} (hL : Ledger limits h (L ++ [s]))
    (hover : ∀ s ∈ L, s.fate.IsOver) {a : ActiveTransfer} {sent pauses : ℕ}
    (hs : s.Carried h.queue a sent pauses) {calls : List Call} {es : List Entry}
    {p : TransferProgress} {reason : String} {q : TransferQueue} (hcalls : accepted calls = [])
    (hes : taken es = []) (hid : p.id = a.id) (hp : p.state = .failed reason)
    (hlimits : q.limits = h.queue.limits) (hnext : q.nextId = h.queue.nextId)
    (hw : q.waiting = h.queue.waiting) (hatt : ∀ c ∈ q.channel, .attach c q.maxMessage ∈ h.calls)
    (hidle : q.active = none) :
    ∃ L', Ledger limits (h.extend calls es [p] q) L' := by
  have hids : ∀ x ∈ [p], x.id = s.id := List.forall_mem_singleton.mpr (hid.trans hs.id_eq.symm)
  refine ⟨_, hL.revise (.broken sent pauses reason) hcalls hs.fits ?_ hids ?_ hlimits hnext hw hatt
    (carries_concat hidle hover trivial)⟩
  · rw [hes, List.append_nil, hs.fate_eq]
    rfl
  · rw [hs.fate_eq, List.map_singleton, hp]
    rfl

/-- **A move keeps the account.** -/
theorem Ledger.move (hL : Ledger limits h L) (hq : h.queue.Settled) {es : List Entry}
    {rs : List TransferProgress} {q : TransferQueue} (hm : Move h.queue es rs q) :
    ∃ L', Ledger limits (h.extend [] es rs q) L' := by
  cases hm with
  | look => exact ⟨L, hL.quiet rfl rfl rfl rfl rfl (by simpa using hL.attached) hL.carries⟩
  | refuse hc hidle hw | silence hc hidle hw =>
    exact hL.refuse hc hidle hw (hq.waiting _ (hw ▸ List.mem_cons_self)) rfl rfl rfl
  | @begin c id job started rest hc hidle hw hs =>
    have hfresh : job.Fresh := hq.waiting (id, job) (hw ▸ List.mem_cons_self)
    have hcount := Payload.windowCount_pos (n := h.queue.chunkSize) (chunkSizeFor_pos _ _)
      hfresh.total_pos
    have hsound := hL.sound_head hc hfresh id (.underway 0 0) hcount
    obtain rfl := TransferJob.eq_of_start hs
    refine ⟨_, hL.ship hw hsound ?_ (by simp [TransferJob.progress]) rfl
      ⟨L, _, 0, 0, rfl, hL.over hidle, rfl, rfl, hc, ?_⟩⟩
    · rfl
    · simp [TransferJob.cut, hfresh.queued]
  | @chunk c a n chunk next hc ha hp hn hnext hopen =>
    obtain ⟨earlier, s, sent, pauses, rfl, hover, hs⟩ := hL.exists_last ha
    obtain rfl := Option.some.inj (hc.symm.trans hs.channel_eq)
    obtain ⟨rfl, hafter⟩ := hs.next hnext
    rw [hopen, if_neg Bool.false_ne_true] at hafter
    refine ⟨_, hL.revise (.underway (sent + 1) pauses) rfl hafter.2 ?_ (by simp) ?_ rfl rfl rfl
      hL.attached ⟨earlier, _, sent + 1, pauses, rfl, hover, rfl, hs.id_eq, hc, hafter.1⟩⟩
    · simp [hs.fate_eq, Fate.frames, TransferJob.stream_succ hs.fits]
    · simp [hs.fate_eq, Fate.states]
  | @last c a n chunk next hc ha hp hn hnext hend =>
    obtain ⟨earlier, s, sent, pauses, rfl, hover, hs⟩ := hL.exists_last ha
    obtain rfl := Option.some.inj (hc.symm.trans hs.channel_eq)
    obtain ⟨rfl, hafter⟩ := hs.next hnext
    rw [hend, if_pos rfl] at hafter
    refine ⟨_, hL.revise (.whole pauses) rfl trivial ?_
      (by simp [TransferJob.progress, hs.id_eq]) ?_
      rfl rfl rfl hL.attached (carries_concat rfl hover trivial)⟩
    · simp [hs.fate_eq, Fate.frames, hafter, TransferJob.stream_succ hs.fits]
    · rw [hs.fate_eq]
      rfl
  | broken _ ha | lost _ ha =>
    obtain ⟨earlier, s, sent, pauses, rfl, hover, hs⟩ := hL.exists_last ha
    exact hL.breaks hover hs rfl rfl rfl rfl rfl rfl rfl hL.attached rfl
  | @full c a n hc ha hp hn =>
    obtain ⟨earlier, s, sent, pauses, rfl, hover, hs⟩ := hL.exists_last ha
    refine ⟨_, hL.revise (.underway sent (pauses + 1)) rfl hs.fits ?_
      (by simp [ActiveTransfer.progress, TransferJob.progress, hs.id_eq]) ?_ rfl rfl rfl hL.attached
      ⟨earlier, _, sent, pauses + 1, rfl, hover, rfl, hs.id_eq, hs.channel_eq, hs.job_eq⟩⟩
    · simp [hs.fate_eq, Fate.frames]
    · rw [hs.fate_eq]
      simp [Fate.states, List.replicate_succ', ActiveTransfer.progress, TransferJob.progress]

/-- **An opening keeps the account.** -/
theorem Ledger.opening (hL : Ledger limits h L) {c : Call} (hc : c.Admissible h.queue)
    {es : List Entry} {rs : List TransferProgress} {q : TransferQueue}
    (ho : Opening h.queue c es rs q) : ∃ L', Ledger limits (h.extend [c] es rs q) L' := by
  cases ho with
  | enqueue job => exact ⟨L, hL.enqueue job⟩
  | attach c maxMessage =>
    have hidle : h.queue.active = none := by
      by_contra hne
      obtain ⟨a, ha⟩ := Option.ne_none_iff_exists'.mp hne
      obtain ⟨_, _, _, _, -, -, hs⟩ := hL.exists_last ha
      exact absurd (hs.channel_eq.symm.trans hc) (by simp)
    refine ⟨L, hL.quiet rfl rfl rfl rfl rfl ?_ ?_⟩
    · rintro _ ⟨⟩
      exact List.mem_append_right _ List.mem_cons_self
    · have hover := hL.over hidle
      rwa [Carries, hidle]
  | @wake c a n hc' ha hp hn =>
    refine ⟨L, hL.quiet rfl rfl rfl rfl rfl (fun c hc => ?_) ?_⟩
    · exact List.mem_append_left _ (hL.attached c hc)
    · obtain ⟨earlier, s, sent, pauses, rfl, hover, hs⟩ := hL.exists_last ha
      exact ⟨earlier, s, sent, pauses, rfl, hover, hs.fate_eq, hs.id_eq, hs.channel_eq, hs.job_eq⟩
  | sleep | idle =>
    exact ⟨L, hL.quiet rfl rfl rfl rfl rfl
      (fun c hc => List.mem_append_left _ (hL.attached c hc)) hL.carries⟩
  | closed =>
    cases ha : h.queue.active with
    | none =>
      have hover := hL.over ha
      have hnothing : (onChannelClosed h.queue).1 = [] := by simp [onChannelClosed, ha]
      rw [hnothing]
      exact ⟨L, hL.quiet rfl rfl rfl rfl rfl (by simp [onChannelClosed]) hover⟩
    | some a =>
      obtain ⟨earlier, s, sent, pauses, rfl, hover, hs⟩ := hL.exists_last ha
      have hreport : (onChannelClosed h.queue).1
          = [a.progress (.failed TransferError.channelClosed.message)] := by
        simp [onChannelClosed, ha]
      rw [hreport]
      exact hL.breaks hover hs rfl rfl rfl rfl rfl rfl rfl (by simp [onChannelClosed]) rfl

/-- **Every trail has its account.** -/
theorem Trail.ledger {h : History} (ht : Trail limits h) : ∃ L, Ledger limits h L := by
  induction ht with
  | start => exact ⟨[], ledger_start limits⟩
  | opening _ hc ho ih =>
    obtain ⟨L, hL⟩ := ih
    exact hL.opening hc ho
  | move before hm ih =>
    obtain ⟨L, hL⟩ := ih
    exact hL.move before.settled hm

end

end TransferQueue

end CameraViewer.Transfer
