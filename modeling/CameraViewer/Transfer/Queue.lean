import CameraViewer.World.Basic

/-!
# Transfer/Queue — files waiting for the channel

Files are sent one after the other over the channel that is attached. A file that waits survives the
loss of a channel; only the one being sent is given up. `pump` sends as much as the watermarks
allow: it stops where the channel holds as many bytes as the high mark of the job, and
`onBufferedAmountLow` goes on once the channel has drained to the low mark.
-/

namespace CameraViewer.Transfer

open Peer World

/-! ## Jobs and their queue -/

/-- The job being sent. -/
structure ActiveTransfer where
  /-- Number of the job. -/
  id : Nat
  /-- The file and how much of it was handed out. -/
  job : TransferJob
  /-- When it pauses and goes on. -/
  watermarks : Watermarks
  /-- It waits for the channel to drain. -/
  paused : Bool := false

/-- The report on the job being sent. -/
def ActiveTransfer.progress (a : ActiveTransfer) (state : TransferState) : TransferProgress :=
  a.job.progress a.id state

/-- Files on their way. -/
structure TransferQueue where
  /-- Bounds of this side. -/
  limits : TransferLimits
  /-- The channel to send on. -/
  channel : Option ChannelHandle := none
  /-- The greatest message both sides take. -/
  maxMessage : Nat
  /-- Jobs that wait, the oldest first. -/
  waiting : List (Nat × TransferJob) := []
  /-- The job being sent. -/
  active : Option ActiveTransfer := none
  /-- Number of the next job. -/
  nextId : Nat := 1

/-! ## Sending one job -/

/-- How sending a job ended for now. -/
inductive SendEnd
  /-- All of it was handed to the channel. -/
  | done
  /-- The channel is full. -/
  | full
  /-- It failed. -/
  | failed (cause : TransferError)
deriving DecidableEq, Repr

section
variable {ω : Type} [World ω]

/-- Sends chunks until the job is complete, the channel is full, or a chunk fails. The cursor moves
before the chunk is sent. -/
def sendUntilFull (channel : ChannelHandle) (high : Nat) (job : TransferJob) :
    StateM ω (SendEnd × TransferJob) :=
  if job.isComplete then pure (.done, job)
  else do
    if !(← isOpen channel) then return (.failed .channelClosed, job)
    if high ≤ (← bufferedAmount channel) then return (.full, job)
    match _hnext : job.nextChunk? with
    | none => return (.done, job)
    | some (chunk, next) =>
      match ← sendBytes channel chunk with
      | .error e => return (.failed e, next)
      | .ok () =>
        note (.bytes .chunkSent chunk.size)
        sendUntilFull channel high next
termination_by job.total - job.queued
decreasing_by
  have ht := TransferJob.total_of_nextChunk? _hnext
  have hq := TransferJob.queued_lt_of_nextChunk? _hnext
  omega

/-- Tells the receiver about a job and prepares the channel for it. -/
def announce (channel : ChannelHandle) (lowMark : Nat) (job : TransferJob) :
    StateM ω (Except TransferError Unit) := do
  setLowMark channel lowMark
  sendText channel job.announcement.text

end

namespace TransferQueue

variable {ω : Type} [World ω]

/-- A queue without jobs. -/
def new (limits : TransferLimits) : TransferQueue := { limits, maxMessage := limits.localMax }

/-- There is a channel to send on. -/
def hasChannel (q : TransferQueue) : Bool := q.channel.isSome

/-- Size of the chunks of the next job. -/
def chunkSize (q : TransferQueue) : Nat := chunkSizeFor q.maxMessage q.limits.chunkCap

/-- The report on the job being sent. -/
def activeProgress (q : TransferQueue) : Option TransferProgress :=
  q.active.map fun a => a.progress (if a.paused then .paused else .sending)

/-- The watermarks of a job that starts now. -/
def watermarksFor (q : TransferQueue) (job : TransferJob) : Watermarks :=
  .forJob q.chunkSize job.total q.limits.maxBuffered

/-! ## Pumping -/

/-- Starts a job: fixes its chunk size and announces it. -/
def start (channel : ChannelHandle) (id : Nat) (job : TransferJob) (q : TransferQueue) :
    StateM ω (Except TransferProgress ActiveTransfer) := do
  match job.start q.chunkSize q.maxMessage with
  | .error e => return .error (job.progress id (.failed e.message))
  | .ok started =>
    match ← announce channel (q.watermarksFor job).low started with
    | .error e => return .error (started.progress id (.failed e.message))
    | .ok () => return .ok ⟨id, started, q.watermarksFor job, false⟩

/-- Sends the active job as far as possible. The reports come with whether the queue may go on with
the next job. -/
def advance (channel : ChannelHandle) (a : ActiveTransfer) (q : TransferQueue) :
    StateM ω (List TransferProgress × Bool × TransferQueue) := do
  match ← sendUntilFull channel a.watermarks.high a.job with
  | (.done, job) =>
    return ([ActiveTransfer.progress { a with job } .completed], true, { q with active := none })
  | (.full, job) =>
    let a := { a with job, paused := true }
    return ([a.progress .paused], false, { q with active := some a })
  | (.failed e, job) =>
    return ([ActiveTransfer.progress { a with job } (.failed e.message)], true,
      { q with active := none })

/-- Starts and sends the waiting jobs one after the other, while the channel is open and no job
pauses. -/
def sendWaiting (channel : ChannelHandle) :
    List (Nat × TransferJob) → TransferQueue → StateM ω (List TransferProgress × TransferQueue)
  | [], q => do
    let _ ← isOpen channel
    return ([], q)
  | (id, job) :: rest, q => do
    if !(← isOpen channel) then return ([], q)
    let q := { q with waiting := rest }
    match ← q.start channel id job with
    | .error report =>
      let (reports, q) ← sendWaiting channel rest q
      return (report :: reports, q)
    | .ok a =>
      match ← q.advance channel a with
      | (sent, true, q) =>
        let (reports, q) ← sendWaiting channel rest q
        return (a.progress .sending :: (sent ++ reports), q)
      | (sent, false, q) => return (a.progress .sending :: sent, q)

/-- Sends as much as the watermarks allow: first the rest of the active job, then those that wait.
-/
def pump (q : TransferQueue) : StateM ω (List TransferProgress × TransferQueue) := do
  match q.channel, q.active with
  | none, _ => return ([], q)
  | some channel, none => sendWaiting channel q.waiting q
  | some channel, some a =>
    if !(← isOpen channel) then return ([], q)
    if a.paused then return ([], q)
    match ← q.advance channel a with
    | (sent, true, q) =>
      let (reports, q) ← sendWaiting channel q.waiting q
      return (sent ++ reports, q)
    | (sent, false, q) => return (sent, q)

/-! ## Calls -/

/-- Goes over to a channel. -/
def attach (channel : ChannelHandle) (maxMessage : Nat) (q : TransferQueue) :
    StateM ω (List TransferProgress × TransferQueue) :=
  pump { q with channel := some channel, maxMessage }

/-- Puts a job at the end of the queue. -/
def enqueue (job : TransferJob) (q : TransferQueue) :
    StateM ω (List TransferProgress × TransferQueue) := do
  let (reports, next) ← pump
    { q with nextId := q.nextId + 1, waiting := q.waiting ++ [(q.nextId, job)] }
  return (job.progress q.nextId .waiting :: reports, next)

/-- Goes on with a paused job if the channel has drained to its low mark. -/
def onBufferedAmountLow (q : TransferQueue) : StateM ω (List TransferProgress × TransferQueue) := do
  match q.channel, q.active with
  | some channel, some a =>
    if !a.paused then return ([], q)
    if a.watermarks.low < (← bufferedAmount channel) then return ([], q)
    note (.elapsed .transferPaused)
    pump { q with active := some { a with paused := false } }
  | _, _ => return ([], q)

/-- The channel is gone: the job being sent is given up, those that wait go on waiting. -/
def onChannelClosed (q : TransferQueue) : List TransferProgress × TransferQueue :=
  ((q.active.map fun a => a.progress (.failed TransferError.channelClosed.message)).toList,
    { q with channel := none, active := none })

end TransferQueue

end CameraViewer.Transfer
