import CameraViewer.Channel.Announcement
import CameraViewer.Transfer.Limits

/-!
# Transfer/Job — a file on its way

A job holds the bytes of a file and a cursor. `nextChunk?` hands out the next window of the bytes
and moves the cursor past it.
-/

namespace CameraViewer.Transfer

open Channel

/-! ## Files -/

/-- Bytes as they are sent. -/
abbrev Bytes := Array UInt8

/-- Bytes that fit into memory. -/
structure Payload where
  /-- The bytes. -/
  bytes : Bytes
  /-- Their number is one of 64 bits. -/
  size_lt : bytes.size < UInt64.size

namespace Payload

/-- The bytes, if they fit into memory. -/
def ofBytes? (bytes : Bytes) : Option Payload :=
  if h : bytes.size < UInt64.size then some ⟨bytes, h⟩ else none

/-- The number of bytes. -/
def size (p : Payload) : Nat := p.bytes.size

instance : Inhabited Payload := ⟨⟨#[], by decide⟩⟩

end Payload

/-! ## Errors -/

/-- Why something could not be sent. -/
inductive TransferError
  /-- The channel is closed. -/
  | channelClosed
  /-- A chunk would be greater than a message may be. -/
  | chunkTooLarge (size max : Nat)
  /-- There is nothing to send. -/
  | empty
  /-- The channel failed. -/
  | channel (reason : String)
deriving DecidableEq, Repr

namespace TransferError

/-- The name of a cause. -/
def name : TransferError → String
  | .channelClosed => "ChannelClosed"
  | .chunkTooLarge _ _ => "ChunkTooLarge"
  | .empty => "Empty"
  | .channel _ => "Channel"

/-- What is said about a failure. -/
def message : TransferError → String
  | .channelClosed => "reliable channel closed"
  | .chunkTooLarge size max =>
    "chunk of " ++ toString size ++ " bytes exceeds the negotiated maximum of " ++ toString max
  | .empty => "refusing to send an empty payload"
  | .channel reason => "channel send failed: " ++ reason

end TransferError

/-! ## Jobs -/

/-- A file and how much of it was handed out. -/
structure TransferJob where
  /-- Name of the file. -/
  name : String
  /-- Media type of the file. -/
  mime : String
  /-- The bytes of the file. -/
  source : Payload
  /-- Size of a chunk; zero before the job starts. -/
  chunkSize : Nat
  /-- The number of bytes handed out. -/
  queued : Nat

namespace TransferJob

/-- A job for a file that is not empty. -/
def new (name mime : String) (source : Payload) : Except TransferError TransferJob :=
  if source.size = 0 then .error .empty else .ok ⟨name, mime, source, 0, 0⟩

/-- The size of the file. -/
def total (j : TransferJob) : Nat := j.source.size

/-- All bytes were handed out. -/
def isComplete (j : TransferJob) : Bool := j.total ≤ j.queued

/-- What the receiver is told first. -/
def announcement (j : TransferJob) : ChannelControl :=
  .sendFile ⟨j.mime, UInt64.ofNat j.total, j.name⟩

/-- The greatest chunk a job can count. -/
def chunkSizeMax : Nat := UInt32.size - 1

/-- Sets the size of a chunk, which neither the message size nor the counter may exceed. -/
def start (j : TransferJob) (chunkSize maxMessage : Nat) : Except TransferError TransferJob :=
  if chunkSize > maxMessage then .error (.chunkTooLarge chunkSize maxMessage)
  else if chunkSize > chunkSizeMax then .error (.chunkTooLarge chunkSize chunkSizeMax)
  else .ok { j with chunkSize := chunkSize }

/-- The next window of the file and the job behind it. -/
def nextChunk? (j : TransferJob) : Option (Bytes × TransferJob) :=
  if j.isComplete ∨ j.chunkSize = 0 then none
  else
    let stop := min (j.queued + j.chunkSize) j.total
    some (j.source.bytes.extract j.queued stop, { j with queued := stop })

/-- **A window moves the cursor on.** -/
theorem queued_lt_of_nextChunk? {j j' : TransferJob} {chunk : Bytes}
    (h : j.nextChunk? = some (chunk, j')) : j.total - j'.queued < j.total - j.queued := by
  unfold nextChunk? at h
  split at h
  · cases h
  · rename_i hc
    simp only [Option.some.injEq, Prod.mk.injEq] at h
    obtain ⟨-, rfl⟩ := h
    simp only [isComplete, decide_eq_true_eq, not_or] at hc
    show j.total - min (j.queued + j.chunkSize) j.total < _
    omega

theorem total_of_nextChunk? {j j' : TransferJob} {chunk : Bytes}
    (h : j.nextChunk? = some (chunk, j')) : j'.total = j.total := by
  unfold nextChunk? at h
  split at h
  · cases h
  · simp only [Option.some.injEq, Prod.mk.injEq] at h
    obtain ⟨-, rfl⟩ := h
    rfl

end TransferJob

/-! ## Reports -/

/-- Where a job stands. -/
inductive TransferState
  /-- It waits for a channel. -/
  | waiting
  /-- It is being sent. -/
  | sending
  /-- It waits for the channel to drain. -/
  | paused
  /-- All of it was handed to the channel. -/
  | completed
  /-- It was given up. -/
  | failed (reason : String)
deriving DecidableEq, Repr

/-- A report on a job. -/
structure TransferProgress where
  /-- Number of the job. -/
  id : Nat
  /-- Name of the file. -/
  name : String
  /-- Size of the file. -/
  total : Nat
  /-- The number of bytes handed out. -/
  queued : Nat
  /-- Where the job stands. -/
  state : TransferState
deriving DecidableEq, Repr

/-- The report on a job in a state. -/
def TransferJob.progress (j : TransferJob) (id : Nat) (state : TransferState) : TransferProgress :=
  ⟨id, j.name, j.total, j.queued, state⟩

end CameraViewer.Transfer
