import CameraViewer.Text.Ascii
import CameraViewer.Text.Blank

/-!
# Transfer/Limits — how much may be sent at once

The size of a chunk follows from what both sides can take; the watermarks of a job say when to pause
and when to go on.
-/

namespace CameraViewer.Transfer

/-- Bounds of this side. -/
structure TransferLimits where
  /-- The greatest message this side takes. -/
  localMax : Nat := 65536
  /-- The greatest chunk, whatever both sides could take. -/
  chunkCap : Nat := 16384
  /-- The most bytes that may wait in a channel. -/
  maxBuffered : Nat := 1048576
deriving DecidableEq, Repr, Inhabited

/-- The attribute that announces the greatest message of a side. -/
def maxMessageAttribute : String := "a=max-message-size:"

/-- The size announced in one line of a description. -/
def announcedIn? (line : List Char) : Option Nat :=
  (Text.dropLead? maxMessageAttribute.toList (Text.trim line)).bind fun value =>
    Text.readNumeral? UInt64.size (Text.trim value)

/-- The size announced by the first line of a description that announces one. -/
def announcedMax? (sdp : String) : Option Nat :=
  (Text.splitAtChar '\n' sdp.toList).findSome? announcedIn?

/-- The greatest message both sides take. Without an announcement, or with one of zero, which sets
no bound, it is that of this side. -/
def negotiatedMax (sdp : String) (localMax : Nat) : Nat :=
  match announcedMax? sdp with
  | none => localMax
  | some 0 => localMax
  | some remote => min remote localMax

/-- The size of a chunk: as much as a message and the cap allow, but at least one byte. -/
def chunkSizeFor (maxMessage cap : Nat) : Nat := max (min maxMessage cap) 1

/-- When a job pauses and when it goes on. -/
structure Watermarks where
  /-- A paused job goes on when no more bytes wait. -/
  low : Nat
  /-- A job pauses when as many bytes wait. -/
  high : Nat
deriving DecidableEq, Repr, Inhabited

/-- The low mark is one chunk. The high mark is the size of the job, at most `maxBuffered`, and
always above the low mark. -/
def Watermarks.forJob (chunk total maxBuffered : Nat) : Watermarks :=
  ⟨chunk, max (min total maxBuffered) (chunk + 1)⟩

end CameraViewer.Transfer
