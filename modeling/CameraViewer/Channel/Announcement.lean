import CameraViewer.Json.Decode

/-!
# Channel/Announcement — what precedes a file on the data channel

Before the bytes of a file its receiver is told kind, size and name.
-/

namespace CameraViewer.Channel

open Json

/-- A file that is about to come. -/
structure FileAnnouncement where
  /-- Media type. -/
  mime : String
  /-- Number of bytes. -/
  size : UInt64
  /-- Name of the file. -/
  name : String
deriving DecidableEq, Repr, Inhabited

/-- A text the client sends on the data channel. -/
inductive ChannelControl
  /-- A file follows. -/
  | sendFile (file : FileAnnouncement)
deriving DecidableEq, Repr, Inhabited

namespace FileAnnouncement

/-- The announcement of a record. -/
def ofTree? (t : Tree) : Option FileAnnouncement := do
  match ← t.record? ["type", "size", "name"] with
  | [mime, size, name] => return ⟨← (← mime).text?, ← (← size).uint64?, ← (← name).text?⟩
  | _ => none

/-- The record of an announcement. -/
def toValue (a : FileAnnouncement) : Value :=
  .object [("type", .string a.mime), ("size", .int a.size.toNat), ("name", .string a.name)]

end FileAnnouncement

namespace ChannelControl

/-- The text of a document; all of it is held until its tag is known. -/
def ofTree? (t : Tree) : Option ChannelControl := do
  if t.isReadable then pure () else none
  let (tag, rest) ← t.tagged?
  if tag = "sendfile" then pure () else none
  match ← rest.record? ["file"] with
  | [file] => return .sendFile (← FileAnnouncement.ofTree? (← file))
  | _ => none

/-- The object of a text, its tag first. -/
def toValue : ChannelControl → Value
  | .sendFile file => .object [("type", .string "sendfile"), ("file", file.toValue)]

/-- The text itself. -/
def text (c : ChannelControl) : String := c.toValue.text

end ChannelControl

end CameraViewer.Channel
