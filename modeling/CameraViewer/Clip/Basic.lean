import CameraViewer.Text.Ascii
import CameraViewer.Transfer.Job

/-!
# Clip/Basic — files to send

Name and media type of a file follow from its path alone: the name is what follows the last slash,
the type goes by what follows the last point of the name.
-/

namespace CameraViewer

open Text Transfer

/-- A file ready to be sent. -/
structure Clip where
  name : String
  mime : String
  data : Payload

namespace Clip

/-- The names of a path that lead on: not the empty ones, and no single points behind the first. -/
def steps (path : String) : List String :=
  match (splitAtChar '/' path.toList).map String.ofList with
  | [] => []
  | first :: rest => (first :: rest.filter (· ≠ ".")).filter (· ≠ "")

/-- The name of the file a path leads to. -/
def fileName? (path : String) : Option String :=
  (steps path).getLast?.filter fun name => name ≠ "." && name ≠ ".."

/-- What follows the last point of a name. A point at the start does not count. -/
def extensionOf? (name : String) : Option String :=
  let back := name.toList.reverse
  let tail := back.takeWhile (· ≠ '.')
  match back.drop tail.length with
  | [] => none
  | _ :: front => if front.isEmpty then none else some (String.ofList tail.reverse)

/-- The media type of an extension in small letters. -/
def mimeOfExtension : String → String
  | "ogg" => "audio/ogg"
  | "opus" => "audio/ogg"
  | "webm" => "video/webm"
  | "mp4" => "video/mp4"
  | "wav" => "audio/wav"
  | "mp3" => "audio/mpeg"
  | "jpg" => "image/jpeg"
  | "jpeg" => "image/jpeg"
  | "png" => "image/png"
  | _ => "application/octet-stream"

/-- The media type of a path. -/
def mimeOf (path : String) : String :=
  mimeOfExtension (((fileName? path).bind extensionOf?).map lowerAscii |>.getD "")

/-- The clip of a path and what the file there holds. -/
def ofFile (path : String) (data : Payload) : Clip :=
  ⟨(fileName? path).getD "clip", mimeOf path, data⟩

end Clip

end CameraViewer
