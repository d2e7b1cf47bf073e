import CameraViewer.Signal.Frame

/-!
# Channel/Notice — what the device says on the data channel

A text of the device may hold a notice for the viewer, a catalog of controls, both, or neither.
-/

namespace CameraViewer.Channel

open Json Control Signal

/-- One thing the device says. -/
inductive ChannelNotice
  /-- A message for the viewer. -/
  | notify (message : String)
  /-- The controls of the device. -/
  | catalog (catalog : Catalog)

/-- What a text of the device says, the notice first. -/
def ChannelNotice.read (text : String) : Except FrameError (List ChannelNotice) := do
  let members ← objectOfText text
  let notice := match (member? "notify" members).bind stringOf? with
    | some message => [.notify message]
    | none => []
  let catalog := match ← catalogIn members with
    | some c => [.catalog c]
    | none => []
  return notice ++ catalog

end CameraViewer.Channel
