import CameraViewer.Signal.Frame

/-!
# Session/Routing — what a relay frame delivers

A frame delivers its catalog, then its message. A frame that cannot be read delivers nothing,
whichever part of it is at fault.
-/

namespace CameraViewer.Session

open Control Signal

/-- What became of a frame. -/
inductive Routed
  /-- It delivered something. -/
  | dispatched
  /-- It could be read, but nothing in it is known here. -/
  | ignored
  /-- It could not be read. -/
  | malformed
deriving DecidableEq, Repr

/-- The name of what became of a frame. -/
def Routed.name : Routed → String
  | .dispatched => "Dispatched"
  | .ignored => "Ignored"
  | .malformed => "Malformed"

/-- One thing a frame delivers. -/
inductive Delivery
  /-- New controls of the device. -/
  | catalog (catalog : Catalog)
  /-- A message. -/
  | message (envelope : Envelope)

/-- What a frame delivers, in order. -/
def deliveries (f : Frame) : List Delivery :=
  (f.catalog.map Delivery.catalog).toList ++ (f.envelope.map Delivery.message).toList

/-- What becomes of a text from the relay, and what it delivers. -/
def route (text : String) : Routed × List Delivery :=
  match Frame.read text with
  | .error _ => (.malformed, [])
  | .ok f => (if (deliveries f).isEmpty then .ignored else .dispatched, deliveries f)

end CameraViewer.Session
