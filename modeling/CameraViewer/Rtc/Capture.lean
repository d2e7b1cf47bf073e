/-!
# Rtc/Capture — local audio sources

The capture numbers its sources. A source has a track to publish until it is stopped.
-/

namespace CameraViewer.Rtc

/-- A local audio source. -/
structure AudioSource where
  label : String
  stopped : Bool := false
deriving DecidableEq, Repr, Inhabited

namespace AudioSource

/-- There is a track to publish. -/
def hasTrack (s : AudioSource) : Bool := !s.stopped

/-- Stops the source for good. -/
def stop (s : AudioSource) : AudioSource := { s with stopped := true }

end AudioSource

/-- The capture: how many sources it has handed out. -/
structure Capture where
  acquired : Nat := 0
deriving DecidableEq, Repr, Inhabited

/-- Hands out a source. -/
def Capture.acquire (c : Capture) : AudioSource × Capture :=
  ({ label := "microphone-" ++ toString (c.acquired + 1) }, ⟨c.acquired + 1⟩)

end CameraViewer.Rtc
