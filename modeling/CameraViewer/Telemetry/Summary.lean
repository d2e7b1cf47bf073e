/-!
# Telemetry/Summary — what was measured so far

A summary counts samples, adds up and compares their durations, and adds up their bytes. Durations
are in nanoseconds.
-/

namespace CameraViewer.Telemetry

/-- What was measured so far. -/
structure Summary where
  /-- The number of samples. -/
  count : Nat := 0
  /-- All durations together. -/
  total : Nat := 0
  /-- The longest duration. -/
  longest : Nat := 0
  /-- All bytes together. -/
  bytes : Nat := 0
deriving DecidableEq, Repr, Inhabited

namespace Summary

/-- One more duration. -/
def addElapsed (elapsed : Nat) (s : Summary) : Summary :=
  { s with count := s.count + 1, total := s.total + elapsed, longest := max s.longest elapsed }

/-- One more number of bytes. -/
def addBytes (bytes : Nat) (s : Summary) : Summary :=
  { s with count := s.count + 1, bytes := s.bytes + bytes }

/-- The greatest number of samples that durations are divided by. -/
def countMax : Nat := UInt32.size - 1

/-- The average duration, rounded down; zero without samples, and where there are too many of them.
-/
def average (s : Summary) : Nat := if s.count ≤ countMax then s.total / s.count else 0

end Summary

/-- A switch in the environment is on unless it is empty or `0`. -/
def isTruthy (value : String) : Bool := value ≠ "0" && value ≠ ""

end CameraViewer.Telemetry
