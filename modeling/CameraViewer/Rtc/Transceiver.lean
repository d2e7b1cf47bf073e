import CameraViewer.Rtc.Section

/-!
# Rtc/Transceiver — ways of sending and receiving

A transceiver sends and receives tracks of one kind. Once it has a name, it belongs to the sections
of that name. `associate` finds a transceiver for each section of a remote offer: the one of that
name, or else one without a name whose direction goes with that of the section, or else a new one.
-/

namespace CameraViewer.Rtc

/-- One way of sending and receiving tracks. -/
structure Transceiver where
  kind : MediaKind
  direction : Direction := .sendrecv
  /-- The name of its sections. -/
  mid : Option String := none
  /-- It has a track to send. -/
  hasTrack : Bool := true
  stopped : Bool := false
deriving DecidableEq, Repr, Inhabited

namespace Transceiver

/-- Gives a name, unless there is one. -/
def named (mid : String) (t : Transceiver) : Transceiver := { t with mid := t.mid.or (some mid) }

/-- Gives up the track, and sends and receives nothing more. -/
def stop (t : Transceiver) : Transceiver :=
  { t with direction := .inactive, hasTrack := false, stopped := true }

/-- A new transceiver for a section of the other side, with nothing to send. -/
def ofSection (mid : String) (kind : MediaKind) (direction : Direction) : Transceiver where
  kind := kind
  direction := if direction = .recvonly then .sendonly else .recvonly
  mid := some mid
  hasTrack := false

end Transceiver

/-- The directions of this side that go with one of the other side, the best first. -/
def Direction.partners : Direction → List Direction
  | .sendrecv => [.recvonly, .sendrecv, .sendonly]
  | .sendonly => [.recvonly]
  | .recvonly => [.sendonly, .sendrecv]
  | .inactive => []

/-- The first element that passes a test, and the others. -/
def pick? {α : Type} (test : α → Bool) : List α → Option (α × List α)
  | [] => none
  | a :: rest =>
    if test a then some (a, rest) else (pick? test rest).map fun (b, rest) => (b, a :: rest)

/-- A transceiver for a section, by its place, out of those that have no section yet. -/
def pickFor? (mid : String) (kind : MediaKind) (direction : Direction)
    (free : List (Transceiver × Nat)) : Option ((Transceiver × Nat) × List (Transceiver × Nat)) :=
  pick? (fun (t, _) => t.mid = some mid) free <|>
    direction.partners.findSome? fun d =>
      pick? (fun (t, _) => t.mid = none ∧ t.kind = kind ∧ t.direction = d) free

/-- Finds transceivers for sections, up to the first fault; tells whether there was none. -/
def associateFrom : List SectionUse → List (Transceiver × Nat) → List Transceiver →
    Bool × List Transceiver
  | [], _, ts => (true, ts)
  | .unnamed :: _, _, ts => (false, ts)
  | .track mid kind direction :: rest, free, ts =>
    match pickFor? mid kind direction free with
    | some ((_, i), free) => associateFrom rest free (ts.modify i (·.named mid))
    | none => associateFrom rest free (ts ++ [.ofSection mid kind direction])
  | _ :: rest, free, ts => associateFrom rest free ts

/-- Finds a transceiver for each section of a remote offer. -/
def associate (sections : List MediaSection) (ts : List Transceiver) : Bool × List Transceiver :=
  associateFrom (sections.map (·.use)) ts.zipIdx ts

/-- Names transceivers that have no name by numbers from `next` on; the number after the last. -/
def nameAll (next : Nat) : List Transceiver → List Transceiver × Nat
  | [] => ([], next)
  | t :: rest =>
    let (rest, last) := nameAll (if t.mid.isNone then next + 1 else next) rest
    (t.named (toString next) :: rest, last)

end CameraViewer.Rtc
