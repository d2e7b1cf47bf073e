/-!
# Link/Timer — when to connect again

A single-shot timer with a fixed delay. At most one deadline is outstanding, and arming the timer
again does not move it. Times are in milliseconds.
-/

namespace CameraViewer.Link

/-- A timer with its deadline, if one is outstanding. -/
structure ReconnectTimer where
  /-- From arming to the deadline. -/
  delay : Nat
  /-- When the timer is due. -/
  deadline : Option Nat := none
deriving DecidableEq, Repr, Inhabited

namespace ReconnectTimer

/-- Arms the timer; false if it already was. -/
def schedule (now : Nat) (t : ReconnectTimer) : Bool × ReconnectTimer :=
  match t.deadline with
  | some _ => (false, t)
  | none => (true, { t with deadline := some (now + t.delay) })

/-- Drops the deadline; false if there was none. -/
def cancel (t : ReconnectTimer) : Bool × ReconnectTimer :=
  (t.deadline.isSome, { t with deadline := none })

/-- A deadline is outstanding. -/
def isPending (t : ReconnectTimer) : Bool := t.deadline.isSome

/-- The deadline is outstanding and has come. -/
def isDue (now : Nat) (t : ReconnectTimer) : Bool :=
  match t.deadline with
  | some d => d ≤ now
  | none => false

/-- Takes a deadline that has come; false where there is none. -/
def takeDue (now : Nat) (t : ReconnectTimer) : Bool × ReconnectTimer :=
  if t.isDue now then (true, { t with deadline := none }) else (false, t)

end ReconnectTimer

end CameraViewer.Link
