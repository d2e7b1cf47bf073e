import CameraViewer.Json.Decode

/-!
# Control/Descriptor — one adjustable control of the remote device

A device reports each control with the range of its integer value. Sliders cannot start below zero,
so a negative range is **normalized**: shifted up by `|min|`, the shift remembered as `offset`. All
shifts saturate at the ends of the 64-bit range. `deviceValue` takes a presented value back to the
device.
-/

namespace CameraViewer.Control

open Json

/-- A control of the device set to a value. -/
structure ControlValue where
  /-- Number of the control. -/
  id : UInt32
  /-- The value in the range of the device. -/
  value : Int64
deriving DecidableEq, Repr, Inhabited

/-- A control with its range. -/
structure ControlDescriptor where
  /-- Number of the control. -/
  id : UInt32
  /-- The least value. -/
  min : Int64
  /-- The greatest value. -/
  max : Int64
  /-- The distance of two values. -/
  step : Int64
  /-- The value after a reset. -/
  default : Int64
  /-- Kind of the control; 2 is a toggle. -/
  controlType : UInt32
  /-- The value at present, where the device reports it. -/
  value : Option Int64
  /-- The shift of a normalized range, zero where none was needed. -/
  offset : Int64
deriving DecidableEq, Repr, Inhabited

/-- The kind of an integer control. -/
def integerType : UInt32 := 1

/-- The kind of a control that is on or off. -/
def booleanType : UInt32 := 2

/-- The 64-bit integer nearest to `n`. -/
def saturate (n : Int) : Int64 := Int64.ofIntClamp n

namespace ControlDescriptor

/-- A control that is on or off. -/
def isToggle (d : ControlDescriptor) : Bool := d.controlType == booleanType

/-- A control whose range was shifted. -/
def isConverted (d : ControlDescriptor) : Bool := d.offset != 0

/-- The range shifted up to start at zero, where it starts below and was not shifted before. -/
def normalized (d : ControlDescriptor) : ControlDescriptor :=
  if d.min.toInt ≥ 0 ∨ d.isConverted then d
  else
    let shift := saturate (-d.min.toInt)
    let up (x : Int64) : Int64 := saturate (x.toInt + shift.toInt)
    { d with
      min := 0, max := up d.max, default := up d.default, value := d.value.map up, offset := shift }

/-- A presented value in the range of the device. -/
def deviceValue (d : ControlDescriptor) (presented : Int64) : Int64 :=
  saturate (presented.toInt - d.offset.toInt)

/-- The value of a toggle. -/
def toggleValue (checked : Bool) : Int64 := if checked then 1 else 0

end ControlDescriptor

/-! ## On the wire -/

namespace ControlValue

/-- The value of a record with an id and a value. -/
def ofTree? (t : Tree) : Option ControlValue := do
  match ← t.record? ["id", "value"] with
  | [id, value] => return ⟨← (← id).uint32?, ← (← value).int64?⟩
  | _ => none

/-- The record of a control set to a value. -/
def toValue (c : ControlValue) : Value :=
  .object [("id", .int c.id.toNat), ("value", .int c.value.toInt)]

end ControlValue

/-- A field that takes a default where it is missing. -/
def orDefault {α : Type} (default : α) (decode : Tree → Option α) : Option Tree → Option α
  | none => some default
  | some t => decode t

namespace ControlDescriptor

/-- The descriptor of a record; `step`, `default`, `value` and `offset` may be missing. -/
def ofTree? (t : Tree) : Option ControlDescriptor := do
  match ← t.record? ["id", "min", "max", "step", "default", "type", "value", "offset"] with
  | [id, min, max, step, default, controlType, value, offset] =>
    return {
      id := ← (← id).uint32?
      min := ← (← min).int64?
      max := ← (← max).int64?
      step := ← orDefault 1 Tree.int64? step
      default := ← orDefault 0 Tree.int64? default
      controlType := ← (← controlType).uint32?
      value := ← orDefault none (Tree.nullable? Tree.int64?) value
      offset := ← orDefault 0 Tree.int64? offset }
  | _ => none

/-- The record of a descriptor; an unknown value and a zero offset are left out. -/
def toValue (d : ControlDescriptor) : Value :=
  .object ([("id", .int d.id.toNat), ("min", .int d.min.toInt), ("max", .int d.max.toInt),
      ("step", .int d.step.toInt), ("default", .int d.default.toInt),
      ("type", .int d.controlType.toNat)]
    ++ Value.optional "value" (d.value.map fun v => .int v.toInt)
    ++ Value.optional "offset" (if d.offset == 0 then none else some (.int d.offset.toInt)))

end ControlDescriptor

end CameraViewer.Control
