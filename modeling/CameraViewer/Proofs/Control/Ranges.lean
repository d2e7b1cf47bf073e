import CameraViewer.Control.Descriptor
import Mathlib.Algebra.Order.Ring.Int

/-!
# Proofs/Control/Ranges — presented ranges and device ranges

A control is presented shifted by its offset, and every shift saturates at the ends of the 64-bit
integers. `toInt_saturate` says by how much; past it the arithmetic is that of the integers.

A range too wide to be shifted exactly is cut short: what is presented of it is still sent as a
value of the device, but not every value of the device can be reached. Up to that width the two
ranges are the same (`Mirrors`).
-/

namespace CameraViewer.Control

/-- Saturation goes to the nearest of the 64-bit integers. -/
theorem toInt_saturate (n : ℤ) : (saturate n).toInt = max (-2 ^ 63) (min n (2 ^ 63 - 1)) := by
  have hleast := Int64.toInt_minValue
  have hgreatest := Int64.toInt_maxValue
  unfold saturate Int64.ofIntClamp
  split
  · split
    · rw [Int64.toInt_ofIntLE]
      omega
    · omega
  · omega

/-- What fits is not changed. -/
theorem saturate_toInt (v : Int64) : saturate v.toInt = v := Int64.ofIntClamp_toInt v

/-- A number in the range of the 64-bit integers. -/
def Fits (n : ℤ) : Prop := -2 ^ 63 ≤ n ∧ n < 2 ^ 63

instance (n : ℤ) : Decidable (Fits n) := inferInstanceAs (Decidable (-2 ^ 63 ≤ n ∧ n < 2 ^ 63))

/-- A sum that fits is exact. -/
theorem Fits.toInt_add {v w : Int64} (h : Fits (v.toInt + w.toInt)) :
    (v + w).toInt = v.toInt + w.toInt := by
  obtain ⟨hlow, hhigh⟩ := h
  rw [Int64.toInt_add, Int.bmod_eq_of_le (by omega) (by omega)]

namespace ControlDescriptor

variable {d n : ControlDescriptor}

/-- A value in the range of a control. -/
def Within (d : ControlDescriptor) (v : Int64) : Prop := d.min ≤ v ∧ v ≤ d.max

instance (d : ControlDescriptor) : DecidablePred d.Within := fun v =>
  inferInstanceAs (Decidable (d.min ≤ v ∧ v ≤ d.max))

theorem within_iff {v : Int64} : d.Within v ↔ d.min.toInt ≤ v.toInt ∧ v.toInt ≤ d.max.toInt := by
  rw [Within, Int64.le_iff_toInt_le, Int64.le_iff_toInt_le]

/-- Without an offset the value of the device is the presented one. -/
theorem deviceValue_of_offset (h : d.offset = 0) (v : Int64) : d.deviceValue v = v := by
  rw [deviceValue, h, Int64.toInt_zero, Int.sub_zero, saturate_toInt]

/-- **A value of the device that is presented unclipped is given back.** -/
theorem deviceValue_add {v : Int64} (h : Fits (v.toInt + d.offset.toInt)) :
    d.deviceValue (v + d.offset) = v := by
  have hsum := h.toInt_add
  have hleast := v.le_toInt
  have hgreatest := v.toInt_lt
  rw [← Int64.toInt_inj, deviceValue, toInt_saturate]
  omega

/-! ## What normalizing does

Only a fresh control is shifted, and one that was shifted is not fresh any more. -/

/-- A fresh control that starts below zero. -/
structure StartsBelow (d : ControlDescriptor) : Prop where
  fresh : d.offset = 0
  below : d.min.toInt < 0

/-- By how much a control that starts below zero is shifted. -/
def shift (d : ControlDescriptor) : Int64 := saturate (-d.min.toInt)

/-- A value of the device, shifted. -/
def raise (d : ControlDescriptor) (v : Int64) : Int64 := saturate (v.toInt + d.shift.toInt)

/-- A fresh control that starts below zero is shifted to start there. -/
theorem StartsBelow.normalized (h : d.StartsBelow) :
    d.normalized =
      { d with
        min := 0, max := d.raise d.max, default := d.raise d.default, value := d.value.map d.raise
        offset := d.shift } := by
  refine if_neg (not_or.2 ⟨not_le.2 h.below, ?_⟩)
  simp [isConverted, h.fresh]

/-- A control is presented as it is, or it is fresh and starts below zero. -/
theorem normalized_eq_or (d : ControlDescriptor) :
    d.normalized = d ∧ (d.offset = 0 → 0 ≤ d.min.toInt) ∨ d.StartsBelow := by
  by_cases hmin : 0 ≤ d.min.toInt
  · exact .inl ⟨if_pos (.inl hmin), fun _ => hmin⟩
  by_cases hoffset : d.offset = 0
  · exact .inr ⟨hoffset, not_le.1 hmin⟩
  · refine .inl ⟨if_pos (.inr ?_), fun h => absurd h hoffset⟩
    simpa [isConverted] using hoffset

/-- **Normalizing a normalized control changes nothing.** -/
theorem normalized_normalized (d : ControlDescriptor) : d.normalized.normalized = d.normalized := by
  obtain ⟨h, -⟩ | h := d.normalized_eq_or
  · rw [h, h]
  · refine if_pos (.inl ?_)
    rw [h.normalized]
    exact le_refl 0

/-- Normalizing keeps what a control is. -/
theorem normalized_kind (d : ControlDescriptor) :
    d.normalized.id = d.id ∧ d.normalized.step = d.step
      ∧ d.normalized.controlType = d.controlType := by
  obtain ⟨h, -⟩ | h := d.normalized_eq_or
  · rw [h]
    exact ⟨rfl, rfl, rfl⟩
  · rw [h.normalized]
    exact ⟨rfl, rfl, rfl⟩

/-- A fresh control is presented from zero or above. -/
theorem normalized_min_nonneg (hfresh : d.offset = 0) : 0 ≤ d.normalized.min := by
  rw [Int64.le_iff_toInt_le]
  obtain ⟨h, hmin⟩ | h := d.normalized_eq_or
  · rw [h]
    exact hmin hfresh
  · rw [h.normalized]

/-! ## From what is presented to the device

Additions saturate, so the presented range may be cut short; what is sent is in range even then. -/

/-- **What is presented of a fresh control is sent as a value in the range of the device**, also
where the shift saturates. -/
theorem within_deviceValue (hfresh : d.offset = 0) (horder : d.min ≤ d.max) {v : Int64}
    (hv : d.normalized.Within v) : d.Within (d.normalized.deviceValue v) := by
  obtain ⟨h, -⟩ | h := d.normalized_eq_or
  · rw [h] at hv ⊢
    rwa [deviceValue_of_offset hfresh]
  · have hbelow := h.below
    rw [Int64.le_iff_toInt_le] at horder
    rw [h.normalized, within_iff] at hv ⊢
    simp only [raise, shift, deviceValue, toInt_saturate, Int64.toInt_zero] at hv ⊢
    omega

/-- A range that can be shifted without being cut short. -/
structure Shiftable (d : ControlDescriptor) : Prop where
  above : Int64.minValue < d.min
  width : d.max.toInt - d.min.toInt ≤ Int64.maxValue.toInt

/-- The range `n` presents is the one of the device, value by value and in the same order. -/
structure Mirrors (n d : ControlDescriptor) : Prop where
  /-- Every value is sent as one of the device. -/
  within : ∀ v, n.Within v → d.Within (n.deviceValue v)
  /-- A greater value is sent as a greater one. -/
  ordered : ∀ v w, n.Within v → n.Within w → (v < w ↔ n.deviceValue v < n.deviceValue w)
  /-- Different values are sent as different ones. -/
  distinct : ∀ v w, n.Within v → n.Within w → n.deviceValue v = n.deviceValue w → v = w
  /-- Every value of the device can be sent. -/
  onto : ∀ w, d.Within w → ∃ v, n.Within v ∧ n.deviceValue v = w
  /-- The value after a reset is that of the device. -/
  default_eq : d.Within d.default → n.deviceValue n.default = d.default
  /-- The value at present is that of the device. -/
  value_eq : (∀ v ∈ d.value, d.Within v) → n.value.map n.deviceValue = d.value

/-- Where the value of the device is the presented one, the range mirrors itself. -/
theorem mirrors_self (hfresh : d.offset = 0) : d.Mirrors d where
  within v hv := by rwa [deviceValue_of_offset hfresh]
  ordered v w _ _ := by rw [deviceValue_of_offset hfresh, deviceValue_of_offset hfresh]
  distinct v w _ _ h := by rwa [deviceValue_of_offset hfresh, deviceValue_of_offset hfresh] at h
  onto w hw := ⟨w, hw, deviceValue_of_offset hfresh w⟩
  default_eq _ := deviceValue_of_offset hfresh _
  value_eq _ := by rw [funext (deviceValue_of_offset hfresh), Option.map_id']

namespace StartsBelow

variable (h : d.StartsBelow) (hwide : d.Shiftable)
include h hwide

/-- The shift of a range that is not cut short is exact. -/
theorem toInt_shift : d.shift.toInt = -d.min.toInt := by
  have hbelow := h.below
  have habove := Int64.lt_iff_toInt_lt.1 hwide.above
  rw [Int64.toInt_minValue] at habove
  rw [shift, toInt_saturate]
  omega

/-- A value of the device keeps its distance from the least one. -/
theorem toInt_raise {w : Int64} (hw : d.Within w) : (d.raise w).toInt = w.toInt - d.min.toInt := by
  have hwidth := hwide.width
  rw [Int64.toInt_maxValue] at hwidth
  rw [within_iff] at hw
  rw [raise, h.toInt_shift hwide, toInt_saturate]
  omega

/-- A presented value keeps its distance from zero. -/
theorem toInt_deviceValue {v : Int64} (hv : d.normalized.Within v) :
    (d.normalized.deviceValue v).toInt = v.toInt + d.min.toInt := by
  have hbelow := h.below
  have hleast := d.min.le_toInt
  have hvalue := v.toInt_lt
  rw [h.normalized, within_iff] at hv
  simp only [Int64.toInt_zero] at hv
  rw [h.normalized, deviceValue, h.toInt_shift hwide, toInt_saturate]
  omega

/-- A value in the range of the device is presented in range. -/
theorem within_raise (horder : d.min ≤ d.max) {w : Int64} (hw : d.Within w) :
    d.normalized.Within (d.raise w) := by
  have hmax : d.Within d.max := by
    rw [within_iff, ← Int64.le_iff_toInt_le]
    exact ⟨horder, le_refl _⟩
  rw [h.normalized, within_iff, h.toInt_raise hwide hw, h.toInt_raise hwide hmax, Int64.toInt_zero]
  rw [within_iff] at hw
  omega

/-- What was shifted is shifted back. -/
theorem deviceValue_raise (horder : d.min ≤ d.max) {w : Int64} (hw : d.Within w) :
    d.normalized.deviceValue (d.raise w) = w := by
  rw [← Int64.toInt_inj, h.toInt_deviceValue hwide (h.within_raise hwide horder hw),
    h.toInt_raise hwide hw]
  omega

/-- A shift that is not cut short can be undone everywhere. -/
theorem mirrors (horder : d.min ≤ d.max) : d.normalized.Mirrors d where
  within v hv := within_deviceValue h.fresh horder hv
  ordered v w hv hw := by
    rw [Int64.lt_iff_toInt_lt, Int64.lt_iff_toInt_lt, h.toInt_deviceValue hwide hv,
      h.toInt_deviceValue hwide hw]
    omega
  distinct v w hv hw heq := by
    rw [← Int64.toInt_inj, h.toInt_deviceValue hwide hv, h.toInt_deviceValue hwide hw] at heq
    rw [← Int64.toInt_inj]
    omega
  onto w hw := ⟨d.raise w, h.within_raise hwide horder hw, h.deviceValue_raise hwide horder hw⟩
  default_eq hw := by
    have hdefault : d.normalized.default = d.raise d.default := by rw [h.normalized]
    rw [hdefault, h.deviceValue_raise hwide horder hw]
  value_eq hall := by
    have hvalue : d.normalized.value = d.value.map d.raise := by rw [h.normalized]
    rw [hvalue, Option.map_map]
    refine (Option.map_congr fun w hw => ?_).trans Option.map_id'
    exact h.deviceValue_raise hwide horder (hall w hw)

end StartsBelow

/-- **A fresh range narrow enough to be shifted is presented whole**: value by value and in order,
with the value after a reset and the present one. -/
theorem mirrors_normalized (hfresh : d.offset = 0) (horder : d.min ≤ d.max) (hwide : d.Shiftable) :
    d.normalized.Mirrors d := by
  obtain ⟨h, -⟩ | h := d.normalized_eq_or
  · rw [h]
    exact mirrors_self hfresh
  · exact h.mirrors hwide horder

/-- **Normalizing is stable, keeps what a control is, and is exact on fresh controls**: what is
presented of one is sent as a value in the range of the device, and up to the last width that is not
cut short the two ranges are the same. -/
theorem normalized_exact (d : ControlDescriptor) :
    d.normalized.normalized = d.normalized
      ∧ (d.normalized.id = d.id ∧ d.normalized.step = d.step
        ∧ d.normalized.controlType = d.controlType)
      ∧ (d.offset = 0 → d.min ≤ d.max →
        (∀ v, d.normalized.Within v → d.Within (d.normalized.deviceValue v))
          ∧ (d.Shiftable → d.normalized.Mirrors d)) :=
  ⟨d.normalized_normalized, d.normalized_kind, fun hfresh horder =>
    ⟨fun _ => within_deviceValue hfresh horder, mirrors_normalized hfresh horder⟩⟩

/-- A control of the greatest width that is not cut short. -/
def widest : ControlDescriptor :=
  { id := 1, min := -1, max := Int64.maxValue - 1, step := 1, default := 0
    controlType := integerType, value := some (-1), offset := 0 }

/-- The widest such control reaches up to the greatest of all values. -/
theorem normalized_exact_widest :
    widest.normalized.normalized = widest.normalized ∧ widest.normalized.max = Int64.maxValue
      ∧ widest.normalized.Mirrors widest := by
  obtain ⟨hstable, -, hfresh⟩ := normalized_exact widest
  exact ⟨hstable, by decide, (hfresh rfl (by decide)).2 ⟨by decide, by decide⟩⟩

end ControlDescriptor

end CameraViewer.Control
