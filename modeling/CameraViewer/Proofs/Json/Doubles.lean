import CameraViewer.Proofs.Json.Decimals

/-!
# Proofs/Json/Doubles — a written double is read as a number

The digits of a double spell a decimal that is not above the halfway point to its upper neighbour
(`Binary64.digits_spec`). Its text is that of a literal (`render_literal`), and the literal of every
finite double has a number (`exists_value?_literal`).
-/

namespace CameraViewer.Json

namespace Binary64

/-! ## Doubles of the format -/

/-- A double that is neither infinite nor off the grid of its format. -/
def Finite (x : Binary64) : Prop := x.mantissa < 2 ^ 53 ∧ -1074 ≤ x.exponent ∧ x.exponent ≤ 971

instance (x : Binary64) : Decidable x.Finite := inferInstanceAs (Decidable (_ ∧ _))

/-! ## Digits

The digits are searched for among decimals that read back as the double, so they are not far from it
whatever the search finds. -/

/-- Halfway to the next double. -/
def upper (x : Binary64) : ℚ := (x.mantissa + 1 / 2) * 2 ^ x.exponent

/-- Halfway to the next double, as a fraction. -/
theorem halfway_spec (x : Binary64) :
    (x.halfway.2.1 : ℚ) / x.halfway.2.2 = x.upper ∧ 0 < x.halfway.2.2
      ∧ (x.mantissa ≠ 0 → 0 < x.halfway.1) := by
  obtain ⟨hnum, hpos⟩ := scaled_div (4 * x.mantissa) (by omega : 0 < 4) (-x.exponent)
  -- A unit is a quarter of the distance of two doubles, over the same denominator.
  have hunit : 0 < (scaled 1 4 (-x.exponent)).1 ∧ (scaled (4 * x.mantissa) 4 (-x.exponent)).1
      = 4 * x.mantissa * (scaled 1 4 (-x.exponent)).1
      ∧ (scaled 1 4 (-x.exponent)).2 = (scaled (4 * x.mantissa) 4 (-x.exponent)).2 := by
    rw [scaled_eq, scaled_eq]
    split <;> simp
  obtain ⟨hunitpos, hmul, hden⟩ := hunit
  have hquarter := (scaled_div 1 (by omega : 0 < 4) (-x.exponent)).1
  rw [hden] at hquarter
  rw [halfway]
  dsimp only
  refine ⟨?_, hpos, fun hm => ?_⟩
  · push_cast at hnum hquarter ⊢
    rw [add_div, hnum, mul_div_assoc 2, hquarter, upper, zpow_neg]
    field_simp
    ring
  · have hone : 1 ≤ x.mantissa := by omega
    have hle : 4 * (scaled 1 4 (-x.exponent)).1 ≤ 4 * x.mantissa * (scaled 1 4 (-x.exponent)).1 :=
      Nat.mul_le_mul_right _ (by omega)
    rw [hmul]
    split <;> omega

/-- **What reads back as a double is positive and not above the halfway point.** -/
theorem reads_spec {x : Binary64} (hx : x.mantissa ≠ 0) {num den : ℕ} (hden : 0 < den)
    (h : x.reads num den) : 0 < num ∧ (num : ℚ) / den ≤ x.upper := by
  obtain ⟨hupper, hpos, hlow⟩ := x.halfway_spec
  have hbounds : x.halfway.1 * den ≤ num * x.halfway.2.2
      ∧ num * x.halfway.2.2 ≤ x.halfway.2.1 * den := by
    rw [reads] at h
    dsimp only at h
    split at h
    · simpa using h
    · have hstrict : x.halfway.1 * den < num * x.halfway.2.2
          ∧ num * x.halfway.2.2 < x.halfway.2.1 * den := by simpa using h
      exact ⟨hstrict.1.le, hstrict.2.le⟩
  obtain ⟨hle, hhigh⟩ := hbounds
  constructor
  · have : 0 < num * x.halfway.2.2 := (Nat.mul_pos (hlow hx) hden).trans_le hle
    exact Nat.pos_of_mul_pos_right this
  · rw [← hupper, div_le_div_iff₀ (by exact_mod_cast hden) (by exact_mod_cast hpos)]
    exact_mod_cast hhigh

/-- Whether a decimal reads back as a double. -/
def readsDecimal (x : Binary64) (unit : ℤ) (d : ℕ) : Bool :=
  if unit < 0 then x.reads d (10 ^ unit.natAbs) else x.reads (d * 10 ^ unit.natAbs) 1

/-- A decimal that reads back is positive, and not above the halfway point. -/
theorem readsDecimal_spec {x : Binary64} (hx : x.mantissa ≠ 0) {unit : ℤ} {d : ℕ}
    (h : x.readsDecimal unit d) : 0 < d ∧ d * 10 ^ unit ≤ x.upper := by
  rw [readsDecimal] at h
  split at h
  · rename_i hunit
    obtain ⟨hpos, hle⟩ := reads_spec hx (by positivity) h
    have hexp : unit = -(unit.natAbs : ℤ) := by omega
    refine ⟨hpos, ?_⟩
    rw [hexp, zpow_neg, zpow_natCast, ← div_eq_mul_inv]
    exact_mod_cast hle
  · rename_i hunit
    obtain ⟨hpos, hle⟩ := reads_spec hx Nat.one_pos h
    have hexp : unit = (unit.natAbs : ℤ) := by omega
    refine ⟨Nat.pos_of_mul_pos_right hpos, ?_⟩
    rw [hexp, zpow_natCast]
    rw [Nat.cast_one, div_one] at hle
    exact_mod_cast hle

theorem onGrid?_spec {x : Binary64} {place : ℤ} {count d : ℕ} {unit : ℤ}
    (h : x.onGrid? place count = some (d, unit)) : x.readsDecimal unit d := by
  have hfirst : ∀ (r : ℕ → Bool) (near far : ℕ) (u : ℤ),
      (if r near then some (near, u) else if r far then some (far, u) else none) = some (d, unit) →
        r d ∧ u = unit := by
    intro r near far u hr
    split at hr
    · obtain ⟨rfl, rfl⟩ := Prod.mk.inj (Option.some.inj hr)
      exact ⟨‹_›, rfl⟩
    · split at hr
      · obtain ⟨rfl, rfl⟩ := Prod.mk.inj (Option.some.inj hr)
        exact ⟨‹_›, rfl⟩
      · exact nomatch hr
  obtain ⟨hread, rfl⟩ := hfirst (x.readsDecimal (place - (count - 1 : ℕ))) _ _ _ h
  exact hread

theorem firstGrid_spec {x : Binary64} (hx : x.mantissa ≠ 0) (place : ℤ) (steps : ℕ) :
    ∀ count, x.firstGrid place count steps = (0, 0) ∨ 0 < (x.firstGrid place count steps).1
      ∧ (x.firstGrid place count steps).1 * 10 ^ (x.firstGrid place count steps).2 ≤ x.upper := by
  induction steps with
  | zero => exact fun _ => .inl rfl
  | succ steps ih =>
    intro count
    rw [firstGrid]
    split
    · rename_i hit h
      exact .inr (readsDecimal_spec hx (onGrid?_spec h))
    · exact ih (count + 1)

/-- Without its trailing zeros a decimal has the same value. -/
theorem stripZeros_spec (steps : ℕ) : ∀ (d : ℕ) (unit : ℤ),
    ((stripZeros d unit steps).1 : ℚ) * 10 ^ (stripZeros d unit steps).2 = d * 10 ^ unit
      ∧ (0 < d → 0 < (stripZeros d unit steps).1) := by
  induction steps with
  | zero => exact fun _ _ => ⟨rfl, id⟩
  | succ steps ih =>
    intro d unit
    rw [stripZeros]
    split
    · rename_i h
      obtain ⟨hvalue, hpos⟩ := ih (d / 10) (unit + 1)
      have htens : d = 10 * (d / 10) := by omega
      refine ⟨?_, fun hd => hpos (by omega)⟩
      rw [hvalue, zpow_add₀ (by norm_num)]
      conv_rhs => rw [htens]
      push_cast
      ring
    · exact ⟨rfl, id⟩

/-- The digits come from one of the grids. The searches are variables here: where the two sides are
compared, they would be run otherwise. -/
theorem exists_place (leading : ℕ → ℕ → ℤ → ℕ → ℤ) (grid : Binary64 → ℤ → ℕ → ℕ → ℕ × ℤ)
    (strip : ℕ → ℤ → ℕ → ℕ × ℤ) (x : Binary64) : ∃ place : ℤ,
      (match x.ratio with
        | (num, den) =>
          have place := leading num den 309 640
          match grid x place 1 17 with
          | (d, unit) => strip d unit 20)
        = strip (grid x place 1 17).1 (grid x place 1 17).2 20 := by
  generalize x.ratio = r
  obtain ⟨num, den⟩ := r
  exact ⟨leading num den 309 640, rfl⟩

/-- The digits are what the search through the grids comes to. -/
theorem exists_digits_eq : ∃ f, f = digits ∧ ∀ x : Binary64, ∃ place : ℤ,
    f x = stripZeros (x.firstGrid place 1 17).1 (x.firstGrid place 1 17).2 20 := by
  refine ⟨?_, ?unfolded, ?_⟩
  case unfolded => delta digits; rfl
  with_reducible exact exists_place leadingPlace firstGrid stripZeros

/-- **The digits of a double spell a decimal not above its upper halfway point.** -/
theorem digits_spec {x : Binary64} (hx : x.mantissa ≠ 0) :
    (x.digits = (0, 0) ∨ 0 < x.digits.1) ∧ x.digits.1 * 10 ^ x.digits.2 ≤ x.upper := by
  obtain ⟨_, rfl, hdigits⟩ := exists_digits_eq
  obtain ⟨place, hplace⟩ := hdigits x
  rw [hplace]
  rcases firstGrid_spec hx place 17 1 with h | ⟨hpos, hle⟩
  · have hzero : stripZeros 0 0 20 = (0, 0) := rfl
    rw [h, hzero]
    refine ⟨.inl rfl, ?_⟩
    rw [Nat.cast_zero, zero_mul, upper]
    positivity
  · obtain ⟨hvalue, hkept⟩ :=
      stripZeros_spec 20 (x.firstGrid place 1 17).1 (x.firstGrid place 1 17).2
    exact ⟨.inr (hkept hpos), hvalue.trans_le hle⟩

end Binary64

namespace Binary64

open Literal

/-- The literal a double is written as. -/
def literal (negative : Bool) (x : Binary64) : Literal :=
  if x.mantissa = 0 then .ofDecimal negative 0 0
  else .ofDecimal negative x.digits.1 x.digits.2

/-- A double is written as zero, or with its digits. -/
theorem literal_cases (negative : Bool) (x : Binary64) :
    x.literal negative = .ofDecimal negative 0 0 ∨
      (x.mantissa ≠ 0 ∧ 0 < x.digits.1
        ∧ x.literal negative = .ofDecimal negative x.digits.1 x.digits.2) := by
  rw [literal]
  split
  · exact .inl rfl
  · rename_i hx
    rcases (digits_spec hx).1 with hzero | hpos
    · exact .inl (by rw [hzero])
    · exact .inr ⟨hx, hpos, rfl⟩

theorem wellFormed_literal (negative : Bool) (x : Binary64) : (x.literal negative).WellFormed := by
  rcases x.literal_cases negative with h | ⟨-, hpos, h⟩
  · rw [h, ofDecimal_zero]
    exact ⟨.inl rfl, by simp, by simp, by simp⟩
  · rw [h]
    exact wellFormed_ofDecimal negative hpos _

/-- The two greatest doubles, which are above the safe bound. -/
theorem exists_value?_greatest (negative : Bool) {m : ℕ} (hm : m = 2 ^ 53 - 1 ∨ m = 2 ^ 53 - 2) :
    ∃ n, ((⟨m, 971⟩ : Binary64).literal negative).value? = some n := by
  refine Option.isSome_iff_exists.mp ?_
  rcases hm with rfl | rfl <;> cases negative <;> decide +kernel

/-- Below them the halfway point is safe. -/
theorem upper_le_safeBound {x : Binary64} (hx : x.Finite)
    (h : x.exponent = 971 → x.mantissa ≤ 2 ^ 53 - 3) : x.upper ≤ safeBound := by
  obtain ⟨hm, -, he⟩ := hx
  rw [upper, safeBound]
  rcases eq_or_lt_of_le he with heq | hlt
  · have hnat : x.mantissa + 3 ≤ 2 ^ 53 := by have := h heq; omega
    have hle : (x.mantissa : ℚ) + 3 ≤ 2 ^ 53 := by exact_mod_cast hnat
    rw [heq]
    exact mul_le_mul_of_nonneg_right (by linarith) (by positivity)
  · have hle : (x.mantissa : ℚ) + 1 ≤ 2 ^ 53 := by exact_mod_cast hm
    have hpow : (2 : ℚ) ^ x.exponent ≤ 2 ^ (970 : ℤ) :=
      zpow_le_zpow_right₀ (by norm_num) (by omega)
    have hsplit : (971 : ℤ) = 970 + 1 := rfl
    calc ((x.mantissa : ℚ) + 1 / 2) * 2 ^ x.exponent
        ≤ 2 ^ 53 * 2 ^ (970 : ℤ) := mul_le_mul (by linarith) hpow (by positivity) (by positivity)
      _ ≤ (2 ^ 53 - 5 / 2) * 2 * 2 ^ (970 : ℤ) :=
          mul_le_mul_of_nonneg_right (by norm_num) (by positivity)
      _ = (2 ^ 53 - 5 / 2) * 2 ^ (971 : ℤ) := by
          rw [hsplit, zpow_add_one₀ (by norm_num), mul_assoc, mul_comm 2]

/-- **The literal of a finite double has a number.** -/
theorem exists_value?_literal (negative : Bool) {x : Binary64} (hx : x.Finite) :
    ∃ n, (x.literal negative).value? = some n := by
  rcases x.literal_cases negative with h | ⟨hm, hpos, h⟩
  · rw [h, ofDecimal_zero]
    exact Option.isSome_iff_exists.mp (by cases negative <;> decide +kernel)
  · by_cases htop : x.exponent = 971 ∧ 2 ^ 53 - 3 < x.mantissa
    · obtain ⟨m, e⟩ := x
      obtain ⟨rfl, hlarge⟩ := htop
      have hsmall := hx.1
      exact exists_value?_greatest negative (by dsimp only at *; omega)
    · rw [h]
      refine exists_value?_ofDecimal negative hpos ?_
      refine (digits_spec hm).2.trans (upper_le_safeBound hx fun he => ?_)
      exact not_lt.mp fun hlt => htop ⟨he, hlt⟩

/-- **A double is written as its literal.** -/
theorem render_literal (negative : Bool) (x : Binary64) :
    (x.literal negative).render = (if negative then ['-'] else []) ++ x.render := by
  rw [literal]
  delta render
  generalize x.digits = hit
  obtain ⟨d, unit⟩ := hit
  split
  · rw [ofDecimal_zero]
    rfl
  · have hplace : leadPlace d unit = unit + ((writtenDigits d).length - 1 : ℕ) := rfl
    dsimp only
    rw [decimal_eq_map, List.length_map, ofDecimal, ← hplace]
    generalize leadPlace d unit = place
    generalize writtenDigits d = ds
    have hzero : Nat.digitChar 0 = '0' := rfl
    by_cases hfar : place < -5 ∨ 16 ≤ place
    · rw [if_pos hfar, if_pos hfar, decimal_eq_map, ← List.map_drop, ← List.map_take]
      rcases hdrop : ds.drop 1 with _ | ⟨e, es⟩ <;>
        by_cases hneg : place < 0 <;>
          simp [Literal.render, fractionText, exponentText, hneg]
    · rw [if_neg hfar, if_neg hfar]
      by_cases hunit : 0 ≤ unit
      · rw [if_pos hunit, if_pos hunit]
        simp [Literal.render, fractionText, exponentText, hzero]
      · rw [if_neg hunit, if_neg hunit]
        by_cases hpos : 0 ≤ place
        · rw [if_pos hpos, if_pos hpos]
          simp [Literal.render, fractionText, exponentText, List.map_take, List.map_drop]
        · rw [if_neg hpos, if_neg hpos]
          simp [Literal.render, fractionText, exponentText, hzero]

end Binary64

/-! ## Numbers -/

namespace Number

/-- A number that documents can hold: an integer of 64 bits or a finite double. -/
def Storable : Number → Prop
  | .int n => IsWord n
  | .float _ x => x.Finite

/-- The literal a number is written as. -/
def literal : Number → Literal
  | .int n => literalOf n
  | .float negative x => x.literal negative

theorem wellFormed_literal : ∀ n : Number, n.literal.WellFormed
  | .int n => wellFormed_literalOf n
  | .float negative x => x.wellFormed_literal negative

theorem render_literal : ∀ n : Number, n.literal.render = n.render
  | .int n => render_literalOf n
  | .float negative x => x.render_literal negative

/-- **A number that documents can hold is read again as a number**, an integer as itself. -/
theorem exists_value?_literal : ∀ {n : Number}, n.Storable → ∃ m, n.literal.value? = some m
  | .int _, h => ⟨_, value?_literalOf h⟩
  | .float negative _, h => Binary64.exists_value?_literal negative h

end Number

end CameraViewer.Json
