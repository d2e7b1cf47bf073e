import CameraViewer.Json.Number
import Mathlib.Algebra.Order.Field.Power
import Mathlib.Data.Nat.Log
import Mathlib.Data.Rat.Cast.Order
import Mathlib.Tactic.FieldSimp
import Mathlib.Tactic.Linarith
import Mathlib.Tactic.Positivity
import Mathlib.Tactic.Ring

/-!
# Proofs/Json/Rounding — how far a rounded double is off

The value of a double is a rational number (`Binary64.toRat`). A fraction below `overflowBound` is
rounded to a double (`isSome_ofRatio?`), by half a unit of the last place at most. So a decimal with
a significand of 64 bits is a double unless it is within two roundings of that bound
(`isSome_double?`).
-/

namespace CameraViewer.Json

namespace Binary64

/-- The value of a double. -/
def toRat (x : Binary64) : ℚ := x.mantissa * 2 ^ x.exponent

/-- From here on the nearest double would be infinite: halfway behind the greatest one. -/
def overflowBound : ℚ := (2 ^ 53 - 1 / 2) * 2 ^ (971 : ℤ)

theorem overflowBound_lt : overflowBound < 2 ^ (1024 : ℤ) := by
  have hsplit : (2 : ℚ) ^ (1024 : ℤ) = 2 ^ 53 * 2 ^ (971 : ℤ) := by
    rw [← zpow_natCast, ← zpow_add₀ (by norm_num)]; rfl
  rw [overflowBound, hsplit]
  gcongr
  norm_num

/-- The greatest double has 309 digits. -/
theorem ten_pow_lt : (10 : ℚ) ^ 308 < overflowBound := by
  have hsplit : (2 : ℚ) ^ (971 : ℤ) = (2 ^ 240) ^ 4 * 2 ^ 11 := by
    rw [← pow_mul, ← pow_add, ← zpow_natCast]; rfl
  calc (10 : ℚ) ^ 308 = (10 ^ 77) ^ 4 := by rw [← pow_mul]
    _ ≤ (57000 * 2 ^ 240) ^ 4 := by gcongr; norm_num
    _ = 57000 ^ 4 * (2 ^ 240) ^ 4 := by rw [mul_pow]
    _ < (2 ^ 53 - 1 / 2) * 2 ^ 11 * (2 ^ 240) ^ 4 := by gcongr; norm_num
    _ = overflowBound := by rw [overflowBound, hsplit]; ring

theorem two_pow_lt : (2 : ℚ) ^ 64 < overflowBound := by
  refine lt_of_le_of_lt ?_ ten_pow_lt
  calc (2 : ℚ) ^ 64 ≤ 10 ^ 20 := by norm_num
    _ ≤ 10 ^ 308 := pow_le_pow_right₀ (by norm_num) (by norm_num)

/-- The bound has no more digits than the greatest double. -/
theorem overflowBound_lt_ten_pow : overflowBound < 10 ^ 309 := by
  refine overflowBound_lt.trans_le ?_
  calc (2 : ℚ) ^ (1024 : ℤ) = (2 ^ 256) ^ 4 := by rw [← pow_mul]; rfl
    _ ≤ (116 / 100 * 10 ^ 77) ^ 4 := by gcongr; norm_num
    _ = (116 / 100) ^ 4 * (10 ^ 77) ^ 4 := by rw [mul_pow]
    _ ≤ 10 * (10 ^ 77) ^ 4 := by gcongr; norm_num
    _ = 10 ^ 309 := by rw [← pow_mul, ← pow_succ']

/-- No double here has a sign. -/
theorem toRat_nonneg (x : Binary64) : 0 ≤ x.toRat := by
  rw [toRat]; positivity

/-- A double as a fraction: the exponent goes above or below the line. -/
theorem ratio_eq (x : Binary64) : x.ratio = if x.exponent < 0
    then (x.mantissa, 2 ^ x.exponent.natAbs) else (x.mantissa * 2 ^ x.exponent.natAbs, 1) := by
  simp only [ratio, Nat.shiftLeft_eq, one_mul]

/-- Scaling by a power of two does the same. -/
theorem scaled_eq (num den : ℕ) (shift : ℤ) : scaled num den shift = if shift < 0
    then (num * 2 ^ shift.natAbs, den) else (num, den * 2 ^ shift.natAbs) := by
  simp only [scaled, Nat.shiftLeft_eq]

/-- The value in the fraction that stands for a double. -/
theorem ratio_div (x : Binary64) : (x.ratio.1 : ℚ) / x.ratio.2 = x.toRat ∧ 0 < x.ratio.2 := by
  rw [ratio_eq, toRat]
  split
  · rename_i h
    have hexp : x.exponent = -(x.exponent.natAbs : ℤ) := by omega
    constructor
    · conv_rhs => rw [hexp, zpow_neg, zpow_natCast]
      push_cast
      rw [div_eq_mul_inv]
    · positivity
  · rename_i h
    have hexp : x.exponent = (x.exponent.natAbs : ℤ) := by omega
    constructor
    · conv_rhs => rw [hexp, zpow_natCast]
      push_cast
      rw [div_one]
    · exact Nat.one_pos

/-- What is scaled is divided by that power. -/
theorem scaled_div (num : ℕ) {den : ℕ} (hden : 0 < den) (shift : ℤ) :
    ((scaled num den shift).1 : ℚ) / (scaled num den shift).2 = num / den / 2 ^ shift
      ∧ 0 < (scaled num den shift).2 := by
  rw [scaled_eq]
  split
  · rename_i h
    have hexp : shift = -(shift.natAbs : ℤ) := by omega
    refine ⟨?_, hden⟩
    conv_rhs => rw [hexp, zpow_neg, zpow_natCast]
    push_cast
    field_simp
  · rename_i h
    have hexp : shift = (shift.natAbs : ℤ) := by omega
    refine ⟨?_, by positivity⟩
    conv_rhs => rw [hexp, zpow_natCast]
    push_cast
    field_simp

/-- **The nearest integer is off by a half at most.** -/
theorem abs_roundRatio_sub_le (num : ℕ) {den : ℕ} (hden : 0 < den) :
    |(roundRatio num den : ℚ) - num / den| ≤ 1 / 2 := by
  have hpos : (0 : ℚ) < den := by exact_mod_cast hden
  have hnum : den * (num / den) + num % den = num := Nat.div_add_mod num den
  have hlt : num % den < den := Nat.mod_lt num hden
  -- Twice the distance, over the denominator, in integers.
  have hbounds : 2 * num ≤ 2 * (den * roundRatio num den) + den
      ∧ 2 * (den * roundRatio num den) ≤ 2 * num + den := by
    rw [roundRatio]
    generalize num / den = q at *
    generalize num % den = r at *
    split
    · omega
    · split
      · have hparity : q % 2 = 0 ∨ q % 2 = 1 := by omega
        rcases hparity with h | h <;> rw [h, Nat.mul_add] <;> omega
      · rw [Nat.mul_add]; omega
  obtain ⟨hlow, hhigh⟩ := hbounds
  have hlow' : 2 * (num : ℚ) ≤ 2 * (den * roundRatio num den) + den := by exact_mod_cast hlow
  have hhigh' : 2 * ((den : ℚ) * roundRatio num den) ≤ 2 * num + den := by exact_mod_cast hhigh
  have hdiv : (num : ℚ) / den * den = num := div_mul_cancel₀ _ hpos.ne'
  rw [abs_le]
  constructor <;> nlinarith

/-! ## The exponent

The exponent is guessed from the bits of the two numbers, and the guess is corrected by one at most.
-/

/-- The quotient of two numbers lies next to the one of their leading powers of two. -/
theorem log2_div {num den : ℕ} (hnum : 0 < num) (hden : 0 < den) :
    (2 : ℚ) ^ ((Nat.log2 num : ℤ) - Nat.log2 den - 1) < num / den
      ∧ (num : ℚ) / den < 2 ^ ((Nat.log2 num : ℤ) - Nat.log2 den + 1) := by
  have hpos : (0 : ℚ) < den := by exact_mod_cast hden
  have hlow : ∀ n : ℕ, 0 < n → (2 : ℚ) ^ (Nat.log2 n : ℤ) ≤ n := fun n hn => by
    rw [zpow_natCast]; exact_mod_cast Nat.log2_self_le hn.ne'
  have hhigh : ∀ n : ℕ, (n : ℚ) < 2 ^ ((Nat.log2 n : ℤ) + 1) := fun n => by
    have h : n < 2 ^ (Nat.log2 n + 1) := Nat.lt_log2_self
    exact_mod_cast h
  constructor
  · rw [lt_div_iff₀ hpos]
    calc (2 : ℚ) ^ ((Nat.log2 num : ℤ) - Nat.log2 den - 1) * den
        < 2 ^ ((Nat.log2 num : ℤ) - Nat.log2 den - 1) * 2 ^ ((Nat.log2 den : ℤ) + 1) := by
          gcongr; exact hhigh den
      _ = 2 ^ (Nat.log2 num : ℤ) := by rw [← zpow_add₀ (by norm_num)]; congr 1; ring
      _ ≤ num := hlow num hnum
  · rw [div_lt_iff₀ hpos]
    calc (num : ℚ) < 2 ^ ((Nat.log2 num : ℤ) + 1) := hhigh num
      _ = 2 ^ ((Nat.log2 num : ℤ) - Nat.log2 den + 1) * 2 ^ (Nat.log2 den : ℤ) := by
          rw [← zpow_add₀ (by norm_num)]; congr 1; ring
      _ ≤ 2 ^ ((Nat.log2 num : ℤ) - Nat.log2 den + 1) * den := by
          gcongr; exact hlow den hden

/-- The quotient over a guess of the exponent falls short of 53 bits where the fraction does. -/
theorem scaled_div_lt_iff (num : ℕ) {den : ℕ} (hden : 0 < den) (guess : ℤ) :
    (scaled num den guess).1 / (scaled num den guess).2 < 2 ^ 52
      ↔ (num : ℚ) / den < 2 ^ (52 : ℤ) * 2 ^ guess := by
  obtain ⟨hscaled, hpos⟩ := scaled_div num hden guess
  have hposq : (0 : ℚ) < (scaled num den guess).2 := by exact_mod_cast hpos
  have hpow : (0 : ℚ) < 2 ^ guess := by positivity
  rw [Nat.div_lt_iff_lt_mul hpos, ← div_lt_iff₀ hpow, ← hscaled, div_lt_iff₀ hposq]
  exact_mod_cast Iff.rfl

/-- **Over the power of its exponent a fraction has 53 bits**, unless the exponent is the least. -/
theorem exponentOf_spec {num den : ℕ} (hnum : 0 < num) (hden : 0 < den) :
    (num : ℚ) / den < 2 ^ (53 : ℤ) * 2 ^ exponentOf num den
      ∧ (2 ^ (52 : ℤ) * 2 ^ exponentOf num den ≤ (num : ℚ) / den ∨ exponentOf num den = -1074)
      ∧ -1074 ≤ exponentOf num den := by
  obtain ⟨hlow, hhigh⟩ := log2_div hnum hden
  rw [exponentOf]
  dsimp only
  rw [show 0x10000000000000 = 2 ^ 52 from rfl]
  set guess : ℤ := (Nat.log2 num : ℤ) - Nat.log2 den - 52 with hguess
  have hbelow := scaled_div_lt_iff num hden guess
  -- The exponent before the least one is taken into account.
  have hcases : ∃ e : ℤ, (num : ℚ) / den < 2 ^ (53 : ℤ) * 2 ^ e
      ∧ 2 ^ (52 : ℤ) * 2 ^ e ≤ (num : ℚ) / den
      ∧ (if (scaled num den guess).1 / (scaled num den guess).2 < 2 ^ 52 then guess - 1 else guess)
        = e := by
    split
    · rename_i h
      refine ⟨guess - 1, ?_, ?_, rfl⟩
      · have hhalf : (2 : ℚ) ^ (53 : ℤ) * 2 ^ (guess - 1) = 2 ^ (52 : ℤ) * 2 ^ guess := by
          rw [← zpow_add₀ (by norm_num), ← zpow_add₀ (by norm_num)]; congr 1; ring
        rw [hhalf]; exact hbelow.mp h
      · rw [← zpow_add₀ (by norm_num)]
        refine le_trans (le_of_eq ?_) hlow.le
        congr 1; omega
    · rename_i h
      refine ⟨guess, ?_, not_lt.mp (mt hbelow.mpr h), rfl⟩
      rw [← zpow_add₀ (by norm_num)]
      refine lt_of_lt_of_eq hhigh ?_
      congr 1; omega
  obtain ⟨e, hlt, hle, he⟩ := hcases
  rw [he]
  refine ⟨hlt.trans_le ?_, ?_, le_max_left _ _⟩
  · gcongr
    · norm_num
    · exact le_max_right _ _
  · rcases le_total (-1074) e with h | h
    · exact .inl (by rwa [max_eq_right h])
    · exact .inr (max_eq_left h)

/-! ## Rounding a fraction

Rounding may carry into the next power of two, which moves the exponent by one and keeps the value.
-/

/-- The double nearest to a fraction, its exponent without a limit. -/
def nearest (num den : ℕ) : Binary64 :=
  let e := exponentOf num den
  let m := roundRatio (scaled num den e).1 (scaled num den e).2
  if m = 2 ^ 53 then ⟨2 ^ 52, e + 1⟩ else ⟨m, e⟩

/-- A fraction is rounded to the nearest double, unless its exponent is too great. -/
theorem ofRatio?_eq {num : ℕ} (hnum : 0 < num) (den : ℕ) :
    ofRatio? num den
      = if (nearest num den).exponent > 971 then none else some (nearest num den) := by
  rw [ofRatio?, if_neg hnum.ne']
  rfl

/-- A carry into the next power of two keeps the value. -/
theorem toRat_nearest (num den : ℕ) :
    (nearest num den).toRat = roundRatio (scaled num den (exponentOf num den)).1
      (scaled num den (exponentOf num den)).2 * 2 ^ exponentOf num den := by
  rw [nearest]
  split
  · rename_i h
    rw [h, toRat, zpow_add₀ (by norm_num)]
    norm_num
    ring
  · rfl

/-- **The nearest double is off by half a unit of the last place at most.** -/
theorem abs_toRat_nearest_sub_le (num : ℕ) {den : ℕ} (hden : 0 < den) :
    |(nearest num den).toRat - num / den| ≤ 2 ^ exponentOf num den / 2 := by
  obtain ⟨hscaled, hpos⟩ := scaled_div num hden (exponentOf num den)
  have hround := abs_roundRatio_sub_le (scaled num den (exponentOf num den)).1 hpos
  have hpow : (0 : ℚ) < 2 ^ exponentOf num den := by positivity
  rw [hscaled] at hround
  rw [toRat_nearest]
  generalize roundRatio _ _ = m at *
  have hsplit : (m : ℚ) * 2 ^ exponentOf num den - num / den
      = (m - num / den / 2 ^ exponentOf num den) * 2 ^ exponentOf num den := by
    rw [sub_mul, div_mul_cancel₀ _ hpow.ne']
  rw [hsplit, abs_mul, abs_of_pos hpow]
  linarith [mul_le_mul_of_nonneg_right hround hpow.le]

/-- Rounding carries into the next power of two, or keeps the exponent. -/
theorem exponent_nearest (num den : ℕ) :
    (nearest num den).exponent = exponentOf num den ∨
      (nearest num den).exponent = exponentOf num den + 1
        ∧ (nearest num den).toRat = 2 ^ (53 : ℤ) * 2 ^ exponentOf num den := by
  rw [toRat_nearest, nearest]
  split
  · rename_i h; exact .inr ⟨rfl, by rw [h]; norm_num⟩
  · exact .inl rfl

/-- Off by a 53rd bit of the fraction, or by half of the least double. -/
theorem abs_toRat_nearest_sub_le_div {num den : ℕ} (hnum : 0 < num) (hden : 0 < den)
    (h : (1 : ℚ) ≤ num / den) : |(nearest num den).toRat - num / den| ≤ num / den / 2 ^ 53 := by
  obtain ⟨hlt, hle | hleast, -⟩ := exponentOf_spec hnum hden
  · refine (abs_toRat_nearest_sub_le num hden).trans ?_
    have hhalf : (2 : ℚ) ^ exponentOf num den / 2
        = 2 ^ (52 : ℤ) * 2 ^ exponentOf num den / 2 ^ 53 := by ring
    rw [hhalf]
    gcongr
  · rw [hleast, ← zpow_add₀ (by norm_num)] at hlt
    exact absurd (h.trans_lt hlt) (not_lt.mpr (zpow_le_one_of_nonpos₀ (by norm_num) (by norm_num)))

/-- **A fraction below the bound is rounded to a double.** -/
theorem exponent_nearest_le {num den : ℕ} (hnum : 0 < num) (hden : 0 < den)
    (h : (num : ℚ) / den < overflowBound) : (nearest num den).exponent ≤ 971 := by
  obtain ⟨-, hle | hleast, -⟩ := exponentOf_spec hnum hden
  · have hbits : (2 : ℚ) ^ (52 + exponentOf num den) < 2 ^ (1024 : ℤ) := by
      rw [zpow_add₀ (by norm_num)]
      exact hle.trans_lt (h.trans overflowBound_lt)
    have hexp : exponentOf num den ≤ 971 := by
      have := (zpow_lt_zpow_iff_right₀ (by norm_num : (1 : ℚ) < 2)).mp hbits
      omega
    rcases exponent_nearest num den with he | ⟨he, hvalue⟩
    · omega
    · -- A carry at the greatest exponent would be half a unit away.
      by_contra hcon
      have htop : exponentOf num den = 971 := by omega
      have hdist := (abs_le.mp (abs_toRat_nearest_sub_le num hden)).2
      rw [hvalue, htop] at hdist
      rw [overflowBound] at h
      linarith
  · rcases exponent_nearest num den with he | ⟨he, -⟩ <;> omega

theorem isSome_ofRatio? (num : ℕ) {den : ℕ} (hden : 0 < den) (h : (num : ℚ) / den < overflowBound) :
    ∃ x, ofRatio? num den = some x := by
  rcases Nat.eq_zero_or_pos num with rfl | hnum
  · exact ⟨zero, rfl⟩
  · exact ⟨_, by rw [ofRatio?_eq hnum, if_neg (not_lt.mpr (exponent_nearest_le hnum hden h))]⟩

theorem eq_nearest_of_ofRatio? {num den : ℕ} {x : Binary64} (hnum : 0 < num)
    (h : ofRatio? num den = some x) : x = nearest num den := by
  rw [ofRatio?_eq hnum] at h
  split at h
  · exact nomatch h
  · exact (Option.some.inj h).symm

/-- A double that a fraction is rounded to is at most twice as large, or no larger than one. -/
theorem toRat_le_of_ofRatio? {num den : ℕ} {x : Binary64} (hden : 0 < den)
    (h : ofRatio? num den = some x) : x.toRat ≤ 2 * (num / den) + 1 := by
  rcases Nat.eq_zero_or_pos num with rfl | hnum
  · obtain rfl : zero = x := by simpa [ofRatio?] using h
    norm_num [toRat, zero]
  · obtain rfl := eq_nearest_of_ofRatio? hnum h
    have hdist := (abs_le.mp (abs_toRat_nearest_sub_le num hden)).2
    have hhalf : (2 : ℚ) ^ exponentOf num den / 2 ≤ num / den + 1 := by
      obtain ⟨-, hle | hleast, -⟩ := exponentOf_spec hnum hden
      · have hpow : (0 : ℚ) < 2 ^ exponentOf num den := by positivity
        norm_num at hle
        linarith
      · rw [hleast]
        have hone : (2 : ℚ) ^ (-1074 : ℤ) ≤ 1 := zpow_le_one_of_nonpos₀ (by norm_num) (by norm_num)
        have hq : (0 : ℚ) ≤ num / den := by positivity
        linarith
    linarith

/-! ## Decimals

A decimal is rounded as a significand and once more with a power of ten, each by at most half of the
last bit. -/

/-- A power of ten among the doubles, off by its 53rd bit. -/
theorem abs_toRat_powerOfTen_sub_le {k : ℕ} (hk : k ≤ 308) :
    |(powerOfTen k).toRat - 10 ^ k| ≤ 10 ^ k / 2 ^ 53 := by
  have hbound : ((10 ^ k : ℕ) : ℚ) / (1 : ℕ) < overflowBound := by
    have hpow : (10 : ℚ) ^ k ≤ 10 ^ 308 := pow_le_pow_right₀ (by norm_num) hk
    rw [Nat.cast_one, div_one, Nat.cast_pow]
    exact hpow.trans_lt ten_pow_lt
  have hone : (1 : ℚ) ≤ ((10 ^ k : ℕ) : ℚ) / (1 : ℕ) := by
    push_cast
    rw [div_one]
    exact one_le_pow₀ (by norm_num)
  have hpos : 0 < 10 ^ k := by positivity
  have hoff := abs_toRat_nearest_sub_le_div hpos Nat.one_pos hone
  rw [powerOfTen, Nat.pow_eq, ofRatio?_eq hpos,
    if_neg (not_lt.mpr (exponent_nearest_le hpos Nat.one_pos hbound)), Option.getD_some]
  simpa using hoff

/-- **A product below the bound is a double.** -/
theorem isSome_mul? {x y : Binary64} (h : x.toRat * y.toRat < overflowBound) :
    ∃ z, x.mul? y = some z := by
  obtain ⟨hx, hxpos⟩ := x.ratio_div
  obtain ⟨hy, hypos⟩ := y.ratio_div
  refine isSome_ofRatio? _ (Nat.mul_pos hxpos hypos) ?_
  push_cast
  rwa [mul_div_mul_comm, hx, hy]

/-- The quotient as a fraction. -/
theorem div?_ratio (x : Binary64) {y : Binary64} (hy : 0 < y.toRat) :
    ((x.ratio.1 * y.ratio.2 : ℕ) : ℚ) / (x.ratio.2 * y.ratio.1 : ℕ) = x.toRat / y.toRat
      ∧ 0 < x.ratio.2 * y.ratio.1 := by
  obtain ⟨hxr, hxpos⟩ := x.ratio_div
  obtain ⟨hyr, hypos⟩ := y.ratio_div
  have hynum : 0 < y.ratio.1 := by
    by_contra hcon
    rw [← hyr, Nat.eq_zero_of_not_pos hcon] at hy
    simp at hy
  refine ⟨?_, Nat.mul_pos hxpos hynum⟩
  rw [← hxr, ← hyr]
  push_cast
  rw [div_div_div_eq]

/-- What a division by a power of ten leaves is at most four times as large, or a small number. -/
theorem isSome_div?_powerOfTen {x : Binary64} (hx : x.toRat ≤ 2 ^ 66) {k : ℕ} (hk : k ≤ 308)
    (hk1 : 1 ≤ k) : ∃ z, x.div? (powerOfTen k) = some z ∧ z.toRat ≤ 2 ^ 66 := by
  have hten : (10 : ℚ) ≤ 10 ^ k := by
    calc (10 : ℚ) = 10 ^ 1 := by norm_num
      _ ≤ 10 ^ k := pow_le_pow_right₀ (by norm_num) hk1
  have hoff := (abs_le.mp (abs_toRat_powerOfTen_sub_le hk)).1
  have hpow : 8 ≤ (powerOfTen k).toRat := by
    have hsmall : (10 : ℚ) ^ k / 2 ^ 53 ≤ 10 ^ k / 10 := by gcongr; norm_num
    linarith
  obtain ⟨hratio, hden⟩ := div?_ratio x (by linarith : 0 < (powerOfTen k).toRat)
  have hquot : x.toRat / (powerOfTen k).toRat ≤ 2 ^ 64 := by
    rw [div_le_iff₀ (by linarith)]
    linarith
  obtain ⟨z, hz⟩ := isSome_ofRatio? _ hden (by rw [hratio]; exact hquot.trans_lt two_pow_lt)
  refine ⟨z, hz, ?_⟩
  have hle := toRat_le_of_ofRatio? hden hz
  rw [hratio] at hle
  linarith

/-- A decimal behind the point is a double. -/
theorem isSome_ofDecimal?_of_neg (steps : ℕ) : ∀ {x : Binary64} {e : ℤ}, x.toRat ≤ 2 ^ 66 → e < 0 →
    ∃ z, ofDecimal? steps x e = some z := by
  induction steps with
  | zero =>
    intro x e hx he
    rw [ofDecimal?, if_neg (by omega : ¬ 0 ≤ e), if_neg (by omega : ¬ 0 ≤ e)]
    split
    · obtain ⟨z, hz, -⟩ := isSome_div?_powerOfTen hx (k := e.natAbs) (by omega) (by omega)
      exact ⟨z, hz⟩
    · split
      · exact ⟨x, rfl⟩
      · exact ⟨zero, rfl⟩
  | succ steps ih =>
    intro x e hx he
    rw [ofDecimal?, if_neg (by omega : ¬ 0 ≤ e), if_neg (by omega : ¬ 0 ≤ e)]
    split
    · obtain ⟨z, hz, -⟩ := isSome_div?_powerOfTen hx (k := e.natAbs) (by omega) (by omega)
      exact ⟨z, hz⟩
    · split
      · exact ⟨x, rfl⟩
      · obtain ⟨z, hz, hle⟩ := isSome_div?_powerOfTen hx (k := 308) le_rfl (by omega)
        rw [hz]
        exact ih hle (by omega)

/-- A decimal before the point is a double where its product with the rounded power is below the
bound. -/
theorem isSome_ofDecimal?_of_nonneg (steps : ℕ) {x : Binary64} {k : ℕ} (hk : k ≤ 308)
    (h : x.toRat * (10 ^ k + 10 ^ k / 2 ^ 53) < overflowBound) :
    ∃ z, ofDecimal? steps x k = some z := by
  have hoff := (abs_le.mp (abs_toRat_powerOfTen_sub_le hk)).2
  have hmul : x.toRat * (powerOfTen k).toRat < overflowBound :=
    (mul_le_mul_of_nonneg_left (by linarith) x.toRat_nonneg).trans_lt h
  obtain ⟨z, hz⟩ := isSome_mul? hmul
  exact ⟨z, by cases steps <;> simp [ofDecimal?, hk, hz]⟩

end Binary64

namespace Literal

open Binary64

/-- Two roundings below the bound. -/
def safeBound : ℚ := (2 ^ 53 - 5 / 2) * 2 ^ (971 : ℤ)

/-- Two roundings do not lead above the bound. -/
theorem safeBound_mul_lt : safeBound * (1 + 1 / 2 ^ 53) ^ 2 < overflowBound := by
  have hpos : (0 : ℚ) < 2 ^ (971 : ℤ) := by positivity
  rw [safeBound, overflowBound, mul_right_comm]
  gcongr
  norm_num

theorem safeBound_lt : safeBound < overflowBound := by
  have hpos : (0 : ℚ) < 2 ^ (971 : ℤ) := by positivity
  rw [safeBound, overflowBound]
  gcongr
  norm_num

/-- Zero times a power of ten is read as a double, however great the power is. -/
theorem isSome_ofDecimal?_zero (k : ℕ) : ∃ z, ofDecimal? 4 Binary64.zero k = some z := by
  rcases le_or_gt k 308 with hk | hk
  · refine isSome_ofDecimal?_of_nonneg 4 hk ?_
    have hzero : Binary64.zero.toRat = 0 := by norm_num [Binary64.toRat, Binary64.zero]
    rw [hzero, zero_mul]
    exact lt_trans (by norm_num) two_pow_lt
  · exact ⟨Binary64.zero, by simp [ofDecimal?, Binary64.zero, not_le.mpr hk]⟩

/-- A significand is rounded once to a double and once more with the power of ten. -/
theorem isSome_ofDecimal?_nearest {s k : ℕ} (hpos : 0 < s) (h : (s : ℚ) * 10 ^ k ≤ safeBound) :
    ∃ z, ofDecimal? 4 (nearest s 1) k = some z := by
  have hone : (1 : ℚ) ≤ s := by exact_mod_cast hpos
  have hk : k < 309 := by
    refine (pow_lt_pow_iff_right₀ (by norm_num : (1 : ℚ) < 10)).mp ?_
    calc (10 : ℚ) ^ k ≤ s * 10 ^ k := le_mul_of_one_le_left (by positivity) hone
      _ ≤ safeBound := h
      _ < 10 ^ 309 := safeBound_lt.trans overflowBound_lt_ten_pow
  refine isSome_ofDecimal?_of_nonneg 4 (by omega) ?_
  have hoff := (abs_le.mp (abs_toRat_nearest_sub_le_div hpos Nat.one_pos (by simpa))).2
  rw [Nat.cast_one, div_one] at hoff
  calc (nearest s 1).toRat * (10 ^ k + 10 ^ k / 2 ^ 53)
      ≤ ((s : ℚ) + s / 2 ^ 53) * (10 ^ k + 10 ^ k / 2 ^ 53) := by gcongr; linarith
    _ = (s : ℚ) * 10 ^ k * (1 + 1 / 2 ^ 53) ^ 2 := by ring
    _ ≤ safeBound * (1 + 1 / 2 ^ 53) ^ 2 := by gcongr
    _ < overflowBound := safeBound_mul_lt

/-- **A significand of 64 bits times a power of ten is read as a double**, unless it is within two
roundings of the bound. -/
theorem isSome_double? (negative : Bool) {s : ℕ} (hs : s ≤ significandMax) {e : ℤ}
    (h : e < 0 ∨ s * 10 ^ e ≤ safeBound) : ∃ n, double? negative s e = some n := by
  have hsq : (s : ℚ) ≤ 2 ^ 64 := by
    have hnat : s ≤ 2 ^ 64 := by rw [significandMax, UInt64.size] at hs; omega
    exact_mod_cast hnat
  obtain ⟨x, hx⟩ := isSome_ofRatio? s Nat.one_pos (by
    rw [Nat.cast_one, div_one]; exact hsq.trans_lt two_pow_lt)
  have hvalue : ∃ z, ofDecimal? 4 x e = some z := by
    rcases lt_or_ge e 0 with he | he
    · refine isSome_ofDecimal?_of_neg 4 ?_ he
      have hle := toRat_le_of_ofRatio? Nat.one_pos hx
      rw [Nat.cast_one, div_one] at hle
      linarith
    · obtain ⟨k, rfl⟩ := Int.eq_ofNat_of_zero_le he
      have hle := h.resolve_left (by omega)
      rw [zpow_natCast] at hle
      rcases Nat.eq_zero_or_pos s with rfl | hpos
      · obtain rfl : Binary64.zero = x := by simpa [ofRatio?] using hx
        exact isSome_ofDecimal?_zero k
      · obtain rfl := eq_nearest_of_ofRatio? hpos hx
        exact isSome_ofDecimal?_nearest hpos hle
  obtain ⟨z, hz⟩ := hvalue
  exact ⟨_, by rw [double?, hx, Option.bind_eq_bind, Option.bind_some, hz]; rfl⟩

end Literal

end CameraViewer.Json
