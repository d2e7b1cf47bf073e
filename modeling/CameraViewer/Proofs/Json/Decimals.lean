import CameraViewer.Proofs.Json.Literals
import CameraViewer.Proofs.Json.Rounding

/-!
# Proofs/Json/Decimals — literals that spell a decimal

A literal spells a decimal (`Literal.toRat`), and has a number unless that is too large
(`exists_value?`): digits beyond a significand of 64 bits only make it smaller. `Literal.ofDecimal`
is the literal of a given decimal, positional or with an exponent.
-/

namespace CameraViewer.Json

namespace Literal

/-! ## The value of a literal

A literal is read digit by digit into a significand that may overflow, from where on digits only
count for the exponent. -/

/-- Reading digits goes on from the number before them. -/
theorem foldl_digits (ds : List ℕ) : ∀ s : ℕ,
    ds.foldl (fun n d => n * 10 + d) s = s * 10 ^ ds.length + natural ds := by
  induction ds with
  | nil => simp [natural]
  | cons d ds ih =>
    intro s
    rw [natural, List.foldl_cons, List.foldl_cons, ih, ih, List.length_cons, pow_succ]
    ring

/-- Digits in front count by the power of ten of those behind. -/
theorem natural_append (ds es : List ℕ) :
    natural (ds ++ es) = natural ds * 10 ^ es.length + natural es := by
  rw [natural, List.foldl_append, foldl_digits]
  rfl

theorem natural_replicate_zero (n : ℕ) : natural (List.replicate n 0) = 0 := by
  induction n with
  | zero => rfl
  | succ n ih => rw [List.replicate_succ', natural_append, ih]; rfl

/-- Digits spell less than the next power of ten. -/
theorem natural_lt {ds : List ℕ} (h : ∀ d ∈ ds, d < 10) : natural ds < 10 ^ ds.length := by
  induction ds with
  | nil => exact Nat.one_pos
  | cons d ds ih =>
    have hd := h d List.mem_cons_self
    have hrest := ih fun x hx => h x (List.mem_cons_of_mem _ hx)
    rw [← List.singleton_append, natural_append, List.length_append, pow_add]
    have hone : natural [d] = d := by simp [natural]
    rw [hone, List.length_singleton, pow_one]
    nlinarith

/-- The exponent a literal writes out. -/
def writtenExponent (lit : Literal) : ℤ :=
  match lit.exponent with
  | none => 0
  | some (below, ds) => if below then -natural ds else natural ds

/-- The decimal a literal spells, without its sign. -/
def toRat (lit : Literal) : ℚ :=
  natural (lit.whole ++ lit.fraction.getD [])
    * 10 ^ (lit.writtenExponent - (lit.fraction.getD []).length)

theorem natural_cons (d : ℕ) (ds : List ℕ) :
    natural (d :: ds) = d * 10 ^ ds.length + natural ds := by
  rw [natural, List.foldl_cons, foldl_digits, zero_mul, zero_add]

/-- Digits that enter the significand make no more of a fraction than all of them. -/
theorem fractionPart_spec (ds : List ℕ) : ∀ {s : ℕ} (count : ℕ), s ≤ significandMax →
    (fractionPart s count ds).1 ≤ significandMax
      ∧ ((fractionPart s count ds).1 : ℚ) * 10 ^ (-((fractionPart s count ds).2 : ℤ))
        ≤ (s * 10 ^ ds.length + natural ds : ℕ) * 10 ^ (-(count + ds.length : ℤ)) := by
  induction ds with
  | nil =>
    intro s count hs
    exact ⟨hs, by simp [fractionPart, natural]⟩
  | cons d ds ih =>
    intro s count hs
    rw [fractionPart]
    split
    · -- The digits from here on are dropped.
      refine ⟨hs, ?_⟩
      have hsplit : (10 : ℚ) ^ (-(count : ℤ))
          = 10 ^ (d :: ds).length * 10 ^ (-(count + (d :: ds).length : ℤ)) := by
        rw [← zpow_natCast, ← zpow_add₀ (by norm_num)]
        congr 1
        ring
      rw [hsplit, ← mul_assoc]
      push_cast
      gcongr
      exact le_add_of_nonneg_right (by positivity)
    · rename_i hle
      obtain ⟨hmax, hvalue⟩ := ih (count + 1) (not_lt.mp hle)
      refine ⟨hmax, hvalue.trans (le_of_eq ?_)⟩
      rw [natural_cons, List.length_cons, pow_succ]
      push_cast
      congr 1
      · ring
      · congr 1; ring

/-- With an exponent, the digits that enter the significand still make no more than all of them. -/
theorem fractionPart_shift {whole : List ℕ} (h : natural whole ≤ significandMax) (ds : List ℕ)
    (x : ℤ) : (fractionPart (natural whole) 0 ds).1
      * (10 : ℚ) ^ (0 - ((fractionPart (natural whole) 0 ds).2 : ℤ) + x)
        ≤ natural (whole ++ ds) * 10 ^ (x - ds.length) := by
  have hvalue := (fractionPart_spec ds 0 h).2
  rw [← natural_append] at hvalue
  have hpow : (0 : ℚ) ≤ 10 ^ x := by positivity
  refine le_of_eq_of_le ?_ ((mul_le_mul_of_nonneg_right hvalue hpow).trans_eq ?_)
  · rw [mul_assoc, ← zpow_add₀ (by norm_num), zero_sub]
  · rw [mul_assoc, ← zpow_add₀ (by norm_num)]
    congr 2
    ring

/-- The number of a literal that writes out an exponent. -/
theorem value?_of_exponent {negative below : Bool} {whole digits : List ℕ}
    {fraction : Option (List ℕ)} (h : natural whole ≤ significandMax) :
    (⟨negative, whole, fraction, some (below, digits)⟩ : Literal).value?
      = if natural digits > exponentMax then
          if (fractionPart (natural whole) 0 (fraction.getD [])).1 ≠ 0 ∧ !below then none
          else some (.float negative .zero)
        else double? negative (fractionPart (natural whole) 0 (fraction.getD [])).1
          (0 - ((fractionPart (natural whole) 0 (fraction.getD [])).2 : ℤ)
            + if below then -(natural digits : ℤ) else natural digits) := by
  have hpart : wholePart 0 whole = (natural whole, 0) := wholePart_of_le h
  rw [value?]
  dsimp only
  rw [hpart]
  cases below <;> simp [sub_eq_add_neg]

/-- **A literal that is not above the safe bound has a number.** -/
theorem exists_value? {lit : Literal} (hwhole : natural lit.whole ≤ significandMax)
    (hexp : ∀ e ∈ lit.exponent, e.1 ∨ natural e.2 ≤ exponentMax) (h : lit.toRat ≤ safeBound) :
    ∃ n, lit.value? = some n := by
  obtain ⟨negative, whole, fraction, exponent⟩ := lit
  dsimp only at hwhole hexp
  have hpart : wholePart 0 whole = (natural whole, 0) := wholePart_of_le hwhole
  have hmax := (fractionPart_spec (fraction.getD []) 0 hwhole).1
  rcases exponent with _ | ⟨below, digits⟩
  · have hle := (fractionPart_shift hwhole (fraction.getD []) 0).trans h
    rcases fraction with _ | ds
    · have hint : (natural whole : ℚ) * 10 ^ (0 : ℤ) ≤ safeBound := by
        simpa [toRat, writtenExponent] using h
      rw [value?]
      dsimp only
      rw [hpart]
      dsimp only
      rw [if_neg (lt_irrefl 0)]
      split
      · exact ⟨_, rfl⟩
      · split
        · exact isSome_double? true hwhole (.inr hint)
        · exact ⟨_, rfl⟩
    · rw [value?]
      dsimp only
      rw [hpart]
      rw [add_zero] at hle
      exact isSome_double? negative hmax (.inr hle)
  · have hle := (fractionPart_shift hwhole (fraction.getD []) _).trans h
    have hlimit := hexp _ rfl
    rw [value?_of_exponent hwhole]
    split
    · rename_i hlarge
      have hbelow : below = true := hlimit.resolve_right (not_le.mpr hlarge)
      exact ⟨.float negative .zero, by simp [hbelow]⟩
    · exact isSome_double? negative hmax (.inr hle)

/-! ## The literal of a double

Whether a double is written around a point or with an exponent is decided by the place of its first
digit. -/

/-- The place of the first digit of a decimal. -/
def leadPlace (d : ℕ) (unit : ℤ) : ℤ := unit + ((writtenDigits d).length - 1 : ℕ)

/-- The literal of a decimal: positional between `1e-5` and `1e16`, else with an exponent. -/
def ofDecimal (negative : Bool) (d : ℕ) (unit : ℤ) : Literal :=
  let ds := writtenDigits d
  let place := leadPlace d unit
  if place < -5 ∨ 16 ≤ place then
    ⟨negative, ds.take 1, if ds.drop 1 = [] then none else some (ds.drop 1),
      some (place < 0, writtenDigits place.natAbs)⟩
  else if 0 ≤ unit then ⟨negative, ds ++ List.replicate unit.natAbs 0, some [0], none⟩
  else if 0 ≤ place then
    ⟨negative, ds.take (place.natAbs + 1), some (ds.drop (place.natAbs + 1)), none⟩
  else ⟨negative, [0], some (List.replicate (place.natAbs - 1) 0 ++ ds), none⟩

theorem one_le_length_writtenDigits (n : ℕ) : 1 ≤ (writtenDigits n).length :=
  List.length_pos_iff.mpr (isWhole_writtenDigits n).ne_nil

/-- The exponent that is written out for a place is that place. -/
theorem signed_writtenDigits (place : ℤ) :
    (if (place < 0 : Bool) then -(natural (writtenDigits place.natAbs) : ℤ)
      else natural (writtenDigits place.natAbs)) = place := by
  rw [natural_writtenDigits]
  by_cases hneg : place < 0
  · rw [if_pos (by simpa using hneg)]; omega
  · rw [if_neg (by simpa using hneg)]; omega

/-- A fraction of no digits is left out. -/
theorem getD_unless_nil (ds : List ℕ) : (if ds = [] then none else some ds).getD [] = ds := by
  split
  · rename_i h
    rw [Option.getD_none, h]
  · rw [Option.getD_some]

/-- **The literal of a decimal spells that decimal.** -/
theorem toRat_ofDecimal (negative : Bool) (d : ℕ) (unit : ℤ) :
    (ofDecimal negative d unit).toRat = d * 10 ^ unit := by
  have hlen := one_le_length_writtenDigits d
  have hnat := natural_writtenDigits d
  unfold ofDecimal
  dsimp only
  generalize hplace : leadPlace d unit = place
  rw [leadPlace] at hplace
  generalize writtenDigits d = ds at *
  split
  · rw [toRat, writtenExponent]
    dsimp only
    rw [signed_writtenDigits, getD_unless_nil, List.take_append_drop, hnat, List.length_drop]
    congr 2
    omega
  · split
    · have hexp : unit = (unit.natAbs : ℤ) := by omega
      have hpow : (10 : ℚ) ^ unit = 10 ^ unit.natAbs := by rw [← zpow_natCast, ← hexp]
      have hzero : natural [0] = 0 := rfl
      rw [toRat, writtenExponent, hpow]
      dsimp only [Option.getD_some]
      rw [natural_append, natural_append, natural_replicate_zero, hzero, hnat,
        List.length_replicate,
        List.length_singleton, zero_sub, zpow_neg]
      push_cast
      norm_num
      ring
    · split
      · rw [toRat, writtenExponent]
        dsimp only [Option.getD_some]
        rw [List.take_append_drop, hnat, List.length_drop]
        congr 2
        omega
      · rw [toRat, writtenExponent]
        dsimp only [Option.getD_some]
        rw [List.singleton_append, natural_cons, natural_append, natural_replicate_zero, hnat,
          List.length_append, List.length_replicate]
        simp only [zero_mul, zero_add]
        congr 2
        omega

/-- The literal of a double zero. -/
theorem ofDecimal_zero (negative : Bool) :
    ofDecimal negative 0 0 = ⟨negative, [0], some [0], none⟩ := by
  simp [ofDecimal, leadPlace, writtenDigits]

theorem wellFormed_ofDecimal (negative : Bool) {d : ℕ} (hd : 0 < d) (unit : ℤ) :
    (ofDecimal negative d unit).WellFormed := by
  have hlt : ∀ x ∈ writtenDigits d, x < 10 := fun x => lt_of_mem_writtenDigits
  have hplace : leadPlace d unit = unit + ((writtenDigits d).length - 1 : ℕ) := rfl
  obtain ⟨x, ds, hds, hx⟩ := exists_digitsOf_eq_cons hd.ne'
  have hwritten : writtenDigits d = x :: ds := by rw [writtenDigits, if_neg hd.ne', hds]
  unfold ofDecimal
  dsimp only
  generalize leadPlace d unit = place at *
  rw [hwritten] at hlt hplace ⊢
  have htake : ∀ n, ∀ y ∈ (x :: ds).take n, y < 10 := fun n y hy => hlt y (List.mem_of_mem_take hy)
  have hdrop : ∀ n, ∀ y ∈ (x :: ds).drop n, y < 10 := fun n y hy => hlt y (List.mem_of_mem_drop hy)
  split
  · refine ⟨.inr ⟨x, [], rfl, hx⟩, htake 1, ?_, ?_⟩
    · intro fs hfs
      dsimp only at hfs
      split at hfs
      · cases hfs
      · rename_i hne
        obtain rfl := Option.mem_some.mp hfs
        exact ⟨hne, hdrop 1⟩
    · rintro e he
      obtain rfl := Option.mem_some.mp he
      exact ⟨(isWhole_writtenDigits _).ne_nil, fun y => lt_of_mem_writtenDigits⟩
  · split
    · refine ⟨.inr ⟨x, _, rfl, hx⟩, ?_, by simp, by simp⟩
      intro y hy
      rcases List.mem_append.mp hy with hy | hy
      · exact hlt y hy
      · rw [List.eq_of_mem_replicate hy]; omega
    · split
      · refine ⟨.inr ⟨x, ds.take place.natAbs, rfl, hx⟩, htake _, ?_, by simp⟩
        rintro fs hfs
        obtain rfl := Option.mem_some.mp hfs
        refine ⟨?_, hdrop _⟩
        rw [ne_eq, List.drop_eq_nil_iff]
        omega
      · refine ⟨.inl rfl, by simp, ?_, by simp⟩
        rintro fs hfs
        obtain rfl := Option.mem_some.mp hfs
        refine ⟨by simp, fun y hy => ?_⟩
        rcases List.mem_append.mp hy with hy | hy
        · rw [List.eq_of_mem_replicate hy]; omega
        · exact hlt y hy

/-- The literal of a decimal has few digits in front of its point. -/
theorem length_whole_ofDecimal_le (negative : Bool) (d : ℕ) (unit : ℤ) :
    (ofDecimal negative d unit).whole.length ≤ 16 := by
  have hlen := one_le_length_writtenDigits d
  have hplace : leadPlace d unit = unit + ((writtenDigits d).length - 1 : ℕ) := rfl
  unfold ofDecimal
  dsimp only
  split
  · simp
  · split
    · simp only [List.length_append, List.length_replicate]
      omega
    · split
      · simp only [List.length_take]
        omega
      · simp

/-- The first digit is at least one, so a decimal is not below the power of ten of its place. -/
theorem ten_zpow_leadPlace_le {d : ℕ} (hd : 0 < d) (unit : ℤ) :
    (10 : ℚ) ^ leadPlace d unit ≤ d * 10 ^ unit := by
  obtain ⟨x, ds, hds, hx⟩ := exists_digitsOf_eq_cons hd.ne'
  have hwritten : writtenDigits d = x :: ds := by rw [writtenDigits, if_neg hd.ne', hds]
  have hle : 10 ^ ds.length ≤ d := by
    have hnat := natural_writtenDigits d
    rw [hwritten, natural_cons] at hnat
    calc 10 ^ ds.length ≤ x * 10 ^ ds.length := Nat.le_mul_of_pos_left _ (by omega)
      _ ≤ d := by omega
  have hlen : ((x :: ds).length - 1 : ℕ) = ds.length := rfl
  rw [leadPlace, hwritten, hlen, add_comm, zpow_add₀ (by norm_num), zpow_natCast]
  gcongr
  exact_mod_cast hle

/-- **A decimal that is not above the safe bound has a number**, whatever form it is written in. -/
theorem exists_value?_ofDecimal (negative : Bool) {d : ℕ} (hd : 0 < d) {unit : ℤ}
    (h : d * (10 : ℚ) ^ unit ≤ safeBound) : ∃ n, (ofDecimal negative d unit).value? = some n := by
  refine exists_value? ?_ ?_ ((toRat_ofDecimal negative d unit).trans_le h)
  · have hlt := natural_lt (wellFormed_ofDecimal negative hd unit).whole
    have hlength := length_whole_ofDecimal_le negative d unit
    have hpow := Nat.pow_le_pow_right (by omega : 0 < 10) hlength
    rw [significandMax, UInt64.size]
    omega
  · intro e he
    have hplace : leadPlace d unit < 309 := by
      refine (zpow_lt_zpow_iff_right₀ (by norm_num : (1 : ℚ) < 10)).mp ?_
      calc (10 : ℚ) ^ leadPlace d unit ≤ d * 10 ^ unit := ten_zpow_leadPlace_le hd unit
        _ ≤ safeBound := h
        _ < 10 ^ 309 := safeBound_lt.trans Binary64.overflowBound_lt_ten_pow
    unfold ofDecimal at he
    dsimp only at he
    split at he
    · obtain rfl := Option.mem_some.mp he
      rcases lt_or_ge (leadPlace d unit) 0 with hneg | hpos
      · exact .inl (by simpa using hneg)
      · right
        rw [natural_writtenDigits, exponentMax]
        omega
    · split at he
      · cases he
      · split at he <;> cases he

end Literal

end CameraViewer.Json
