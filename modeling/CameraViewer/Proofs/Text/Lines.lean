import CameraViewer.Text.Blank
import Mathlib.Data.List.DropRight
import Mathlib.Data.Nat.Digits.Defs
import Mathlib.Tactic.IntervalCases
import Mathlib.Tactic.Ring

/-!
# Proofs/Text/Lines — texts taken apart

What the readers of `Text` find, said without them: `splitAtChar` finds the pieces between the
occurrences of a character, `trim` what stands between blanks, and `readNumeral?` the numbers that
are written with digits (`IsNumeral`).
-/

namespace CameraViewer.Text

/-! ## Pieces -/

/-- Splitting at a character is splitting in the library. -/
theorem splitAtChar_eq_splitOn (sep : Char) (cs : List Char) :
    splitAtChar sep cs = cs.splitOn sep := by
  induction cs with
  | nil => rfl
  | cons c rest ih =>
    rw [List.splitOn, List.splitOnP_cons_eq_if_modifyHead, ← List.splitOn, ← ih, splitAtChar]
    cases hpieces : splitAtChar sep rest with
    | nil => exact absurd hpieces (splitAtChar_ne_nil sep rest)
    | cons piece pieces => simp

/-- A lead is found exactly where the text begins with it. -/
theorem dropLead?_eq_some_iff {lead cs rest : List Char} :
    dropLead? lead cs = some rest ↔ cs = lead ++ rest := by
  constructor
  · intro h
    induction lead generalizing cs with
    | nil => exact Option.some.inj h
    | cons l ls ih =>
      cases cs with
      | nil => cases h
      | cons c cs =>
        rw [dropLead?] at h
        split_ifs at h with hc
        rw [hc, ih h, List.cons_append]
  · rintro rfl
    exact dropLead?_append lead rest

/-! ## Blanks -/

/-- There is nothing but blanks. -/
def Blank (cs : List Char) : Prop := ∀ c ∈ cs, isBlank c = true

/-- A text starts and ends with something else than blanks, if there is anything. -/
structure Trimmed (cs : List Char) : Prop where
  first : ∀ c ∈ cs.head?, isBlank c = false
  last : ∀ c ∈ cs.getLast?, isBlank c = false

/-- Trimming drops blanks in front and behind. -/
theorem trim_eq (cs : List Char) : trim cs = (cs.dropWhile isBlank).rdropWhile isBlank := rfl

/-- Blanks are all that is lost. -/
theorem exists_trim (cs : List Char) :
    ∃ before after, Blank before ∧ Blank after ∧ cs = before ++ (trim cs ++ after) := by
  refine ⟨cs.takeWhile isBlank, (cs.dropWhile isBlank).rtakeWhile isBlank,
    fun c => List.mem_takeWhile_imp, fun c => List.mem_rtakeWhile_imp, ?_⟩
  rw [trim_eq, List.rdropWhile_append_rtakeWhile, List.takeWhile_append_dropWhile]

/-- A text that does not start with a blank keeps its start. -/
theorem dropWhile_append_of_head {cs : List Char} (h : ∀ c ∈ cs.head?, isBlank c = false)
    (hne : cs ≠ []) (rest : List Char) : (cs ++ rest).dropWhile isBlank = cs ++ rest := by
  obtain ⟨c, cs, rfl⟩ := List.exists_cons_of_ne_nil hne
  rw [List.cons_append, List.dropWhile_cons_of_neg (by simp [h c rfl])]

/-- **Whatever blanks stand around it, a trimmed text is found.** -/
theorem trim_append {before cs after : List Char} (hbefore : Blank before) (hafter : Blank after)
    (hcs : Trimmed cs) : trim (before ++ (cs ++ after)) = cs := by
  rw [trim_eq, List.dropWhile_append_of_pos hbefore]
  rcases eq_or_ne cs [] with rfl | hne
  · rw [List.nil_append, List.dropWhile_eq_nil_iff.mpr hafter, List.rdropWhile_nil]
  have hlast : ∀ c ∈ cs.reverse.head?, isBlank c = false := by
    rw [List.head?_reverse]
    exact hcs.last
  have hrev : Blank after.reverse := fun c hc => hafter c (List.mem_reverse.mp hc)
  have hkeep := dropWhile_append_of_head hlast (by simpa using hne) []
  rw [List.append_nil] at hkeep
  rw [dropWhile_append_of_head hcs.first hne, List.rdropWhile, List.reverse_append,
    List.dropWhile_append_of_pos hrev, hkeep, List.reverse_reverse]

/-! ## Numerals

A numeral may have a plus sign and leading zeros, so one number has many numerals. -/

/-- A number written with decimal digits, with or without a plus sign. -/
def IsNumeral (cs : List Char) (n : ℕ) : Prop :=
  ∃ ds : List ℕ, (cs = ds.map Nat.digitChar ∨ cs = '+' :: ds.map Nat.digitChar) ∧ ds ≠ []
    ∧ (∀ d ∈ ds, d < 10) ∧ n = Nat.ofDigits 10 ds.reverse

/-- A digit is read as what it stands for. -/
theorem digitValue?_digitChar {d : ℕ} (h : d < 10) : digitValue? d.digitChar = some d := by
  interval_cases d <;> decide

/-- The characters between the first and the last digit are digits. -/
theorem digitValue?_eq_some_iff {c : Char} {d : ℕ} :
    digitValue? c = some d ↔ d < 10 ∧ c = d.digitChar := by
  constructor
  · intro h
    rw [digitValue?] at h
    split_ifs at h with hc
    obtain ⟨hlow, hhigh⟩ := hc
    have hlow : 48 ≤ c.toNat := hlow
    have hhigh : c.toNat ≤ 57 := hhigh
    obtain rfl : c.toNat - 48 = d := Option.some.inj h
    refine ⟨by omega, ?_⟩
    rw [← Char.ofNat_toNat c]
    generalize c.toNat = k at hlow hhigh
    interval_cases k <;> decide
  · rintro ⟨hd, rfl⟩
    exact digitValue?_digitChar hd

/-- Reading digits from the left adds up what they stand for. -/
theorem foldl_eq_ofDigits (ds : List ℕ) :
    ds.foldl (fun n d => n * 10 + d) 0 = Nat.ofDigits 10 ds.reverse := by
  rw [← List.foldr_reverse]
  induction ds.reverse with
  | nil => rfl
  | cons d ds ih =>
    rw [List.foldr_cons, ih, Nat.ofDigits_cons]
    ring

/-- Digits are read after those before them. -/
theorem digitsValue?_eq_some_iff {cs : List Char} {acc n : ℕ} :
    digitsValue? acc cs = some n ↔ ∃ ds : List ℕ, cs = ds.map Nat.digitChar ∧ (∀ d ∈ ds, d < 10)
      ∧ n = ds.foldl (fun n d => n * 10 + d) acc := by
  induction cs generalizing acc with
  | nil =>
    constructor
    · intro h
      exact ⟨[], rfl, by simp, (Option.some.inj h).symm⟩
    · rintro ⟨ds, hds, -, rfl⟩
      obtain rfl := List.map_eq_nil_iff.mp hds.symm
      rfl
  | cons c cs ih =>
    rw [digitsValue?, Option.bind_eq_some_iff]
    constructor
    · rintro ⟨d, hd, hrest⟩
      obtain ⟨hlt, rfl⟩ := digitValue?_eq_some_iff.mp hd
      obtain ⟨ds, rfl, hds, rfl⟩ := ih.mp hrest
      exact ⟨d :: ds, rfl, List.forall_mem_cons.mpr ⟨hlt, hds⟩, rfl⟩
    · rintro ⟨ds, hcs, hds, rfl⟩
      obtain ⟨d, ds, rfl, rfl, rfl⟩ := List.map_eq_cons_iff.mp hcs.symm
      obtain ⟨hd, hds⟩ := List.forall_mem_cons.mp hds
      exact ⟨d, digitValue?_digitChar hd, ih.mpr ⟨ds, rfl, hds, rfl⟩⟩

/-- A digit is no plus sign and no blank. -/
theorem digitChar_ne {d : ℕ} (h : d < 10) : d.digitChar ≠ '+' ∧ isBlank d.digitChar = false := by
  interval_cases d <;> decide

/-- Digits alone are read as the number they spell. -/
theorem readDigits_eq_some_iff {bound n : ℕ} {cs : List Char} :
    (if cs.isEmpty then none else (digitsValue? 0 cs).filter (· < bound)) = some n
      ↔ (∃ ds : List ℕ, cs = ds.map Nat.digitChar ∧ ds ≠ [] ∧ (∀ d ∈ ds, d < 10)
        ∧ n = Nat.ofDigits 10 ds.reverse) ∧ n < bound := by
  constructor
  · intro h
    split_ifs at h with hempty
    obtain ⟨hvalue, hlt⟩ := Option.filter_eq_some_iff.mp h
    obtain ⟨ds, rfl, hds, rfl⟩ := digitsValue?_eq_some_iff.mp hvalue
    refine ⟨⟨ds, rfl, ?_, hds, foldl_eq_ofDigits ds⟩, of_decide_eq_true hlt⟩
    rintro rfl
    exact hempty rfl
  · rintro ⟨⟨ds, rfl, hne, hds, rfl⟩, hlt⟩
    rw [if_neg (by simpa using hne), Option.filter_eq_some_iff]
    exact ⟨digitsValue?_eq_some_iff.mpr ⟨ds, rfl, hds, (foldl_eq_ofDigits ds).symm⟩,
      decide_eq_true hlt⟩

/-- **What is read are the numerals of the numbers below the bound.** -/
theorem readNumeral?_eq_some_iff {bound n : ℕ} {cs : List Char} :
    readNumeral? bound cs = some n ↔ IsNumeral cs n ∧ n < bound := by
  by_cases hplus : ∃ rest, cs = '+' :: rest
  · obtain ⟨rest, rfl⟩ := hplus
    refine readDigits_eq_some_iff.trans (and_congr_left' (exists_congr fun ds => ?_))
    refine and_congr_left fun h => ⟨fun hrest => .inr (congrArg _ hrest), ?_⟩
    rintro (hds | hds)
    · obtain ⟨d, ds, rfl, hd, -⟩ := List.map_eq_cons_iff.mp hds.symm
      exact absurd hd (digitChar_ne (h.2.1 d List.mem_cons_self)).1
    · exact (List.cons.inj hds).2
  · have hsame : readNumeral? bound cs
        = if cs.isEmpty then none else (digitsValue? 0 cs).filter (· < bound) := by
      rw [readNumeral?]
      exact fun rest hrest => hplus ⟨rest, hrest⟩
    rw [hsame]
    refine readDigits_eq_some_iff.trans (and_congr_left' (exists_congr fun ds => ?_))
    refine and_congr_left' ⟨.inl, ?_⟩
    exact fun h => h.resolve_right fun hds => hplus ⟨_, hds⟩

/-- A numeral has no blanks at its ends. -/
theorem IsNumeral.trimmed {cs : List Char} {n : ℕ} (h : IsNumeral cs n) : Trimmed cs ∧ cs ≠ [] := by
  obtain ⟨ds, hcs, hne, hds, -⟩ := h
  have hdigit : ∀ c ∈ ds.map Nat.digitChar, isBlank c = false :=
    List.forall_mem_map.mpr fun d hd => (digitChar_ne (hds d hd)).2
  have hall : ∀ c ∈ cs, isBlank c = false := by
    rcases hcs with rfl | rfl
    · exact hdigit
    · exact List.forall_mem_cons.mpr ⟨rfl, hdigit⟩
  refine ⟨⟨fun c hc => hall c (List.mem_of_head? hc), fun c hc => hall c (List.mem_of_getLast? hc)⟩,
    ?_⟩
  rcases hcs with rfl | rfl
  · simpa using hne
  · simp

end CameraViewer.Text
