import CameraViewer.Json.Tree
import CameraViewer.Proofs.Text.Lines
import Mathlib.Data.Nat.Digits.Lemmas
import Mathlib.Tactic.IntervalCases
import Mathlib.Tactic.Ring

/-!
# Proofs/Json/Literals — written numbers and strings are read back

`readLiteral_render` for the literals of numbers, `readString_escaped` for all strings. Both leave
what follows untouched, as long as it does not carry the literal on (`Breaks`). The literal of an
integer of 64 bits has that integer as its value (`value?_literalOf`).
-/

namespace CameraViewer.Json

/-! ## Decimal digits

Digits are taken as numbers here, so that what is read and what is written can be compared before
any characters are. -/

/-- What may follow a value inside a document: nothing, a comma or a closing bracket. -/
inductive Breaks : List Char → Prop
  | nil : Breaks []
  | comma (cs : List Char) : Breaks (',' :: cs)
  | bracket (cs : List Char) : Breaks (']' :: cs)
  | brace (cs : List Char) : Breaks ('}' :: cs)

/-- The values of the decimal digits of a natural number, the first one in front. -/
def digitsOf (n : ℕ) : List ℕ := (Nat.digits 10 n).reverse

/-- Digits of numbers other than zero show something else than a zero, and none shows a minus. -/
theorem digitChar_ne {d : ℕ} (h : d < 10) : (d ≠ 0 → d.digitChar ≠ '0') ∧ d.digitChar ≠ '-' := by
  interval_cases d <;> decide

/-- **The decimal text is the text of its digits.** -/
theorem decimal_eq (n : ℕ) (hn : n ≠ 0) :
    Binary64.decimal n = (digitsOf n).map Nat.digitChar := by
  induction n using Nat.strong_induction_on with
  | _ n ih =>
    rw [Binary64.decimal, digitsOf]
    rcases Nat.lt_or_ge n 10 with h | h
    · rw [Nat.toDigits_of_lt_base h, Nat.digits_of_lt 10 n hn h]
      rfl
    · have hq : n / 10 ≠ 0 := by omega
      have hrec := ih (n / 10) (by omega) hq
      rw [Binary64.decimal, digitsOf] at hrec
      rw [Nat.toDigits_of_base_le (by omega) h, hrec,
        Nat.digits_eq_cons_digits_div (n := n) (by omega) hn,
        List.reverse_cons, List.map_append]
      rfl

theorem lt_of_mem_digitsOf {n d : ℕ} (h : d ∈ digitsOf n) : d < 10 :=
  Nat.digits_lt_base (by omega) (List.mem_reverse.mp h)

/-- The digits spell the number. -/
theorem natural_digitsOf (n : ℕ) : Literal.natural (digitsOf n) = n := by
  rw [Literal.natural, digitsOf, Text.foldl_eq_ofDigits, List.reverse_reverse, Nat.ofDigits_digits]

/-- A number of at most 64 bits loses no digit. -/
theorem wholePart_of_le {ds : List ℕ} {s : ℕ}
    (h : ds.foldl (fun n d => n * 10 + d) s ≤ Literal.significandMax) :
    Literal.wholePart s ds = (ds.foldl (fun n d => n * 10 + d) s, 0) := by
  induction ds generalizing s with
  | nil => rfl
  | cons d ds ih =>
    have hgrow : ∀ (l : List ℕ) (a : ℕ), a ≤ l.foldl (fun n d => n * 10 + d) a := by
      intro l
      induction l with
      | nil => intro a; exact le_rfl
      | cons x l ihl => intro a; exact le_trans (by omega) (ihl (a * 10 + x))
    have hle : s * 10 + d ≤ Literal.significandMax := le_trans (hgrow ds _) h
    rw [Literal.wholePart, if_neg (by omega), ih h]
    rfl

/-- The first digit of a number other than zero is not zero. -/
theorem exists_digitsOf_eq_cons {n : ℕ} (hn : n ≠ 0) : ∃ d ds, digitsOf n = d :: ds ∧ d ≠ 0 := by
  have hne : Nat.digits 10 n ≠ [] := Nat.digits_ne_nil_iff_ne_zero.mpr hn
  have hlast := Nat.getLast_digit_ne_zero 10 hn
  refine ⟨(Nat.digits 10 n).getLast hne, ((Nat.digits 10 n).dropLast).reverse, ?_, hlast⟩
  rw [digitsOf]
  conv_lhs => rw [← List.dropLast_append_getLast hne]
  simp

/-- The digits that stand in the text of a number. -/
def writtenDigits (n : ℕ) : List ℕ := if n = 0 then [0] else digitsOf n

theorem natural_writtenDigits (n : ℕ) : Literal.natural (writtenDigits n) = n := by
  unfold writtenDigits
  split
  · subst n; rfl
  · exact natural_digitsOf n

theorem decimal_eq_map (n : ℕ) : Binary64.decimal n = (writtenDigits n).map Nat.digitChar := by
  rw [writtenDigits]
  split
  · subst n; rfl
  · rename_i hn; exact decimal_eq n hn

theorem lt_of_mem_writtenDigits {n d : ℕ} (h : d ∈ writtenDigits n) : d < 10 := by
  rw [writtenDigits] at h
  split at h
  · simp at h; omega
  · exact lt_of_mem_digitsOf h

/-- Digits as they stand in front of a point: a zero alone, or some that start with another digit.
-/
def IsWhole (ds : List ℕ) : Prop := ds = [0] ∨ ∃ d rest, ds = d :: rest ∧ d ≠ 0

/-- A written number starts with no zero that could be left out. -/
theorem isWhole_writtenDigits (n : ℕ) : IsWhole (writtenDigits n) := by
  rw [writtenDigits]
  split
  · exact .inl rfl
  · rename_i hn; exact .inr (exists_digitsOf_eq_cons hn)

theorem IsWhole.ne_nil {ds : List ℕ} (h : IsWhole ds) : ds ≠ [] := by
  rcases h with rfl | ⟨_, _, rfl, -⟩ <;> simp

/-! ## The text of a literal -/

namespace Literal

/-- The text of a fraction, its point in front. -/
def fractionText : Option (List ℕ) → List Char
  | none => []
  | some ds => '.' :: ds.map Nat.digitChar

/-- The text of an exponent, always with a sign. -/
def exponentText : Option (Bool × List ℕ) → List Char
  | none => []
  | some (below, ds) => 'e' :: (if below then '-' else '+') :: ds.map Nat.digitChar

/-- The text of a literal. -/
def render (lit : Literal) : List Char :=
  (if lit.negative then ['-'] else [])
    ++ (lit.whole.map Nat.digitChar ++ (fractionText lit.fraction ++ exponentText lit.exponent))

/-- A literal that follows the grammar of JSON. -/
structure WellFormed (lit : Literal) : Prop where
  /-- No zero stands in front of other digits. -/
  isWhole : IsWhole lit.whole
  /-- Before the point stand decimal digits, … -/
  whole : ∀ d ∈ lit.whole, d < 10
  /-- … and behind it at least one. -/
  fraction : ∀ ds ∈ lit.fraction, ds ≠ [] ∧ ∀ d ∈ ds, d < 10
  /-- An exponent has at least one digit. -/
  exponent : ∀ e ∈ lit.exponent, e.2 ≠ [] ∧ ∀ d ∈ e.2, d < 10

/-- The text of a literal starts with a minus or a digit. -/
theorem WellFormed.exists_render_eq_cons {lit : Literal} (h : lit.WellFormed) :
    ∃ c cs, lit.render = c :: cs ∧ (c = '-' ∨ ∃ d < 10, c = Nat.digitChar d) := by
  obtain ⟨d, ds, hds⟩ := List.exists_cons_of_ne_nil h.isWhole.ne_nil
  rw [render]
  split
  · exact ⟨_, _, rfl, .inl rfl⟩
  · exact ⟨d.digitChar, _, by rw [hds]; rfl, .inr ⟨d, h.whole d (by simp [hds]), rfl⟩⟩

end Literal

/-! ## Reading a literal

Each part is read up to where the next one starts, so what follows a part is carried along in every
lemma. `Breaks` is all that is assumed of it in the end. -/

/-- Digits are read up to where none follows. -/
theorem spanDigits_digits {rest : List Char} (h : spanDigits rest = ([], rest)) :
    ∀ ds : List ℕ, (∀ d ∈ ds, d < 10) → spanDigits (ds.map Nat.digitChar ++ rest) = (ds, rest)
  | [], _ => h
  | d :: ds, hd => by
    have hrest := spanDigits_digits h ds fun x hx => hd x (List.mem_cons_of_mem _ hx)
    rw [List.map_cons, List.cons_append, spanDigits,
      Text.digitValue?_digitChar (hd d (by simp)), hrest]

theorem spanDigits_breaks {rest : List Char} (h : Breaks rest) : spanDigits rest = ([], rest) := by
  cases h <;> rfl

/-- Neither a digit nor a point goes on where the exponent or the end of a number stands. -/
theorem spanDigits_exponentText (e : Option (Bool × List ℕ)) {rest : List Char} (h : Breaks rest) :
    spanDigits (Literal.exponentText e ++ rest) = ([], Literal.exponentText e ++ rest) := by
  cases e with
  | none => exact spanDigits_breaks h
  | some e => rfl

/-- A fraction that is left out is not read. -/
theorem readFraction_exponentText (e : Option (Bool × List ℕ)) {rest : List Char}
    (h : Breaks rest) :
    readFraction (Literal.exponentText e ++ rest)
      = some (none, Literal.exponentText e ++ rest) := by
  cases e with
  | none => cases h <;> rfl
  | some e => rfl

theorem readExponent_exponentText {e : Option (Bool × List ℕ)}
    (he : ∀ x ∈ e, x.2 ≠ [] ∧ ∀ d ∈ x.2, d < 10) {rest : List Char} (h : Breaks rest) :
    readExponent (Literal.exponentText e ++ rest) = some (e, rest) := by
  rcases e with _ | ⟨below, ds⟩
  · cases h <;> rfl
  · obtain ⟨hne, hlt⟩ := he _ rfl
    have hspan := spanDigits_digits (spanDigits_breaks h) ds hlt
    obtain ⟨d, ds, rfl⟩ := List.exists_cons_of_ne_nil hne
    rw [List.map_cons, List.cons_append] at hspan
    cases below <;>
      simp [Literal.exponentText, readExponent, readExponentDigits, exponentSign, hspan]

theorem readFraction_fractionText {f : Option (List ℕ)} (hf : ∀ ds ∈ f, ds ≠ [] ∧ ∀ d ∈ ds, d < 10)
    (e : Option (Bool × List ℕ)) {rest : List Char} (h : Breaks rest) :
    readFraction (Literal.fractionText f ++ (Literal.exponentText e ++ rest))
      = some (f, Literal.exponentText e ++ rest) := by
  rcases f with _ | ds
  · exact readFraction_exponentText e h
  · obtain ⟨hne, hlt⟩ := hf _ rfl
    have hspan := spanDigits_digits (spanDigits_exponentText e h) ds hlt
    obtain ⟨d, ds, rfl⟩ := List.exists_cons_of_ne_nil hne
    rw [Literal.fractionText, List.cons_append, readFraction, hspan]

/-- The whole digits end where a fraction starts. -/
theorem spanDigits_fractionText (f : Option (List ℕ)) (e : Option (Bool × List ℕ))
    {rest : List Char} (h : Breaks rest) :
    spanDigits (Literal.fractionText f ++ (Literal.exponentText e ++ rest))
      = ([], Literal.fractionText f ++ (Literal.exponentText e ++ rest)) := by
  cases f with
  | none => exact spanDigits_exponentText e h
  | some ds => rfl

/-- The whole digits are read as they stand. -/
theorem readWhole_digits {ds : List ℕ} (hwhole : IsWhole ds) (hlt : ∀ d ∈ ds, d < 10)
    {rest : List Char} (h : spanDigits rest = ([], rest)) :
    readWhole (ds.map Nat.digitChar ++ rest) = some (ds, rest) := by
  rcases hwhole with rfl | ⟨d, ds, rfl, hd⟩
  · rfl
  · have hspan := spanDigits_digits h _ hlt
    have hchar : d.digitChar ≠ '0' := (digitChar_ne (hlt d (by simp))).1 hd
    rw [List.map_cons, List.cons_append] at hspan ⊢
    unfold readWhole
    split
    · rename_i heq
      exact absurd (List.cons.inj heq).1 hchar
    · rw [hspan]

/-- **The text of a literal is read as that literal.** -/
theorem readLiteral_render {lit : Literal} (hlit : lit.WellFormed) {rest : List Char}
    (h : Breaks rest) : readLiteral (lit.render ++ rest) = some (lit, rest) := by
  have hwhole := readWhole_digits hlit.isWhole hlit.whole
    (spanDigits_fractionText lit.fraction lit.exponent h)
  have hfraction := readFraction_fractionText hlit.fraction lit.exponent h
  have hexponent := readExponent_exponentText hlit.exponent h
  obtain ⟨d, ds, hds⟩ := List.exists_cons_of_ne_nil hlit.isWhole.ne_nil
  have hminus : d.digitChar ≠ '-' := (digitChar_ne (hlit.whole d (by simp [hds]))).2
  rw [Literal.render]
  simp only [List.append_assoc]
  split
  · rename_i hneg
    simp [readLiteral, hwhole, hfraction, hexponent, ← hneg]
  · rename_i hneg
    rw [hds, List.map_cons, List.cons_append] at hwhole ⊢
    rw [List.nil_append]
    unfold readLiteral
    split
    rename_i negative cs' heq
    split at heq
    · rename_i hcs
      exact absurd (List.cons.inj hcs).1 hminus
    · obtain ⟨rfl, rfl⟩ := Prod.mk.inj heq
      have hfalse : lit.negative = false := by simpa using hneg
      simp [hwhole, hfraction, hexponent, ← hds, ← hfalse]

/-! ## Integers -/

/-- An integer that JSON numbers can hold. -/
def IsWord (n : ℤ) : Prop := -2 ^ 63 ≤ n ∧ n < 2 ^ 64

/-- The literal of an integer. -/
def literalOf (n : ℤ) : Literal := ⟨n < 0, writtenDigits n.natAbs, none, none⟩

theorem wellFormed_literalOf (n : ℤ) : (literalOf n).WellFormed where
  isWhole := isWhole_writtenDigits _
  whole _ hd := lt_of_mem_writtenDigits hd
  fraction := by simp [literalOf]
  exponent := by simp [literalOf]

theorem render_literalOf (n : ℤ) : (literalOf n).render = renderInt n := by
  rw [renderInt, Literal.render, literalOf, decimal_eq_map]
  split <;> simp_all [Literal.fractionText, Literal.exponentText]

/-- **The literal of an integer spells it.** -/
theorem value?_literalOf {n : ℤ} (h : IsWord n) : (literalOf n).value? = some (.int n) := by
  have hmax : n.natAbs ≤ Literal.significandMax := by
    rw [Literal.significandMax, UInt64.size]; obtain ⟨h1, h2⟩ := h; omega
  have hwhole : Literal.wholePart 0 (writtenDigits n.natAbs) = (n.natAbs, 0) := by
    have hnat := natural_writtenDigits n.natAbs
    rw [Literal.natural] at hnat
    rw [wholePart_of_le (by rw [hnat]; exact hmax), hnat]
  rw [Literal.value?, literalOf]
  simp only [hwhole]
  obtain ⟨h1, h2⟩ := h
  rcases lt_or_ge n 0 with hneg | hneg
  · have h0 : ¬ (n.natAbs = 0 ∨ n.natAbs > 2 ^ 63) := by omega
    simp only [hneg, decide_true, Bool.not_true, gt_iff_lt, lt_self_iff_false, if_false]
    rw [if_neg (by simp), if_neg (by simpa using h0)]
    exact congrArg (fun k => some (Number.int k)) (by omega)
  · have hneg' : ¬ n < 0 := by omega
    simp only [hneg', decide_false, Bool.not_false, gt_iff_lt, lt_self_iff_false, if_false, if_true]
    exact congrArg (fun k => some (Number.int k)) (by omega)

/-! ## Strings -/

/-- The piece a character is written as: a control without a short name is written by its code. -/
def pieceOf (c : Char) : Piece :=
  if c.toNat < 32 ∧ c.toNat ∉ [8, 9, 10, 12, 13] then .unit c.toNat else .char c

/-- The hexadecimal digits of a control. -/
theorem hexDigits_control {n : ℕ} (h : n < 32) :
    Text.hexDigits 4 n = ['0', '0', Text.hexDigit (n / 16), Text.hexDigit (n % 16)] :=
  (by decide : ∀ m : Fin 32, Text.hexDigits 4 m.1
    = ['0', '0', Text.hexDigit (m.1 / 16), Text.hexDigit (m.1 % 16)]) ⟨n, h⟩

theorem codeUnit?_control {n : ℕ} (h : n < 32) :
    codeUnit? '0' '0' (Text.hexDigit (n / 16)) (Text.hexDigit (n % 16)) = some n :=
  (by decide : ∀ m : Fin 32,
    codeUnit? '0' '0' (Text.hexDigit (m.1 / 16)) (Text.hexDigit (m.1 % 16)) = some m.1) ⟨n, h⟩

theorem eq_ofNat_of_toNat_eq {c : Char} {n : ℕ} (h : c.toNat = n) : c = Char.ofNat n := by
  rw [← h, Char.ofNat_toNat]

/-- **A written character is read as its piece.** -/
theorem readPieces_escapeChar (c : Char) (rest : List Char) :
    readPieces (escapeChar c ++ rest)
      = (readPieces rest).map fun p => (pieceOf c :: p.1, p.2) := by
  unfold escapeChar
  split
  case h_8 n h1 h2 h3 h4 h5 h6 h7 =>
    split
    · rename_i hlt
      rw [hexDigits_control hlt]
      simp only [List.cons_append, List.nil_append, readPieces, codeUnit?_control hlt]
      cases readPieces rest <;> simp_all [pieceOf]
    · rename_i hge
      have hq : c ≠ '"' := fun hc => h6 (by rw [hc]; rfl)
      have hb : c ≠ '\\' := fun hc => h7 (by rw [hc]; rfl)
      rw [List.cons_append, List.nil_append, readPieces.eq_5]
      · cases readPieces rest <;> simp_all [pieceOf]
      all_goals simp_all
  all_goals
    rename_i h
    obtain rfl := eq_ofNat_of_toNat_eq h
    cases hrest : readPieces rest <;> simp [readPieces, shortEscape?, hrest, pieceOf]

/-- A string is read piece by piece up to its quote. -/
theorem readPieces_escaped (cs rest : List Char) :
    readPieces (cs.flatMap escapeChar ++ '"' :: rest) = some (cs.map pieceOf, rest) := by
  induction cs with
  | nil => rw [List.flatMap_nil, List.nil_append, List.map_nil, readPieces]
  | cons c cs ih =>
    rw [List.flatMap_cons, List.append_assoc, readPieces_escapeChar, ih]
    rfl

/-- A code outside of the surrogates stands for its character. -/
theorem joinPieces_unit {n : ℕ} (h : n < 32) (ps : List Piece) :
    joinPieces (.unit n :: ps) = (joinPieces ps).map (Char.ofNat n :: ·) := by
  have h1 : ¬ (0xD800 ≤ n ∧ n ≤ 0xDBFF) := by omega
  have h2 : ¬ (0xDC00 ≤ n ∧ n ≤ 0xDFFF) := by omega
  rw [joinPieces.eq_def (.unit n :: ps)]
  simp only [if_neg h1, if_neg h2]

/-- The pieces of written characters spell them. -/
theorem joinPieces_pieceOf (cs : List Char) : joinPieces (cs.map pieceOf) = some cs := by
  induction cs with
  | nil => rfl
  | cons c cs ih =>
    rw [List.map_cons, pieceOf]
    split
    · rename_i h
      rw [joinPieces_unit h.1, ih, Char.ofNat_toNat]
      rfl
    · rw [joinPieces, ih]
      rfl

/-- **A written string is read back.** -/
theorem readString_escaped (s : String) (rest : List Char) :
    readString (s.toList.flatMap escapeChar ++ '"' :: rest) = some (some s, rest) := by
  simp [readString, readPieces_escaped, joinPieces_pieceOf]

end CameraViewer.Json
