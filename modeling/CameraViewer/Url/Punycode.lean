/-!
# Url/Punycode — names in letters, digits and hyphens

A label with other characters is written as its plain characters, a hyphen, and digits that tell
where the others go and which they are. Each of the other characters is a difference to the one
before; a difference is a numeral of base 36 whose digits have thresholds that follow a bias.
-/

namespace CameraViewer.Url.Punycode

/-- The digit of a value below 36. -/
def digit (d : Nat) : Char := if d < 26 then Char.ofNat (0x61 + d) else Char.ofNat (0x30 + (d - 26))

/-- The value of a digit. -/
def value? (c : Char) : Option Nat :=
  if 'a' ≤ c ∧ c ≤ 'z' then some (c.toNat - 0x61)
  else if 'A' ≤ c ∧ c ≤ 'Z' then some (c.toNat - 0x41)
  else if '0' ≤ c ∧ c ≤ '9' then some (c.toNat - 0x30 + 26)
  else none

/-- The threshold of the digit at position `k`, which counts from 36 in steps of 36. -/
def threshold (k bias : Nat) : Nat := if k ≤ bias then 1 else if bias + 26 ≤ k then 26 else k - bias

theorem threshold_pos (k bias : Nat) : 1 ≤ threshold k bias := by
  unfold threshold; split <;> (try split) <;> omega

theorem threshold_le (k bias : Nat) : threshold k bias ≤ 26 := by
  unfold threshold; split <;> (try split) <;> omega

/-- Divides a difference down to what one digit pair can hold, counting the positions. -/
def adaptLoop (delta k : Nat) : Nat × Nat :=
  if 455 < delta then adaptLoop (delta / 35) (k + 36) else (delta, k)
termination_by delta
decreasing_by omega

/-- The bias after a difference, when `points` characters are in place. -/
def adapt (delta points : Nat) (first : Bool) : Nat :=
  let scaled := if first then delta / 700 else delta / 2
  let (rest, k) := adaptLoop (scaled + scaled / points) 0
  k + 36 * rest / (rest + 38)

/-- Plain characters stand for themselves. -/
def isPlain (c : Char) : Bool := c.toNat < 0x80

/-! ## Writing -/

/-- The digits of a difference from position `k` on. -/
def deltaDigits (bias k q : Nat) : List Char :=
  let t := threshold k bias
  if q < t then [digit q]
  else digit (t + (q - t) % (36 - t)) :: deltaDigits bias (k + 36) ((q - t) / (36 - t))
termination_by q
decreasing_by
  have h1 := threshold_pos k bias
  have h2 := threshold_le k bias
  exact Nat.lt_of_le_of_lt (Nat.div_le_self _ _) (by omega)

/-- The writer: digits so far, the difference that runs, the bias, and how many characters are in
place. -/
structure Writer where
  out : List Char
  delta : Nat
  bias : Nat
  placed : Nat

/-- Passes one character of the label while the characters `point` are put in place. -/
def Writer.pass (plain point : Nat) (w : Writer) (c : Char) : Writer :=
  if c.toNat < point then { w with delta := w.delta + 1 }
  else if c.toNat = point then
    ⟨w.out ++ deltaDigits w.bias 36 w.delta, 0, adapt w.delta (w.placed + 1) (w.placed = plain),
      w.placed + 1⟩
  else w

/-- Puts all characters in place that are not plain, from the smallest on. -/
def Writer.run (label : List Char) (plain : Nat) : List Nat → Nat → Writer → Writer
  | [], _, w => w
  | point :: rest, low, w =>
    let w := { w with delta := w.delta + (point - low) * (w.placed + 1) }
    let w := label.foldl (pass plain point) w
    run label plain rest (point + 1) { w with delta := w.delta + 1 }

/-- The distinct numbers of a list in ascending order. -/
def ascending (points : List Nat) : List Nat := (points.mergeSort (· ≤ ·)).eraseDups

/-- A label in plain characters. -/
def encode (label : List Char) : List Char :=
  let plain := label.filter isPlain
  let points := ascending ((label.filter (!isPlain ·)).map Char.toNat)
  (if plain.isEmpty then [] else plain ++ ['-'])
    ++ (Writer.run label plain.length points 0x80 ⟨[], 0, 72, plain.length⟩).out

/-! ## Reading -/

/-- One difference from position `k` on, and the digits that follow it. -/
def readDelta? (bias : Nat) : Nat → Nat → Nat → List Char → Option (Nat × List Char)
  | _, _, _, [] => none
  | k, weight, acc, c :: rest => do
    let d ← value? c
    let acc := acc + d * weight
    let t := threshold k bias
    if d < t then return (acc, rest) else readDelta? bias (k + 36) (weight * (36 - t)) acc rest

theorem length_lt_of_readDelta? {bias : Nat} {cs : List Char} :
    ∀ {k weight acc d : Nat} {rest : List Char},
      readDelta? bias k weight acc cs = some (d, rest) → rest.length < cs.length := by
  induction cs with
  | nil => intro k weight acc d rest h; simp [readDelta?] at h
  | cons c cs ih =>
    intro k weight acc d rest h
    simp only [readDelta?, Option.bind_eq_bind, Option.bind_eq_some_iff] at h
    obtain ⟨v, -, h⟩ := h
    split at h
    · simp only [Option.pure_def, Option.some.injEq, Prod.mk.injEq] at h
      obtain ⟨-, rfl⟩ := h
      simp
    · have := ih h
      simp only [List.length_cons]
      omega

/-- The character of a code point. -/
def char? (n : Nat) : Option Char := if h : n.isValidChar then some (Char.ofNatAux n h) else none

/-- Puts the characters in place that the digits tell. -/
def readAll? (bias point index : Nat) (label digits : List Char) : Option (List Char) :=
  match _h : digits with
  | [] => some label
  | _ :: _ =>
    match _hd : readDelta? bias 36 1 0 digits with
    | none => none
    | some (delta, rest) =>
      let size := label.length + 1
      let place := index + delta
      match char? (point + place / size) with
      | none => none
      | some c =>
        readAll? (adapt delta size (index = 0)) (point + place / size) (place % size + 1)
          (label.take (place % size) ++ c :: label.drop (place % size)) rest
termination_by digits.length
decreasing_by
  subst _h
  exact length_lt_of_readDelta? _hd

/-- What stands before the last hyphen, if there is one, and what follows it. -/
def splitLastHyphen (cs : List Char) : List Char × List Char :=
  let tail := (cs.reverse.takeWhile (· ≠ '-')).reverse
  (cs.take (cs.length - tail.length - 1), tail)

/-- The label of its plain form. A hyphen with nothing in front parts nothing. -/
def decode? (cs : List Char) : Option (List Char) :=
  let (plain, digits) := splitLastHyphen cs
  if plain.all isPlain then readAll? 72 0x80 0 plain (if plain.isEmpty then cs else digits)
    else none

end CameraViewer.Url.Punycode
