import CameraViewer.Text.Ascii

/-!
# Json/Binary64 — finite doubles as exact fractions

A finite non-negative double is `mantissa * 2 ^ exponent`. `ofRatio?` rounds any non-negative
fraction to the nearest double, ties to the even mantissa; products and quotients are rounded
through it. `digits` finds the fewest decimal digits that read back as the same double, and of those
the nearest to it; `render` lays them out.
-/

namespace CameraViewer.Json

/-- A finite non-negative double; normal ones have a mantissa of 53 bits, the others exponent -1074.
-/
structure Binary64 where
  /-- The integer factor, below `2 ^ 53`. -/
  mantissa : Nat
  /-- The power of two, between -1074 and 971. -/
  exponent : Int
deriving DecidableEq, Repr, Inhabited

namespace Binary64

/-- The double zero. -/
def zero : Binary64 := ⟨0, -1074⟩

/-- `num / den` scaled by `2 ^ (-shift)`, as a fraction again. -/
def scaled (num den : Nat) (shift : Int) : Nat × Nat :=
  if shift < 0 then (num <<< shift.natAbs, den) else (num, den <<< shift.natAbs)

/-- The integer nearest to `num / den`, a half going to the even one. -/
def roundRatio (num den : Nat) : Nat :=
  let quotient := num / den
  let twice := 2 * (num % den)
  if twice < den then quotient
  else if twice = den then quotient + quotient % 2
  else quotient + 1

/-- The greatest exponent at which `num / den` still has a mantissa of 53 bits, or -1074. -/
def exponentOf (num den : Nat) : Int :=
  let guess : Int := (Nat.log2 num : Int) - (Nat.log2 den : Int) - 52
  let (n, d) := scaled num den guess
  max (-1074) (if n / d < 0x10000000000000 then guess - 1 else guess)

/-- The double nearest to `num / den`, ties to the even mantissa; nothing where that is infinite. -/
def ofRatio? (num den : Nat) : Option Binary64 :=
  if num = 0 then some zero
  else
    let exponent := exponentOf num den
    let (n, d) := scaled num den exponent
    let mantissa := roundRatio n d
    let result :=
      if mantissa = 0x20000000000000 then ⟨0x10000000000000, exponent + 1⟩ else ⟨mantissa, exponent⟩
    if result.exponent > 971 then none else some result

/-- The value as a fraction. -/
def ratio (x : Binary64) : Nat × Nat :=
  if x.exponent < 0 then (x.mantissa, 1 <<< x.exponent.natAbs)
  else (x.mantissa <<< x.exponent.natAbs, 1)

/-- The rounded product; nothing where it is infinite. -/
def mul? (x y : Binary64) : Option Binary64 :=
  ofRatio? (x.ratio.1 * y.ratio.1) (x.ratio.2 * y.ratio.2)

/-- The rounded quotient by a non-zero double; nothing where it is infinite. -/
def div? (x y : Binary64) : Option Binary64 :=
  ofRatio? (x.ratio.1 * y.ratio.2) (x.ratio.2 * y.ratio.1)

/-- The double nearest to `10 ^ k`, for `k` up to 308. -/
def powerOfTen (k : Nat) : Binary64 := (ofRatio? (Nat.pow 10 k) 1).getD zero

/-- `significand * 10 ^ exponent` in double steps: the significand is rounded first, then multiplied
by or divided by a rounded power of ten; exponents below -308 divide by `1e308` first. `steps`
bounds the number of these divisions. -/
def ofDecimal? (steps : Nat) (value : Binary64) (exponent : Int) : Option Binary64 :=
  if exponent.natAbs ≤ 308 then
    if 0 ≤ exponent then value.mul? (powerOfTen exponent.natAbs)
    else value.div? (powerOfTen exponent.natAbs)
  else if value.mantissa = 0 then some value
  else if 0 ≤ exponent then none
  else match steps with
    | 0 => some zero
    | steps + 1 => (value.div? (powerOfTen 308)).bind fun v => ofDecimal? steps v (exponent + 308)

/-! ## The shortest decimal -/

/-- The fractions halfway to the two neighbours of a double, over one denominator, and that
denominator: `(low, high, den)`. Below a power of two the gap is half as wide. -/
def halfway (x : Binary64) : Nat × Nat × Nat :=
  let (num, den) := (scaled (4 * x.mantissa) 4 (-x.exponent))
  let (unit, _) := (scaled 1 4 (-x.exponent))
  let narrow := x.mantissa = 0x10000000000000 ∧ x.exponent > -1074
  (num - (if narrow then unit else 2 * unit), num + 2 * unit, den)

/-- Whether `num / den` rounds to the double whose halfway points are given; they count when its
mantissa is even. -/
def reads (x : Binary64) (num den : Nat) : Bool :=
  let (low, high, d) := x.halfway
  if x.mantissa % 2 = 0 then low * den ≤ num * d && num * d ≤ high * den
  else low * den < num * d && num * d < high * den

/-- The place of the leading decimal digit: the `p` with `10 ^ p ≤ x < 10 ^ (p + 1)`, searched
downwards from `p`. -/
def leadingPlace (num den : Nat) (p : Int) : Nat → Int
  | 0 => p
  | steps + 1 =>
    let below := if p < 0 then num * Nat.pow 10 p.natAbs < den else num < den * Nat.pow 10 p.natAbs
    if below then leadingPlace num den (p - 1) steps else p

/-- The digits on the grid of `count` places that read back, if any: of the two grid points around
the value the nearer that reads back, the even one of two equally near. -/
def onGrid? (x : Binary64) (place : Int) (count : Nat) : Option (Nat × Int) :=
  let unit : Int := place - (count - 1 : Nat)
  let (num, den) := x.ratio
  let grid := Nat.pow 10 unit.natAbs
  let (n, d) := if unit < 0 then (num * grid, den) else (num, den * grid)
  let readsAt (k : Nat) : Bool := if unit < 0 then x.reads k grid else x.reads (k * grid) 1
  let below := n / d
  let near := roundRatio n d
  let far := if near = below then below + 1 else below
  if readsAt near then some (near, unit)
  else if readsAt far then some (far, unit)
  else none

/-- The first grid with a point that reads back, from `count` digits on. -/
def firstGrid (x : Binary64) (place : Int) (count : Nat) : Nat → Nat × Int
  | 0 => (0, 0)
  | steps + 1 =>
    match x.onGrid? place count with
    | some hit => hit
    | none => firstGrid x place (count + 1) steps

/-- A number of digits without its trailing zeros, with the place of its last digit. -/
def stripZeros (digits : Nat) (unit : Int) : Nat → Nat × Int
  | 0 => (digits, unit)
  | steps + 1 =>
    if digits % 10 = 0 ∧ digits ≠ 0 then stripZeros (digits / 10) (unit + 1) steps
    else (digits, unit)

/-- The fewest digits that read back as `x`, and the place of the last one. -/
def digits (x : Binary64) : Nat × Int :=
  let (num, den) := x.ratio
  let place := leadingPlace num den 309 640
  let (d, unit) := x.firstGrid place 1 17
  stripZeros d unit 20

/-- Decimal digits of a natural number. -/
def decimal (n : Nat) : List Char := Nat.toDigits 10 n

/-- The text of a double: positional between `1e-5` and `1e16`, with `.0` after an integer, else one
digit before the point and a signed exponent. -/
def render (x : Binary64) : List Char :=
  if x.mantissa = 0 then ['0', '.', '0']
  else
    let (d, unit) := x.digits
    let text := decimal d
    let place : Int := unit + (text.length - 1 : Nat)
    if place < -5 ∨ 16 ≤ place then
      let sign := if place < 0 then '-' else '+'
      let fraction := match text.drop 1 with
        | [] => []
        | rest => '.' :: rest
      text.take 1 ++ fraction ++ ['e', sign] ++ decimal place.natAbs
    else if 0 ≤ unit then
      text ++ List.replicate unit.natAbs '0' ++ ['.', '0']
    else if 0 ≤ place then
      text.take (place.natAbs + 1) ++ ['.'] ++ text.drop (place.natAbs + 1)
    else
      ['0', '.'] ++ List.replicate (place.natAbs - 1) '0' ++ text

end Binary64

end CameraViewer.Json
