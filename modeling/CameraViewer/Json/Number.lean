import CameraViewer.Json.Binary64

/-!
# Json/Number — numbers as JSON writes them

A number is an integer of at most 64 bits or a double. `Literal` is what stands in the text: sign,
integer digits, fraction, exponent. `Literal.value?` gives it its number: integers that fit stay
integers, all else is a double whose significand is cut to 64 bits; too large ones have no value.
-/

namespace CameraViewer.Json

/-- A JSON number. -/
inductive Number
  /-- An integer between `-2 ^ 63` and `2 ^ 64 - 1`. -/
  | int (value : Int)
  /-- A double; the sign also of zero. -/
  | float (negative : Bool) (magnitude : Binary64)
deriving DecidableEq, Repr, Inhabited

/-- The text of an integer. -/
def renderInt (n : Int) : List Char :=
  if n < 0 then '-' :: Binary64.decimal n.natAbs else Binary64.decimal n.natAbs

/-- The text of a number. -/
def Number.render : Number → List Char
  | .int n => renderInt n
  | .float negative magnitude => (if negative then ['-'] else []) ++ magnitude.render

/-- A number as it stands in the text, its digits as values. -/
structure Literal where
  /-- A minus sign stands in front. -/
  negative : Bool
  /-- The digits before the point. -/
  whole : List Nat
  /-- The digits after the point; none when there is no point. -/
  fraction : Option (List Nat)
  /-- The exponent: whether it is negative, and its digits. -/
  exponent : Option (Bool × List Nat)
deriving DecidableEq, Repr

namespace Literal

/-- The greatest significand. -/
def significandMax : Nat := UInt64.size - 1

/-- The greatest exponent written out. -/
def exponentMax : Nat := 0x7fffffff

/-- Digits of the integer part: as long as the significand fits they enter it, from then on each
counts as a factor of ten. -/
def wholePart (significand : Nat) : List Nat → Nat × Nat
  | [] => (significand, 0)
  | d :: rest =>
    if significand * 10 + d > significandMax then (significand, rest.length + 1)
    else wholePart (significand * 10 + d) rest

/-- Digits of the fraction: as long as the significand fits they enter it, from then on they are
dropped. The second part counts those that entered. -/
def fractionPart (significand : Nat) (count : Nat) : List Nat → Nat × Nat
  | [] => (significand, count)
  | d :: rest =>
    if significand * 10 + d > significandMax then (significand, count)
    else fractionPart (significand * 10 + d) (count + 1) rest

/-- The natural number spelled by digits. -/
def natural (digits : List Nat) : Nat := digits.foldl (fun n d => n * 10 + d) 0

/-- The double spelled by a significand and a power of ten. -/
def double? (negative : Bool) (significand : Nat) (exponent : Int) : Option Number := do
  let value ← Binary64.ofRatio? significand 1
  let magnitude ← Binary64.ofDecimal? 4 value exponent
  return .float negative magnitude

/-- The number a literal spells; nothing where it is too large for a double. -/
def value? (lit : Literal) : Option Number :=
  let (significand, scale) := wholePart 0 lit.whole
  match lit.fraction, lit.exponent with
  | none, none =>
    if scale > 0 then double? lit.negative significand scale
    else if !lit.negative then some (.int significand)
    else if significand = 0 ∨ significand > 0x8000000000000000 then double? true significand 0
    else some (.int (-significand))
  | fraction, exponent =>
    let (significand, places) := fractionPart significand 0 (fraction.getD [])
    let start : Int := (scale : Int) - places
    match exponent with
    | none => double? lit.negative significand start
    | some (below, digits) =>
      let n := natural digits
      if n > exponentMax then
        if significand ≠ 0 ∧ !below then none else some (.float lit.negative .zero)
      else double? lit.negative significand (if below then start - n else start + n)

end Literal

/-! ## Reading a literal -/

/-- The leading digits of a text and what follows them. -/
def spanDigits : List Char → List Nat × List Char
  | [] => ([], [])
  | c :: rest =>
    match Text.digitValue? c with
    | some d => let (ds, after) := spanDigits rest; (d :: ds, after)
    | none => ([], c :: rest)

/-- A fraction: a point and at least one digit. -/
def readFraction : List Char → Option (Option (List Nat) × List Char)
  | '.' :: rest =>
    match spanDigits rest with
    | ([], _) => none
    | (ds, after) => some (some ds, after)
  | cs => some (none, cs)

/-- The sign of an exponent: whether it is a minus, and the text after it. -/
def exponentSign : List Char → Bool × List Char
  | '+' :: rest => (false, rest)
  | '-' :: rest => (true, rest)
  | cs => (false, cs)

/-- The digits of an exponent, at least one. -/
def readExponentDigits (cs : List Char) : Option (Option (Bool × List Nat) × List Char) :=
  let (below, cs) := exponentSign cs
  match spanDigits cs with
  | ([], _) => none
  | (ds, after) => some (some (below, ds), after)

/-- An exponent: the letter, an optional sign, and at least one digit. -/
def readExponent : List Char → Option (Option (Bool × List Nat) × List Char)
  | 'e' :: rest => readExponentDigits rest
  | 'E' :: rest => readExponentDigits rest
  | cs => some (none, cs)

/-- The integer part: a zero alone, or digits that start with another digit. -/
def readWhole : List Char → Option (List Nat × List Char)
  | '0' :: rest => some ([0], rest)
  | cs =>
    match spanDigits cs with
    | ([], _) => none
    | (ds, after) => some (ds, after)

/-- A number literal and the text after it. -/
def readLiteral (cs : List Char) : Option (Literal × List Char) := do
  let (negative, cs) := match cs with
    | '-' :: rest => (true, rest)
    | _ => (false, cs)
  let (whole, cs) ← readWhole cs
  let (fraction, cs) ← readFraction cs
  let (exponent, cs) ← readExponent cs
  return (⟨negative, whole, fraction, exponent⟩, cs)

end CameraViewer.Json
