/-!
# Text/Ascii — letters and numerals of the ASCII range

Case folding that touches the twenty-six letters only, and the numerals of the settings: an optional
plus sign, at least one digit, and a value below a bound. `readNumeral?` reads the decimal text of
any number below its bound.
-/

namespace CameraViewer.Text

/-- Capital ASCII letters become small; every other character stays. -/
def lowerAscii (s : String) : String := s.map Char.toLower

/-- Two texts that differ at most in the case of ASCII letters. -/
def sameIgnoringCase (a b : String) : Bool := lowerAscii a == lowerAscii b

/-- The value of a decimal digit. -/
def digitValue? (c : Char) : Option Nat :=
  if '0' ≤ c ∧ c ≤ '9' then some (c.toNat - '0'.toNat) else none

/-- The value of a hexadecimal digit of either case. -/
def hexValue? (c : Char) : Option Nat :=
  if '0' ≤ c ∧ c ≤ '9' then some (c.toNat - '0'.toNat)
  else if 'a' ≤ c ∧ c ≤ 'f' then some (c.toNat - 'a'.toNat + 10)
  else if 'A' ≤ c ∧ c ≤ 'F' then some (c.toNat - 'A'.toNat + 10)
  else none

/-- The small hexadecimal digit of a value below sixteen. -/
def hexDigit (n : Nat) : Char :=
  if n < 10 then Char.ofNat ('0'.toNat + n) else Char.ofNat ('a'.toNat + (n - 10))

/-- The hexadecimal digits of `n`, most significant first, in at least `width` places. -/
def hexDigits (width n : Nat) : List Char :=
  let digits := Nat.toDigits 16 n
  List.replicate (width - digits.length) '0' ++ digits

/-- The value of a text of digits in front of which `acc` was already read. -/
def digitsValue? (acc : Nat) : List Char → Option Nat
  | [] => some acc
  | c :: rest => (digitValue? c).bind fun d => digitsValue? (acc * 10 + d) rest

/-- A numeral below `bound`: an optional plus sign, then one or more decimal digits. -/
def readNumeral? (bound : Nat) (cs : List Char) : Option Nat :=
  let digits := match cs with
    | '+' :: rest => rest
    | _ => cs
  if digits.isEmpty then none
  else (digitsValue? 0 digits).filter (· < bound)

/-- A numeral with an optional sign, at least `-bound` and below `bound`. -/
def readSigned? (bound : Nat) (cs : List Char) : Option Int :=
  match cs with
  | '-' :: '+' :: _ => none
  | '-' :: digits => (readNumeral? (bound + 1) digits).map fun n => -(n : Int)
  | _ => (readNumeral? bound cs).map fun n => (n : Int)

/-- The pieces of a text between the occurrences of a character; one piece more than occurrences. -/
def splitAtChar (sep : Char) : List Char → List (List Char)
  | [] => [[]]
  | c :: rest =>
    match splitAtChar sep rest with
    | [] => [[c]]
    | piece :: pieces => if c = sep then [] :: piece :: pieces else (c :: piece) :: pieces

/-- What follows `lead` at the start of a text. -/
def dropLead? : List Char → List Char → Option (List Char)
  | [], cs => some cs
  | _ :: _, [] => none
  | l :: ls, c :: cs => if l = c then dropLead? ls cs else none

theorem dropLead?_append (lead cs : List Char) : dropLead? lead (lead ++ cs) = some cs := by
  induction lead with
  | nil => rfl
  | cons l ls ih => simp [dropLead?, ih]

theorem splitAtChar_ne_nil (sep : Char) (cs : List Char) : splitAtChar sep cs ≠ [] := by
  cases cs with
  | nil => simp [splitAtChar]
  | cons c rest => simp only [splitAtChar]; split <;> (try split) <;> simp

end CameraViewer.Text
