import CameraViewer.Text.Ascii

/-!
# Url/Address — numeric addresses

Four-part addresses in all the spellings that browsers take: each part may be decimal, octal after a
zero or hexadecimal after `0x`, and the last part fills up what the parts before have left.
Eight-part addresses with one gap, and with a four-part tail.
-/

namespace CameraViewer.Url

open Text

/-! ## Four parts -/

/-- The value of digits in a base. -/
def valueInBase? (base acc : Nat) : List Char → Option Nat
  | [] => some acc
  | c :: rest =>
    match hexValue? c with
    | some d => if d < base then valueInBase? base (acc * base + d) rest else none
    | none => none

/-- The number of one part, of any size. -/
def partValue? : List Char → Option Nat
  | [] => none
  | '0' :: 'x' :: digits => valueInBase? 16 0 digits
  | '0' :: 'X' :: digits => valueInBase? 16 0 digits
  | ['0'] => some 0
  | '0' :: digits => valueInBase? 8 0 digits
  | digits => valueInBase? 10 0 digits

/-- The parts of a name, less an empty one at the end. -/
def nameParts (name : List Char) : List (List Char) :=
  let parts := splitAtChar '.' name
  match parts.reverse with
  | [] :: rest => if rest.isEmpty then parts else rest.reverse
  | _ => parts

/-- A name whose last part is a number has to be a four-part address. -/
def endsInNumber (name : List Char) : Bool :=
  match (nameParts name).reverse with
  | [] => false
  | last :: _ =>
    !last.isEmpty && (last.all (fun c => (digitValue? c).isSome) || (partValue? last).isSome)

/-- The numbers of all parts. -/
def partValues? : List (List Char) → Option (List Nat)
  | [] => some []
  | p :: rest => do
    let n ← partValue? p
    return n :: (← partValues? rest)

/-- The address of its numbers: the last fills up what those before have left. -/
def ipv4OfNumbers? : Nat → List Nat → Option Nat
  | _, [] => none
  | room, [last] => if last < 256 ^ room then some last else none
  | room, n :: rest =>
    if n < 256 then (ipv4OfNumbers? (room - 1) rest).map (n * 256 ^ (room - 1) + ·) else none

/-- The four-part address of a name. -/
def readIpv4? (name : List Char) : Option Nat :=
  let parts := nameParts name
  if parts.length > 4 then none else (partValues? parts).bind (ipv4OfNumbers? 4)

/-- A four-part address with points. -/
def ipv4Text (n : Nat) : String :=
  String.intercalate "." ([16777216, 65536, 256, 1].map fun unit => toString (n / unit % 256))

/-! ## Eight parts -/

/-- A decimal number below 256 without a leading zero. -/
def octet? : List Char → Option Nat
  | [] => none
  | ['0'] => some 0
  | '0' :: _ => none
  | digits => if digits.length ≤ 3 then (valueInBase? 10 0 digits).filter (· < 256) else none

/-- Four numbers with points, as two groups. -/
def ipv4Tail? (cs : List Char) : Option (List Nat) :=
  match splitAtChar '.' cs with
  | [a, b, c, d] => do return [(← octet? a) * 256 + (← octet? b), (← octet? c) * 256 + (← octet? d)]
  | _ => none

/-- One group of up to four hexadecimal digits. -/
def group? (cs : List Char) : Option Nat :=
  if cs.isEmpty ∨ cs.length > 4 then none else valueInBase? 16 0 cs

/-- Groups between colons; at the end of an address the last may be a four-part tail. -/
def groups? (atEnd : Bool) : List (List Char) → Option (List Nat)
  | [] => some []
  | [last] => if atEnd ∧ '.' ∈ last then ipv4Tail? last else (group? last).map ([·])
  | g :: rest => do
    let n ← group? g
    return n :: (← groups? atEnd rest)

/-- The groups of a text, none for an empty one. -/
def groupsOf? (atEnd : Bool) (cs : List Char) : Option (List Nat) :=
  if cs.isEmpty then some [] else groups? atEnd (splitAtChar ':' cs)

/-- The text before and after the first gap. -/
def cutGap? : List Char → Option (List Char × List Char)
  | ':' :: ':' :: rest => some ([], rest)
  | c :: rest => (cutGap? rest).map fun (a, b) => (c :: a, b)
  | [] => none

/-- The eight groups of an address; a gap stands for at least one group of zero. -/
def readIpv6? (cs : List Char) : Option (List Nat) :=
  match cutGap? cs with
  | none => (groupsOf? true cs).filter (·.length = 8)
  | some (a, b) => do
    let before ← groupsOf? false a
    let after ← groupsOf? true b
    if before.length + after.length ≤ 7 then
      some (before ++ List.replicate (8 - before.length - after.length) 0 ++ after)
    else none

/-- Length of the run of zeros at the start of a list. -/
def zeroRun (groups : List Nat) : Nat := (groups.takeWhile (· = 0)).length

/-- Start and length of the first of the longest runs of zeros. -/
def longestZeroRun (start : Nat) : List Nat → Nat × Nat
  | [] => (start, 0)
  | g :: rest =>
    let here := zeroRun (g :: rest)
    let later := longestZeroRun (start + 1) rest
    if later.2 ≤ here then (start, here) else later

/-- Groups with colons between them. -/
def joinGroups (groups : List Nat) : String :=
  String.intercalate ":" (groups.map fun g => String.ofList (hexDigits 1 g))

/-- An eight-part address: the first of the longest runs of two or more zeros is the gap. -/
def ipv6Text (groups : List Nat) : String :=
  let (start, length) := longestZeroRun 0 groups
  if length < 2 then joinGroups groups
  else joinGroups (groups.take start) ++ "::" ++ joinGroups (groups.drop (start + length))

end CameraViewer.Url
