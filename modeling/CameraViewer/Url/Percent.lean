import CameraViewer.Text.Ascii

/-!
# Url/Percent — bytes written with a percent sign

What an address cannot hold as it is stands as a percent sign and two hexadecimal digits for each
byte of its encoding. Which ASCII characters those are depends on the part of the address; all
others always are.
-/

namespace CameraViewer.Url

open Text

/-- The two capital digits of a byte after a percent sign. -/
def percentByte (b : UInt8) : List Char :=
  ['%', (hexDigit (b.toNat / 16)).toUpper, (hexDigit (b.toNat % 16)).toUpper]

/-- The bytes of a character. -/
def bytesOf (c : Char) : List UInt8 := (String.singleton c).toUTF8.toList

/-- The characters that are never written as they are. -/
def isControl (c : Char) : Bool := c.toNat < 0x20 || 0x7F ≤ c.toNat

/-- A character, with percent signs if `bad` says so or it is never written as it is. -/
def encodeChar (bad : Char → Bool) (c : Char) : List Char :=
  if isControl c || bad c then (bytesOf c).flatMap percentByte else [c]

/-- A text with percent signs where they are needed. -/
def encode (bad : Char → Bool) (cs : List Char) : List Char := cs.flatMap (encodeChar bad)

/-- Characters that do not stand in a fragment. -/
def notInFragment (c : Char) : Bool := c ∈ [' ', '"', '<', '>', '\x60']

/-- Characters that do not stand in a path. -/
def notInPath (c : Char) : Bool := notInFragment c || c ∈ ['#', '?', '\x7b', '\x7d']

/-- Characters that do not stand in a query. -/
def notInQuery (c : Char) : Bool := c ∈ [' ', '"', '#', '<', '>', '\x27']

/-- Characters that do not stand in a user name or a password. -/
def notInUser (c : Char) : Bool :=
  notInPath c || c ∈ ['/', ':', ';', '=', '@', '[', '\\', ']', '^', '|']

/-- The bytes of a text, the written-out ones read back; a percent sign without two digits stands
for itself. -/
def decode : List Char → List UInt8
  | [] => []
  | '%' :: a :: b :: rest =>
    match hexValue? a, hexValue? b with
    | some x, some y => UInt8.ofNat (x * 16 + y) :: decode rest
    | _, _ => bytesOf '%' ++ decode (a :: b :: rest)
  | c :: rest => bytesOf c ++ decode rest
termination_by cs => cs.length

/-- The text of bytes, if they are the encoding of one. -/
def textOfBytes? (bytes : List UInt8) : Option String := String.fromUTF8? ⟨bytes.toArray⟩

end CameraViewer.Url
