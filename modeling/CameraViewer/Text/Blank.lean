import CameraViewer.Text.Ascii

/-!
# Text/Blank — the characters that count as white space

The property White_Space of the Unicode character database, and trimming and splitting by it.
-/

namespace CameraViewer.Text

/-- The twenty-five characters of the property White_Space. -/
def isBlank (c : Char) : Bool :=
  let n := c.toNat
  (9 ≤ n && n ≤ 13) || n == 0x20 || n == 0x85 || n == 0xA0 || n == 0x1680
    || (0x2000 ≤ n && n ≤ 0x200A) || n == 0x2028 || n == 0x2029 || n == 0x202F || n == 0x205F
    || n == 0x3000

/-- A text without the blanks at its two ends. -/
def trim (cs : List Char) : List Char :=
  ((cs.dropWhile isBlank).reverse.dropWhile isBlank).reverse

/-- The words of a text between blanks of any kind. -/
def blankWords (cs : List Char) : List (List Char) :=
  (splitAtChar ' ' (cs.map fun c => if isBlank c then ' ' else c)).filter (!·.isEmpty)

end CameraViewer.Text
