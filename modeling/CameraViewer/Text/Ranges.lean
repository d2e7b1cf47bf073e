/-!
# Text/Ranges — properties of characters as tables

A property of characters is a table of code point ranges, first and last each, in ascending order.
`inRanges` looks a code point up by halving the table.
-/

namespace CameraViewer.Text

/-- Membership in a table of ranges in ascending order, by halving the part `lo ≤ i < hi` of it. -/
def inPart (ranges : Array (Nat × Nat)) (n : Nat) (lo hi : Nat) : Bool :=
  if _h : lo < hi then
    let mid := (lo + hi) / 2
    match ranges[mid]? with
    | none => false
    | some (first, last) =>
      if n < first then inPart ranges n lo mid
      else if last < n then inPart ranges n (mid + 1) hi
      else true
  else false
termination_by hi - lo

/-- A character of a table. -/
def inRanges (ranges : Array (Nat × Nat)) (c : Char) : Bool := inPart ranges c.toNat 0 ranges.size

end CameraViewer.Text
