import CameraViewer.Text.Ascii
import CameraViewer.Text.Printable
import CameraViewer.Url.Composition
import CameraViewer.Url.Direction
import CameraViewer.Url.Forms
import CameraViewer.Url.Joining
import CameraViewer.Url.Punycode

/-!
# Url/Name — host names in plain characters

A host name is folded to its one spelling and written in plain characters, label by label between
points: a label with other characters becomes its plain form behind `xn--`. A label that has that
form already has to stand for a label that needs it.
-/

namespace CameraViewer.Url

open Text

/-- The one spelling of a text. -/
def folded (cs : List Char) : List Char := composed (cs.flatMap form)

/-- Plain characters no host name has. -/
def notInName (c : Char) : Bool :=
  c.toNat ≤ 0x20 || c.toNat = 0x7F
    || c ∈ ['%', '#', '/', ':', '<', '>', '?', '@', '[', '\\', ']', '^', '|']

/-- What stands in front of the plain form of a label. -/
def plainLead : List Char := ['x', 'n', '-', '-']

/-- A character that a label can have. -/
def mayStand (c : Char) : Bool :=
  c = apartJoiner || c = closeJoiner || isPrintable c && !inRanges barredRanges c

/-- A label with characters that are not plain: it starts with no mark, all its characters may stand
in a host name, and its joiners where they are. -/
def isLabel (label : List Char) : Bool :=
  !label.head?.any isMark && label.all mayStand && joinersFit [] label

/-- The longest label that gets a plain form. -/
def longestLabel : Nat := 1000

/-- The longest plain form of a label. -/
def longestPlainForm : Nat := 2000

/-- The label that a plain form stands for: it is not plain itself, and has its one spelling. -/
def ofPlainForm? (form : List Char) : Option (List Char) :=
  if form.length > longestPlainForm then none
  else
    (Punycode.decode? form).filter fun label =>
      !label.all Punycode.isPlain && folded label = label && isLabel label

/-- A label as it is meant and in plain characters. -/
def readLabel? (label : List Char) : Option (List Char × List Char) :=
  match dropLead? plainLead label with
  | some form => (ofPlainForm? form).map (·, label)
  | none =>
    if label.all Punycode.isPlain then some (label, label)
    else if label.length ≤ longestLabel ∧ isLabel label then
      some (label, plainLead ++ Punycode.encode label)
    else none

/-- A host name in plain characters, if it is one. -/
def plainName? (name : String) : Option (List Char) := do
  let cs := folded name.toList
  if cs.any notInName then none
  else
    let labels ← (splitAtChar '.' cs).mapM readLabel?
    if areReadable (labels.map (·.1)) then some (['.'].intercalate (labels.map (·.2))) else none

end CameraViewer.Url
