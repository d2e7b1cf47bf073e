import CameraViewer.Rtc.Codec
import CameraViewer.Rtc.Description

/-!
# Rtc/Section — what media sections say

A section says under which name it is known, in which directions its media go, and what it carries:
tracks of a kind, or the channel. `MediaSection.use` is what a section is good for; a section that
does not say enough is passed over.
-/

namespace CameraViewer.Rtc

open Text

/-- Directions of media, as seen from the side that describes. -/
inductive Direction
  | sendrecv
  | sendonly
  | recvonly
  | inactive
deriving DecidableEq, Repr, Inhabited

namespace Direction

/-- The word of a direction. -/
def name : Direction → String
  | .sendrecv => "sendrecv"
  | .sendonly => "sendonly"
  | .recvonly => "recvonly"
  | .inactive => "inactive"

/-- The direction of a word. -/
def ofName? (word : String) : Option Direction :=
  [sendrecv, sendonly, recvonly, inactive].find? (·.name = word)

/-- What this side would answer if it would send and receive. -/
def reversed : Direction → Direction
  | .sendonly => .recvonly
  | .recvonly => .sendonly
  | d => d

/-- The side that describes sends. -/
def sends : Direction → Bool
  | .sendrecv => true
  | .sendonly => true
  | _ => false

/-- The side that describes receives. -/
def receives : Direction → Bool
  | .sendrecv => true
  | .recvonly => true
  | _ => false

/-- The direction of a side that does both, one or neither. -/
def ofParts (sends receives : Bool) : Direction :=
  match sends, receives with
  | true, true => .sendrecv
  | true, false => .sendonly
  | false, true => .recvonly
  | false, false => .inactive

/-- What two directions have in common. -/
def meet (a b : Direction) : Direction := ofParts (a.sends && b.sends) (a.receives && b.receives)

end Direction

/-- The value of the first attribute of a name; an attribute without a value hides those behind it.
-/
def valueOf? (name : String) (attributes : List Attribute) : Option String :=
  (attributes.find? (·.name = name)).bind (·.value)

/-- The values of all attributes of a name. -/
def valuesOf (name : String) (attributes : List Attribute) : List String :=
  (attributes.filter (·.name = name)).filterMap (·.value)

/-- What a section is good for. -/
inductive SectionUse
  /-- It is passed over. -/
  | none
  /-- Its name is empty, which is a fault. -/
  | unnamed
  /-- It carries the channel. -/
  | channel (mid : String)
  /-- It carries tracks of a kind. -/
  | track (mid : String) (kind : MediaKind) (direction : Direction)
deriving DecidableEq, Repr

namespace MediaSection

/-- The direction of a section. -/
def direction? (s : MediaSection) : Option Direction :=
  s.attributes.findSome? fun a => Direction.ofName? a.name

/-- Somewhere in the section it says that its media do not go in any direction. -/
def isInactive (s : MediaSection) : Bool := s.attributes.any (·.name = Direction.inactive.name)

/-- What a section is good for. -/
def use (s : MediaSection) : SectionUse :=
  match valueOf? "mid" s.attributes with
  | none => .none
  | some mid =>
    if mid.isEmpty then .unnamed
    else if s.kind = "application" then .channel mid
    else
      match MediaKind.ofName? s.kind, s.direction? with
      | some kind, some direction => .track mid kind direction
      | _, _ => .none

end MediaSection

end CameraViewer.Rtc
