import CameraViewer.Rtc.CandidateLine
import CameraViewer.Rtc.Section

/-!
# Rtc/Credentials — what it takes to connect

A description has to name one user, one password and one fingerprint; it may name each of them more
than once, before the sections and in them. Sections whose media do not go in any direction are
asked for user and password only if nothing else names them. The candidates of all other sections
have to be readable.
-/

namespace CameraViewer.Rtc

open Text

/-- The one text of a list, if there is one and all others are the same. -/
def only? : List String → Option String
  | [] => none
  | first :: rest => if rest.all (· = first) then some first else none

namespace Description

/-- The sections whose media go in some direction. -/
def activeSections (d : Description) : List MediaSection := d.sections.filter (!·.isInactive)

/-- What a description says under a name, if it says one thing. -/
def credential? (name : String) (d : Description) : Option String :=
  let said := (valueOf? name d.attributes).toList
    ++ d.activeSections.filterMap fun s => valueOf? name s.attributes
  if said.isEmpty then d.sections.findSome? fun s => valueOf? name s.attributes else only? said

/-- The fingerprint: the name of a method, one blank, and what the method gives. -/
def fingerprint? (d : Description) : Option String :=
  (only? ((valueOf? "fingerprint" d.attributes).toList
    ++ d.sections.filterMap fun s => valueOf? "fingerprint" s.attributes)).filter
    fun f => (piecesAt ' ' f).length = 2

/-- The candidates of the active sections. -/
def candidates (d : Description) : List String :=
  d.activeSections.flatMap fun s => valuesOf "candidate" s.attributes

/-- The names of user and password. -/
def credentialNames : List String := ["ice-ufrag", "ice-pwd"]

/-- User and password are named, and all candidates can be read. -/
def isReachable (d : Description) : Bool :=
  credentialNames.all (fun name => (d.credential? name).isSome)
    && d.candidates.all fun c => isCandidate c.toList

/-- A connection can be made with what a description says. -/
def isUsable (d : Description) : Bool := d.isReachable && d.fingerprint?.isSome

end Description

end CameraViewer.Rtc
