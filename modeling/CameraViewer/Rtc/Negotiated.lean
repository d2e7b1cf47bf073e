import CameraViewer.Rtc.Section

/-!
# Rtc/Negotiated — codecs both sides know

The first audio and the first video section of a remote description settle the codecs of their kind.
Every format of such a section has to be described by attributes of the section. The codecs that fit
exactly are taken or, where none does, those that fit by name.
-/

namespace CameraViewer.Rtc

open Text

/-! ## The codecs of a section -/

/-- What one attribute says about a payload number; what it does not say is empty. -/
structure CodecHint where
  payload : Nat
  name : String := ""
  clock : Nat := 0
  channels : String := ""
  params : String := ""
deriving DecidableEq, Repr, Inhabited

namespace CodecHint

/-- A payload number. -/
def payload? (s : String) : Option Nat := readNumeral? 256 s.toList

/-- The hint of the attribute that names a codec: number, and name, clock and channels with slashes.
-/
def ofMap? (value : String) : Option CodecHint :=
  match words value with
  | [number, format] => do
    let payload ← payload? number
    match piecesAt '/' format with
    | name :: clock :: rest =>
      let clock ← readNumeral? UInt32.size clock.toList
      return { payload, name, clock, channels := rest.head?.getD "" }
    | _ => return { payload, name := format }
  | _ => none

/-- The hint of the attribute with the parameters of a codec, which hold no blank. -/
def ofParams? (value : String) : Option CodecHint :=
  match words value with
  | [number, params] => do return { payload := ← payload? number, params }
  | _ => none

/-- The hint of the attribute on feedback: that there is such a number. -/
def ofFeedback? (value : String) : Option CodecHint :=
  match piecesAt ' ' value with
  | number :: _ :: _ => do return { payload := ← payload? number }
  | _ => none

/-- The hint of an attribute. Blanks behind the colon would make one word more. -/
def ofAttribute? (a : Attribute) : Option CodecHint := do
  let value ← a.value
  if value.toList.head?.any isBlank then none
  else
    match a.name with
    | "rtpmap" => ofMap? value
    | "fmtp" => ofParams? value
    | "rtcp-fb" => ofFeedback? value
    | _ => none

/-- Two hints on one number: what the first does not say is as the second says. -/
def merge (a b : CodecHint) : CodecHint where
  payload := a.payload
  name := if a.name.isEmpty then b.name else a.name
  clock := if a.clock = 0 then b.clock else a.clock
  channels := if a.channels.isEmpty then b.channels else a.channels
  params := if a.params.isEmpty then b.params else a.params

/-- The codec of all that is known about a number. -/
def codec (h : CodecHint) : CodecEntry where
  payload := h.payload
  name := h.name
  clock := h.clock
  channels := (readNumeral? UInt16.size h.channels.toList).getD 0
  params := h.params

end CodecHint

namespace MediaSection

/-- All that a section says about a payload number. -/
def hint? (s : MediaSection) (payload : Nat) : Option CodecHint :=
  match (s.attributes.filterMap CodecHint.ofAttribute?).filter (·.payload = payload) with
  | [] => none
  | first :: rest => some (rest.foldl CodecHint.merge first)

/-- The codecs of the formats; the number zero needs no description, and without one it is left out.
-/
def codecsOf? (s : MediaSection) : List String → Option (List CodecEntry)
  | [] => some []
  | format :: formats => do
    let payload ← CodecHint.payload? format
    match s.hint? payload with
    | some h => return h.codec :: (← s.codecsOf? formats)
    | none => if payload = 0 then s.codecsOf? formats else none

/-- The codecs of a section, if all its formats are described. -/
def codecs? (s : MediaSection) : Option (List CodecEntry) := s.codecsOf? s.formats

/-- The value of an attribute that names an extension: a number and an address. -/
def isExtensionValue (value : String) : Bool :=
  match words value with
  | number :: address :: _ =>
    let parts := piecesAt '/' number
    ((parts.head?.bind fun n => readSigned? 0x8000000000000000 n.toList).any
        fun n => 1 ≤ n ∧ n ≤ 246)
      && (parts.length ≠ 2 || parts[1]?.any fun d => (Direction.ofName? d).isSome)
      && (Url.read address).isOk
  | _ => false

/-- All extensions of a section are named as they have to be. -/
def hasExtensions (s : MediaSection) : Bool :=
  (s.attributes.filter (·.name = "extmap")).all fun a => a.value.any isExtensionValue

end MediaSection

/-! ## Taking codecs -/

/-- Codecs that fit: exactly, and by name. -/
structure Fitting where
  exact : List CodecEntry := []
  byName : List CodecEntry := []
deriving Repr, Inhabited

namespace Fitting

/-- Adds a codec that fits so well. -/
def add (f : Fitting) (c : CodecEntry) : Option Fit → Fitting
  | none => f
  | some .exact => { f with exact := f.exact ++ [c] }
  | some .byName => { f with byName := f.byName ++ [c] }

/-- How well the codec of a payload number fits, among those that were added. -/
def fitOf? (f : Fitting) (payload : Nat) : Option Fit :=
  if f.exact.any (·.payload = payload) then some .exact
  else if f.byName.any (·.payload = payload) then some .byName
  else none

/-- Sorts the codecs of the other side by how well they fit. A codec that goes with another, which
its parameter tells by number, fits no better than that one, and has to follow it. -/
def sort? (known : List CodecEntry) : List CodecEntry → Fitting → Option Fitting
  | [], f => some f
  | c :: rest, f =>
    match c.parameter? "apt" with
    | none => sort? known rest (f.add c (c.fitAmong? known))
    | some number => do
      let fit := match f.fitOf? (← CodecHint.payload? number) with
        | none => none
        | some .exact => c.fitAmong? known
        | some .byName => (c.fitAmong? known).map fun _ => .byName
      sort? known rest (f.add c fit)

/-- The codecs that are taken. -/
def taken (f : Fitting) : List CodecEntry :=
  (if f.exact.isEmpty then f.byName else f.exact).foldl
    (fun cs c =>
      if cs.any fun d => d.payload = c.payload && d.name = c.name then cs else cs ++ [c]) []

end Fitting

/-- The codecs of the kinds that are settled; none at all if nothing fitted. -/
structure Negotiated where
  video : Option (List CodecEntry) := none
  audio : Option (List CodecEntry) := none
deriving DecidableEq, Repr, Inhabited

namespace Negotiated

/-- The codecs of a kind, if they are settled. -/
def codecs? (n : Negotiated) : MediaKind → Option (List CodecEntry)
  | .video => n.video
  | .audio => n.audio

/-- Settles a kind. -/
def settle (kind : MediaKind) (codecs : List CodecEntry) (n : Negotiated) : Negotiated :=
  match kind with
  | .video => { n with video := some codecs }
  | .audio => { n with audio := some codecs }

/-- Settles the kind of a section with the codecs it offers. A section that cannot be read settles
its kind with no codec. The extensions of a section are looked at only where a codec was taken. -/
def settleBy (known : List CodecEntry) (kind : MediaKind) (s : MediaSection) (n : Negotiated) :
    Bool × Negotiated :=
  match s.codecs?.bind fun codecs => Fitting.sort? known codecs {} with
  | none => (false, n.settle kind [])
  | some f => (f.taken.isEmpty || s.hasExtensions, n.settle kind f.taken)

/-- Settles the kinds of sections, each by the first section of the kind, up to the first fault;
tells whether there was none. -/
def update (known : MediaKind → List CodecEntry) :
    List MediaSection → Negotiated → Bool × Negotiated
  | [], n => (true, n)
  | s :: rest, n =>
    match (MediaKind.ofName? s.kind).filter fun kind => (n.codecs? kind).isNone with
    | none => update known rest n
    | some kind =>
      match n.settleBy (known kind) kind s with
      | (true, n) => update known rest n
      | (false, n) => (false, n)

end Negotiated

end CameraViewer.Rtc
