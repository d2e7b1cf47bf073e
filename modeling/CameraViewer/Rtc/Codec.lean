import CameraViewer.Peer.Basic
import CameraViewer.Text.Ascii

/-!
# Rtc/Codec — what a peer can send and receive

The codecs a peer knows, each under its payload number, and when a codec of the other side fits one
of them: exactly, if the parameters do not contradict each other, or else by its name alone.
-/

namespace CameraViewer.Rtc

open Peer Text

/-- What a media section carries. -/
inductive MediaKind
  | video
  | audio
deriving DecidableEq, Repr, Inhabited

namespace MediaKind

/-- The word of a kind. -/
def name : MediaKind → String
  | .video => "video"
  | .audio => "audio"

/-- The kind of a word. -/
def ofName? (word : String) : Option MediaKind := [video, audio].find? (·.name = word)

end MediaKind

/-- A codec under its payload number. -/
structure CodecEntry where
  payload : Nat
  name : String
  /-- Ticks a second. -/
  clock : Nat
  /-- How many channels; zero if that is not said. -/
  channels : Nat := 0
  /-- Parameters between semicolons. -/
  params : String := ""
deriving DecidableEq, Repr, Inhabited

namespace CodecEntry

/-- Name, clock and channels. -/
def format (c : CodecEntry) : String :=
  c.name ++ "/" ++ toString c.clock ++ if c.channels = 0 then "" else "/" ++ toString c.channels

/-- The lines of a codec in a description. -/
def lines (c : CodecEntry) : List String :=
  (toString c.payload ++ " " ++ c.format)
    :: if c.params = "" then [] else [toString c.payload ++ " " ++ c.params]

/-- The parameters with their values, by names in small letters. -/
def parameters (c : CodecEntry) : List (String × String) :=
  (splitAtChar ';' c.params.toList).map fun p =>
    let key := p.takeWhile (· ≠ '=')
    (lowerAscii (String.ofList key), String.ofList (p.drop (key.length + 1)))

/-- The value of a parameter; of two that have one name the later counts. -/
def parameter? (key : String) (c : CodecEntry) : Option String := c.parameters.reverse.lookup key

/-- Two codecs of one name. -/
def sameName (a b : CodecEntry) : Bool := sameIgnoringCase a.name b.name

end CodecEntry

/-! ## Fitting -/

/-- The bytes of pairs of hexadecimal digits. -/
def hexBytes? : List Char → Option (List Nat)
  | [] => some []
  | [_] => none
  | a :: b :: rest => do return ((← hexValue? a) * 16 + (← hexValue? b)) :: (← hexBytes? rest)

/-- The profile of the codec H264: all but the level, which is the third byte. -/
def h264Profile? (c : CodecEntry) : Option (Nat × Nat) := do
  match ← hexBytes? (← c.parameter? "profile-level-id").toList with
  | a :: b :: _ => some (a, b)
  | _ => none

/-- Two entries of the codec H264 fit if both name one mode and one profile. -/
def h264Fits (a b : CodecEntry) : Bool :=
  match a.parameter? "packetization-mode", b.parameter? "packetization-mode", h264Profile? a,
    h264Profile? b with
  | some m, some n, some x, some y => m = n && x = y
  | _, _, _, _ => false

/-- Two codecs of one name whose parameters do not contradict each other. -/
def CodecEntry.fits (a b : CodecEntry) : Bool :=
  a.sameName b
    && if lowerAscii a.name = "h264" then h264Fits a b
      else a.parameters.all fun (k, _) =>
        match a.parameter? k, b.parameter? k with
        | some v, some w => sameIgnoringCase v w
        | _, _ => true

/-- How well a codec fits. -/
inductive Fit
  | exact
  /-- By its name alone. -/
  | byName
deriving DecidableEq, Repr

/-- How well a codec fits one of those that are known. -/
def CodecEntry.fitAmong? (c : CodecEntry) (known : List CodecEntry) : Option Fit :=
  if known.any c.fits then some .exact else if known.any c.sameName then some .byName else none

/-! ## Known codecs -/

/-- Parameters of the codec H264. -/
def h264Params (mode profile : String) : String :=
  "level-asymmetry-allowed=1;packetization-mode=" ++ mode ++ ";profile-level-id=" ++ profile

/-- A video codec; its clock is that of all video. -/
def videoCodec (payload : Nat) (name : String) (params : String := "") : CodecEntry :=
  { payload, name, clock := 90000, params }

/-- The audio codec of the talk-back. -/
def opus : CodecEntry := ⟨111, "opus", 48000, 2, "minptime=10;useinbandfec=1"⟩

/-- All codecs of a kind. -/
def allCodecs : MediaKind → List CodecEntry
  | .audio =>
    [opus, { payload := 9, name := "G722", clock := 8000 },
      { payload := 0, name := "PCMU", clock := 8000 },
      { payload := 8, name := "PCMA", clock := 8000 }]
  | .video =>
    [videoCodec 96 "VP8", videoCodec 98 "VP9" "profile-id=0", videoCodec 100 "VP9" "profile-id=1",
      videoCodec 102 "H264" (h264Params "1" "42001f"),
      videoCodec 127 "H264" (h264Params "0" "42001f"),
      videoCodec 125 "H264" (h264Params "1" "42e01f"),
      videoCodec 108 "H264" (h264Params "0" "42e01f"),
      videoCodec 123 "H264" (h264Params "1" "640032"), videoCodec 41 "AV1" "profile-id=0",
      videoCodec 126 "H265", videoCodec 116 "ulpfec"]

/-- The video codec of a preference. -/
def preferredVideo : Codec → CodecEntry
  | .h264 => videoCodec 102 "H264" (h264Params "1" "42e01f")
  | .vp8 => videoCodec 96 "VP8"
  | .vp9 => videoCodec 98 "VP9" "profile-id=0"

/-- The codecs of a kind under a preference, which leaves one of each. -/
def codecsFor (preference : Option Codec) (kind : MediaKind) : List CodecEntry :=
  match preference, kind with
  | none, kind => allCodecs kind
  | some _, .audio => [opus]
  | some codec, .video => [preferredVideo codec]

end CameraViewer.Rtc
