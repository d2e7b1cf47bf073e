import CameraViewer.Text.Mark
import CameraViewer.Text.Ranges

/-!
# Url/Direction — labels that can be read one way

Where a host name has a letter that is written from the right, each of its labels has to start with
a letter, to keep to one direction, and to end with a letter or a digit.
-/

namespace CameraViewer.Url

open Text

/-- How a character takes part in the direction of a text. -/
inductive Bearing
  | left
  | right
  /-- A digit of Europe. -/
  | digit
  /-- A digit of Arabia. -/
  | arabicDigit
  /-- It takes the direction of what is around it. -/
  | neutral
  /-- A mark that takes no room. -/
  | mark
deriving DecidableEq, Repr

/-- Letters that are written from the right. -/
def rightwardRanges : Array (Nat × Nat) :=
  #[
    (0x5be, 0x5f4), (0x608, 0x608), (0x60b, 0x60b), (0x60d, 0x60d), (0x61b, 0x64a),
    (0x66d, 0x6d5), (0x6e5, 0x6e6), (0x6ee, 0x6ef), (0x6fa, 0x7f5), (0x7fa, 0x8c9),
    (0xfbb2, 0xfbd2), (0xfd90, 0xfdce), (0xfe73, 0xfe73), (0x10800, 0x1091b), (0x10920, 0x10b35),
    (0x10b40, 0x10d23), (0x10d4a, 0x10d8f), (0x10e80, 0x10ff6), (0x1e800, 0x1ed3d)]

/-- Digits of Europe. -/
def digitRanges : Array (Nat × Nat) :=
  #[(0x30, 0x39), (0x6f0, 0x6f9), (0x102e1, 0x102fb)]

/-- Digits of Arabia. -/
def arabicDigitRanges : Array (Nat × Nat) :=
  #[(0x660, 0x669), (0x66b, 0x66c), (0x10d30, 0x10d49), (0x10e60, 0x10e7e)]

/-- Signs of no direction. -/
def neutralRanges : Array (Nat × Nat) :=
  #[
    (0x0, 0x2f), (0x3a, 0x40), (0x5b, 0x60), (0x7b, 0x7f), (0xa1, 0xd7), (0xf7, 0xf7),
    (0x2b9, 0x2ba), (0x2c2, 0x2cf), (0x2d2, 0x2ed), (0x2ef, 0x2ff), (0x375, 0x375),
    (0x3f6, 0x3f6), (0x58a, 0x58f), (0x606, 0x607), (0x609, 0x60a), (0x60c, 0x60c),
    (0x60e, 0x60f), (0x66a, 0x66a), (0x6de, 0x6de), (0x6e9, 0x6e9), (0x7f6, 0x7f9),
    (0x9f2, 0x9f3), (0x9fb, 0x9fb), (0xaf1, 0xaf1), (0xbf3, 0xbfa), (0xc78, 0xc7e),
    (0xe3f, 0xe3f), (0xf3a, 0xf3d), (0x1390, 0x1399), (0x1400, 0x1400), (0x169b, 0x169c),
    (0x17db, 0x17db), (0x17f0, 0x180a), (0x1940, 0x1945), (0x19de, 0x19ff), (0x1b4e, 0x1b4f),
    (0x1b7f, 0x1b7f), (0x200c, 0x214d), (0x218a, 0x2335), (0x237b, 0x2394), (0x2396, 0x26ab),
    (0x26ad, 0x27ff), (0x2900, 0x2bff), (0x2ce5, 0x2cea), (0x2cf9, 0x2cff), (0x2e00, 0x3004),
    (0x3008, 0x3020), (0x3030, 0x3030), (0x3037, 0x3037), (0x303d, 0x303f), (0x30a0, 0x30a0),
    (0x30fb, 0x30fb), (0x31c0, 0x31e5), (0x4dc0, 0x4dff), (0xa490, 0xa4c6), (0xa60d, 0xa60f),
    (0xa673, 0xa67f), (0xa700, 0xa721), (0xa788, 0xa788), (0xa828, 0xa82b), (0xa838, 0xa839),
    (0xa874, 0xa877), (0xab6a, 0xab6b), (0xfd3e, 0xfd4f), (0xfdcf, 0xfe46), (0x10101, 0x10101),
    (0x10140, 0x1018c), (0x10190, 0x101a0), (0x1091f, 0x1091f), (0x10b39, 0x10b3f),
    (0x11052, 0x11065), (0x113d4, 0x113d8), (0x11660, 0x1166c), (0x11be1, 0x11be1),
    (0x11fd5, 0x11ff1), (0x16d6d, 0x16d6f), (0x16fe2, 0x16fe2), (0x1cc00, 0x1cef0),
    (0x1d1e9, 0x1d245), (0x1d300, 0x1d356), (0x1e2ff, 0x1e2ff), (0x1e5ff, 0x1e5ff),
    (0x1eef0, 0x1f12f), (0x1f16d, 0x1f16f), (0x1f1ad, 0x1f1ad), (0x1f260, 0x1fbfa)]

/-- The bearing of a character that stands in a host name. -/
def bearing (c : Char) : Bearing :=
  if isRoomless c then .mark
  else if inRanges rightwardRanges c then .right
  else if inRanges digitRanges c then .digit
  else if inRanges arabicDigitRanges c then .arabicDigit
  else if inRanges neutralRanges c then .neutral
  else .left

/-- The last bearing that is not that of a mark. -/
def lastBearing? (bs : List Bearing) : Option Bearing := bs.reverse.find? (· ≠ .mark)

/-- A label that keeps to one direction. -/
def keepsDirection (label : List Char) : Bool :=
  let bs := label.map bearing
  match bs.head? with
  | none => true
  | some .right =>
    !bs.contains .left && !(bs.contains .digit && bs.contains .arabicDigit)
      && lastBearing? bs ∈ [some .right, some .digit, some .arabicDigit]
  | some .left =>
    !bs.contains .right && !bs.contains .arabicDigit && lastBearing? bs ∈ [some .left, some .digit]
  | some _ => false

/-- Labels with a letter or a digit that is written from the right have to keep their direction. -/
def areReadable (labels : List (List Char)) : Bool :=
  !(labels.any fun l => l.any fun c => bearing c = .right || bearing c = .arabicDigit)
    || labels.all keepsDirection

end CameraViewer.Url
