import CameraViewer.Text.Ascii
import CameraViewer.Text.Blank
import CameraViewer.Url.Read

/-!
# Rtc/Description — descriptions of sessions

A description is a list of lines, each a letter, an equals sign and a value, in a fixed order:
version, origin, name, then optional lines, times, attributes, and the media sections with theirs.
`Description.read?` checks the order and the values and keeps the media sections with their
attributes.
-/

namespace CameraViewer.Rtc

open Text

/-- One line of a description. -/
structure Line where
  key : Char
  /-- Without blanks at its ends. -/
  value : String
deriving DecidableEq, Repr, Inhabited

/-- What one attribute line says: a name and, behind a colon, a value. -/
structure Attribute where
  name : String
  value : Option String := none
deriving DecidableEq, Repr, Inhabited

/-- One media section. -/
structure MediaSection where
  /-- The word for what it carries. -/
  kind : String
  /-- What may stand for the payload. -/
  formats : List String
  attributes : List Attribute := []
deriving DecidableEq, Repr, Inhabited

/-- A description. -/
structure Description where
  /-- The attributes before the first section. -/
  attributes : List Attribute := []
  sections : List MediaSection := []
deriving DecidableEq, Repr, Inhabited

/-- The words of a text. -/
def words (s : String) : List String := (blankWords s.toList).map String.ofList

/-- The pieces of a text between the occurrences of a character. -/
def piecesAt (sep : Char) (s : String) : List String := (splitAtChar sep s.toList).map String.ofList

/-- The line of a text. -/
def Line.read? (cs : List Char) : Option Line :=
  match cs with
  | key :: '=' :: value => some ⟨key, String.ofList (trim value)⟩
  | _ => none

/-- All lines that are not empty; carriage returns before a line are passed over. -/
def Line.readAll? (text : String) : Option (List Line) :=
  let raw := (splitAtChar '\n' text.toList).map fun l => l.dropWhile (· = '\r')
  (raw.filter (!·.isEmpty)).mapM Line.read?

/-- The attribute in the value of a line. -/
def Attribute.ofValue (value : String) : Attribute :=
  let cs := value.toList
  let name := cs.takeWhile (· ≠ ':')
  { name := String.ofList name
    value :=
      if name.length < cs.length then some (String.ofList (cs.drop (name.length + 1))) else none }

/-! ## The order of lines -/

/-- How far a description has been read, by what the last line was. -/
inductive Place
  | start | version | origin | title | info | link | mail | phone | bandwidth | time | zone
  | attribute | media | mediaInfo | mediaBandwidth | mediaAttribute
deriving DecidableEq, Repr

/-- The places between the name and the first time, and the lines that may follow each. -/
def Place.afterTitle? (here : Place) (key : Char) : Option Place :=
  let leads := fun (keys : List Char) (next : Place) => if key ∈ keys then some next else none
  match here with
  | .title =>
    leads ['b', 'c'] .bandwidth <|> leads ['e'] .mail <|> leads ['i'] .info <|> leads ['p'] .phone
      <|> leads ['t'] .time <|> leads ['u'] .link
  | .info =>
    leads ['b', 'c'] .bandwidth <|> leads ['e'] .mail <|> leads ['p'] .phone <|> leads ['t'] .time
      <|> leads ['u'] .link
  | .link =>
    leads ['b', 'c'] .bandwidth <|> leads ['e'] .mail <|> leads ['p'] .phone <|> leads ['t'] .time
  | .mail => leads ['b', 'c'] .bandwidth <|> leads ['p'] .phone <|> leads ['t'] .time
  | .phone => leads ['b', 'c'] .bandwidth <|> leads ['t'] .time
  | .bandwidth => leads ['b'] .bandwidth <|> leads ['t'] .time
  | _ => none

/-- The place after a line, if the line may stand there. -/
def Place.next? (here : Place) (key : Char) : Option Place :=
  match here, key with
  | .start, 'v' => some .version
  | .version, 'o' => some .origin
  | .origin, 's' => some .title
  | .time, 'r' => some .time
  | .time, 't' => some .time
  | .time, 'z' => some .zone
  | .time, 'a' => some .attribute
  | .time, 'k' => some .attribute
  | .time, 'm' => some .media
  | .zone, 'a' => some .attribute
  | .zone, 'k' => some .attribute
  | .zone, 'm' => some .media
  | .attribute, 'a' => some .attribute
  | .attribute, 'm' => some .media
  | .media, 'a' => some .mediaAttribute
  | .media, 'k' => some .mediaAttribute
  | .media, 'b' => some .mediaBandwidth
  | .media, 'c' => some .mediaBandwidth
  | .media, 'i' => some .mediaInfo
  | .media, 'm' => some .media
  | .mediaInfo, 'a' => some .mediaAttribute
  | .mediaInfo, 'k' => some .mediaAttribute
  | .mediaInfo, 'b' => some .mediaBandwidth
  | .mediaInfo, 'c' => some .mediaBandwidth
  | .mediaInfo, 'm' => some .media
  | .mediaBandwidth, 'a' => some .mediaAttribute
  | .mediaBandwidth, 'k' => some .mediaAttribute
  | .mediaBandwidth, 'b' => some .mediaBandwidth
  | .mediaBandwidth, 'c' => some .mediaBandwidth
  | .mediaBandwidth, 'i' => some .mediaBandwidth
  | .mediaBandwidth, 'm' => some .media
  | .mediaAttribute, 'a' => some .mediaAttribute
  | .mediaAttribute, 'k' => some .mediaAttribute
  | .mediaAttribute, 'b' => some .mediaAttribute
  | .mediaAttribute, 'c' => some .mediaAttribute
  | .mediaAttribute, 'i' => some .mediaAttribute
  | .mediaAttribute, 'm' => some .media
  | here, key => here.afterTitle? key

/-- A description may end here. -/
def Place.mayEnd : Place → Bool
  | .time => true
  | .zone => true
  | .attribute => true
  | .media => true
  | .mediaInfo => true
  | .mediaBandwidth => true
  | .mediaAttribute => true
  | _ => false

/-! ## The values of lines -/

/-- A number of 64 bits. -/
def isNumber (s : String) : Bool := (readNumeral? UInt64.size s.toList).isSome

/-- The seconds of a unit of time. -/
def secondsOf? : Char → Option Int
  | 'd' => some 86400
  | 'h' => some 3600
  | 'm' => some 60
  | 's' => some 1
  | _ => none

/-- A span of time: a number, and perhaps the letter of a unit. Its seconds are a number of 64 bits.
-/
def isSpan (s : String) : Bool :=
  let cs := s.toList
  let (digits, unit) := match cs.getLast?.bind secondsOf? with
    | some unit => (cs.dropLast, unit)
    | none => (cs, 1)
  (readSigned? 0x8000000000000000 digits).any fun n =>
    -0x8000000000000000 ≤ n * unit ∧ n * unit < 0x8000000000000000

/-- The word for the network, and those for addresses on it. -/
def isNetwork (net address : String) : Bool := net = "IN" && address ∈ ["IP4", "IP6"]

/-- The value of an origin line. -/
def isOrigin (value : String) : Bool :=
  match words value with
  | [_, session, version, net, address, _] =>
    isNumber session && isNumber version && isNetwork net address
  | _ => false

/-- The value of a connection line. -/
def isConnection (value : String) : Bool :=
  match words value with
  | net :: address :: _ => isNetwork net address
  | _ => false

/-- The value of a line on bandwidth. -/
def isBandwidth (value : String) : Bool :=
  match piecesAt ':' value with
  | [type, amount] =>
    ((dropLead? "X-".toList type.toList).isSome || type ∈ ["CT", "AS", "TIAS", "RS", "RR"])
      && isNumber amount
  | _ => false

/-- The value of a time line. -/
def isTime (value : String) : Bool :=
  match words value with
  | a :: b :: _ => isNumber a && isNumber b
  | _ => false

/-- The value of a line on repeated times. -/
def isRepeat (value : String) : Bool :=
  match words value with
  | a :: b :: c :: rest => (a :: b :: c :: rest).all isSpan
  | _ => false

/-- The value of a line on time zones: pairs of a time and a shift. -/
def isZones (value : String) : Bool := go (words value)
where
  /-- Pairs of words. -/
  go : List String → Bool
    | [] => true
    | time :: shift :: rest => isNumber time && isSpan shift && go rest
    | [_] => false

/-- The words for what a section can carry. -/
def mediaWords : List String := ["audio", "video", "text", "application", "message", "image"]

/-- The words of which a protocol is made. -/
def protocolWords : List String :=
  ["UDP", "RTP", "AVP", "SAVP", "SAVPF", "TLS", "DTLS", "SCTP", "AVPF", "udptl"]

/-- A port, and perhaps how many there are. -/
def isPort (s : String) : Bool :=
  match piecesAt '/' s with
  | port :: range :: _ =>
    (readNumeral? UInt16.size port.toList).isSome && (readSigned? 0x80000000 range.toList).isSome
  | [port] => (readNumeral? UInt16.size port.toList).isSome
  | [] => false

/-- The section that the value of a media line opens. -/
def MediaSection.ofValue? (value : String) : Option MediaSection :=
  match words value with
  | kind :: port :: protocol :: format :: formats =>
    if kind ∈ mediaWords ∧ isPort port ∧ (piecesAt '/' protocol).all (· ∈ protocolWords) then
      some { kind, formats := format :: formats }
    else none
  | _ => none

/-- A line whose value may be as it is. -/
def Line.isValid (l : Line) : Bool :=
  match l.key with
  | 'v' => readNumeral? UInt32.size l.value.toList = some 0
  | 'o' => isOrigin l.value
  | 'u' => (Url.read l.value).isOk
  | 'c' => isConnection l.value
  | 'b' => isBandwidth l.value
  | 't' => isTime l.value
  | 'r' => isRepeat l.value
  | 'z' => isZones l.value
  | _ => true

/-! ## The whole -/

/-- Adds an attribute to the latest section, or before all sections. -/
def Description.addAttribute (a : Attribute) (d : Description) : Description :=
  match d.sections.reverse with
  | [] => { d with attributes := d.attributes ++ [a] }
  | last :: before =>
    { d with sections := (({ last with attributes := last.attributes ++ [a] } :: before).reverse) }

/-- Adds a line, if its value may be as it is. -/
def Description.add? (d : Description) (l : Line) : Option Description :=
  match l.key with
  | 'a' => some (d.addAttribute (Attribute.ofValue l.value))
  | 'm' => (MediaSection.ofValue? l.value).map fun s => { d with sections := d.sections ++ [s] }
  | _ => if l.isValid then some d else none

/-- Reads lines from a place on. -/
def Description.readLines? : Place → Description → List Line → Option Description
  | here, d, [] => if here.mayEnd then some d else none
  | here, d, l :: rest => do readLines? (← here.next? l.key) (← d.add? l) rest

/-- The description in a text. -/
def Description.read? (text : String) : Option Description :=
  (Line.readAll? text).bind (readLines? .start {})

end CameraViewer.Rtc
