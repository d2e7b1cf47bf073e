import CameraViewer.Url.Address
import CameraViewer.Url.Name
import CameraViewer.Url.Percent

/-!
# Url/Basic — addresses on the web

An address of one of the web schemes in its parts, its text, and the causes for which a text is no
address.
-/

namespace CameraViewer.Url

/-- Why a text is no address. -/
inductive UrlError
  | emptyHost
  | invalidName
  | invalidPort
  | invalidIpv4
  | invalidIpv6
  | invalidCharacter
  /-- It does not start with a scheme. -/
  | noScheme
deriving DecidableEq, Repr

/-- What is said about a text that is no address. -/
def UrlError.message : UrlError → String
  | .emptyHost => "empty host"
  | .invalidName => "invalid international domain name"
  | .invalidPort => "invalid port number"
  | .invalidIpv4 => "invalid IPv4 address"
  | .invalidIpv6 => "invalid IPv6 address"
  | .invalidCharacter => "invalid domain character"
  | .noScheme => "relative URL without a base"

/-- Where an address leads. -/
inductive Host
  /-- A name in plain characters. -/
  | name (text : String)
  | ipv4 (number : Nat)
  | ipv6 (groups : List Nat)
deriving DecidableEq, Repr

namespace Host

/-- The text of a host. -/
def text : Host → String
  | .name t => t
  | .ipv4 n => ipv4Text n
  | .ipv6 groups => "[" ++ ipv6Text groups ++ "]"

/-- An eight-part address between brackets; the opening one is gone. -/
def readBracketed (cs : List Char) : Except UrlError Host :=
  match cs.reverse with
  | ']' :: inner =>
    match readIpv6? inner.reverse with
    | some groups => .ok (.ipv6 groups)
    | none => .error .invalidIpv6
  | _ => .error .invalidIpv6

/-- A host of a web address. -/
def read : List Char → Except UrlError Host
  | '[' :: rest => readBracketed rest
  | cs =>
    match (textOfBytes? (decode cs)).bind plainName? with
    | none => .error .invalidName
    | some [] => .error .emptyHost
    | some plain =>
      if endsInNumber plain then
        match readIpv4? plain with
        | some n => .ok (.ipv4 n)
        | none => .error .invalidIpv4
      else .ok (.name (String.ofList plain))

/-- Characters that a host of any other address does not have. -/
def notInOpaque (c : Char) : Bool :=
  c ∈ ['\x00', '\t', '\n', '\r', ' ', '#', '/', ':', '<', '>', '?', '@', '[', '\\', ']', '^', '|']

/-- A host of any other address. -/
def readOpaque : List Char → Except UrlError Host
  | '[' :: rest => readBracketed rest
  | cs =>
    if cs.any notInOpaque then .error .invalidCharacter
    else .ok (.name (String.ofList (encode (fun _ => false) cs)))

end Host

/-- An address of one of the web schemes. -/
structure WebUrl where
  /-- In small letters. -/
  scheme : String
  /-- Who asks: name and password with the marks around them, or nothing. -/
  user : String
  host : Host
  /-- A port other than that of the scheme. -/
  port : Option Nat
  /-- The closed segments of the path. -/
  segments : List String
  /-- What follows the last slash of the path. -/
  last : String
  query : Option String
  fragment : Option String
deriving DecidableEq, Repr

/-- A part with its mark, if it is there. -/
def marked (mark : String) : Option String → String
  | none => ""
  | some part => mark ++ part

/-- The text of an address. -/
def WebUrl.text (u : WebUrl) : String :=
  u.scheme ++ "://" ++ u.user ++ u.host.text ++ marked ":" (u.port.map toString) ++ "/"
    ++ String.join (u.segments.map (· ++ "/")) ++ u.last ++ marked "?" u.query
    ++ marked "#" u.fragment

end CameraViewer.Url
