import CameraViewer.Text.Blank
import CameraViewer.Url.Address

/-!
# Rtc/CandidateLine — candidates a peer can take

A candidate line has at least eight words: foundation, component, transport, priority, address,
port, a word for the type, and the type. An empty line says that no more candidates come.
-/

namespace CameraViewer.Rtc

open Text

/-- A four-part address written plainly. -/
def isPlainIpv4 (cs : List Char) : Bool := (Url.ipv4Tail? cs).isSome

/-- A numeric address. -/
def isNumericAddress (cs : List Char) : Bool := isPlainIpv4 cs || (Url.readIpv6? cs).isSome

/-- A transport, in any case. -/
def isTransport (cs : List Char) : Bool :=
  let small := cs.map Char.toLower
  (dropLead? "udp".toList small).isSome || (dropLead? "tcp".toList small).isSome

/-- A name of the local network. -/
def isLocalName (cs : List Char) : Bool := (dropLead? "lacol.".toList cs.reverse).isSome

/-- What follows the type: an address it is related to, or the kind of a connection. -/
def isExtension : List (List Char) → Bool
  | [] => true
  | word :: rest =>
    if word = "raddr".toList then
      match rest with
      | _ :: _ :: port :: _ => (readNumeral? UInt16.size port).isSome
      | _ => false
    else if word = "tcptype".toList then !rest.isEmpty
    else true

/-- A candidate line without its first word. -/
def isCandidate (cs : List Char) : Bool :=
  match blankWords cs with
  | _ :: component :: transport :: priority :: address :: port :: _ :: type :: rest =>
    let type := String.ofList type
    (readNumeral? UInt16.size component).isSome && (readNumeral? UInt32.size priority).isSome
      && (readNumeral? UInt16.size port).isSome && isExtension rest
      && (type = "host" && isLocalName address
        || type ∈ ["host", "srflx", "prflx", "relay"] && isNumericAddress address
          && isTransport transport)
  | _ => false

/-- A candidate that a peer can take. -/
def isAcceptable (candidate : String) : Bool :=
  let cs := candidate.toList
  let cs := (dropLead? "candidate:".toList cs).getD cs
  cs.isEmpty || isCandidate cs

end CameraViewer.Rtc
