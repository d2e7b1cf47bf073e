import CameraViewer.Signal.IceServer
import CameraViewer.Url.Read

/-!
# Rtc/Server — servers a peer can use

The address of a server is a scheme, a host, and at most a port; a relay server may also name its
transport, and needs a user. The query of any other server is passed over.
-/

namespace CameraViewer.Rtc

open Signal Text Url

/-- The schemes of servers; the second of each kind is over a secure connection. -/
def stunSchemes : List String := ["stun", "stuns"]

/-- The schemes of relay servers. -/
def turnSchemes : List String := ["turn", "turns"]

/-- A part of a query as it is meant: a plus sign is a blank, and bytes after percent signs are
read. -/
def queryText (cs : List Char) : String :=
  (textOfBytes? (decode (cs.map fun c => if c = '+' then ' ' else c))).getD ""

/-- The pairs of a query. -/
def queryPairs (query : List Char) : List (String × String) :=
  ((splitAtChar '&' query).filter (!·.isEmpty)).map fun p =>
    let key := p.takeWhile (· ≠ '=')
    (queryText key, queryText (p.drop (key.length + 1)))

/-- Whether a query fits the scheme of a server. -/
def queryFits (scheme : String) (pairs : List (String × String)) : Bool :=
  if scheme ∈ turnSchemes then
    match pairs with
    | [] => true
    | [(key, value)] => key = "transport" && value ∈ ["udp", "tcp"]
    | _ => false
  else pairs.isEmpty

/-- The query of what follows an authority. -/
def queryOf (rest : List Char) : List Char :=
  ((rest.takeWhile (· ≠ '#')).dropWhile (· ≠ '?')).drop 1

/-- The text with the slashes that its scheme goes without. -/
def withSlashes (text : List Char) : Option (List Char) :=
  if (cutPair text).isSome then none
  else
    match text.dropWhile (· ≠ ':') with
    | [] => none
    | _ :: rest => some (text.takeWhile (· ≠ ':') ++ [':', '/', '/'] ++ rest)
where
  /-- Two slashes in a row. -/
  cutPair : List Char → Option Unit
    | '/' :: '/' :: _ => some ()
    | _ :: rest => cutPair rest
    | [] => none

/-- An address without the query that servers of the first kind have no use for. -/
def withoutIdleQuery (address : List Char) : List Char :=
  if (dropLead? "stun".toList address).isSome then address.takeWhile (· ≠ '?') else address

/-- The scheme of a server address, if it is one. -/
def serverScheme? (address : String) : Option String := do
  let (scheme, rest) ← readScheme? (cleaned (← withSlashes (withoutIdleQuery address.toList)))
  let known := scheme ∈ stunSchemes ++ turnSchemes
  match readAuthority false (rest.drop 2) with
  | .error _ => none
  | .ok (a, rest) =>
    if known ∧ !a.host.isEmpty ∧ queryFits scheme (queryPairs (queryOf rest)) then some scheme
    else none

/-- Whether a peer can use a server. -/
def isUsable (s : IceServer) : Bool :=
  s.urls.toList.all fun address =>
    match serverScheme? address with
    | none => false
    | some scheme =>
      scheme ∉ turnSchemes || (s.username.getD "" ≠ "" && s.credential.getD "" ≠ "")

end CameraViewer.Rtc
