import CameraViewer.Signal.Candidate

/-!
# Signal/IceServer — servers that help two peers find each other

The relay announces servers either as a bare list or inside a whole peer configuration; a server has
one address or a list of them. Both shapes are kept as they came.
-/

namespace CameraViewer.Signal

open Json

/-- The addresses of a server. -/
inductive IceUrls
  | one (url : String)
  | many (urls : List String)
deriving DecidableEq, Repr, Inhabited

namespace IceUrls

/-- The addresses as a list. -/
def toList : IceUrls → List String
  | .one url => [url]
  | .many urls => urls

/-- A string or an array of strings. -/
def ofTree? (t : Tree) : Option IceUrls :=
  match t.text? with
  | some url => some (.one url)
  | none => (t.list? Tree.text?).map .many

/-- The addresses in the shape they came in. -/
def toValue : IceUrls → Value
  | .one url => .string url
  | .many urls => .array (urls.map .string)

end IceUrls

/-- A server, with what it takes to use it. -/
structure IceServer where
  /-- Where it is. -/
  urls : IceUrls
  /-- Name of the user. -/
  username : Option String
  /-- The secret of the user. -/
  credential : Option String
deriving DecidableEq, Repr, Inhabited

namespace IceServer

/-- A server that asks for no user. -/
def stun (url : String) : IceServer := ⟨.one url, none, none⟩

/-- The server of a record. -/
def ofTree? (t : Tree) : Option IceServer := do
  match ← t.record? ["urls", "username", "credential"] with
  | [urls, username, credential] =>
    return ⟨← IceUrls.ofTree? (← urls), ← Candidate.optionalField Tree.text? username,
      ← Candidate.optionalField Tree.text? credential⟩
  | _ => none

/-- The record of a server; what is not known is left out. -/
def toValue (s : IceServer) : Value :=
  .object ([("urls", s.urls.toValue)]
    ++ Value.optional "username" (s.username.map .string)
    ++ Value.optional "credential" (s.credential.map .string))

end IceServer

/-- Servers as the relay announces them. -/
inductive IceServerList
  /-- Inside a peer configuration. -/
  | config (servers : List IceServer)
  /-- A bare list. -/
  | bare (servers : List IceServer)
deriving DecidableEq, Repr, Inhabited

namespace IceServerList

/-- The servers. -/
def toList : IceServerList → List IceServer
  | .config list => list
  | .bare list => list

/-- Whether the list came inside a configuration. -/
def isConfig : IceServerList → Bool
  | .config _ => true
  | .bare _ => false

/-- The servers of a configuration object. -/
def configOfTree? (t : Tree) : Option (List IceServer) := do
  match ← t.namedRecord? ["iceServers"] with
  | [servers] => (← servers).list? IceServer.ofTree?
  | _ => none

/-- A configuration object with a list of servers, or the list alone. -/
def ofTree? (t : Tree) : Option IceServerList :=
  match configOfTree? t with
  | some servers => some (.config servers)
  | none => (t.list? IceServer.ofTree?).map .bare

/-- The servers in the shape they came in. -/
def toValue : IceServerList → Value
  | .config servers => .object [("iceServers", .array (servers.map IceServer.toValue))]
  | .bare servers => .array (servers.map IceServer.toValue)

end IceServerList

end CameraViewer.Signal
