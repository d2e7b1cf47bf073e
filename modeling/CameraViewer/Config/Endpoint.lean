import CameraViewer.Config.Basic
import CameraViewer.Url.Read

/-!
# Config/Endpoint — the address of the relay

The parts of an endpoint make one text, which has to be an address of a relay.
-/

namespace CameraViewer.Config

/-- The schemes of a relay. -/
def relaySchemes : List String := ["ws", "wss"]

/-- The text of an endpoint; leading slashes of the path make no difference. -/
def Endpoint.raw (e : Endpoint) : String :=
  e.scheme ++ "://" ++ e.host ++ Url.marked ":" (e.port.map fun p => toString p.toNat) ++ "/"
    ++ String.ofList (e.path.toList.dropWhile (· = '/'))

/-- How a scheme is refused. -/
def unsupportedScheme (scheme : String) : String := "unsupported scheme " ++ scheme

/-- The address of an endpoint. -/
def Endpoint.address (e : Endpoint) : Except ConfigError String :=
  match Url.read e.raw with
  | .error cause => .error (.invalidEndpoint e.raw cause.message)
  | .ok (.other scheme) => .error (.invalidEndpoint e.raw (unsupportedScheme scheme))
  | .ok (.web u) =>
    if u.scheme ∈ relaySchemes then .ok u.text
    else .error (.invalidEndpoint e.raw (unsupportedScheme u.scheme))

/-- The address of the relay. -/
def ClientConfig.relayUrl (c : ClientConfig) : Except ConfigError String := c.endpoint.address

end CameraViewer.Config
