import Roosty.Library.Result
import Roosty.Network.Address

/-!
# Remote URLs

URLs as their library parses them, and the checks of the two outbound clients before
they connect. Name resolution, the parser of addresses and the policy for domains are
parameters.
-/

set_option autoImplicit false

namespace Roosty.Network

open Library

inductive Host where
  | domain (name : String)
  | ip (address : IpAddr) (text : String)
deriving DecidableEq

/-- `Url::host_str`. -/
def Host.str : Host → String
  | .domain name => name
  | .ip _ text => text

/-- A parsed URL. The port is the explicit one or the known default of the scheme;
`rest` is the path with query and fragment. -/
structure Url where
  scheme : String
  username : String
  password : Option String
  host : Option Host
  port : Option Nat
  rest : String
deriving DecidableEq

def Url.hostStr (url : Url) : Option String := url.host.map Host.str

/-- Equality of `Url::origin`. The origin of a URL with another scheme is opaque, and
equal to no other. -/
def Url.sameOrigin (left right : Url) : Bool :=
  ["ftp", "http", "https", "ws", "wss"].contains left.scheme && left.scheme == right.scheme &&
    left.host == right.host && left.port == right.port

def toLowercase (text : String) : String := String.ofList (Text.toAsciiLowercase text.toList)

/-- `str::eq_ignore_ascii_case`. -/
def eqIgnoreAsciiCase (left right : String) : Bool := toLowercase left == toLowercase right

/-!
## The federation client
-/

inductive DiscoveryError where
  | policyRejected (domain : String)
  | failed (error : RoostyError)
deriving DecidableEq

def invalid (message : String) : DiscoveryError := .failed (.invalidInput message)

structure Resolver where
  federationDomainIsAllowed : String → Bool
  federationDomainIsSuspended : String → Bool
  parseIp : String → Option IpAddr
  lookupHost : String → Nat → Option (List SocketAddr)

variable (resolver : Resolver)

/-- The addresses of the host of a URL: `validate_remote_url` up to the lookup. -/
def remoteAddresses (url : Url) : Except DiscoveryError (List SocketAddr) := do
  ensure (url.scheme == "https" && url.username == "" && url.password.isNone)
    (invalid "remote URL must be an unauthenticated HTTPS URL")
  let host ← okOr (url.hostStr.map toLowercase) (invalid "remote URL has no host")
  ensure (resolver.federationDomainIsAllowed host && !resolver.federationDomainIsSuspended host)
    (.policyRejected host)
  ensure (resolver.parseIp host).isNone
    (invalid "literal IP addresses are not permitted for federation")
  let port ← okOr url.port (invalid "remote URL has no port")
  okOr (resolver.lookupHost host port) (invalid "remote domain could not be resolved")

/-- Enforce HTTPS, domain policy, and public DNS resolution before connecting. -/
def validateRemoteUrl (url : Url) : Except DiscoveryError SocketAddr := do
  let addresses ← remoteAddresses resolver url
  (publicAddress addresses).mapError .failed

/-!
## The web-push client
-/

def validateUrl (url : Url) : Except WebPushError Unit :=
  if url.scheme != "https" then .error (.invalidEndpoint "HTTPS is required")
  else if url.username != "" || url.password.isSome then
    .error (.invalidEndpoint "credentials are not permitted")
  else
    match url.host with
    | some (.domain _) => .ok ()
    | some (.ip address _) => if isPublic address then .ok () else .error .unsafeEndpoint
    | none => .error (.invalidEndpoint "host is missing")

end Roosty.Network
