import Roosty.Library.Text
import Roosty.Core
import Mathlib.Tactic.Basic

/-!
# Addresses that outbound clients connect to

The federation client and the web-push client refuse hosts that resolve to addresses
outside the public Internet. Each has its own table of address ranges.
-/

set_option autoImplicit false

namespace Roosty.Network

structure Ipv4Addr where
  a : UInt8
  b : UInt8
  c : UInt8
  d : UInt8
deriving DecidableEq

structure Ipv6Addr where
  s0 : UInt16
  s1 : UInt16
  s2 : UInt16
  s3 : UInt16
  s4 : UInt16
  s5 : UInt16
  s6 : UInt16
  s7 : UInt16
deriving DecidableEq

inductive IpAddr where
  | v4 (address : Ipv4Addr)
  | v6 (address : Ipv6Addr)
deriving DecidableEq

structure SocketAddr where
  ip : IpAddr
  port : Nat
deriving DecidableEq

/-!
## Predicates of the standard library
-/

namespace Ipv4Addr

variable (address : Ipv4Addr)

def isPrivate : Bool :=
  address.a == 10 || (address.a == 172 && 16 ≤ address.b && address.b ≤ 31) ||
    (address.a == 192 && address.b == 168)

def isLoopback : Bool := address.a == 127

def isLinkLocal : Bool := address.a == 169 && address.b == 254

def isUnspecified : Bool := address == ⟨0, 0, 0, 0⟩

def isMulticast : Bool := 224 ≤ address.a && address.a ≤ 239

def isBroadcast : Bool := address == ⟨255, 255, 255, 255⟩

def isDocumentation : Bool :=
  (address.a == 192 && address.b == 0 && address.c == 2) ||
    (address.a == 198 && address.b == 51 && address.c == 100) ||
    (address.a == 203 && address.b == 0 && address.c == 113)

/-- The IPv6 address `::ffff:a.b.c.d`. -/
def toIpv6Mapped : Ipv6Addr :=
  ⟨0, 0, 0, 0, 0, 0xffff, address.a.toUInt16 <<< 8 ||| address.b.toUInt16,
    address.c.toUInt16 <<< 8 ||| address.d.toUInt16⟩

end Ipv4Addr

namespace Ipv6Addr

variable (address : Ipv6Addr)

def isLoopback : Bool := address == ⟨0, 0, 0, 0, 0, 0, 0, 1⟩

def isUnspecified : Bool := address == ⟨0, 0, 0, 0, 0, 0, 0, 0⟩

def isUniqueLocal : Bool := address.s0 &&& 0xfe00 == 0xfc00

def isUnicastLinkLocal : Bool := address.s0 &&& 0xffc0 == 0xfe80

def isMulticast : Bool := address.s0 &&& 0xff00 == 0xff00

def toIpv4Mapped : Option Ipv4Addr :=
  if address.s0 == 0 && address.s1 == 0 && address.s2 == 0 && address.s3 == 0 &&
      address.s4 == 0 && address.s5 == 0xffff then
    some ⟨(address.s6 >>> 8).toUInt8, address.s6.toUInt8, (address.s7 >>> 8).toUInt8,
      address.s7.toUInt8⟩
  else none

end Ipv6Addr

/-!
## The federation client
-/

def isUnsafeAddress : IpAddr → Bool
  | .v4 address =>
      address.isPrivate || address.isLoopback || address.isLinkLocal || address.isUnspecified ||
        address.isMulticast || address.isBroadcast || address.isDocumentation ||
        (address.a == 198 && (address.b == 18 || address.b == 19)) || address.a == 0
  | .v6 address =>
      address.isLoopback || address.isUnspecified || address.isUniqueLocal ||
        address.isUnicastLinkLocal || address.isMulticast

/-- The first of the resolved addresses, when all are public: the end of
`validate_remote_url`. -/
def publicAddress (addresses : List SocketAddr) : Except RoostyError SocketAddr :=
  if addresses.isEmpty || addresses.any fun address => isUnsafeAddress address.ip then
    .error (.invalidInput "remote domain resolves to a non-public address")
  else
    match addresses.head? with
    | some address => .ok address
    | none => .error (.invalidInput "remote domain could not be resolved")

/-!
## The web-push client
-/

inductive WebPushError where
  | invalidEndpoint (reason : String)
  | unsafeEndpoint
  | unresolvedEndpoint
  | invalidSubscriberKey
  | invalidAuthSecret
  | payloadTooLarge
  | encryption
deriving DecidableEq

def isPublicV4 (ip : Ipv4Addr) : Bool :=
  !(ip.a == 0 || ip.a == 10 || ip.a == 127 ||
    (ip.a == 100 && 64 ≤ ip.b && ip.b ≤ 127) ||
    (ip.a == 169 && ip.b == 254) ||
    (ip.a == 172 && 16 ≤ ip.b && ip.b ≤ 31) ||
    (ip.a == 192 && ip.b == 0 && ip.c == 0) ||
    (ip.a == 192 && ip.b == 0 && ip.c == 2) ||
    (ip.a == 192 && ip.b == 168) ||
    (ip.a == 198 && (ip.b == 18 || ip.b == 19)) ||
    (ip.a == 198 && ip.b == 51 && ip.c == 100) ||
    (ip.a == 203 && ip.b == 0 && ip.c == 113) ||
    224 ≤ ip.a)

def isPublicV6 (ip : Ipv6Addr) : Bool :=
  match ip.toIpv4Mapped with
  | some v4 => isPublicV4 v4
  | none =>
      !(ip.isUnspecified || ip.isLoopback || ip.s0 &&& 0xfe00 == 0xfc00 ||
        ip.s0 &&& 0xffc0 == 0xfe80 || ip.s0 &&& 0xff00 == 0xff00 ||
        (ip.s0 == 0x2001 && ip.s1 == 0x0db8))

def isPublic : IpAddr → Bool
  | .v4 ip => isPublicV4 ip
  | .v6 ip => isPublicV6 ip

def validateResolved (addresses : List SocketAddr) : Except WebPushError Unit :=
  if addresses.isEmpty then .error .unresolvedEndpoint
  else if addresses.any fun address => !isPublic address.ip then .error .unsafeEndpoint
  else .ok ()

end Roosty.Network
