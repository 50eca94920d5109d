import Roosty.Library.Trim
import Roosty.Library.Uuid
import Roosty.Network.Address

/-!
# Client addresses

The address that a request is attributed to: its peer, or what trusted proxies say of the
peers before them. Texts of addresses are read as the standard library reads them.
-/

set_option autoImplicit false

namespace Roosty.Network

open Library

/-!
## Texts of addresses
-/

namespace AddressText

/-- A number of at most `maxDigits` digits, below `limit`. -/
def readNumber (radix maxDigits limit : Nat) (allowZeroPrefix : Bool) (text : List Char) :
    Option (Nat × List Char) :=
  let digits := text.takeWhile fun letter => (Text.hexDigit? letter).any fun digit => digit < radix
  let value := digits.foldl
    (fun value letter => value * radix + (Text.hexDigit? letter).getD 0) 0
  if digits.isEmpty || maxDigits < digits.length || limit ≤ value ||
      (!allowZeroPrefix && digits.head? == some '0' && 1 < digits.length) then
    none
  else some (value, text.drop digits.length)

def readGivenChar (given : Char) : List Char → Option (List Char)
  | [] => none
  | letter :: rest => if letter = given then some rest else none

/-- A value after a separator, which the first of a sequence does not have. -/
def readSeparated {Value : Type} (separator : Char) (first : Bool)
    (read : List Char → Option (Value × List Char)) (text : List Char) :
    Option (Value × List Char) :=
  if first then read text else (readGivenChar separator text).bind read

def readOctet (first : Bool) (text : List Char) : Option (Nat × List Char) :=
  readSeparated '.' first (readNumber 10 3 256 false) text

def readIpv4Addr (text : List Char) : Option (Ipv4Addr × List Char) := do
  let (a, rest) ← readOctet true text
  let (b, rest) ← readOctet false rest
  let (c, rest) ← readOctet false rest
  let (d, rest) ← readOctet false rest
  some (⟨a.toUInt8, b.toUInt8, c.toUInt8, d.toUInt8⟩, rest)

def embeddedSegments (address : Ipv4Addr) : List UInt16 :=
  [address.a.toUInt16 <<< 8 ||| address.b.toUInt16, address.c.toUInt16 <<< 8 ||| address.d.toUInt16]

/-- Up to `remaining` segments, and whether they end in an IPv4 address. -/
def readGroups : Nat → Bool → List Char → List UInt16 × Bool × List Char
  | 0, _, text => ([], false, text)
  | remaining + 1, first, text =>
      match (if 0 < remaining then readSeparated ':' first readIpv4Addr text else none) with
      | some (address, rest) => (embeddedSegments address, true, rest)
      | none => match readSeparated ':' first (readNumber 16 4 65536 true) text with
        | none => ([], false, text)
        | some (group, rest) =>
            let (groups, embedded, rest) := readGroups remaining false rest
            (group.toUInt16 :: groups, embedded, rest)

def ipv6OfSegments : List UInt16 → Option Ipv6Addr
  | [s0, s1, s2, s3, s4, s5, s6, s7] => some ⟨s0, s1, s2, s3, s4, s5, s6, s7⟩
  | _ => none

def readIpv6Addr (text : List Char) : Option (Ipv6Addr × List Char) := do
  let (head, embedded, rest) := readGroups 8 true text
  if head.length = 8 then do
    let address ← ipv6OfSegments head
    some (address, rest)
  else if embedded then none
  else do
    let rest ← readGivenChar ':' rest
    let rest ← readGivenChar ':' rest
    let (tail, _, rest) := readGroups (8 - (head.length + 1)) true rest
    let zeros := List.replicate (8 - head.length - tail.length) 0
    let address ← ipv6OfSegments (head ++ zeros ++ tail)
    some (address, rest)

end AddressText

/-- `str::parse::<IpAddr>`. -/
def parseIpAddr (text : List Char) : Option IpAddr :=
  let read := ((AddressText.readIpv4Addr text).map fun (address, rest) => (IpAddr.v4 address, rest)).or
    ((AddressText.readIpv6Addr text).map fun (address, rest) => (IpAddr.v6 address, rest))
  match read with
  | some (address, []) => some address
  | _ => none

/-!
## Resolution
-/

def normalize : IpAddr → IpAddr
  | .v6 address => match address.toIpv4Mapped with
    | some mapped => .v4 mapped
    | none => .v6 address
  | address => address

section

-- `contains` is `IpNet::contains`, of a type of networks.
variable {IpNet : Type} (contains : IpNet → IpAddr → Bool)

def isTrusted (address : IpAddr) (trustedProxies : List IpNet) : Bool :=
  trustedProxies.any fun network => contains network address

def parseChain (value : String) : Option (List IpAddr) :=
  ((value.toList.splitOn ',').map (Text.trimMatches Text.isWhitespace)).mapM fun part =>
    (parseIpAddr part).map normalize

/-- Resolve a request's client address without trusting caller-controlled forwarding headers.
The lines of `X-Forwarded-For` are given as texts, where they are texts. -/
def resolve (peer : IpAddr) (lines : List (Option String)) (trustedProxies : List IpNet) : IpAddr :=
  let peer := normalize peer
  if !isTrusted contains peer trustedProxies then peer
  else match lines.head?.join with
    | none => peer
    | some value =>
        if 32 < (value.toList.splitOn ',').length then peer
        else match parseChain value with
          | none => peer
          | some chain =>
              (chain.reverse.find? fun address => !isTrusted contains address trustedProxies).getD
                peer

end

end Roosty.Network
