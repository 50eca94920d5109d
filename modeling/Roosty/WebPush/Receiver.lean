import Roosty.WebPush.Crypto

/-!
# The receiver of push messages

What a user agent does with a request, by the message encryption of web push over the
encrypted content encodings, and by the drafts before them. It knows the private key and the
authentication secret of its subscription, the headers and the body.
-/

set_option autoImplicit false

namespace Roosty.WebPush

open Library Library.Octets

structure Received where
  recordSize : Nat
  records : List Bytes
deriving DecidableEq

/-- The plaintext before the last octet that is not zero: 2 in the last record, 1 in others. -/
def unpadStandard (last : Bool) (padded : Bytes) : Option Bytes :=
  match padded.reverse.dropWhile (· == 0) with
  | [] => none
  | delimiter :: rest => if delimiter = (if last then 2 else 1) then some rest.reverse else none

/-- The plaintext after as many zeros as two octets say. -/
def unpadLegacy (padded : Bytes) : Option Bytes :=
  let padding := fromBeBytes (padded.take 2)
  if 2 + padding ≤ padded.length ∧ ((padded.drop 2).take padding).all (· == 0) then
    some (padded.drop (2 + padding))
  else none

def parameter (name : String) (value : List Char) : Option (List Char) :=
  (value.splitOn ';').firstM fun piece =>
    (name.toList ++ ['=']).isPrefixOf? (piece.dropWhile (· == ' '))

def digit? (character : Char) : Option Nat :=
  if character.isDigit then some (character.toNat - '0'.toNat) else none

def parseDecimal (text : List Char) : Option Nat :=
  if text.isEmpty then none
  else text.foldlM (fun value character => (digit? character).map (value * 10 + ·)) 0

/-- The size of records, which the drafts let a sender leave out. -/
def announcedSize (encryption : List Char) : Option Nat :=
  match parameter "rs" encryption with
  | none => some 4096
  | some text => parseDecimal text

section

variable {Secret PublicKey : Type} (crates : Primitives Secret PublicKey)
variable (owner : Secret) (auth : Bytes)

/-- The records under one key, with the base nonce masked by their numbers. -/
def openContent (key nonce : Bytes) (unpad : Bool → Bytes → Option Bytes) (size : Nat)
    (content : Bytes) : Option (List Bytes) :=
  openRecords (fun number last record => do
    let padded ← crates.decrypt key (maskedBy nonce number) record
    unpad last padded) 0 (cut size content)

/-- The `aes128gcm` encoding, whose header holds the salt, the record size and the sender's
key. -/
def receiveStandard (body : Bytes) : Option Received := do
  let salt := body.take 16
  let recordSize := fromBeBytes ((body.drop 16).take 4)
  let idLength ← body[20]?
  let keyId := (body.drop 21).take idLength.toNat
  let content := body.drop (21 + idLength.toNat)
  guard (17 < recordSize)
  let sender ← crates.fromSec1Bytes keyId
  let shared := crates.diffieHellman owner sender
  let receiver := crates.toSec1Point (crates.publicKey owner)
  let ikm ← crates.expand (crates.extract auth shared)
    (ascii "WebPush: info\x00" ++ receiver ++ keyId) 32
  let prk := crates.extract salt ikm
  let key ← crates.expand prk (ascii "Content-Encoding: aes128gcm\x00") 16
  let nonce ← crates.expand prk (ascii "Content-Encoding: nonce\x00") 12
  let records ← openContent crates key nonce unpadStandard recordSize content
  return ⟨recordSize, records⟩

/-- The `aesgcm` encoding, whose headers hold them. The size of a record does not count the
authentication tag, and the last record is smaller. -/
def receiveLegacy (headers : List (String × List Char)) (body : Bytes) : Option Received := do
  let encryption ← headers.lookup "Encryption"
  let cryptoKey ← headers.lookup "Crypto-Key"
  let salt ← (parameter "salt" encryption).bind Base64.decodeUrl
  let recordSize ← announcedSize encryption
  let dh ← (parameter "dh" cryptoKey).bind Base64.decodeUrl
  guard (salt.length = 16 ∧ 2 < recordSize ∧ body.length % (recordSize + 16) ≠ 0)
  let sender ← crates.fromSec1Bytes dh
  let shared := crates.diffieHellman owner sender
  let receiver := crates.toSec1Point (crates.publicKey owner)
  let ikm ← crates.expand (crates.extract auth shared) (ascii "Content-Encoding: auth\x00") 32
  let context := ascii "P-256\x00" ++ toBeBytes 2 receiver.length ++ receiver ++
    toBeBytes 2 dh.length ++ dh
  let prk := crates.extract salt ikm
  let key ← crates.expand prk (ascii "Content-Encoding: aesgcm\x00" ++ context) 16
  let nonce ← crates.expand prk (ascii "Content-Encoding: nonce\x00" ++ context) 12
  let records ← openContent crates key nonce (fun _ => unpadLegacy) (recordSize + 16) body
  return ⟨recordSize, records⟩

def receive (contentEncoding : String) (headers : List (String × List Char)) (body : Bytes) :
    Option Received :=
  if contentEncoding = "aes128gcm" then receiveStandard crates owner auth body
  else if contentEncoding = "aesgcm" then receiveLegacy crates owner auth headers body
  else none

end

end Roosty.WebPush
