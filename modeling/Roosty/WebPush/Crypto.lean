import Roosty.Library.Base64Url
import Roosty.Library.Octets
import Roosty.Library.Result
import Roosty.Network.Endpoint

/-!
# Web Push encryption

The two content encodings, over the primitives of the elliptic-curve, key-derivation and
cipher crates.
-/

set_option autoImplicit false

namespace Roosty.WebPush

open Library Library.Octets

/-- The crates that are called. `encrypt` takes a key of 16 and a nonce of 12 bytes. -/
structure Primitives (Secret PublicKey : Type) where
  fromSec1Bytes : Bytes → Option PublicKey
  toSec1Point : PublicKey → Bytes
  publicKey : Secret → PublicKey
  diffieHellman : Secret → PublicKey → Bytes
  /-- `Hkdf::new`. -/
  extract : (salt ikm : Bytes) → Bytes
  expand : (prk info : Bytes) → (length : Nat) → Option Bytes
  encrypt : (key nonce plaintext : Bytes) → Option Bytes
  decrypt : (key nonce ciphertext : Bytes) → Option Bytes

inductive Encoding where
  | aes128Gcm
  | aesGcm
deriving DecidableEq

structure Subscription where
  endpoint : Network.Url
  p256dh : OfLength 65
  auth : OfLength 16
  encoding : Encoding
deriving DecidableEq

structure EncryptedPayload where
  contentEncoding : String
  body : Bytes
  extraHeaders : List (String × List Char)
deriving DecidableEq

def tryInto (length : Nat) (bytes : Bytes) : Option (OfLength length) :=
  if fits : bytes.length = length then some ⟨bytes, fits⟩ else none

def recordSize : Nat := 4096

section

variable {Secret PublicKey : Type} (crates : Primitives Secret PublicKey)

def Subscription.new (endpoint : Network.Url) (p256dh auth : Bytes) (encoding : Encoding) :
    Except Network.WebPushError Subscription := do
  Network.validateUrl endpoint
  let p256dh ← okOr (tryInto 65 p256dh) .invalidSubscriberKey
  let _ ← okOr (crates.fromSec1Bytes p256dh) .invalidSubscriberKey
  let auth ← okOr (tryInto 16 auth) .invalidAuthSecret
  return ⟨endpoint, p256dh, auth, encoding⟩

def contentKeyNonce (salt ikm keyInfo nonceInfo : Bytes) :
    Except Network.WebPushError (Bytes × Bytes) := do
  let hkdf := crates.extract salt ikm
  let key ← okOr (crates.expand hkdf keyInfo 16) .encryption
  let nonce ← okOr (crates.expand hkdf nonceInfo 12) .encryption
  return (key, nonce)

section

variable (receiver sender shared auth : Bytes) (salt : OfLength 16) (plaintext : Bytes)

def encryptStandard : Except Network.WebPushError EncryptedPayload := do
  ensure (plaintext.length ≤ 3993) .payloadTooLarge
  let info := ascii "WebPush: info\x00" ++ receiver ++ sender
  let authHkdf := crates.extract auth shared
  let ikm ← okOr (crates.expand authHkdf info 32) .encryption
  let (key, nonce) ← contentKeyNonce crates salt ikm (ascii "Content-Encoding: aes128gcm\x00")
    (ascii "Content-Encoding: nonce\x00")
  let padded := plaintext ++ [2]
  let bodyCiphertext ← okOr (crates.encrypt key nonce padded) .encryption
  let body := salt.val ++ toBeBytes 4 recordSize ++ [UInt8.ofNat sender.length] ++ sender ++
    bodyCiphertext
  return ⟨"aes128gcm", body, []⟩

def legacyContext : Bytes :=
  ascii "P-256\x00" ++ toBeBytes 2 receiver.length ++ receiver ++ toBeBytes 2 sender.length ++
    sender

def encryptLegacy : Except Network.WebPushError EncryptedPayload := do
  ensure (plaintext.length ≤ 4078) .payloadTooLarge
  let authHkdf := crates.extract auth shared
  let ikm ← okOr (crates.expand authHkdf (ascii "Content-Encoding: auth\x00") 32) .encryption
  let context := legacyContext receiver sender
  let keyLabel := ascii "Content-Encoding: aesgcm\x00" ++ context
  let nonceLabel := ascii "Content-Encoding: nonce\x00" ++ context
  let (key, nonce) ← contentKeyNonce crates salt ikm keyLabel nonceLabel
  let padded := toBeBytes 2 0 ++ plaintext
  let body ← okOr (crates.encrypt key nonce padded) .encryption
  return ⟨"aesgcm", body,
    [("Encryption", "salt=".toList ++ Base64.encodeUrl salt ++ ";rs=".toList ++
        Nat.toDigits 10 recordSize),
      ("Crypto-Key", "dh=".toList ++ Base64.encodeUrl sender)]⟩

end

/-- The encryption of a message, where the two generators of randomness may fail. -/
def encrypt (senderSecret : Option Secret) (salt : Option (OfLength 16))
    (subscription : Subscription) (plaintext : Bytes) :
    Except Network.WebPushError EncryptedPayload := do
  let receiver ← okOr (crates.fromSec1Bytes subscription.p256dh) .invalidSubscriberKey
  let senderSecret ← okOr senderSecret .encryption
  let sender := crates.publicKey senderSecret
  let shared := crates.diffieHellman senderSecret receiver
  let senderBytes := crates.toSec1Point sender
  let salt ← okOr salt .encryption
  match subscription.encoding with
  | .aes128Gcm =>
      encryptStandard crates subscription.p256dh senderBytes shared subscription.auth salt
        plaintext
  | .aesGcm =>
      encryptLegacy crates subscription.p256dh senderBytes shared subscription.auth salt plaintext

end

/-- The headers of the request, with the key of the application server behind the sender's. -/
def requestHeaders (vapidPublicKey : Bytes) (headers : List (String × List Char)) :
    List (String × List Char) :=
  headers.map fun (name, value) =>
    if name = "Crypto-Key" then
      (name, value ++ "; p256ecdsa=".toList ++ Base64.encodeUrl vapidPublicKey)
    else (name, value)

end Roosty.WebPush
