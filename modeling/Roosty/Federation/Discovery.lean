import Roosty.Library.Table
import Roosty.Network.Endpoint

/-!
# Discovery of remote actors

Actor documents are fetched, validated and stored by three paths: WebFinger
resolution of a handle, refresh by identifier, and resolution of the target of a
Move. Documents stand decoded; the libraries for URLs, keys and timestamps, and the
answers of other servers, are parameters. Names, summaries, images, emojis and the
lifecycle of an actor are left out.
-/

set_option autoImplicit false

namespace Roosty.Federation.Discovery

open Library Network

/-!
## Documents
-/

inductive ActivityPubActorType where
  | person
  | service
  | application
  | group
deriving DecidableEq

structure RemotePublicKey where
  id : String
  owner : String
  publicKeyPem : String
deriving DecidableEq

inductive RemoteKeyType where
  | multikey
  | other
deriving DecidableEq

structure RemoteMultikey where
  id : String
  type : RemoteKeyType
  controller : String
  publicKeyMultibase : String
  expires : Option String
deriving DecidableEq

inductive RemoteKeyReference where
  | reference (id : String)
  | legacy (key : RemotePublicKey)
  | multikey (key : RemoteMultikey)
deriving DecidableEq

structure RemoteActorDocument where
  id : String
  type : ActivityPubActorType
  preferredUsername : String
  alsoKnownAs : List String
  published : Option String
  inbox : String
  followers : Option String
  featured : Option String
  featuredTags : Option String
  sharedInbox : Option String
  publicKey : Option RemoteKeyReference
  assertionMethod : List RemoteKeyReference
deriving DecidableEq

structure WebFingerLink where
  rel : String
  type : Option String
  href : Option String
deriving DecidableEq

structure WebFingerResponse where
  subject : String
  links : List WebFingerLink
deriving DecidableEq

inductive ReferencedKey where
  | multikey (key : RemoteMultikey)
  | legacy (key : RemotePublicKey)
  | invalid
deriving DecidableEq

inductive MultibaseBase where
  | base58Btc
  | base64Url
  | other
deriving DecidableEq

structure Codec where
  parseUrl : String → Option Network.Url
  urlText : Network.Url → String
  parseRfc3339 : String → Option Int
  rsaFromPem : String → Option (List UInt8)
  rsaIsPkcs1 : List UInt8 → Bool
  rsaToPem : List UInt8 → String
  multibase : String → Option (MultibaseBase × List UInt8)

structure Web where
  actor : Network.Url → Except DiscoveryError RemoteActorDocument
  key : Network.Url → Except DiscoveryError ReferencedKey
  webFinger : Network.Url → String → Except DiscoveryError WebFingerResponse

variable (codec : Codec) (resolver : Resolver) (web : Web)

def fetchJson {Document : Type} (get : Network.Url → Except DiscoveryError Document)
    (url : Network.Url) :
    Except DiscoveryError Document := do
  let _ ← validateRemoteUrl resolver url
  get url

/-!
## Keys
-/

inductive ActorKeyAlgorithm where
  | rsaPkcs1Sha256
  | ed25519
deriving DecidableEq

structure ParsedActorKey where
  keyId : String
  algorithm : ActorKeyAlgorithm
  publicKey : List UInt8
  expiresAt : Option Int
deriving DecidableEq

def parseLegacyKey (key : RemotePublicKey) (controller : String) :
    Except DiscoveryError ParsedActorKey :=
  if key.id == "" || key.owner != controller then
    .error (invalid "remote actor public key is invalid")
  else
    match codec.rsaFromPem key.publicKeyPem with
    | none => .error (invalid "remote actor public key is invalid")
    | some der => .ok ⟨key.id, .rsaPkcs1Sha256, der, none⟩

def multikeyAlgorithm (bytes : List UInt8) :
    Except DiscoveryError (Option (ActorKeyAlgorithm × List UInt8)) :=
  match bytes with
  | 0xed :: 0x01 :: publicKey =>
      if publicKey.length ≠ 32 then .error (invalid "remote Ed25519 Multikey length is invalid")
      else .ok (some (.ed25519, publicKey))
  | 0x85 :: 0x24 :: publicKey =>
      if codec.rsaIsPkcs1 publicKey then .ok (some (.rsaPkcs1Sha256, publicKey))
      else .error (invalid "remote RSA Multikey is invalid")
  | _ => .ok none

def parseExpires (expires : Option String) : Except DiscoveryError (Option Int) :=
  match expires with
  | none => .ok none
  | some text =>
      match codec.parseRfc3339 text with
      | none => .error (invalid "remote Multikey expiration is invalid")
      | some expiresAt => .ok (some expiresAt)

def parseMultikey (key : RemoteMultikey) (controller : String) (now : Int) :
    Except DiscoveryError (Option ParsedActorKey) := do
  ensure (key.type == .multikey && key.id != "" && key.controller == controller)
    (invalid "remote Multikey controller is invalid")
  let expiresAt ← parseExpires codec key.expires
  if expiresAt.any (· ≤ now) then return none
  let (base, bytes) ← okOr (codec.multibase key.publicKeyMultibase)
    (invalid "remote Multikey encoding is invalid")
  ensure (base == .base58Btc || base == .base64Url)
    (invalid "remote Multikey encoding is unsupported")
  let algorithm ← multikeyAlgorithm codec bytes
  return algorithm.map fun (algorithm, publicKey) => ⟨key.id, algorithm, publicKey, expiresAt⟩

def parseKeyReference (reference : RemoteKeyReference) (controller : String) (now : Int) :
    Except DiscoveryError (Option ParsedActorKey) :=
  match reference with
  | .legacy key => (parseLegacyKey codec key controller).map some
  | .multikey key => parseMultikey codec key controller now
  | .reference keyId => do
      let url ← okOr (codec.parseUrl keyId) (invalid "remote key URL is invalid")
      ensure (url.scheme == "https" && url.host.isSome) (invalid "remote key URL must use HTTPS")
      match ← fetchJson resolver web.key url with
      | .multikey key =>
          ensure (key.id == keyId) (invalid "referenced remote key ID does not match")
          parseMultikey codec key controller now
      | .legacy key =>
          ensure (key.id == keyId) (invalid "referenced remote key ID does not match")
          (parseLegacyKey codec key controller).map some
      | .invalid => .error (invalid "referenced remote key is invalid")

def keyReferenceId : RemoteKeyReference → String
  | .reference id => id
  | .legacy key => key.id
  | .multikey key => key.id

/-- The loop over `assertion_method`, with the keys so far. The identifiers seen are
those of the keys. -/
def assertionKeys (document : RemoteActorDocument) (now : Int) :
    List ParsedActorKey → List RemoteKeyReference → Except DiscoveryError (List ParsedActorKey)
  | keys, [] => .ok keys
  | keys, reference :: references => do
      match ← parseKeyReference codec resolver web reference document.id now with
      | none => assertionKeys document now keys references
      | some key =>
          if keys.any fun other => other.keyId == key.keyId then
            if document.publicKey.any fun legacy => keyReferenceId legacy == key.keyId then
              assertionKeys document now keys references
            else .error (invalid "remote actor key IDs are not unique")
          else assertionKeys document now (keys ++ [key]) references

/-- The keys before the loop: the usable key of `public_key`. -/
def legacyKeys (document : RemoteActorDocument) (now : Int) :
    Except DiscoveryError (List ParsedActorKey) :=
  match document.publicKey with
  | none => .ok []
  | some reference =>
      (parseKeyReference codec resolver web reference document.id now).map Option.toList

def actorKeys (document : RemoteActorDocument) (now : Int) :
    Except DiscoveryError (List ParsedActorKey) := do
  ensure (document.assertionMethod.length ≤ 10) (invalid "remote actor advertises too many keys")
  let first ← legacyKeys codec resolver web document now
  let keys ← assertionKeys codec resolver web document now first document.assertionMethod
  ensure (keys.length ≤ 10) (invalid "remote actor advertises too many usable keys")
  ensure (!keys.isEmpty) (invalid "remote actor has no usable verification key")
  return keys

/-- The identifier and the PEM form of the first RSA key, or the identifier of the first
key. -/
def legacyProjection (keys : List ParsedActorKey) : String × String :=
  match keys.find? fun key => key.algorithm == .rsaPkcs1Sha256 with
  | some key => (key.keyId, codec.rsaToPem key.publicKey)
  | none => ((keys.head?.map ParsedActorKey.keyId).getD "", "")

/-- A row of `remote_actor_key`, whose primary key is the key's identifier. -/
structure RemoteActorKey where
  keyId : String
  remoteActorId : AccountId
  algorithm : ActorKeyAlgorithm
  publicKey : List UInt8
  expiresAt : Option Int
deriving DecidableEq

def findRemoteActorKey (rows : List RemoteActorKey) (now : Int) (keyId : String) :
    Option RemoteActorKey :=
  rows.find? fun row => row.keyId == keyId && row.expiresAt.all (now < ·)

def ParsedActorKey.row (key : ParsedActorKey) (actorId : AccountId) : RemoteActorKey :=
  ⟨key.keyId, actorId, key.algorithm, key.publicKey, key.expiresAt⟩

def insertKeys (actorId : AccountId) :
    List RemoteActorKey → List ParsedActorKey → Except DiscoveryError (List RemoteActorKey)
  | rows, [] => .ok rows
  | rows, key :: keys =>
      if rows.any fun row => row.keyId == key.keyId then
        .error (.failed (.database "remote_actor_key_pkey"))
      else insertKeys actorId (rows ++ [key.row actorId]) keys

def replaceRemoteActorKeys (rows : List RemoteActorKey) (actorId : AccountId)
    (keys : List ParsedActorKey) : Except DiscoveryError (List RemoteActorKey) :=
  insertKeys actorId (Table.deleteWhere (fun row => row.remoteActorId == actorId) rows) keys

end Roosty.Federation.Discovery
