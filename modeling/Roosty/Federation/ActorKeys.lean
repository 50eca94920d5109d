import Roosty.Federation.Discovery
import Roosty.Library.Machine
import Roosty.Library.Result

/-!
# Keys of local actors

A local account has an active RSA key and an active Ed25519 key, and retiring keys from
before the last rotation until they expire. Actor documents publish them, and maintenance
rotates them. Private keys, which are stored encrypted beside the public ones, and the
profile images, fields and context of actor documents are left out.
-/

set_option autoImplicit false

namespace Roosty.Federation.ActorKeys

open Library Discovery

/-!
## Stored keys
-/

structure LocalActorKey where
  id : Nat
  accountId : AccountId
  keyId : String
  algorithm : ActorKeyAlgorithm
  publicKey : List UInt8
  activatedAt : Int
  retiringAt : Option Int
  expiresAt : Option Int
deriving DecidableEq

structure LocalAccount where
  id : AccountId
  username : String
  displayName : String
  note : String
  locked : Bool
  discoverable : Bool
  indexable : Bool
  bot : Bool
  createdAt : Int
deriving DecidableEq

/-- The configured base URL, and the libraries that print keys and timestamps. -/
structure Encoder where
  publicUrl : String → String
  base58Btc : List UInt8 → String
  formatRfc3339 : Int → Option String
  formatTimestamp : Int → String

structure GeneratedKey where
  id : Nat
  suffix : String
  publicKey : List UInt8
deriving DecidableEq

variable (codec : Codec) (encoder : Encoder)

def actorUrl (account : LocalAccount) : String :=
  encoder.publicUrl ("users/" ++ account.username)

/-- The unique index on active keys. -/
def activeAlgorithm (key : LocalActorKey) : Option (AccountId × ActorKeyAlgorithm) :=
  if key.retiringAt.isNone then some (key.accountId, key.algorithm) else none

def createLocalActorKey (rows : List LocalActorKey) (key : LocalActorKey) :
    Except RoostyError (List LocalActorKey) :=
  if rows.any fun row => row.id == key.id then .error (.database "local_actor_key_pkey")
  else if rows.any fun row => row.keyId == key.keyId then
    .error (.database "local_actor_key_key_id_key")
  else if (activeAlgorithm key).isSome &&
      rows.any fun row => activeAlgorithm row == activeAlgorithm key then
    .error (.database "local_actor_key_active_algorithm_idx")
  else .ok (rows ++ [key])

def findActiveLocalActorKey (rows : List LocalActorKey) (accountId : AccountId)
    (algorithm : ActorKeyAlgorithm) : Option LocalActorKey :=
  rows.find? fun row => activeAlgorithm row == some (accountId, algorithm)

def updateLocalActorKeyId (rows : List LocalActorKey) (id : Nat) (keyId : String) :
    Except RoostyError (List LocalActorKey) :=
  if rows.any fun row => row.keyId == keyId && row.id != id then
    .error (.database "local_actor_key_key_id_key")
  else .ok (Table.updateWhere (fun row => row.id == id) (fun row => { row with keyId := keyId }) rows)

/-- An active or unexpired retiring key. -/
def publishable (accountId : AccountId) (now : Int) (row : LocalActorKey) : Bool :=
  row.accountId == accountId && (row.retiringAt.isNone || row.expiresAt.any (now < ·))

/-- `ORDER BY retiring_at ASC, activated_at DESC`; missing timestamps come last. -/
def PublishedBefore (left right : LocalActorKey) : Prop :=
  match left.retiringAt, right.retiringAt with
  | some leftAt, some rightAt =>
      leftAt < rightAt ∨ (leftAt = rightAt ∧ right.activatedAt ≤ left.activatedAt)
  | some _, none => True
  | none, some _ => False
  | none, none => right.activatedAt ≤ left.activatedAt

instance : DecidableRel PublishedBefore := fun left right => by
  unfold PublishedBefore
  split <;> infer_instance

def publishableLocalActorKeys (rows : List LocalActorKey) (accountId : AccountId) (now : Int) :
    List LocalActorKey :=
  (rows.filter (publishable accountId now)).insertionSort PublishedBefore

/-!
## Actor documents
-/

def mainKeyId (account : LocalAccount) : String := actorUrl encoder account ++ "#main-key"

def rsaPublicKeyPem (der : List UInt8) : Except RoostyError String :=
  if codec.rsaIsPkcs1 der then .ok (codec.rsaToPem der)
  else .error (.invalidInput "stored actor public key is invalid")

def mainActorKey (account : LocalAccount) (now : Int) (generated : GeneratedKey) :
    LocalActorKey where
  id := generated.id
  accountId := account.id
  keyId := mainKeyId encoder account
  algorithm := .rsaPkcs1Sha256
  publicKey := generated.publicKey
  activatedAt := now
  retiringAt := none
  expiresAt := none

def ensureActorKey (rows : List LocalActorKey) (account : LocalAccount) (now : Int)
    (generated : GeneratedKey) : Except RoostyError (List LocalActorKey × String) :=
  match findActiveLocalActorKey rows account.id .rsaPkcs1Sha256 with
  | some key => do
      let rows ←
        if "urn:roosty:account:".toList.isPrefixOf key.keyId.toList then
          updateLocalActorKeyId rows key.id (mainKeyId encoder account)
        else pure rows
      let pem ← rsaPublicKeyPem codec key.publicKey
      return (rows, pem)
  | none => do
      let rows ← createLocalActorKey rows (mainActorKey encoder account now generated)
      return (rows, codec.rsaToPem generated.publicKey)

def ed25519ActorKey (account : LocalAccount) (now : Int) (generated : GeneratedKey) :
    LocalActorKey where
  id := generated.id
  accountId := account.id
  keyId := actorUrl encoder account ++ "#ed25519-" ++ generated.suffix
  algorithm := .ed25519
  publicKey := generated.publicKey
  activatedAt := now
  retiringAt := none
  expiresAt := none

def ensureEd25519ActorKey (rows : List LocalActorKey) (account : LocalAccount) (now : Int)
    (generated : GeneratedKey) : Except RoostyError (List LocalActorKey) :=
  match findActiveLocalActorKey rows account.id .ed25519 with
  | some _ => .ok rows
  | none => createLocalActorKey rows (ed25519ActorKey encoder account now generated)

structure Multikey where
  id : String
  controller : String
  publicKeyMultibase : String
  expires : Option String
deriving DecidableEq

structure PublicKey where
  id : String
  owner : String
  publicKeyPem : String
deriving DecidableEq

structure Actor where
  id : String
  type : ActivityPubActorType
  preferredUsername : String
  name : String
  summary : String
  inbox : String
  sharedInbox : String
  outbox : String
  followers : String
  following : String
  featured : String
  featuredTags : String
  url : String
  manuallyApprovesFollowers : Bool
  discoverable : Bool
  indexable : Bool
  published : String
  publicKey : PublicKey
  assertionMethod : List Multikey
deriving DecidableEq

def localActorType (bot : Bool) : ActivityPubActorType :=
  if bot then .service else .person

def multicodecPrefix : ActorKeyAlgorithm → List UInt8
  | .rsaPkcs1Sha256 => [0x85, 0x24]
  | .ed25519 => [0xed, 0x01]

def multikey (controller : String) (key : LocalActorKey) : Multikey where
  id := key.keyId
  controller := controller
  publicKeyMultibase := encoder.base58Btc (multicodecPrefix key.algorithm ++ key.publicKey)
  expires := key.expiresAt.bind encoder.formatRfc3339

def legacyKeyId (id : String) (keys : List LocalActorKey) : String :=
  match keys.find? fun key => key.algorithm == .rsaPkcs1Sha256 && key.retiringAt.isNone with
  | some key => key.keyId
  | none => id ++ "#main-key"

def actorDocument (account : LocalAccount) (publicKeyPem : String) (keys : List LocalActorKey) :
    Actor :=
  let id := actorUrl encoder account
  { id := id
    type := localActorType account.bot
    preferredUsername := account.username
    name := if account.displayName == "" then account.username else account.displayName
    summary := account.note
    inbox := id ++ "/inbox"
    sharedInbox := encoder.publicUrl "inbox"
    outbox := id ++ "/outbox"
    followers := id ++ "/followers"
    following := id ++ "/following"
    featured := id ++ "/collections/featured"
    featuredTags := id ++ "/collections/tags"
    url := encoder.publicUrl ("@" ++ account.username)
    manuallyApprovesFollowers := account.locked
    discoverable := account.discoverable
    indexable := account.indexable
    published := encoder.formatTimestamp account.createdAt
    publicKey := ⟨legacyKeyId id keys, id, publicKeyPem⟩
    assertionMethod := keys.map (multikey encoder id) }

/-- The keys that reading or updating an actor generates where they are missing. -/
structure GeneratedKeys where
  rsa : GeneratedKey
  ed25519 : GeneratedKey
deriving DecidableEq

def actor (rows : List LocalActorKey) (account : LocalAccount) (now : Int)
    (generated : GeneratedKeys) : Except RoostyError (List LocalActorKey × Actor) := do
  let (rows, publicKeyPem) ← ensureActorKey codec encoder rows account now generated.rsa
  let rows ← ensureEd25519ActorKey encoder rows account now generated.ed25519
  return (rows, actorDocument encoder account publicKeyPem
    (publishableLocalActorKeys rows account.id now))

def Multikey.decoded (key : Multikey) : RemoteMultikey where
  id := key.id
  type := .multikey
  controller := key.controller
  publicKeyMultibase := key.publicKeyMultibase
  expires := key.expires

def Actor.decoded (actor : Actor) : RemoteActorDocument where
  id := actor.id
  type := actor.type
  preferredUsername := actor.preferredUsername
  alsoKnownAs := []
  published := some actor.published
  inbox := actor.inbox
  followers := some actor.followers
  featured := some actor.featured
  featuredTags := some actor.featuredTags
  sharedInbox := some actor.sharedInbox
  publicKey := some (.legacy ⟨actor.publicKey.id, actor.publicKey.owner, actor.publicKey.publicKeyPem⟩)
  assertionMethod := actor.assertionMethod.map fun key => .multikey key.decoded

/-!
## Maintenance
-/

structure RotationConfig where
  interval : Int
  overlap : Int
  positive : 0 < overlap
  shorter : overlap < interval

def rsaActorKey (account : LocalAccount) (now : Int) (generated : GeneratedKey) :
    LocalActorKey where
  id := generated.id
  accountId := account.id
  keyId := actorUrl encoder account ++ "#rsa-" ++ generated.suffix
  algorithm := .rsaPkcs1Sha256
  publicKey := generated.publicKey
  activatedAt := now
  retiringAt := none
  expiresAt := none

def rotateActorKeys (config : RotationConfig) (rows : List LocalActorKey) (now : Int)
    (account : LocalAccount) (generated : GeneratedKeys) (rsa ed25519 : LocalActorKey) :
    Except RoostyError (List LocalActorKey) := do
  let rows := Table.updateWhere
    (fun row => (row.id == rsa.id || row.id == ed25519.id) && row.retiringAt.isNone)
    (fun row => { row with retiringAt := some now, expiresAt := some (now + config.overlap) }) rows
  let rows ← createLocalActorKey rows (rsaActorKey encoder account now generated.rsa)
  createLocalActorKey rows (ed25519ActorKey encoder account now generated.ed25519)

/-- An account that maintenance has locked, with the keys generated for it. No seed is
generated when the private key cannot be encrypted. -/
structure Due where
  account : LocalAccount
  seed : Option GeneratedKey
  generated : GeneratedKeys

/-- The keys after an Ed25519 key has been seeded where there was none; nothing when none could
be generated. -/
def seedActorKey (now : Int) (rows : List LocalActorKey) (due : Due) :
    Except RoostyError (Option (List LocalActorKey)) :=
  match findActiveLocalActorKey rows due.account.id .ed25519, due.seed with
  | some _, _ => .ok (some rows)
  | none, some seed => (ensureEd25519ActorKey encoder rows due.account now seed).map some
  | none, none => .ok none

def maintainAccountKeys (config : RotationConfig) (now : Int) (rows : List LocalActorKey)
    (due : Due) : Except RoostyError (List LocalActorKey) := do
  let accountId := due.account.id
  match ← seedActorKey encoder now rows due with
  | none => return rows
  | some rows =>
      match findActiveLocalActorKey rows accountId .rsaPkcs1Sha256,
        findActiveLocalActorKey rows accountId .ed25519 with
      | some rsa, some ed25519 =>
          if now - config.interval < rsa.activatedAt ∨ now - config.interval < ed25519.activatedAt then
            return rows
          else rotateActorKeys encoder config rows now due.account due.generated rsa ed25519
      | _, _ => return rows

def maintainActorKeys (config : RotationConfig) (rows : List LocalActorKey) (now : Int)
    (due : List Due) : Except RoostyError (List LocalActorKey) :=
  due.foldlM (maintainAccountKeys encoder config now)
    (Table.deleteWhere (fun row => row.expiresAt.any (· ≤ now)) rows)

end Roosty.Federation.ActorKeys
