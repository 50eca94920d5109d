import Roosty.Federation.DomainBlock
import Roosty.Federation.Replay
import Roosty.Job.Queue
import Roosty.Library.Uuid

/-!
# Grouped deliveries

An activity becomes one job for each delivery group, and each job posts to its inbox when
one of its recipients is still eligible. A delivery reads the tables in a snapshot of its
own; the parser of host names and the decryption of private keys are parameters.
-/

set_option autoImplicit false

namespace Roosty.Federation.Delivery

open Library Network Discovery DomainBlock Job

/-!
## Payloads
-/

structure StatusDelivery where
  localAccountId : AccountId
  remoteActorId : AccountId
  remoteActorIds : List AccountId
  inboxUrl : Option String
  activity : Json
  personalInbox : Bool
deriving DecidableEq

def accountIdValue (id : AccountId) : Json := .string (Text.uuidText id.value)

def StatusDelivery.toValue (delivery : StatusDelivery) : Json :=
  .object ([("local_account_id", accountIdValue delivery.localAccountId),
      ("remote_actor_id", accountIdValue delivery.remoteActorId)] ++
    (if delivery.remoteActorIds.isEmpty then []
      else [("remote_actor_ids", .array (delivery.remoteActorIds.map accountIdValue))]) ++
    (delivery.inboxUrl.toList.map fun inboxUrl => ("inbox_url", .string inboxUrl)) ++
    [("activity", delivery.activity), ("personal_inbox", .bool delivery.personalInbox)])

def readAccountId (value : Json) : Option AccountId :=
  value.asStr?.bind fun text => (Text.parseUuid text).map AccountId.mk

/-- A member with a default: missing is not the same as unreadable. -/
def memberOr {Value : Type} (payload : Json) (name : String) (default : Value)
    (read : Json → Option Value) : Option Value :=
  match payload.get? name with
  | none => some default
  | some value => read value

def StatusDelivery.read (payload : Json) : Option StatusDelivery := do
  let localAccountId ← (payload.get? "local_account_id").bind readAccountId
  let remoteActorId ← (payload.get? "remote_actor_id").bind readAccountId
  let remoteActorIds ← memberOr payload "remote_actor_ids" [] fun
    | .array items => items.mapM readAccountId
    | _ => none
  let inboxUrl ← memberOr payload "inbox_url" none fun
    | .null => some none
    | .string inboxUrl => some (some inboxUrl)
    | _ => none
  let activity ← payload.get? "activity"
  let personalInbox ← memberOr payload "personal_inbox" false fun
    | .bool personalInbox => some personalInbox
    | _ => none
  return { localAccountId, remoteActorId, remoteActorIds, inboxUrl, activity, personalInbox }

/-!
## Enqueueing
-/

/-- The caller's account and activity, and how the activity is addressed. -/
structure Outgoing where
  localAccountId : AccountId
  activity : Json
  activityId : String
  personalInbox : Bool

def deliveryJob (outgoing : Outgoing) (now : Int) (group : DeliveryGroup)
    (remoteActorId : AccountId) : NewJob where
  kind := .federationStatusDelivery
  payload := StatusDelivery.toValue {
    localAccountId := outgoing.localAccountId
    remoteActorId := remoteActorId
    remoteActorIds := group.remoteActorIds
    inboxUrl := some group.inboxUrl
    activity := outgoing.activity
    personalInbox := outgoing.personalInbox }
  deduplicationKey := some (outgoing.activityId ++ ":" ++ group.inboxUrl)
  runAfter := now

def enqueueGroup (outgoing : Outgoing) (jobId : JobId) (clocks : Clocks) (rows : List JobRow)
    (group : DeliveryGroup) : Except RoostyError (List JobRow) :=
  match group.remoteActorIds with
  | [] => .ok rows
  | remoteActorId :: _ => do
      let (rows, result) := enqueueJobOnConnection rows jobId clocks
        (deliveryJob outgoing clocks.process group remoteActorId)
      let _ ← result
      return rows

/-- Enqueue one job for each group. `jobId` gives the identifier that each round generates. -/
def enqueueStatusDeliveryGroups (outgoing : Outgoing) (jobId : Nat → JobId) (clocks : Clocks)
    (rows : List JobRow) (recipients : List RemoteActor) : Except RoostyError (List JobRow) :=
  (deliveryGroups recipients outgoing.personalInbox).zipIdx.foldlM
    (fun rows (group, round) => enqueueGroup outgoing (jobId round) clocks rows group) rows

/-!
## Delivering
-/

/-- A row of `remote_actor` with its moderation state. -/
structure StoredActor extends RemoteActor where
  suspendedAt : Option Int

structure LocalActorKey where
  accountId : AccountId
  keyId : String
  ciphertext : List UInt8

structure Directory where
  localAccounts : List AccountId
  actorKeys : List LocalActorKey
  remoteActors : List StoredActor
  localRemoteAccountBlocks : List (AccountId × AccountId)
  remoteLocalAccountBlocks : List (AccountId × AccountId)
  domainRules : List FederationDomainBlock
  federationAllowedDomains : List String

def federationDomainIsAllowed (directory : Directory) (domain : String) : Bool :=
  let domain := String.ofList (Text.toAsciiLowercase domain.toList)
  directory.federationAllowedDomains.any fun allowed => allowed == "*" || allowed == domain

def remoteActorsById (rows : List StoredActor) : List AccountId → List StoredActor
  | [] => []
  | id :: ids =>
      match rows.find? fun row => row.id == id with
      | some row =>
          row :: remoteActorsById (Table.deleteWhere (fun other => other.id == id) rows) ids
      | none => remoteActorsById rows ids

/-- The requested remote actors blocked in either direction for one local account. -/
def blockedRemoteActorIdsForLocalAccount (directory : Directory) (localAccountId : AccountId)
    (remoteActorIds : List AccountId) : List AccountId :=
  remoteActorIds.filter fun id =>
    directory.localRemoteAccountBlocks.contains (localAccountId, id) ||
      directory.remoteLocalAccountBlocks.contains (localAccountId, id)

def isBlock (activity : Json) : Bool :=
  inboundActivityType activity == some (.persistent .block)

def moderationActivity (activity : Json) : Bool :=
  isBlock activity || (activity.get? "object").any isBlock

/-- A block does not stand in the way of telling of a block. -/
def blockedRecipients (directory : Directory) (localAccountId : AccountId)
    (remoteActorIds : List AccountId) (activity : Json) : List AccountId :=
  if moderationActivity activity then []
  else blockedRemoteActorIdsForLocalAccount directory localAccountId remoteActorIds

def effectiveInbox (personalInbox : Bool) (remote : RemoteActor) : String :=
  if personalInbox then remote.inboxUrl else remote.sharedInboxUrl.getD remote.inboxUrl

structure Post where
  inboxUrl : String
  keyId : String
  activity : Json
deriving DecidableEq

variable (parseHost : String → Option Host)
  (decryptPrivateKey : LocalActorKey → Except RoostyError Unit)

def passesChecks (directory : Directory) (blocked : List AccountId) (inboxUrl : String)
    (personalInbox : Bool) (remote : StoredActor) : Bool :=
  effectiveInbox personalInbox remote.toRemoteActor == inboxUrl &&
    federationDomainIsAllowed directory remote.domain &&
    remote.suspendedAt.isNone && !blocked.contains remote.id

/-- The loop that looks for one eligible recipient. -/
def anyEligible (directory : Directory) (blocked : List AccountId) (inboxUrl : String)
    (personalInbox : Bool) : List StoredActor → Except RoostyError Bool
  | [] => .ok false
  | remote :: rest =>
      if !passesChecks directory blocked inboxUrl personalInbox remote then
        anyEligible directory blocked inboxUrl personalInbox rest
      else do
        let policy ← federationDomainPolicy parseHost directory.domainRules remote.domain
        if policy.isSuspended then anyEligible directory blocked inboxUrl personalInbox rest
        else .ok true

def findLocalActor (directory : Directory) (localAccountId : AccountId) :
    Except RoostyError Unit :=
  ensure (directory.localAccounts.contains localAccountId)
    (.invalidInput "local delivery actor does not exist")

/-- The request that `signed_post` sends for a local account. -/
def signPost (directory : Directory) (localAccountId : AccountId) (inboxUrl : String)
    (activity : Json) : Except RoostyError Post := do
  let key ← okOr (directory.actorKeys.find? fun key => key.accountId == localAccountId)
    (.invalidInput "local delivery actor has no signing key")
  decryptPrivateKey key
  return ⟨inboxUrl, key.keyId, activity⟩

/-- Deliver one identical activity once when at least one grouped recipient remains
eligible. -/
def deliverGroupedActivity (directory : Directory) (localAccountId : AccountId)
    (remoteActorIds : List AccountId) (inboxUrl : String) (activity : Json)
    (personalInbox : Bool) : Except RoostyError (Option Post) := do
  findLocalActor directory localAccountId
  let remoteActors := remoteActorsById directory.remoteActors remoteActorIds
  let blocked := blockedRecipients directory localAccountId remoteActorIds activity
  let eligible ← anyEligible parseHost directory blocked inboxUrl personalInbox remoteActors
  if !eligible then return none
  else return some (← signPost decryptPrivateKey directory localAccountId inboxUrl activity)

def deliverActivity (directory : Directory) (localAccountId remoteActorId : AccountId)
    (activity : Json) (personalInbox : Bool) : Except RoostyError (Option Post) := do
  findLocalActor directory localAccountId
  let remote ← okOr (directory.remoteActors.find? fun row => row.id == remoteActorId)
    (.invalidInput "remote delivery actor does not exist")
  if !federationDomainIsAllowed directory remote.domain || remote.suspendedAt.isSome then
    return none
  else
    let policy ← federationDomainPolicy parseHost directory.domainRules remote.domain
    let blocked :=
      blockedRemoteActorIdsForLocalAccount directory localAccountId [remoteActorId] != []
    if policy.isSuspended || !moderationActivity activity && blocked then return none
    else
      return some (← signPost decryptPrivateKey directory localAccountId
        (effectiveInbox personalInbox remote.toRemoteActor) activity)

def deliverStatusActivity (directory : Directory) (payload : Json) :
    Except RoostyError (Option Post) := do
  let delivery ← okOr (StatusDelivery.read payload)
    (.invalidInput "invalid status delivery payload")
  match delivery.inboxUrl with
  | some inboxUrl =>
      deliverGroupedActivity parseHost decryptPrivateKey directory delivery.localAccountId
        delivery.remoteActorIds inboxUrl delivery.activity delivery.personalInbox
  | none =>
      deliverActivity parseHost decryptPrivateKey directory delivery.localAccountId
        delivery.remoteActorId delivery.activity delivery.personalInbox

def enqueuedJobs (before after : List JobRow) : List JobRow :=
  after.filter fun row => !before.any fun old => old.id == row.id

def jobInbox (job : JobRow) : String :=
  ((StatusDelivery.read job.payload).bind StatusDelivery.inboxUrl).getD ""

/-- The post of one job, if any. `directory` is what the delivery to an inbox reads, at its
own time. -/
def jobPost (directory : String → Directory) (job : JobRow) : Option Post :=
  match deliverStatusActivity parseHost decryptPrivateKey (directory (jobInbox job))
    job.payload with
  | .ok post => post
  | .error _ => none

def runJobs (directory : String → Directory) (jobs : List JobRow) : List Post :=
  jobs.filterMap (jobPost parseHost decryptPrivateKey directory)

end Roosty.Federation.Delivery
