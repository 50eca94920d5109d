import Roosty.Core
import Roosty.Library.CanonicalJson
import Roosty.Library.Machine
import Roosty.Library.Result

/-!
# Replay protection of the inbox

Every inbound activity is registered under its id in the transaction that
applies its effects. The registration is an insert that yields to an existing
row; two transactions that insert one id are serialized by the primary key.
-/

set_option autoImplicit false

namespace Roosty.Federation

open Library

/-- Durable processing outcome stored for an inbound ActivityPub activity. -/
inductive InboxActivityOutcome where
  | accepted
  | ignored
deriving DecidableEq

inductive InboxActivityType where
  | follow
  | accept
  | reject
  | create
  | update
  | delete
  | like
  | announce
  | undo
  | move
  | block
  | add
  | remove
  | flag
  | quoteRequest
deriving DecidableEq

inductive InboundActivityType where
  | persistent (kind : InboxActivityType)
  | other
deriving DecidableEq

def InboundActivityType.persisted : InboundActivityType → Option InboxActivityType
  | .persistent kind => some kind
  | .other => none

def InboundActivityType.ofName (name : String) : InboundActivityType :=
  match name with
  | "Follow" => .persistent .follow
  | "Accept" => .persistent .accept
  | "Reject" => .persistent .reject
  | "Create" => .persistent .create
  | "Update" => .persistent .update
  | "Delete" => .persistent .delete
  | "Like" => .persistent .like
  | "Announce" => .persistent .announce
  | "Undo" => .persistent .undo
  | "Move" => .persistent .move
  | "Block" => .persistent .block
  | "Add" => .persistent .add
  | "Remove" => .persistent .remove
  | "Flag" => .persistent .flag
  | "https://w3id.org/fep/044f#QuoteRequest" => .persistent .quoteRequest
  | _ => .other

/-- A unit variant is read from its name, or from an object that maps its name
to null. -/
def unitVariant : Json → Option String
  | .string name => some name
  | .object [(name, .null)] => some name
  | _ => none

def inboundActivityType (activity : Json) : Option InboundActivityType := do
  let kind ← activity.get? "type"
  let name ← unitVariant kind
  return .ofName name

/-!
## Registration
-/

structure ProcessedInboxActivity where
  activityId : String
  remoteActorId : AccountId
  payloadDigest : Option (List UInt8)
  activityType : Option InboxActivityType
  outcome : Option InboxActivityOutcome
  processedAt : Int
deriving DecidableEq

structure InboxActivityMetadata where
  activityId : String
  remoteActorId : AccountId
  payloadDigest : List UInt8
  activityType : InboxActivityType
  outcome : InboxActivityOutcome
deriving DecidableEq

/-- Result of registering a durable inbound ActivityPub identity. -/
inductive InboxReplayResult where
  | new
  | duplicate
  | conflict
deriving DecidableEq

def InboxActivityMetadata.marker (metadata : InboxActivityMetadata) (now : Int) :
    ProcessedInboxActivity where
  activityId := metadata.activityId
  remoteActorId := metadata.remoteActorId
  payloadDigest := some metadata.payloadDigest
  activityType := some metadata.activityType
  outcome := some metadata.outcome
  processedAt := now

/-- Classify an existing replay marker without creating a new one. -/
def classifyInboxActivity (rows : List ProcessedInboxActivity) (metadata : InboxActivityMetadata) :
    Option InboxReplayResult :=
  match rows.find? fun row => row.activityId == metadata.activityId with
  | none => none
  | some existing =>
      if existing.remoteActorId ≠ metadata.remoteActorId then some .conflict
      else
        match existing.payloadDigest with
        | none => some .duplicate
        | some existingDigest =>
            if existingDigest = metadata.payloadDigest ∧
                existing.activityType = some metadata.activityType then some .duplicate
            else some .conflict

/-- Register a canonical inbound activity against the rows that the caller's
transaction sees: the inserted row, if any, and the answer. -/
def registerInboxActivity (rows : List ProcessedInboxActivity) (metadata : InboxActivityMetadata)
    (now : Int) : Option ProcessedInboxActivity × Except RoostyError InboxReplayResult :=
  if rows.any fun row => row.activityId == metadata.activityId then
    (none, okOr (classifyInboxActivity rows metadata)
      (.invalidInput "inbox replay marker disappeared"))
  else (some (metadata.marker now), .ok .new)

/-!
## Digests
-/

def semanticMembers (members : List (String × Json)) : List (String × Json) :=
  members.filter fun member => member.1 != "proof" && member.1 != "signature"

/-- Hash semantic activity JSON after removing transferable authentication metadata. -/
def canonicalActivityDigest (format : CanonicalJson.NumberFormat)
    (sha256 : List UInt8 → List UInt8) (activity : Json) : Except RoostyError (List UInt8) := do
  let members ← okOr activity.asObject? (.invalidInput "inbox activity is not an object")
  return sha256 (CanonicalJson.bytes format (.object (semanticMembers members)))

/-- The metadata under which an activity of a remote actor is registered. -/
def replayMetadata (format : CanonicalJson.NumberFormat) (sha256 : List UInt8 → List UInt8)
    (activity : Json) (remoteActorId : AccountId) (outcome : InboxActivityOutcome) :
    Except RoostyError InboxActivityMetadata := do
  let activityId ← okOr ((activity.get? "id").bind Json.asStr?)
    (.invalidInput "inbox activity ID is missing")
  let activityType ← okOr ((inboundActivityType activity).bind InboundActivityType.persisted)
    (.invalidInput "inbox activity type is missing")
  let digest ← canonicalActivityDigest format sha256 activity
  return ⟨activityId, remoteActorId, digest, activityType, outcome⟩

def registerInboxReplay (format : CanonicalJson.NumberFormat) (sha256 : List UInt8 → List UInt8)
    (rows : List ProcessedInboxActivity) (activity : Json) (remoteActorId : AccountId)
    (outcome : InboxActivityOutcome) (now : Int) :
    Option ProcessedInboxActivity × Except RoostyError InboxReplayResult :=
  match replayMetadata format sha256 activity remoteActorId outcome with
  | .error error => (none, .error error)
  | .ok metadata => registerInboxActivity rows metadata now

def isNewInboxActivity (format : CanonicalJson.NumberFormat) (sha256 : List UInt8 → List UInt8)
    (rows : List ProcessedInboxActivity) (activity : Json) (remoteActorId : AccountId) (now : Int) :
    Option ProcessedInboxActivity × Except RoostyError Bool :=
  let registered := registerInboxReplay format sha256 rows activity remoteActorId .accepted now
  (registered.1, registered.2.map (· == .new))

/-!
## Transactions
-/

namespace Replay

structure Transaction where
  value : Nat
deriving DecidableEq

/-- The committed rows, the rows inserted by open transactions, and the
transactions that have ended. -/
structure State where
  rows : List ProcessedInboxActivity
  pending : List (Transaction × ProcessedInboxActivity)
  committed : List Transaction
  aborted : List Transaction

def State.initial (rows : List ProcessedInboxActivity) : State := ⟨rows, [], [], []⟩

def State.finished (state : State) (transaction : Transaction) : Bool :=
  state.committed.contains transaction || state.aborted.contains transaction

def State.own (state : State) (transaction : Transaction) : List ProcessedInboxActivity :=
  (state.pending.filter fun entry => entry.1 == transaction).map Prod.snd

def State.visible (state : State) (transaction : Transaction) : List ProcessedInboxActivity :=
  state.rows ++ state.own transaction

def State.blocked (state : State) (transaction : Transaction) (activityId : String) : Bool :=
  state.pending.any fun entry => entry.1 != transaction && entry.2.activityId == activityId

inductive Call where
  | register (transaction : Transaction) (metadata : InboxActivityMetadata) (now : Int)
  | commit (transaction : Transaction)
  | abort (transaction : Transaction)

/-- A registration waits while another open transaction holds its id; calls of
an ended transaction are refused. -/
inductive Reply where
  | registered (result : Except RoostyError InboxReplayResult)
  | waits
  | ended
  | refused
deriving DecidableEq

def register (state : State) (transaction : Transaction) (metadata : InboxActivityMetadata)
    (now : Int) : State × Reply :=
  if state.finished transaction then (state, .refused)
  else if state.blocked transaction metadata.activityId then (state, .waits)
  else
    match registerInboxActivity (state.visible transaction) metadata now with
    | (some row, result) =>
        ({ state with pending := state.pending ++ [(transaction, row)] }, .registered result)
    | (none, result) => (state, .registered result)

def State.afterCommit (state : State) (transaction : Transaction) : State :=
  { state with
    rows := state.rows ++ state.own transaction
    pending := state.pending.filter fun entry => entry.1 != transaction
    committed := state.committed ++ [transaction] }

def State.afterAbort (state : State) (transaction : Transaction) : State :=
  { state with
    pending := state.pending.filter fun entry => entry.1 != transaction
    aborted := state.aborted ++ [transaction] }

def commit (state : State) (transaction : Transaction) : State × Reply :=
  if state.finished transaction then (state, .refused)
  else (state.afterCommit transaction, .ended)

def abort (state : State) (transaction : Transaction) : State × Reply :=
  if state.finished transaction then (state, .refused)
  else (state.afterAbort transaction, .ended)

def step (state : State) : Call → State × Reply
  | .register transaction metadata now => register state transaction metadata now
  | .commit transaction => commit state transaction
  | .abort transaction => abort state transaction

def machine : Machine State Call Reply := ⟨step⟩

/-- A registration of an id by a transaction that was answered with `New`. -/
def isNewBy (activityId : String) (transaction : Transaction) : Call × Reply → Bool
  | (.register caller metadata _, reply) =>
      caller == transaction && metadata.activityId == activityId &&
        reply == .registered (.ok .new)
  | _ => false

/-- The registrations of an id in a trace that were answered with `New` by
transactions that have committed. -/
def committedNew (state : State) (activityId : String) (trace : List (Call × Reply)) : Nat :=
  trace.countP fun entry => state.committed.any fun transaction =>
    isNewBy activityId transaction entry

end Replay

end Roosty.Federation
