import Mathlib.Algebra.Group.Int.Defs
import Mathlib.Algebra.Group.Nat.Defs
import Roosty.Core
import Roosty.Library.Json
import Roosty.Library.Machine
import Roosty.Library.Table

/-!
# Durable job queue

The `job` table and the statements that enqueue, lease, finish and clean up
jobs. Each call is one atomic SQL statement. Clock readings, generated UUIDs
and the rows that `SKIP LOCKED` passes over are inputs of the call, so a run
ranges over every choice of them.
-/

set_option autoImplicit false

namespace Roosty.Job

open Library

inductive JobKind where
  | federationFollowResponse
  | federationStatusDelivery
  | federationQuoteDelivery
  | federationFollowDelivery
  | federationFavouriteDelivery
  | federationReblogDelivery
  | federationActorUpdateDelivery
  | federationModerationDelivery
  | federationRemoteMediaFetch
  | federationFeaturedRefresh
  | federationFeaturedTagsRefresh
  | federationThreadResolve
  | federationRepliesFetch
  | federationReplyFetch
  | webPushDelivery
  | notificationRequestMerge
  | notificationRequestCleanup
  | accountPurge
  | domainModerationReconcile
  | scheduledStatusPublish
  | pollExpiration
  | pollUpdate
  | federationPollVoteDelivery
  | trendMaintenance
  | accountSuggestionMaintenance
  | previewCardFetch
  | previewCardBackfill
  | actorKeyMaintenance
  | remoteActorMigration
deriving DecidableEq

/-- The kinds this binary dispatches (`JobKind::iter`). -/
def JobKind.known : List JobKind :=
  [.federationFollowResponse, .federationStatusDelivery, .federationQuoteDelivery,
    .federationFollowDelivery, .federationFavouriteDelivery, .federationReblogDelivery,
    .federationActorUpdateDelivery, .federationModerationDelivery,
    .federationRemoteMediaFetch, .federationFeaturedRefresh,
    .federationFeaturedTagsRefresh, .federationThreadResolve, .federationRepliesFetch,
    .federationReplyFetch, .webPushDelivery, .notificationRequestMerge,
    .notificationRequestCleanup, .accountPurge, .domainModerationReconcile,
    .scheduledStatusPublish, .pollExpiration, .pollUpdate, .federationPollVoteDelivery,
    .trendMaintenance, .accountSuggestionMaintenance, .previewCardFetch,
    .previewCardBackfill, .actorKeyMaintenance, .remoteActorMigration]

/-- One row of the `job` table. -/
structure JobRow where
  id : JobId
  kind : JobKind
  payload : Json
  deduplicationKey : Option String
  runAfter : Int
  attempts : Int
  lockedAt : Option Int
  lockedBy : Option String
  claimId : Option JobClaimId
  lastError : Option String
  createdAt : Int
  completedAt : Option Int
  permanentlyFailedAt : Option Int
deriving DecidableEq

structure NewJob where
  kind : JobKind
  payload : Json
  deduplicationKey : Option String
  runAfter : Int

structure ClaimedJob where
  id : JobId
  claimId : JobClaimId
  kind : JobKind
  payload : Json
  attempts : Nat
  createdAt : Int
deriving DecidableEq

structure JobCleanupOutcome where
  successful : Nat
  permanentlyFailed : Nat
deriving DecidableEq

/-- `now()` of the statement and `OffsetDateTime::now_utc()` of the process. -/
structure Clocks where
  database : Int
  process : Int

/-- The partial unique index `job_deduplication_key_idx`. -/
def activeKey (row : JobRow) : Option (JobKind × String) :=
  if row.completedAt.isNone then row.deduplicationKey.map (row.kind, ·) else none

/-- The row that the arbiter index of `enqueue_job_on_connection` conflicts with. -/
def conflicting (job : NewJob) (row : JobRow) : Bool :=
  job.deduplicationKey.isSome && activeKey row == job.deduplicationKey.map (job.kind, ·)

def newJobRow (jobId : JobId) (now : Int) (job : NewJob) : JobRow where
  id := jobId
  kind := job.kind
  payload := job.payload
  deduplicationKey := job.deduplicationKey
  runAfter := job.runAfter
  attempts := 0
  lockedAt := none
  lockedBy := none
  claimId := none
  lastError := none
  createdAt := now
  completedAt := none
  permanentlyFailedAt := none

def enqueueJobOnConnection (rows : List JobRow) (jobId : JobId) (clocks : Clocks)
    (job : NewJob) : List JobRow × Except RoostyError JobId :=
  match rows.find? (conflicting job) with
  | some existing =>
      (Table.updateWhere (fun row => row.id == existing.id)
        (fun row => { row with deduplicationKey := job.deduplicationKey }) rows,
        .ok existing.id)
  | none =>
      if rows.any fun row => row.id == jobId then
        (rows, .error (.database "job_pkey"))
      else
        (rows ++ [newJobRow jobId clocks.database job], .ok jobId)

def claimable (now expiredBefore : Int) (row : JobRow) : Bool :=
  row.completedAt.isNone && decide (row.runAfter ≤ now) &&
    (match row.lockedAt with
      | none => true
      | some lockedAt => decide (lockedAt < expiredBefore))

/-- `ORDER BY run_after, created_at`. -/
def RunsBefore (left right : JobRow) : Prop :=
  left.runAfter < right.runAfter ∨
    (left.runAfter = right.runAfter ∧ left.createdAt ≤ right.createdAt)

instance : DecidableRel RunsBefore := fun left right =>
  inferInstanceAs (Decidable (left.runAfter < right.runAfter ∨ _))

/-- `UPDATE ... WHERE id IN (selected) RETURNING ...` and the conversion of the
returned row. A negative stored attempt count is reported after the update. -/
def leaseSelected (rows : List JobRow) (selected : Option JobRow) (now : Int)
    (workerId : String) (claimId : JobClaimId) :
    List JobRow × Except RoostyError (Option ClaimedJob) :=
  match selected with
  | none => (rows, .ok none)
  | some row =>
      (Table.updateWhere (fun other => other.id == row.id)
        (fun other => { other with
          lockedAt := some now, lockedBy := some workerId, claimId := some claimId }) rows,
        if row.attempts < 0 then
          .error (.invalidInput "stored job attempts must not be negative")
        else
          .ok (some {
            id := row.id
            claimId := claimId
            kind := row.kind
            payload := row.payload
            attempts := row.attempts.toNat
            createdAt := row.createdAt }))

def claimDueJob (rows : List JobRow) (workerId : String) (claimTtl : Int)
    (claimId : JobClaimId) (clocks : Clocks) (skipLocked : JobId → Bool) :
    List JobRow × Except RoostyError (Option ClaimedJob) :=
  let expiredBefore := clocks.process - claimTtl
  let candidates := rows.filter fun row =>
    claimable clocks.database expiredBefore row &&
      JobKind.known.contains row.kind && !skipLocked row.id
  leaseSelected rows (candidates.insertionSort RunsBefore).head? clocks.database workerId claimId

def claimDueJobByKey (rows : List JobRow) (workerId : String) (kind : JobKind)
    (deduplicationKey : String) (claimTtl : Int) (claimId : JobClaimId) (clocks : Clocks)
    (skipLocked : JobId → Bool) : List JobRow × Except RoostyError (Option ClaimedJob) :=
  let expiredBefore := clocks.process - claimTtl
  let candidates := rows.filter fun row =>
    claimable clocks.database expiredBefore row && row.kind == kind &&
      row.deduplicationKey == some deduplicationKey && !skipLocked row.id
  leaseSelected rows candidates.head? clocks.database workerId claimId

/-- `WHERE id = $1 AND claim_id = $2`. -/
def leasedBy (job : ClaimedJob) (row : JobRow) : Bool :=
  row.id == job.id && row.claimId == some job.claimId

def release (row : JobRow) : JobRow :=
  { row with lockedAt := none, lockedBy := none, claimId := none }

def markJobCompleted (rows : List JobRow) (clocks : Clocks) (job : ClaimedJob) :
    List JobRow × Bool :=
  (Table.updateWhere (leasedBy job)
    (fun row => { release row with completedAt := some clocks.database }) rows,
    Table.affected (leasedBy job) rows == 1)

def nextRetryAt (attempts : Nat) (processNow : Int) : Int :=
  processNow + (min (2 ^ min attempts 12) 3600 : Nat) * 1000000

/-- Attempt counts are 32-bit columns; the increment fails past the maximum. -/
def maxAttempts : Int := 2 ^ 31 - 1

def markJobFailed (rows : List JobRow) (clocks : Clocks) (job : ClaimedJob) (error : String) :
    List JobRow × Except RoostyError (Option Int) :=
  let runAfter := nextRetryAt job.attempts clocks.process
  if rows.any fun row => leasedBy job row && decide (maxAttempts ≤ row.attempts) then
    (rows, .error (.database "integer out of range"))
  else
    (Table.updateWhere (leasedBy job)
      (fun row => { release row with
        attempts := row.attempts + 1, lastError := some error, runAfter := runAfter }) rows,
      .ok (if Table.affected (leasedBy job) rows == 1 then some runAfter else none))

def markJobPermanentlyFailed (rows : List JobRow) (clocks : Clocks) (job : ClaimedJob)
    (error : String) : List JobRow × Bool :=
  (Table.updateWhere (leasedBy job)
    (fun row => { release row with
      lastError := some error
      completedAt := some clocks.database
      permanentlyFailedAt := some clocks.database }) rows,
    Table.affected (leasedBy job) rows == 1)

/-- The `candidates` predicate of `cleanup_expired_jobs`; comparisons with a
missing timestamp are not true. -/
def expired (successfulBefore permanentlyFailedBefore : Int) (row : JobRow) : Bool :=
  (row.permanentlyFailedAt.isNone && row.completedAt.any (· ≤ successfulBefore)) ||
    row.permanentlyFailedAt.any (· ≤ permanentlyFailedBefore)

/-- `ORDER BY COALESCE(permanently_failed_at, completed_at), id`; rows without
either timestamp sort last. -/
def CleanedBefore (left right : JobRow) : Prop :=
  match left.permanentlyFailedAt.or left.completedAt,
    right.permanentlyFailedAt.or right.completedAt with
  | some leftAt, some rightAt =>
      leftAt < rightAt ∨ (leftAt = rightAt ∧ left.id.value ≤ right.id.value)
  | some _, none => True
  | none, some _ => False
  | none, none => left.id.value ≤ right.id.value

instance : DecidableRel CleanedBefore := fun left right => by
  unfold CleanedBefore
  split <;> infer_instance

def cleanupExpiredJobs (rows : List JobRow) (clocks : Clocks)
    (successfulRetention permanentlyFailedRetention : Int) (batchSize : Nat)
    (skipLocked : JobId → Bool) : List JobRow × Except RoostyError JobCleanupOutcome :=
  if successfulRetention ≤ 0 ∨ permanentlyFailedRetention ≤ 0 then
    (rows, .error (.invalidInput "job retention durations must be positive"))
  else if batchSize = 0 ∨ 2 ^ 63 ≤ batchSize then
    (rows, .error (.invalidInput "job cleanup batch size must be positive"))
  else
    let successfulBefore := clocks.process - successfulRetention
    let permanentlyFailedBefore := clocks.process - permanentlyFailedRetention
    let candidates := ((rows.filter fun row =>
      expired successfulBefore permanentlyFailedBefore row && !skipLocked row.id).insertionSort
        CleanedBefore).take batchSize
    let deleted : JobRow → Bool := fun row => candidates.any fun other => other.id == row.id
    (Table.deleteWhere deleted rows,
      .ok {
        successful := Table.affected
          (fun row => deleted row && row.permanentlyFailedAt.isNone) rows
        permanentlyFailed := Table.affected
          (fun row => deleted row && row.permanentlyFailedAt.isSome) rows })

/-- A call to the queue, with everything the environment decides about it. -/
inductive Call where
  | enqueue (jobId : JobId) (clocks : Clocks) (job : NewJob)
  | claimDue (workerId : String) (claimTtl : Int) (claimId : JobClaimId) (clocks : Clocks)
      (skipLocked : JobId → Bool)
  | claimDueByKey (workerId : String) (kind : JobKind) (deduplicationKey : String)
      (claimTtl : Int) (claimId : JobClaimId) (clocks : Clocks) (skipLocked : JobId → Bool)
  | completed (clocks : Clocks) (job : ClaimedJob)
  | failed (clocks : Clocks) (job : ClaimedJob) (error : String)
  | permanentlyFailed (clocks : Clocks) (job : ClaimedJob) (error : String)
  | cleanup (clocks : Clocks) (successfulRetention permanentlyFailedRetention : Int)
      (batchSize : Nat) (skipLocked : JobId → Bool)

inductive Reply where
  | enqueued (result : Except RoostyError JobId)
  | claimed (result : Except RoostyError (Option ClaimedJob))
  | finished (accepted : Bool)
  | rescheduled (result : Except RoostyError (Option Int))
  | cleaned (result : Except RoostyError JobCleanupOutcome)

def queue : Machine (List JobRow) Call Reply where
  step rows
    | .enqueue jobId clocks job =>
        let result := enqueueJobOnConnection rows jobId clocks job
        (result.1, .enqueued result.2)
    | .claimDue workerId claimTtl claimId clocks skipLocked =>
        let result := claimDueJob rows workerId claimTtl claimId clocks skipLocked
        (result.1, .claimed result.2)
    | .claimDueByKey workerId kind deduplicationKey claimTtl claimId clocks skipLocked =>
        let result := claimDueJobByKey rows workerId kind deduplicationKey claimTtl claimId
          clocks skipLocked
        (result.1, .claimed result.2)
    | .completed clocks job =>
        let result := markJobCompleted rows clocks job
        (result.1, .finished result.2)
    | .failed clocks job error =>
        let result := markJobFailed rows clocks job error
        (result.1, .rescheduled result.2)
    | .permanentlyFailed clocks job error =>
        let result := markJobPermanentlyFailed rows clocks job error
        (result.1, .finished result.2)
    | .cleanup clocks successfulRetention permanentlyFailedRetention batchSize skipLocked =>
        let result := cleanupExpiredJobs rows clocks successfulRetention
          permanentlyFailedRetention batchSize skipLocked
        (result.1, .cleaned result.2)

end Roosty.Job
