import Roosty.Job.QueueProperties
import Roosty.Library.Result
import Roosty.Library.Uuid

/-!
# Suspension and purge

An administrator suspends and unsuspends accounts. The suspension of a local account queues
a job that purges its data after thirty days, and the end of the suspension completes the
job. A worker runs the purge of a job it has claimed in a transaction of its own. The
relationships that a suspension severs are left out.
-/

set_option autoImplicit false

namespace Roosty.Suspension

open Library Job

/-!
## Tables
-/

structure LocalAccount where
  id : AccountId
  username : String
  email : String
  displayName : String
  note : String
  profileFields : Json
  avatarFilePath : Option String
  headerFilePath : Option String
  isAdmin : Bool
  limitedAt : Option Int
  suspendedAt : Option Int
  dataPurgedAt : Option Int
  createdAt : Int
deriving DecidableEq

structure RemoteActor where
  id : AccountId
  username : String
  domain : String
  displayName : String
  limitedAt : Option Int
  suspendedAt : Option Int
  dataPurgedAt : Option Int
  profileCreatedAt : Option Int
  createdAt : Int

structure LocalStatus where
  id : StatusId
  accountId : AccountId
deriving DecidableEq

structure RemoteStatus where
  id : StatusId
  remoteActorId : AccountId
  deletedAt : Option Int

structure MediaAttachment where
  accountId : AccountId
  filePath : String
  previewFilePath : Option String
deriving DecidableEq

structure Db where
  accounts : List LocalAccount
  remoteActors : List RemoteActor
  statuses : List LocalStatus
  remoteStatuses : List RemoteStatus
  attachments : List MediaAttachment
  jobs : List JobRow

structure AdminAccount where
  id : AccountId
  username : String
  domain : Option String
  email : Option String
  displayName : String
  isAdmin : Bool
  limited : Bool
  suspended : Bool
  dataPurgedAt : Option Int
  createdAt : Int

def LocalAccount.admin (account : LocalAccount) : AdminAccount where
  id := account.id
  username := account.username
  domain := none
  email := some account.email
  displayName := account.displayName
  isAdmin := account.isAdmin
  limited := account.limitedAt.isSome
  suspended := account.suspendedAt.isSome
  dataPurgedAt := account.dataPurgedAt
  createdAt := account.createdAt

def RemoteActor.admin (actor : RemoteActor) : AdminAccount where
  id := actor.id
  username := actor.username
  domain := some actor.domain
  email := none
  displayName := actor.displayName
  isAdmin := false
  limited := actor.limitedAt.isSome
  suspended := actor.suspendedAt.isSome
  dataPurgedAt := actor.dataPurgedAt
  createdAt := actor.profileCreatedAt.getD actor.createdAt

/-!
## Suspending
-/

/-- `Duration::days(30)`. -/
def thirtyDays : Int := 30 * 24 * 60 * 60 * 1000000

def purgePayload (account : AccountId) : Json :=
  .object [("account_id", .string (Text.uuidText account.value)), ("origin", .string "local")]

def purgeKey (account : AccountId) : String := "account-purge:" ++ Text.uuidText account.value

def purgeJob (account : AccountId) (now : Int) : NewJob where
  kind := .accountPurge
  payload := purgePayload account
  deduplicationKey := some (purgeKey account)
  runAfter := now + thirtyDays

/-- The jobs that `cancel_account_purge` completes. -/
def cancels (account : AccountId) (row : JobRow) : Bool :=
  row.kind == .accountPurge && row.completedAt.isNone &&
    (row.payload.get? "account_id").bind Json.asStr? == some (Text.uuidText account.value)

def cancelAccountPurge (jobs : List JobRow) (account : AccountId) (now : Int) : List JobRow :=
  Table.updateWhere (cancels account) (fun row =>
    { row with completedAt := some now, lastError := some "cancelled after unsuspend" }) jobs

def purgeRemoteActorCache (db : Db) (actor : AccountId) (now : Int) : Db :=
  { db with
    remoteStatuses := Table.updateWhere (fun status => status.remoteActorId == actor)
      (fun status => { status with deletedAt := some now }) db.remoteStatuses }

def purgeJobs (jobs : List JobRow) (now : Int) (jobId : JobId) (account : LocalAccount)
    (suspended : Bool) : Except RoostyError (List JobRow) :=
  if suspended && account.suspendedAt.isNone then do
    let (jobs, result) := enqueueJobOnConnection jobs jobId ⟨now, now⟩ (purgeJob account.id now)
    let _ ← result
    return jobs
  else if !suspended then .ok (cancelAccountPurge jobs account.id now)
  else .ok jobs

def setAccountSuspendedById (db : Db) (now : Int) (jobId : JobId) (accountId : AccountId)
    (suspended : Bool) : Except RoostyError (Db × Option AdminAccount) :=
  let suspendedAt := if suspended then some now else none
  match db.accounts.find? fun account => account.id == accountId with
  | some account => do
      let jobs ← purgeJobs db.jobs now jobId account suspended
      return ({ db with
          accounts := Table.updateWhere (fun other => other.id == account.id)
            (fun other => { other with suspendedAt := suspendedAt }) db.accounts
          jobs := jobs },
        some { account with suspendedAt := suspendedAt }.admin)
  | none =>
      match db.remoteActors.find? fun actor => actor.id == accountId with
      | some actor =>
          let change (row : RemoteActor) : RemoteActor :=
            { row with
              suspendedAt := suspendedAt
              dataPurgedAt := if suspended then some now else row.dataPurgedAt }
          let db := { db with
            remoteActors := Table.updateWhere (fun other => other.id == actor.id) change
              db.remoteActors }
          .ok (if suspended then purgeRemoteActorCache db actor.id now else db,
            some (change actor).admin)
      | none => .ok (db, none)

/-!
## Purging
-/

def purgedAccount (now : Int) (account : LocalAccount) : LocalAccount :=
  { account with
    displayName := ""
    note := ""
    profileFields := .array []
    avatarFilePath := none
    headerFilePath := none
    dataPurgedAt := some now }

/-- Permanently purge retained data if the local account remains suspended. The paths are
those of files to remove. -/
def purgeSuspendedLocalAccount (db : Db) (now : Int) (accountId : AccountId) : Db × List String :=
  match db.accounts.find? fun account => account.id == accountId with
  | none => (db, [])
  | some account =>
      if account.suspendedAt.isNone || account.dataPurgedAt.isSome then (db, [])
      else
        let attachments := db.attachments.filter fun row => row.accountId == accountId
        ({ db with
            statuses := Table.deleteWhere (fun status => status.accountId == accountId) db.statuses
            attachments := Table.deleteWhere (fun row => row.accountId == accountId) db.attachments
            accounts := Table.updateWhere (fun other => other.id == account.id)
              (purgedAccount now) db.accounts },
          (attachments.flatMap fun row => row.filePath :: row.previewFilePath.toList) ++
            account.avatarFilePath.toList ++ account.headerFilePath.toList)

def accountPurge (db : Db) (now : Int) (payload : Json) : Except RoostyError (Db × List String) := do
  let text ← okOr ((payload.get? "account_id").bind Json.asStr?)
    (.invalidInput "account purge job account_id is missing")
  let id ← okOr (Text.parseUuid text) (.invalidInput "account purge job account_id is invalid")
  return purgeSuspendedLocalAccount db now ⟨id⟩

inductive AdminApiError where
  | notFound (message : String)
  | forbidden (message : String)

def findAdminAccountById (db : Db) (accountId : AccountId) : Option AdminAccount :=
  ((db.accounts.find? fun account => account.id == accountId).map LocalAccount.admin).or
    ((db.remoteActors.find? fun actor => actor.id == accountId).map RemoteActor.admin)

/-- An administrator's request to purge a suspended account at once. -/
def deleteSuspendedAccount (db : Db) (now : Int) (accountId : AccountId) :
    Except AdminApiError (Db × List String) := do
  let account ← okOr (findAdminAccountById db accountId) (.notFound "Record not found")
  ensure account.suspended (.forbidden "Account is not suspended")
  if account.domain.isNone then return purgeSuspendedLocalAccount db now accountId
  else return (db, [])

/-!
## Runs
-/

/-- The tables, the jobs that workers have been handed, and the latest clock reading. -/
structure State where
  db : Db
  claimed : List ClaimedJob
  clock : Int

inductive Call where
  | setAccountSuspended (now : Int) (jobId : JobId) (account : AccountId) (suspended : Bool)
  | deleteSuspendedAccount (now : Int) (account : AccountId)
  | runAccountPurge (now : Int) (job : ClaimedJob)
  | queue (call : Job.Call)

inductive Reply where
  | account (result : Except RoostyError (Option AdminAccount))
  | deleted (result : Except AdminApiError (List String))
  | purged (result : Except RoostyError (List String))
  | queue (reply : Job.Reply)

/-- A transaction of a call: its changes are kept when it succeeds. -/
def State.commit {Error Value : Type} (state : State) (now : Int)
    (result : Except Error (Db × Value)) : State × Except Error Value :=
  match result with
  | .ok (db, value) => ({ state with db := db, clock := now }, .ok value)
  | .error error => ({ state with clock := now }, .error error)

def moderation : Machine State Call Reply where
  step state
    | .setAccountSuspended now jobId account suspended =>
        (state.commit now (setAccountSuspendedById state.db now jobId account suspended)).map id
          .account
    | .deleteSuspendedAccount now account =>
        (state.commit now (deleteSuspendedAccount state.db now account)).map id .deleted
    | .runAccountPurge now job =>
        (state.commit now (accountPurge state.db now job.payload)).map id .purged
    | .queue call =>
        let (jobs, reply) := Job.queue.step state.db.jobs call
        ({ db := { state.db with jobs := jobs }
           claimed := reply.claimed?.toList ++ state.claimed
           clock := max call.clocks.database call.clocks.process }, .queue reply)

end Roosty.Suspension
