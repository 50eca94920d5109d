import Roosty.Job.QueueProperties
import Roosty.Library.Result
import Roosty.Library.Uuid

/-!
# Notification requests

Notifications that the recipient's policy filters are collected in one request for each
sender. An accepted request is merged by a job of the account, which reveals its
notifications, and a dismissed one is cleaned up by another. Blocks, mutes and the policy's
settings are left out: what they decide is an input of each notification.
-/

set_option autoImplicit false

namespace Roosty.Notification

open Library Job

/-!
## Tables
-/

structure NotificationId where
  value : Nat
deriving DecidableEq

structure RequestId where
  value : Nat
deriving DecidableEq

inductive LocalNotificationType where
  | mention
  | favourite
  | follow
  | followRequest
  | reblog
  | status
  | update
  | quote
  | quotedUpdate
  | poll
  | adminReport
deriving DecidableEq

inductive NotificationPolicyAction where
  | accept
  | filter
  | drop
deriving DecidableEq

inductive NotificationRequestState where
  | pending
  | merging
  | dismissed
deriving DecidableEq

inductive NotificationActor where
  | localAccount (id : AccountId)
  | remoteActor (id : AccountId)
deriving DecidableEq

def NotificationActor.status (actor : NotificationActor) (id : StatusId) : StatusReference :=
  match actor with
  | .localAccount _ => .localStatus id
  | .remoteActor _ => .remoteStatus id

structure NotificationRequest where
  id : RequestId
  accountId : AccountId
  actor : NotificationActor
  lastStatus : Option StatusReference
  state : NotificationRequestState
  createdAt : Int
  updatedAt : Int
deriving DecidableEq

structure LocalNotification where
  id : NotificationId
  accountId : AccountId
  notificationType : LocalNotificationType
  actorAccountId : Option AccountId
  remoteActorId : Option AccountId
  statusId : Option StatusId
  remoteStatusId : Option StatusId
  filtered : Bool
  notificationRequestId : Option RequestId
  createdAt : Int
  dismissedAt : Option Int
deriving DecidableEq

structure NotificationPermission where
  accountId : AccountId
  actor : NotificationActor
  createdAt : Int
deriving DecidableEq

structure Db where
  requests : List NotificationRequest
  notifications : List LocalNotification
  permissions : List NotificationPermission
  jobs : List JobRow

def NotificationActor.sent (actor : NotificationActor) (row : LocalNotification) : Bool :=
  match actor with
  | .localAccount id => row.actorAccountId == some id
  | .remoteActor id => row.remoteActorId == some id

/-- The two partial unique indexes on requests. -/
def activeSender (request : NotificationRequest) : Option (AccountId × NotificationActor) :=
  if request.state = .pending ∨ request.state = .merging then
    some (request.accountId, request.actor) else none

def activeFor (accountId : AccountId) (actor : NotificationActor)
    (request : NotificationRequest) : Bool :=
  activeSender request == some (accountId, actor)

/-!
## Filtered notifications
-/

/-- The clock, the generated identifiers and what the recipient's settings decide: whether
the sender may notify at all, and the actions of the policies that apply. -/
structure Setting where
  now : Int
  notificationId : NotificationId
  requestId : RequestId
  allows : Bool
  actions : List NotificationPolicyAction

def strongestNotificationPolicyAction (actions : List NotificationPolicyAction) :
    NotificationPolicyAction :=
  if actions.contains .drop then .drop else if actions.contains .filter then .filter else .accept

/-- A permission, which an accepted request leaves behind, overrides every policy. -/
def notificationPolicyAction (db : Db) (setting : Setting) (accountId : AccountId)
    (actor : NotificationActor) : NotificationPolicyAction :=
  if db.permissions.any fun row => row.accountId == accountId && row.actor == actor then .accept
  else strongestNotificationPolicyAction setting.actions

def newRequest (setting : Setting) (accountId : AccountId) (actor : NotificationActor)
    (statusId : StatusId) : NotificationRequest where
  id := setting.requestId
  accountId := accountId
  actor := actor
  lastStatus := some (actor.status statusId)
  state := .pending
  createdAt := setting.now
  updatedAt := setting.now

/-- `INSERT INTO local_notification_request ... ON CONFLICT ... DO UPDATE ... RETURNING id`. -/
def saveRequest (requests : List NotificationRequest) (setting : Setting)
    (accountId : AccountId) (actor : NotificationActor) (statusId : StatusId) :
    Except RoostyError (List NotificationRequest × RequestId) :=
  match requests.find? (activeFor accountId actor) with
  | some active =>
      .ok (Table.updateWhere (fun request => request.id == active.id) (fun request =>
        { request with
          lastStatus := some (actor.status statusId)
          updatedAt := setting.now }) requests, active.id)
  | none =>
      if requests.any fun request => request.id == setting.requestId then
        .error (.database "local_notification_request_pkey")
      else
        .ok (requests ++ [newRequest setting accountId actor statusId], setting.requestId)

/-- The filtered notifications of a sender that belong to no request yet. -/
def unattached (accountId : AccountId) (actor : NotificationActor) (row : LocalNotification) :
    Bool :=
  row.accountId == accountId && row.filtered && row.notificationRequestId.isNone &&
    actor.sent row

def upsertNotificationRequest (db : Db) (setting : Setting) (accountId : AccountId)
    (actor : NotificationActor) (statusId : StatusId) : Except RoostyError (Db × RequestId) := do
  let (requests, requestId) ← saveRequest db.requests setting accountId actor statusId
  return ({ db with
    requests := requests
    notifications := Table.updateWhere (unattached accountId actor)
      (fun row => { row with notificationRequestId := some requestId }) db.notifications },
    requestId)

def activeNotificationRequestId (db : Db) (accountId : AccountId) (actor : NotificationActor) :
    Option RequestId :=
  (db.requests.find? (activeFor accountId actor)).map NotificationRequest.id

/-- The request that a mention or a quote opens or joins when it is filtered. -/
def openRequest (db : Db) (setting : Setting) (accountId : AccountId) (actor : NotificationActor)
    (action : NotificationPolicyAction) (statusId : StatusId) :
    Except RoostyError (Db × Option RequestId) :=
  if action = .filter then
    (upsertNotificationRequest db setting accountId actor statusId).map fun saved =>
      (saved.1, some saved.2)
  else .ok (db, none)

/-- The request that another notification joins when it is filtered. -/
def joinRequest (db : Db) (accountId : AccountId) (actor : NotificationActor)
    (action : NotificationPolicyAction) : Option RequestId :=
  if action = .filter then activeNotificationRequestId db accountId actor else none

/-- The unique indexes on events are what each caller has just searched. -/
def insertNotification (db : Db) (row : LocalNotification) : Except RoostyError Db :=
  if db.notifications.any fun other => other.id == row.id then
    .error (.database "local_notification_pkey")
  else .ok { db with notifications := db.notifications ++ [row] }

def newNotification (setting : Setting) (accountId : AccountId)
    (notificationType : LocalNotificationType) (actor : NotificationActor)
    (statusId remoteStatusId : Option StatusId) (filtered : Bool)
    (requestId : Option RequestId) : LocalNotification where
  id := setting.notificationId
  accountId := accountId
  notificationType := notificationType
  actorAccountId := match actor with
    | .localAccount id => some id
    | .remoteActor _ => none
  remoteActorId := match actor with
    | .localAccount _ => none
    | .remoteActor id => some id
  statusId := statusId
  remoteStatusId := remoteStatusId
  filtered := filtered
  notificationRequestId := requestId
  createdAt := setting.now
  dismissedAt := none

def notified (accountId : AccountId) (notificationType : LocalNotificationType)
    (actor : NotificationActor) (row : LocalNotification) : Bool :=
  row.accountId == accountId && row.notificationType == notificationType && actor.sent row

def NotificationActor.statusOf (actor : NotificationActor) (row : LocalNotification) :
    Option StatusId :=
  match actor with
  | .localAccount _ => row.statusId
  | .remoteActor _ => row.remoteStatusId

/-- Mentions and quotes, which open a request when they are filtered. -/
def notifyStatus (db : Db) (setting : Setting) (accountId : AccountId)
    (notificationType : LocalNotificationType) (actor : NotificationActor)
    (statusId : StatusId) : Except RoostyError (Db × Option LocalNotification) :=
  let earlier := db.notifications.find? fun row =>
    notified accountId notificationType actor row && actor.statusOf row == some statusId
  match earlier with
  | some existing => .ok (db, if existing.filtered then none else some existing)
  | none => do
      let action := notificationPolicyAction db setting accountId actor
      if action = .drop then return (db, none)
      let (db, requestId) ← openRequest db setting accountId actor action statusId
      let (local_, remote) := match actor with
        | .localAccount _ => (some statusId, none)
        | .remoteActor _ => (none, some statusId)
      let row := newNotification setting accountId notificationType actor local_ remote
        requestId.isSome requestId
      let db ← insertNotification db row
      return (db, if requestId.isNone then some row else none)

def notifyLocalStatusMention (db : Db) (setting : Setting) (accountId actorAccountId : AccountId)
    (statusId : StatusId) : Except RoostyError (Db × Option LocalNotification) :=
  if accountId = actorAccountId ∨ setting.allows = false then .ok (db, none)
  else notifyStatus db setting accountId .mention (.localAccount actorAccountId) statusId

def notifyLocalStatusQuote (db : Db) (setting : Setting) (accountId actorAccountId : AccountId)
    (statusId : StatusId) : Except RoostyError (Db × Option LocalNotification) :=
  if accountId = actorAccountId ∨ setting.allows = false then .ok (db, none)
  else notifyStatus db setting accountId .quote (.localAccount actorAccountId) statusId

def notifyRemoteStatusMention (db : Db) (setting : Setting) (accountId remoteActorId : AccountId)
    (remoteStatusId : StatusId) : Except RoostyError (Db × Option LocalNotification) :=
  if setting.allows = false then .ok (db, none)
  else notifyStatus db setting accountId .mention (.remoteActor remoteActorId) remoteStatusId

def notifyRemoteActorQuote (db : Db) (setting : Setting) (accountId remoteActorId : AccountId)
    (remoteStatusId : StatusId) : Except RoostyError (Db × Option LocalNotification) :=
  if setting.allows = false then .ok (db, none)
  else notifyStatus db setting accountId .quote (.remoteActor remoteActorId) remoteStatusId

/-- The notifications that only join a request that is already there. -/
def notifyActive (db : Db) (setting : Setting) (accountId : AccountId)
    (notificationType : LocalNotificationType) (actor : NotificationActor)
    (statusId : Option StatusId) : Except RoostyError (Db × Option LocalNotification) := do
  let action := notificationPolicyAction db setting accountId actor
  if action = .drop then return (db, none)
  let row := newNotification setting accountId notificationType actor statusId none
    (action == .filter) (joinRequest db accountId actor action)
  let db ← insertNotification db row
  return (db, some row)

def notifyRemoteActorFollow (db : Db) (setting : Setting) (accountId remoteActorId : AccountId)
    (notificationType : LocalNotificationType) :
    Except RoostyError (Db × Option LocalNotification) :=
  if setting.allows = false then .ok (db, none)
  else if notificationType ≠ .follow ∧ notificationType ≠ .followRequest then
    .error (.invalidInput "remote actor notification type is invalid")
  else if db.notifications.any fun row =>
      notified accountId notificationType (.remoteActor remoteActorId) row &&
        row.statusId.isNone && row.remoteStatusId.isNone then .ok (db, none)
  else notifyActive db setting accountId notificationType (.remoteActor remoteActorId) none

def notifyRemoteActorFavourite (db : Db) (setting : Setting)
    (accountId remoteActorId : AccountId) (statusId : StatusId) :
    Except RoostyError (Db × Option LocalNotification) :=
  let earlier := db.notifications.find? fun row =>
    notified accountId .favourite (.remoteActor remoteActorId) row && row.statusId == some statusId
  match earlier with
  | some existing => .ok (db, some existing)
  | none =>
      if setting.allows = false then .ok (db, none)
      else notifyActive db setting accountId .favourite (.remoteActor remoteActorId) (some statusId)

def notifyRemoteActorReblog (db : Db) (setting : Setting) (accountId remoteActorId : AccountId)
    (statusId : StatusId) : Except RoostyError (Db × Option LocalNotification) :=
  if setting.allows = false then .ok (db, none)
  else if db.notifications.any fun row =>
      notified accountId .reblog (.remoteActor remoteActorId) row &&
        row.statusId == some statusId then .ok (db, none)
  else notifyActive db setting accountId .reblog (.remoteActor remoteActorId) (some statusId)

def notifyLocalAccount (db : Db) (setting : Setting) (accountId : AccountId)
    (notificationType : LocalNotificationType) (actorAccountId : AccountId)
    (statusId : Option StatusId) : Except RoostyError (Db × LocalNotification) :=
  if accountId = actorAccountId then
    .error (.invalidInput "accounts cannot notify themselves")
  else
    let earlier := db.notifications.find? fun row =>
      notified accountId notificationType (.localAccount actorAccountId) row &&
        row.statusId == statusId
    match earlier with
    | some existing => .ok (db, existing)
    | none => do
        let row := newNotification setting accountId notificationType
          (.localAccount actorAccountId) statusId none false none
        let db ← insertNotification db row
        return (db, row)

def filterable : LocalNotificationType → Bool
  | .mention | .reblog | .follow | .followRequest | .favourite | .quote => true
  | .status | .update | .quotedUpdate | .poll | .adminReport => false

/-- Mentions and quotes of a status open a request, and other notifications join one. -/
def policyRequest (db : Db) (setting : Setting) (accountId : AccountId)
    (notificationType : LocalNotificationType) (actor : NotificationActor)
    (action : NotificationPolicyAction) (statusId : Option StatusId) :
    Except RoostyError (Db × Option RequestId) :=
  match statusId with
  | some statusId =>
      if notificationType = .mention ∨ notificationType = .quote then
        openRequest db setting accountId actor action statusId
      else .ok (db, joinRequest db accountId actor action)
  | none => .ok (db, joinRequest db accountId actor action)

def notifyLocalAccountWithPolicy (db : Db) (setting : Setting) (accountId : AccountId)
    (notificationType : LocalNotificationType) (actorAccountId : AccountId)
    (statusId : Option StatusId) : Except RoostyError (Db × Option LocalNotification) :=
  let actor := NotificationActor.localAccount actorAccountId
  if accountId = actorAccountId ∨ setting.allows = false then .ok (db, none)
  else if filterable notificationType = false then
    (notifyLocalAccount db setting accountId notificationType actorAccountId statusId).map
      fun made => (made.1, some made.2)
  else
    let earlier := db.notifications.find? fun row =>
      notified accountId notificationType actor row && row.statusId == statusId
    match earlier with
    | some existing => .ok (db, some existing)
    | none => do
        let action := notificationPolicyAction db setting accountId actor
        if action = .drop then return (db, none)
        let (db, requestId) ←
          policyRequest db setting accountId notificationType actor action statusId
        let row := newNotification setting accountId notificationType actor statusId none
          (action == .filter) requestId
        let db ← insertNotification db row
        return (db, some row)

/-!
## Accepting and dismissing
-/

def mergePayload (account : AccountId) : Json :=
  .object [("account_id", .string (Text.uuidText account.value))]

def mergeKey (account : AccountId) : String :=
  "notification-request-merge:" ++ Text.uuidText account.value

def mergeJob (account : AccountId) (now : Int) : NewJob where
  kind := .notificationRequestMerge
  payload := mergePayload account
  deduplicationKey := some (mergeKey account)
  runAfter := now

def cleanupJob (account : AccountId) (now : Int) : NewJob where
  kind := .notificationRequestCleanup
  payload := mergePayload account
  deduplicationKey := some ("notification-request-cleanup:" ++ Text.uuidText account.value)
  runAfter := now

/-- The pending requests that are asked for: all of them, or those named, each of which has
to be there. -/
def pendingRequests (requests : List NotificationRequest) (accountId : AccountId)
    (requestIds : List RequestId) : Option (List NotificationRequest) :=
  let found := requests.filter fun request =>
    request.accountId == accountId && request.state == .pending &&
      (requestIds.isEmpty || requestIds.contains request.id)
  if found.isEmpty ∨ (requestIds.isEmpty = false ∧ found.length ≠ requestIds.length) then none
  else some found

def moveTo (state : NotificationRequestState) (chosen : List NotificationRequest) (now : Int)
    (requests : List NotificationRequest) : List NotificationRequest :=
  Table.updateWhere (fun request => (chosen.map NotificationRequest.id).contains request.id)
    (fun request => { request with state := state, updatedAt := now }) requests

/-- `INSERT INTO local_notification_permission ... ON CONFLICT ... DO NOTHING`. -/
def permit (accountId : AccountId) (now : Int) (permissions : List NotificationPermission)
    (request : NotificationRequest) : List NotificationPermission :=
  if permissions.any fun row => row.accountId == accountId && row.actor == request.actor then
    permissions
  else permissions ++ [⟨accountId, request.actor, now⟩]

def acceptNotificationRequests (db : Db) (now : Int) (jobId : JobId) (accountId : AccountId)
    (requestIds : List RequestId) : Except RoostyError (Db × Bool) :=
  match pendingRequests db.requests accountId requestIds with
  | none => .ok (db, false)
  | some requests => do
      let (jobs, result) := enqueueJobOnConnection db.jobs jobId ⟨now, now⟩ (mergeJob accountId now)
      let _ ← result
      return ({ db with
        permissions := requests.foldl (permit accountId now) db.permissions
        requests := moveTo .merging requests now db.requests
        jobs := jobs }, true)

def dismissNotificationRequests (db : Db) (now : Int) (jobId : JobId) (accountId : AccountId)
    (requestIds : List RequestId) : Except RoostyError (Db × Bool) :=
  match pendingRequests db.requests accountId requestIds with
  | none => .ok (db, false)
  | some requests => do
      let (jobs, result) :=
        enqueueJobOnConnection db.jobs jobId ⟨now, now⟩ (cleanupJob accountId now)
      let _ ← result
      return ({ db with requests := moveTo .dismissed requests now db.requests, jobs := jobs }, true)

def notificationRequestsMerged (db : Db) (accountId : AccountId) : Bool :=
  !db.requests.any fun request => request.accountId == accountId && request.state == .merging

/-!
## Workers
-/

def inState (accountId : AccountId) (state : NotificationRequestState)
    (request : NotificationRequest) : Bool :=
  request.accountId == accountId && request.state == state

def attachedTo (requests : List NotificationRequest) (row : LocalNotification) : Bool :=
  row.notificationRequestId.any fun id => (requests.map NotificationRequest.id).contains id

def removeRequests (removed requests : List NotificationRequest) : List NotificationRequest :=
  Table.deleteWhere (fun request => (removed.map NotificationRequest.id).contains request.id)
    requests

def mergeNotificationRequests (db : Db) (accountId : AccountId) : Db :=
  let requests := db.requests.filter (inState accountId .merging)
  { db with
    notifications := Table.updateWhere (attachedTo requests)
      (fun row => { row with filtered := false, notificationRequestId := none }) db.notifications
    requests := removeRequests requests db.requests }

def cleanupNotificationRequests (db : Db) (accountId : AccountId) : Db :=
  let requests := db.requests.filter (inState accountId .dismissed)
  { db with
    notifications := Table.deleteWhere (attachedTo requests) db.notifications
    requests := removeRequests requests db.requests }

/-- The account of a job; `name` is what the error texts call the job. -/
def jobAccount (name : String) (payload : Json) : Except RoostyError AccountId := do
  let text ← okOr ((payload.get? "account_id").bind Json.asStr?)
    (.invalidInput ("notification " ++ name ++ " job account_id is missing"))
  let id ← okOr (Text.parseUuid text)
    (.invalidInput ("notification " ++ name ++ " job account_id is invalid"))
  return ⟨id⟩

def notificationRequestMerge (db : Db) (payload : Json) : Except RoostyError Db := do
  let accountId ← jobAccount "merge" payload
  return mergeNotificationRequests db accountId

def notificationRequestCleanup (db : Db) (payload : Json) : Except RoostyError Db := do
  let accountId ← jobAccount "cleanup" payload
  return cleanupNotificationRequests db accountId

/-!
## Runs
-/

inductive Event where
  | localStatusMention (account actor : AccountId) (status : StatusId)
  | localStatusQuote (account actor : AccountId) (status : StatusId)
  | remoteStatusMention (account actor : AccountId) (status : StatusId)
  | remoteActorQuote (account actor : AccountId) (status : StatusId)
  | remoteActorFollow (account actor : AccountId) (notificationType : LocalNotificationType)
  | remoteActorFavourite (account actor : AccountId) (status : StatusId)
  | remoteActorReblog (account actor : AccountId) (status : StatusId)
  | localAccount (account : AccountId) (notificationType : LocalNotificationType)
      (actor : AccountId) (status : Option StatusId)

def notify (db : Db) (setting : Setting) :
    Event → Except RoostyError (Db × Option LocalNotification)
  | .localStatusMention account actor status =>
      notifyLocalStatusMention db setting account actor status
  | .localStatusQuote account actor status =>
      notifyLocalStatusQuote db setting account actor status
  | .remoteStatusMention account actor status =>
      notifyRemoteStatusMention db setting account actor status
  | .remoteActorQuote account actor status =>
      notifyRemoteActorQuote db setting account actor status
  | .remoteActorFollow account actor notificationType =>
      notifyRemoteActorFollow db setting account actor notificationType
  | .remoteActorFavourite account actor status =>
      notifyRemoteActorFavourite db setting account actor status
  | .remoteActorReblog account actor status =>
      notifyRemoteActorReblog db setting account actor status
  | .localAccount account notificationType actor status =>
      notifyLocalAccountWithPolicy db setting account notificationType actor status

/-- The tables, the jobs that workers have been handed, and the merge jobs that have been
executed. -/
structure State where
  db : Db
  claimed : List ClaimedJob
  executed : List JobId

inductive Call where
  | notify (setting : Setting) (event : Event)
  | accept (now : Int) (jobId : JobId) (account : AccountId) (requestIds : List RequestId)
  | dismiss (now : Int) (jobId : JobId) (account : AccountId) (requestIds : List RequestId)
  | runMerge (job : ClaimedJob)
  | runCleanup (job : ClaimedJob)
  | queue (call : Job.Call)

inductive Reply where
  | notified (result : Except RoostyError (Option LocalNotification))
  | changed (result : Except RoostyError Bool)
  | executed (result : Except RoostyError Unit)
  | queue (reply : Job.Reply)

def State.commit {Value : Type} (state : State) (result : Except RoostyError (Db × Value)) :
    State × Except RoostyError Value :=
  match result with
  | .ok (db, value) => ({ state with db := db }, .ok value)
  | .error error => (state, .error error)

def lifecycle : Machine State Call Reply where
  step state
    | .notify setting event =>
        (state.commit (Notification.notify state.db setting event)).map id .notified
    | .accept now jobId account requestIds =>
        (state.commit (acceptNotificationRequests state.db now jobId account requestIds)).map id
          .changed
    | .dismiss now jobId account requestIds =>
        (state.commit (dismissNotificationRequests state.db now jobId account requestIds)).map id
          .changed
    | .runMerge job =>
        match notificationRequestMerge state.db job.payload with
        | .ok db => ({ state with db := db, executed := job.id :: state.executed }, .executed (.ok ()))
        | .error error => (state, .executed (.error error))
    | .runCleanup job =>
        (state.commit ((notificationRequestCleanup state.db job.payload).map (·, ()))).map id
          .executed
    | .queue call =>
        let (jobs, reply) := Job.queue.step state.db.jobs call
        ({ state with
            db := { state.db with jobs := jobs }
            claimed := reply.claimed?.toList ++ state.claimed }, .queue reply)

end Roosty.Notification
