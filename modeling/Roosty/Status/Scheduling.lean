import Roosty.Status.Posting

/-!
# Scheduling statuses

Schedules with their reserved media and polls, and their publication. The queue of
publication jobs is left out: a job may be executed at any time and any number of times.
-/

set_option autoImplicit false

namespace Roosty.Status.Posting

open Library
open Federation.Inbox (QuoteApprovalPolicy QuoteState)
open Poll (NewStatusPoll Segmentation validatePoll)
open Timeline (isOpen)

structure NewScheduledStatus where
  id : Nat
  publicationStatusId : StatusId
  accountId : AccountId
  content : String
  visibility : StatusVisibility
  sensitive : Bool
  spoilerText : String
  language : Option String
  inReplyToId : Option StatusId
  inReplyToRemoteStatusId : Option StatusId
  quotedStatusId : Option StatusId
  quoteApprovalPolicy : QuoteApprovalPolicy
  scheduledAt : Int × Int
  mediaIds : List Nat
  poll : Option NewStatusPoll

def NewScheduledStatus.row (new : NewScheduledStatus) : ScheduledStatus where
  id := new.id
  accountId := new.accountId
  publicationStatusId := new.publicationStatusId
  content := new.content
  visibility := new.visibility
  sensitive := new.sensitive
  spoilerText := new.spoilerText
  language := new.language
  inReplyToId := new.inReplyToId
  inReplyToRemoteStatusId := new.inReplyToRemoteStatusId
  quotedStatusId := new.quotedStatusId
  quoteApprovalPolicy := new.quoteApprovalPolicy
  scheduledAt := new.scheduledAt.1
  poll := new.poll.map fun poll => { poll with options := poll.options.map Text.trim }

inductive ScheduleStatusResult where
  | created
  | totalLimitReached
  | dailyLimitReached
deriving DecidableEq

/-- Microseconds. -/
def day : Int := 86400000000

def dayStart (scheduledAt : Int × Int) : Int := (scheduledAt.1 + scheduledAt.2) / day * day

def totalSchedules (db : Db) (account : AccountId) : Nat :=
  db.schedules.countP fun schedule => schedule.accountId == account

def dailySchedules (db : Db) (account : AccountId) (start : Int) : Nat :=
  db.schedules.countP fun schedule =>
    schedule.accountId == account && decide (start ≤ schedule.scheduledAt) &&
      decide (schedule.scheduledAt < start + day)

def mediaReservable (account : AccountId) (media : LocalMediaAttachment) : Bool :=
  media.accountId == account && media.statusId.isNone && media.scheduledStatusId.isNone

def reserveMedia (db : Db) (account : AccountId) (mediaIds : List Nat) : Bool :=
  mediaIds.all fun id => db.media.any fun media => media.id == id && mediaReservable account media

def validateScheduledPoll (segmentation : Segmentation) : Option NewStatusPoll →
    Except RoostyError Unit
  | none => .ok ()
  | some poll => validatePoll segmentation poll

/-- The writes of a schedule that no limit refuses. -/
def insertScheduledStatus (env : Environment) (db : Db) (input : NewScheduledStatus) :
    Except RoostyError Db := do
  ensure (reserveMedia db input.accountId input.mediaIds)
    (.invalidInput "media attachment is not available")
  ensure (db.schedules.all fun schedule => schedule.id != input.id)
    (.database "scheduled_status_pkey")
  ensure (db.schedules.all fun schedule =>
      schedule.publicationStatusId != input.publicationStatusId)
    (.database "scheduled_status_publication_status_id_key")
  validateScheduledPoll env.segmentation input.poll
  let media ← attachMedia "media attachment disappeared" (fun index media =>
    { media with scheduledStatusId := some input.id, statusOrder := index }) 0 input.mediaIds
    db.media
  .ok { db with schedules := db.schedules ++ [input.row], media := media }

/-- `roosty_db::create_scheduled_status`. -/
def createScheduledStatusRow (env : Environment) (db : Db) (input : NewScheduledStatus) :
    Except RoostyError (ScheduleStatusResult × Db) :=
  if (findLocalAccountById db input.accountId).isNone then
    .error (.invalidInput "account does not exist")
  else if env.totalLimit ≤ totalSchedules db input.accountId then .ok (.totalLimitReached, db)
  else if env.dailyLimit ≤ dailySchedules db input.accountId (dayStart input.scheduledAt) then
    .ok (.dailyLimitReached, db)
  else (insertScheduledStatus env db input).map fun next => (.created, next)

def rescheduleStatus (env : Environment) (db : Db) (account : AccountId) (id : Nat)
    (scheduledAt : Int × Int) : Except RoostyError (Db × Option ScheduledStatus) :=
  match db.schedules.find? fun schedule => schedule.id == id && schedule.accountId == account with
  | none => .ok (db, none)
  | some schedule =>
      let daily := db.schedules.countP fun other =>
        other.accountId == account && other.id != id &&
          decide (dayStart scheduledAt ≤ other.scheduledAt) &&
          decide (other.scheduledAt < dayStart scheduledAt + day)
      if env.dailyLimit ≤ daily then
        .error (.invalidInput "daily scheduled status limit reached")
      else
        let updated := { schedule with scheduledAt := scheduledAt.1 }
        .ok ({ db with
          schedules := Table.updateWhere (fun other => other.id == id) (fun _ => updated)
            db.schedules }, some updated)

def parseScheduledAt (env : Environment) (value : Option String) : Except String (Int × Int) :=
  match (value.map Text.trim).filter (· != "") with
  | none => .error "scheduled_at is required"
  | some value =>
      okOr (env.parseRfc3339 value) "scheduled_at must be an RFC 3339 timestamp"

section

variable (env : Environment) (now : Int) (db : Db) (account : LocalAccount) (input : StatusInput)

def newScheduledStatus (id : Nat) (publicationStatusId : StatusId) (visibility : StatusVisibility)
    (reply : Option StatusId × Option StatusId) (quotedStatusId : Option StatusId)
    (scheduledAt : Int × Int) (mediaIds : List Nat) : NewScheduledStatus where
  id := id
  publicationStatusId := publicationStatusId
  accountId := account.id
  content := Text.trim (input.status.getD "")
  visibility := visibility
  sensitive := input.sensitive.getD account.defaultSensitive
  spoilerText := input.spoilerText.getD ""
  language := input.language.or account.defaultLanguage
  inReplyToId := reply.1
  inReplyToRemoteStatusId := reply.2
  quotedStatusId := quotedStatusId
  quoteApprovalPolicy :=
    effectivePolicy visibility (input.quoteApprovalPolicy.getD account.defaultQuotePolicy)
  scheduledAt := scheduledAt
  mediaIds := mediaIds
  poll := input.poll

def reportSchedule : Except RoostyError (ScheduleStatusResult × Db) → Except ErrorResponse Db
  | .ok (.created, next) => .ok next
  | .ok (.totalLimitReached, _) => .error (.unprocessable "total scheduled status limit reached")
  | .ok (.dailyLimitReached, _) => .error (.unprocessable "daily scheduled status limit reached")
  | .error error => .error (reportError error)

def createScheduledStatus (id : Nat) (publicationStatusId : StatusId) :
    Except ErrorResponse Db := do
  let scheduledAt ← (parseScheduledAt env input.scheduledAt).mapError .unprocessable
  ensure (decide (now + env.minimumOffset < scheduledAt.1))
    (.unprocessable "scheduled_at is too soon")
  let mediaIds ← (parseMediaIds (input.mediaIds.getD [])).mapError inputError
  checkContents env.segmentation input.quotedStatusId.isSome mediaIds input.poll
    (input.status.getD "") (!mediaIds.isEmpty)
  let quoted ← quoteTarget env db account.id (requestedVisibility account input)
    (input.status.getD "") input.quotedStatusId
  let quotedStatusId ← (parseOptionalStatusId input.quotedStatusId).mapError inputError
  let replyId ← (parseOptionalStatusId input.inReplyToId).mapError inputError
  let reply ← scheduleReplyTarget db account.id replyId
  reportSchedule (createScheduledStatusRow env db (newScheduledStatus account input id
    publicationStatusId quoted.2 reply quotedStatusId scheduledAt mediaIds))

end

def ScheduledStatus.input (schedule : ScheduledStatus) (media : List LocalMediaAttachment) :
    StatusInput where
  status := some schedule.content
  visibility := some schedule.visibility
  sensitive := some schedule.sensitive
  spoilerText := some schedule.spoilerText
  language := schedule.language
  inReplyToId := (schedule.inReplyToId.or schedule.inReplyToRemoteStatusId).map
    fun id => Text.uuidText id.value
  mediaIds := some (media.map fun item => Text.uuidText item.id)
  mediaAttributes := []
  quotedStatusId := schedule.quotedStatusId.map fun id => Text.uuidText id.value
  quoteApprovalPolicy := some schedule.quoteApprovalPolicy
  scheduledAt := none
  poll := schedule.poll

/-- Publish one durable schedule, treating permanent validation failures like Mastodon
cancellation. The identifier has been read from the payload. -/
def publishScheduledStatus (env : Environment) (now : Int) (db : Db) (id : Nat) :
    Except RoostyError Db :=
  match db.schedules.find? fun schedule => schedule.id == id with
  | none => .ok db
  | some schedule =>
      if now < schedule.scheduledAt then .error (.invalidInput "scheduled status is not due yet")
      else if (findLocalStatusById db schedule.publicationStatusId).isSome then
        .ok (cancelScheduledStatus db schedule.accountId schedule.id)
      else match findLocalAccountById db schedule.accountId with
        | none => .ok db
        | some account =>
            match createStatusFromInput env db account
                (schedule.input (mediaAttachmentsForScheduledStatus db schedule.id))
                (some schedule.id) schedule.publicationStatusId with
            | .ok published => .ok published
            | .error error =>
                if error.isClientError then
                  .ok (cancelScheduledStatus db schedule.accountId schedule.id)
                else .error (.invalidInput "scheduled status publication failed transiently")

end Roosty.Status.Posting
