import Roosty.Federation.Quote

/-!
# Cached remote statuses

Create and Update activities of remote actors and the cache of Notes that they
fill: the status row, its attachments, hashtags, recipients, poll and quote. One
activity is one transaction; an error rolls it back.
-/

set_option autoImplicit false

namespace Roosty.Federation.Status

open Library Inbox

/-!
## Tables
-/

structure RemoteMediaAttachment where
  remoteStatusId : StatusId
  statusOrder : Nat
  remoteUrl : String
  contentType : Option String
  description : Option String
deriving DecidableEq

/-- The tables of relationships with those that cache remote Notes. Hashtags
stand for their rows, which carry unique names. -/
structure Db extends Inbox.Db where
  remoteActors : List RemoteActor
  media : List RemoteMediaAttachment
  tags : List (StatusId × String)
  recipients : List (StatusId × AccountId)
  polls : List Poll.PollRow
  options : List Poll.OptionRow
  votes : List Poll.VoteRow
  pollNotifications : List Poll.PollNotification
  jobs : List Job.JobRow

def Db.pollDb (db : Db) : Poll.PollDb where
  localStatuses := db.localStatuses.map fun status => (status.id, status.accountId)
  remoteStatuses := db.remoteStatuses.map fun status => (status.id, status.remoteActorId)
  polls := db.polls
  options := db.options
  votes := db.votes
  notifications := db.pollNotifications
  jobs := db.jobs

def Db.withPollDb (db : Db) (tables : Poll.PollDb) : Db :=
  { db with
    polls := tables.polls
    options := tables.options
    votes := tables.votes
    jobs := tables.jobs }

structure Server extends Inbox.Context, NoteContext

/-- The identifiers that one transaction generates, its clock, and what it
fetches for a quote. -/
structure Generated where
  statusId : StatusId
  poll : Poll.Context
  quote : QuoteInputs

/-- Fields accepted when caching a verified remote Note; its timestamps are as
precise as the Note states them. -/
structure NewRemoteStatus where
  activitypubId : String
  remoteActorId : AccountId
  content : String
  visibility : StatusVisibility
  publishedAt : Int
  updatedAt : Int
  inReplyTo : Option String
  inReplyToLocalStatusId : Option StatusId
  inReplyToRemoteStatusId : Option StatusId
  object : Json
  tagNames : List String
  quoteAutomaticPolicy : List String
  quoteManualPolicy : List String

variable (server : Server)

def NewRemoteStatus.row (status : NewRemoteStatus) (id : StatusId) : RemoteStatus where
  id := id
  activitypubId := status.activitypubId
  remoteActorId := status.remoteActorId
  content := status.content
  visibility := status.visibility
  publishedAt := server.timestamptz status.publishedAt
  updatedAt := server.timestamptz status.updatedAt
  deletedAt := none
  inReplyTo := status.inReplyTo
  inReplyToLocalStatusId := status.inReplyToLocalStatusId
  inReplyToRemoteStatusId := status.inReplyToRemoteStatusId
  object := status.object
  quoteAutomaticPolicy := status.quoteAutomaticPolicy
  quoteManualPolicy := status.quoteManualPolicy

/-!
## Statements
-/

/-- The row of a Note, deleted or not. -/
def findRow (db : Db) (activitypubId : String) : Option RemoteStatus :=
  db.remoteStatuses.find? fun status => status.activitypubId == activitypubId

def upsertRemoteStatusOn (db : Db) (generated : Generated) (status : NewRemoteStatus) :
    Except RoostyError (Db × RemoteStatus) :=
  match findRow db status.activitypubId with
  | some existing =>
      if existing.remoteActorId ≠ status.remoteActorId then
        .error (.invalidInput "remote status author does not match cached author")
      else
        let row := status.row server existing.id
        .ok ({ db with
          remoteStatuses := Table.updateWhere (fun other => other.id == existing.id)
            (fun _ => row) db.remoteStatuses }, row)
  | none =>
      if db.remoteStatuses.any fun other => other.id == generated.statusId then
        .error (.database "remote_status_pkey")
      else
        let row := status.row server generated.statusId
        .ok ({ db with remoteStatuses := db.remoteStatuses ++ [row] }, row)

variable {server} in
theorem upsertRemoteStatusOn_cases {db next : Db} {generated : Generated}
    {status : NewRemoteStatus} {row : RemoteStatus}
    (success : upsertRemoteStatusOn server db generated status = .ok (next, row)) :
    (∃ existing, findRow db status.activitypubId = some existing ∧
      existing.remoteActorId = status.remoteActorId ∧ row = status.row server existing.id ∧
      next = { db with
        remoteStatuses := Table.updateWhere (fun other => other.id == existing.id)
          (fun _ => row) db.remoteStatuses }) ∨
    findRow db status.activitypubId = none ∧ (∀ other ∈ db.remoteStatuses, other.id ≠ row.id) ∧
      row = status.row server generated.statusId ∧
      next = { db with remoteStatuses := db.remoteStatuses ++ [row] } := by
  unfold upsertRemoteStatusOn at success
  cases found : findRow db status.activitypubId with
  | some existing =>
      rw [found] at success
      obtain ⟨author, written⟩ := guard_ok success
      cases written
      exact .inl ⟨existing, rfl, not_not.mp author, rfl, rfl⟩
  | none =>
      rw [found] at success
      obtain ⟨unused, written⟩ := guard_ok success
      cases written
      refine .inr ⟨rfl, ?_, rfl, rfl⟩
      intro other member same
      exact unused (List.any_eq_true.mpr ⟨other, member, beq_iff_eq.mpr same⟩)

def replaceRemoteMediaAttachments (db : Db) (statusId : StatusId)
    (attachments : List NewRemoteMediaAttachment) : Db :=
  { db with
    media := Table.deleteWhere (fun row => row.remoteStatusId == statusId) db.media ++
      attachments.mapIdx fun order attachment => ⟨statusId, order, attachment.remoteUrl,
        attachment.contentType, attachment.description⟩ }

def normalizeTagName (name : String) : String :=
  server.toLowercase (String.ofList ((Text.trim name).toList.dropWhile (· == '#')))

def storedTagNames (names : List String) : List String :=
  Poll.sortDedup ((names.map (normalizeTagName server)).filter (isTagName server.toNoteContext))

def replaceRemoteStatusTags (db : Db) (statusId : StatusId) (names : List String) : Db :=
  { db with
    tags := Table.deleteWhere (fun row => row.1 == statusId) db.tags ++
      (storedTagNames server names).map (statusId, ·) }

def replaceRemoteStatusLocalRecipients (db : Db) (statusId : StatusId)
    (accounts : List AccountId) : Db :=
  { db with
    recipients := Table.deleteWhere (fun row => row.1 == statusId) db.recipients ++
      accounts.map (statusId, ·) }

def currentMedia (db : Db) (statusId : StatusId) : List RemoteMediaAttachment :=
  (db.media.filter fun row => row.remoteStatusId == statusId).insertionSort
    fun left right => left.statusOrder ≤ right.statusOrder

def mediaChanged (current : List RemoteMediaAttachment)
    (attachments : List NewRemoteMediaAttachment) : Bool :=
  current.length != attachments.length ||
    (current.zip attachments).any fun (current, replacement) =>
      current.remoteUrl != replacement.remoteUrl ||
        current.contentType != replacement.contentType ||
        current.description != replacement.description

def projectionChanged (existing : RemoteStatus) (status : NewRemoteStatus) : Bool :=
  existing.content != status.content ||
    existing.object.get? "summary" != status.object.get? "summary" ||
    existing.object.get? "sensitive" != status.object.get? "sensitive" ||
    existing.object.get? "tag" != status.object.get? "tag" ||
    existing.object.get? "attachment" != status.object.get? "attachment" ||
    existing.object.get? "quote" != status.object.get? "quote" ||
    existing.object.get? "quoteUri" != status.object.get? "quoteUri" ||
    existing.object.get? "quoteAuthorization" != status.object.get? "quoteAuthorization" ||
    existing.quoteAutomaticPolicy != status.quoteAutomaticPolicy ||
    existing.quoteManualPolicy != status.quoteManualPolicy

inductive RemoteStatusUpsertResult where
  | created (status : RemoteStatus)
  | updated (status : RemoteStatus)
  | unchanged (status : RemoteStatus)

def RemoteStatusUpsertResult.status : RemoteStatusUpsertResult → RemoteStatus
  | .created status | .updated status | .unchanged status => status

def storeRemoteStatus (db : Db) (generated : Generated) (status : NewRemoteStatus)
    (attachments : List NewRemoteMediaAttachment) : Except RoostyError (Db × RemoteStatus) := do
  let (stored, row) ← upsertRemoteStatusOn server db generated status
  let attached := replaceRemoteMediaAttachments stored row.id attachments
  return (replaceRemoteStatusTags server attached row.id status.tagNames, row)

def processRemoteStatusUpsert (db : Db) (generated : Generated) (status : NewRemoteStatus)
    (attachments : List NewRemoteMediaAttachment) :
    Except RoostyError (Db × RemoteStatusUpsertResult) :=
  match findRow db status.activitypubId with
  | none => do
      let (stored, row) ← storeRemoteStatus server db generated status attachments
      return (stored, .created row)
  | some existing =>
      if existing.remoteActorId ≠ status.remoteActorId then
        .error (.invalidInput "remote status author does not match cached author")
      -- the column keeps microseconds, the Note is compared at its own precision
      else if status.updatedAt ≤ existing.updatedAt * 1000 ∨
          (!projectionChanged existing status &&
            !mediaChanged (currentMedia db existing.id) attachments) = true then
        .ok (db, .unchanged existing)
      else do
        let (stored, row) ← storeRemoteStatus server db generated status attachments
        return (stored, .updated row)

/-- Link unresolved cached replies after their remote parent becomes available. -/
def linkUnresolvedRemoteRepliesToParent (db : Db) (parent : RemoteStatus) : Db :=
  { db with
    remoteStatuses := Table.updateWhere (fun row => row.inReplyTo == some parent.activitypubId &&
      row.inReplyToLocalStatusId.isNone && row.inReplyToRemoteStatusId.isNone &&
      row.deletedAt.isNone)
      (fun row => { row with inReplyToRemoteStatusId := some parent.id }) db.remoteStatuses }

/-!
## Activities
-/

structure Edit where
  note : InboundNote
  poll : Option Poll.RemoteStatusPoll
  audience : InboundAudience
  publishedAt : Int
  updatedAt : Int
deriving DecidableEq

def acceptedLocalFollowersOfRemoteActor (db : Inbox.Db) (actor : AccountId) : List AccountId :=
  ((db.relations.following.filter fun row =>
      row.remoteActorId == actor && row.state == .accepted && row.deactivatedAt.isNone).map
    RemoteFollowing.localAccountId).filter fun account =>
      !localRemoteAccountsAreBlocked db account actor

def sameStatusType : Option InboundActivityType → InboundStatusType → Bool
  | some (.persistent .create), .create | some (.persistent .update), .update => true
  | _, _ => false

def readStatusActivity (db : Inbox.Db) (activity : Json) (actor : RemoteActor) :
    Except RoostyError Edit := do
  let inbound ← okOr (server.statusActivity activity)
    (.invalidInput "remote status activity is invalid")
  ensure (sameStatusType (inboundActivityType activity) inbound.type)
    (.invalidInput "remote status activity type is invalid")
  let note := inbound.object
  let poll ← remotePollFromNote server.toNoteContext note
  ensure (inbound.actor == actor.activitypubId && note.attributedTo == actor.activitypubId &&
      startsWithHttps note.id && server.sameUrlOrigin note.id actor.activitypubId)
    (.invalidInput "remote status activity has an invalid actor or object")
  let audience ← classifyRemoteAudience server.base db.localAccounts
    (acceptedLocalFollowersOfRemoteActor db actor.id) note actor
  let publishedAt ← okOr (server.parseTimestamp note.published)
    (.invalidInput "remote Note published timestamp is invalid")
  let updatedAt ← okOr (match note.updated with
      | none => some publishedAt
      | some updated => server.parseTimestamp updated)
    (.invalidInput "remote Note updated timestamp is invalid")
  return ⟨note, poll, audience, publishedAt, updatedAt⟩

/-- The status of an edit, with its parent resolved against the cache. -/
def Edit.status (edit : Edit) (db : Inbox.Db) (actor : RemoteActor) : NewRemoteStatus where
  activitypubId := edit.note.id
  remoteActorId := actor.id
  content := edit.note.content
  visibility := edit.audience.visibility
  publishedAt := edit.publishedAt
  updatedAt := edit.updatedAt
  inReplyTo := edit.note.inReplyTo
  inReplyToLocalStatusId := edit.note.inReplyTo.bind (localStatusIdFromUrl server.toContext db)
  inReplyToRemoteStatusId :=
    (edit.note.inReplyTo.bind (findRemoteStatusByActivitypubId db)).map RemoteStatus.id
  object := edit.note.toValue
  tagNames := remoteHashtagNames server.toNoteContext edit.note.tag
  quoteAutomaticPolicy := edit.note.quoteAutomaticPolicy
  quoteManualPolicy := edit.note.quoteManualPolicy

def storePoll (db : Db) (generated : Generated) (statusId : StatusId) :
    Option Poll.RemoteStatusPoll → Except RoostyError Db
  | none => .ok db
  | some poll => do
      let (tables, _) ← Poll.upsertRemotePoll db.pollDb generated.poll statusId poll
      return db.withPollDb tables

def storeQuote (db : Db) (generated : Generated) (statusId : StatusId) :
    Option ResolvedInboundQuote → Except RoostyError Db
  | none => .ok db
  | some quote => do
      let relations ← upsertRemoteStatusQuote db.toDb generated.quote.quoteId statusId quote.target
        quote.activitypubId quote.state quote.authorizationId
      return { db with relations := relations }

inductive RemoteStatusChange where
  | ignored
  | upsert (status : RemoteStatus) (edited : Bool)
  | delete (status : RemoteStatus)

/-- The writes of a new activity. The poll and the reply links are written even
when the status is unchanged, its recipients and its quote are not. -/
def applyEdit (db : Db) (generated : Generated) (edit : Edit) (actor : RemoteActor)
    (quote : Option ResolvedInboundQuote) : Except RoostyError (Db × RemoteStatusChange) := do
  let (stored, upsert) ← processRemoteStatusUpsert server db generated
    (edit.status server db.toDb actor) edit.note.attachments
  let polled ← storePoll stored generated upsert.status.id edit.poll
  let linked := linkUnresolvedRemoteRepliesToParent polled upsert.status
  let addressed := replaceRemoteStatusLocalRecipients linked upsert.status.id
    edit.audience.explicitRecipients
  match upsert with
  | .unchanged _ => return (linked, .ignored)
  | .created status => do
      let quoted ← storeQuote addressed generated status.id quote
      return (quoted, .upsert status false)
  | .updated status => do
      let quoted ← storeQuote addressed generated status.id quote
      return (quoted, .upsert status true)

/-- The Create and Update branch of `process_remote_status_activity`. -/
def processRemoteStatusActivity (db : Db) (generated : Generated) (id : String)
    (activity : Json) (actor : RemoteActor) : Except RoostyError (Db × RemoteStatusChange) :=
  if !server.sameUrlOrigin id actor.activitypubId then
    .error (.invalidInput "remote status activity origin does not match signer")
  else do
    let edit ← readStatusActivity server db.toDb activity actor
    let quote ← resolveInboundQuote server.toContext db.toDb db.remoteActors generated.quote
      edit.note actor
    match isNewInboxActivity server.format server.sha256 db.markers activity actor.id
        generated.poll.now with
    | (_, .error error) => .error error
    | (_, .ok false) => return (db, .ignored)
    | (marker, .ok true) =>
        applyEdit server { db with markers := db.markers ++ marker.toList } generated edit actor
          quote

/-!
## Deletion
-/

def repairOneRemoteStatusDelete (db : Db) (status : RemoteStatus) (now : Int) : Db :=
  { db with
    remoteStatuses :=
      Table.updateWhere (fun row => row.inReplyToRemoteStatusId == some status.id)
        (fun row => { row with inReplyToRemoteStatusId := none })
        (Table.updateWhere (fun row => row.id == status.id)
          (fun row => { row with deletedAt := some now }) db.remoteStatuses)
    relations := { db.relations with
      reblogs := Table.deleteWhere (fun row => row.target == .remoteStatus status.id)
        db.relations.reblogs } }

def processRemoteStatusDelete (db : Db) (actor : AccountId) (activitypubId : String) (now : Int) :
    Db × Option RemoteStatus :=
  match db.remoteStatuses.find? fun row => row.activitypubId == activitypubId &&
      row.remoteActorId == actor && row.deletedAt.isNone with
  | none => (db, none)
  | some status => (repairOneRemoteStatusDelete db status now, some status)

/-- The Delete branch of `process_remote_status_activity`. -/
def processRemoteDeleteActivity (db : Db) (generated : Generated) (id : String) (activity : Json)
    (actor : RemoteActor) : Except RoostyError (Db × RemoteStatusChange) :=
  if !server.sameUrlOrigin id actor.activitypubId then
    .error (.invalidInput "remote status activity origin does not match signer")
  else
    match actorOf activity, (activity.get? "object").bind reference with
    | some author, some objectId =>
        if author != actor.activitypubId then
          .error (.invalidInput "remote Delete actor does not match signer")
        else if !startsWithHttps objectId then
          .error (.invalidInput "remote Delete object is invalid")
        else if !server.sameUrlOrigin objectId actor.activitypubId then
          .error (.invalidInput "remote Delete object origin does not match signer")
        else
          match isNewInboxActivity server.format server.sha256 db.markers activity actor.id
              generated.poll.now with
          | (_, .error error) => .error error
          | (_, .ok false) => .ok (db, .ignored)
          | (marker, .ok true) =>
              match processRemoteStatusDelete { db with markers := db.markers ++ marker.toList }
                  actor.id objectId generated.poll.now with
              | (next, none) => .ok (next, .ignored)
              | (next, some status) => .ok (next, .delete status)
    | _, _ => .error (.invalidInput "remote Delete activity is invalid")

/-!
## Thread fetches
-/

def fetchedObject (document : Json) : Json :=
  if (document.get? "type").bind Json.asStr? = some "Create" then
    (document.get? "object").getD document
  else document

/-- Validate a Note that was fetched from its URL. The author is the actor that
its attribution resolves to. -/
def readFetchedStatus (db : Inbox.Db) (requestedUrl : String) (expectedParent : Option String)
    (document : Json) (actor : RemoteActor) (actorDeleted : Bool) : Except RoostyError Edit := do
  let note ← okOr (server.inboundNote (fetchedObject document))
    (.invalidInput "remote status is not a supported Note")
  let poll ← remotePollFromNote server.toNoteContext note
  ensure (note.id == requestedUrl && server.sameUrlOrigin note.id note.attributedTo &&
      expectedParent.all fun parent => note.inReplyTo == some parent)
    (.invalidInput "remote status identity or attribution is invalid")
  ensure (!actorDeleted) (.invalidInput "remote status author is unavailable")
  let audience ← classifyRemoteAudience server.base db.localAccounts
    (acceptedLocalFollowersOfRemoteActor db actor.id) note actor
  ensure (audience == .everyone || audience == .unlisted)
    (.invalidInput "remote context Note is not public or unlisted")
  let publishedAt ← okOr (server.parseTimestamp note.published)
    (.invalidInput "remote Note published timestamp is invalid")
  let updatedAt ← okOr (match note.updated with
      | none => some publishedAt
      | some updated => server.parseTimestamp updated)
    (.invalidInput "remote Note updated timestamp is invalid")
  return ⟨note, poll, audience, publishedAt, updatedAt⟩

/-- The status of a fetched Note; its document is stored as it was fetched. -/
def Edit.fetchedStatus (edit : Edit) (db : Inbox.Db) (actor : RemoteActor) (document : Json) :
    NewRemoteStatus :=
  { edit.status server db actor with object := fetchedObject document }

def fetchPublicRemoteStatus (db : Db) (generated : Generated) (requestedUrl : String)
    (expectedParent : Option String) (document : Json) (actor : RemoteActor)
    (actorDeleted : Bool) : Except RoostyError (Db × RemoteStatus) := do
  let edit ← readFetchedStatus server db.toDb requestedUrl expectedParent document actor
    actorDeleted
  let (stored, upsert) ← processRemoteStatusUpsert server db generated
    (edit.fetchedStatus server db.toDb actor document) edit.note.attachments
  let polled ← storePoll stored generated upsert.status.id edit.poll
  return (linkUnresolvedRemoteRepliesToParent polled upsert.status, upsert.status)

end Roosty.Federation.Status
