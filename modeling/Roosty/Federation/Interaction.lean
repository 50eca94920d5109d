import Roosty.Federation.RemoteStatus

/-!
# Interactions with local statuses

Quote requests and poll votes of remote actors, the revocation of quote
authorizations, and the dispatch of an authenticated activity to its handler. A
handler that fails is rolled back.
-/

set_option autoImplicit false

namespace Roosty.Federation.Status

open Library Inbox

variable (server : Server)

def finishIgnored (db : Db) (activity : Json) (actor : RemoteActor) (now : Int) :
    Response × Db :=
  let (response, next) := finishIgnoredInboxActivity server.toContext db.toDb activity actor now
  (response, { db with toDb := next })

/-- Register an activity and, when it is new, apply its effects in the same
transaction. A failure of the effects answers with the given response. -/
def whenNewActivity {Error : Type} (db : Db) (activity : Json) (actor : RemoteActor) (now : Int)
    (effects : Db → Except Error Db) (failure : Error → Response) : Response × Db :=
  match isNewInboxActivity server.format server.sha256 db.markers activity actor.id now with
  | (_, .error _) => (.internalError, db)
  | (_, .ok false) => (.accepted, db)
  | (marker, .ok true) =>
      match effects { db with markers := db.markers ++ marker.toList } with
      | .error error => (failure error, db)
      | .ok next => (.accepted, next)

/-!
## Quote requests
-/

structure InboundQuoteRequest where
  id : String
  actor : String
  object : String
  instrument : String

def inboundQuoteRequest (activity : Json) : Option InboundQuoteRequest := do
  let id ← activityId activity
  let actor ← actorOf activity
  let object ← (activity.get? "object").bind Json.asStr?
  let instrument ← (activity.get? "instrument").bind Json.asStr?
  return ⟨id, actor, object, instrument⟩

def quoteRequestType : String := "https://w3id.org/fep/044f#QuoteRequest"

def quoteAuthorizationType : String := "https://w3id.org/fep/044f#QuoteAuthorization"

def quoteAuthorizationObject (authorizationUrl author : String) (request : InboundQuoteRequest) :
    Json := .object
  [("attributedTo", .string author),
    ("id", .string authorizationUrl),
    ("interactingObject", .string request.instrument),
    ("interactionTarget", .string request.object),
    ("type", .string quoteAuthorizationType)]

/-- The Accept or Reject of a quote request; an Accept carries its authorization. -/
def quoteRequestResponse (inputs : QuoteInputs) (author : String) (request : InboundQuoteRequest)
    (accepted : Bool) : Json :=
  let name := if accepted then "Accept" else "Reject"
  let suffix := if accepted then "#accept-" else "#reject-"
  .object ([("@context", strings ["https://www.w3.org/ns/activitystreams",
      "https://w3id.org/fep/044f"]),
    ("actor", .string author),
    ("id", .string (request.id ++ suffix ++ Text.uuidText inputs.responseUuid)),
    ("object", .object [("id", .string request.id), ("type", .string quoteRequestType)])] ++
  (if accepted then
    [("result", quoteAuthorizationObject inputs.authorizationUrl author request)] else []) ++
  [("type", .string name)])

def statusDelivery (account actor : AccountId) (activity : Json) : Json := .object
  [("activity", activity),
    ("local_account_id", .string (Text.uuidText account.value)),
    ("personal_inbox", .bool true),
    ("remote_actor_id", .string (Text.uuidText actor.value))]

def enqueueJob (db : Db) (generated : Generated) (job : Job.NewJob) : Except RoostyError Db := do
  let now := generated.poll.now
  let (jobs, result) := Job.enqueueJobOnConnection db.jobs generated.poll.jobId ⟨now, now⟩ job
  let _ ← result
  return { db with jobs := jobs }

/-- The writes of a new quote request: its answer, and the quote of the status that
it names as its instrument, if that is cached. -/
def answerQuoteRequest (generated : Generated) (request : InboundQuoteRequest)
    (target : LocalStatus) (account : LocalAccount) (actor : RemoteActor) (accepted : Bool)
    (db : Db) : Except RoostyError Db := do
  let author := actorUrl server.toContext account.username
  let queued ← enqueueJob db generated {
    kind := .federationQuoteDelivery
    payload := statusDelivery account.id actor.id
      (quoteRequestResponse generated.quote author request accepted)
    deduplicationKey := some ("quote-response:" ++ request.id)
    runAfter := generated.poll.now }
  match findRemoteStatusByActivitypubId queued.toDb request.instrument with
  | none => return queued
  | some quoting => do
      let relations ← upsertRemoteStatusQuote queued.toDb generated.quote.quoteId quoting.id
        (.localStatus target.id) request.object (if accepted then .accepted else .rejected)
        (if accepted then some generated.quote.authorizationUrl else none)
      return { queued with relations := relations }

def processQuoteRequest (db : Db) (generated : Generated) (activity : Json) (id : String)
    (actor : RemoteActor) : Response × Db :=
  match inboundQuoteRequest activity with
  | none => (.badRequest, db)
  | some request =>
      if request.actor != actor.activitypubId || request.id != id then (.badRequest, db)
      else
        match localStatusFromUrl server.toContext db.toDb request.object with
        | none => finishIgnored server db activity actor generated.poll.now
        | some target =>
            match db.localAccounts.find? fun account => account.id == target.accountId with
            | none => (.badRequest, db)
            | some account =>
                whenNewActivity server db activity actor generated.poll.now
                  (answerQuoteRequest server generated request target account actor
                    (quotableBy db.toDb target actor.id)) fun _ => .internalError

def revokeAuthorization (authorizationId : String) (db : Db) : Except RoostyError Db :=
  .ok { db with relations := (revokeQuoteAuthorization db.relations authorizationId).1 }

/-- A Delete of the authorization of a quote by the author of the quoted remote
status; `none` for other objects. -/
def processAuthorizationDelete (db : Db) (generated : Generated) (activity : Json)
    (actor : RemoteActor) : Option (Response × Db) := do
  let author ← actorOf activity
  let objectId ← (activity.get? "object").bind reference
  let quote ← quoteByAuthorizationId db.relations objectId
  match quote.quotedStatus with
  | some (.remoteStatus targetId) =>
      if !(findRemoteStatusById db.toDb targetId).any fun target =>
          target.remoteActorId == actor.id then some (.badRequest, db)
      else if author != actor.activitypubId then some (.badRequest, db)
      else some (whenNewActivity server db activity actor generated.poll.now
        (revokeAuthorization objectId) fun _ => .internalError)
  | _ => none

/-!
## Poll votes
-/

structure InboundPollVote where
  actor : String
  name : String
  attributedTo : String
  inReplyTo : String
  /-- The field `to`. -/
  sentTo : List String

def stringItems : Json → Option (List String)
  | .array items => items.mapM Json.asStr?
  | _ => none

def inboundPollVote (activity : Json) : Option InboundPollVote := do
  let actor ← actorOf activity
  let object ← activity.get? "object"
  let kind ← (object.get? "type").bind unitVariant
  let name ← (object.get? "name").bind Json.asStr?
  let attributedTo ← (object.get? "attributedTo").bind Json.asStr?
  let inReplyTo ← (object.get? "inReplyTo").bind Json.asStr?
  let sentTo ← match object.get? "to" with
    | none => some []
    | some value => stringItems value
  if kind == "Note" then some ⟨actor, name, attributedTo, inReplyTo, sentTo⟩ else none

def recordVote (generated : Generated) (poll : Poll.StatusPoll) (actor : RemoteActor)
    (choice : UInt32) (id : String) (db : Db) : Except Response Db :=
  match Poll.recordRemotePollVote db.pollDb generated.poll poll.id actor.id choice id with
  | .error _ => .error .badRequest
  | .ok (tables, _) =>
      if poll.hideTotals then .ok (db.withPollDb tables)
      else
        match Poll.enqueuePollUpdate tables generated.poll poll.id
            (generated.poll.now + 180000000) with
        | .error _ => .error .internalError
        | .ok queued => .ok (db.withPollDb queued)

def findPollForStatus (db : Poll.PollDb) (status : Poll.PollStatus) : Option Poll.StatusPoll :=
  (Poll.findPollRow db status).map (Poll.hydratePoll db)

/-- Apply one verified `Create(Note)` vote. -/
def processInboundPollVote (db : Db) (generated : Generated) (activity : Json) (id : String)
    (actor : RemoteActor) (vote : InboundPollVote) : Response × Db :=
  match localStatusFromUrl server.toContext db.toDb vote.inReplyTo with
  | none => finishIgnored server db activity actor generated.poll.now
  | some status =>
      match db.localAccounts.find? fun account => account.id == status.accountId with
      | none => (.badRequest, db)
      | some author =>
          if !vote.sentTo.contains (actorUrl server.toContext author.username) then
            (.badRequest, db)
          else
            match findPollForStatus db.pollDb (.localStatus status.id) with
            | none => finishIgnored server db activity actor generated.poll.now
            | some poll =>
                match poll.options.find? fun option => option.title == vote.name with
                | none => (.badRequest, db)
                | some option =>
                    whenNewActivity server db activity actor generated.poll.now
                      (recordVote generated poll actor (UInt32.ofNat option.position.toNat) id)
                      fun failure => failure

/-!
## Dispatch
-/

/-- Actor lifecycle activities, which are identified before those of Notes. -/
def isRemoteActorLifecycleActivity (activity : Json) (actorId : String) : Bool :=
  match inboundActivityType activity, activity.get? "object" with
  | some (.persistent .move), _ => true
  | some (.persistent .update), some (.string objectId) => objectId == actorId
  | some (.persistent .update), some (.object members) =>
      ((Json.object members).get? "id").bind Json.asStr? == some actorId &&
        (((Json.object members).get? "type").bind Json.asStr?).any fun kind =>
          ["Person", "Service", "Application", "Group"].contains kind
  | some (.persistent .delete), some (.string objectId) => objectId == actorId
  | some (.persistent .delete), some (.object members) =>
      ((Json.object members).get? "id").bind Json.asStr? == some actorId
  | _, _ => false

/-- A status activity is accepted even when it fails and is rolled back. -/
def acceptedStatus (db : Db) : Except RoostyError (Db × RemoteStatusChange) → Response × Db
  | .error _ => (.accepted, db)
  | .ok (next, _) => (.accepted, next)

def processCreate (db : Db) (generated : Generated) (activity : Json) (id : String)
    (actor : RemoteActor) : Response × Db :=
  match (inboundPollVote activity).filter fun vote =>
      vote.actor == actor.activitypubId && vote.attributedTo == actor.activitypubId with
  | some vote => processInboundPollVote server db generated activity id actor vote
  | none => acceptedStatus db (processRemoteStatusActivity server db generated id activity actor)

def processDelete (db : Db) (generated : Generated) (activity : Json) (id : String)
    (actor : RemoteActor) : Response × Db :=
  (processAuthorizationDelete server db generated activity actor).getD
    (acceptedStatus db (processRemoteDeleteActivity server db generated id activity actor))

/-- Process an authenticated activity; `none` for actor lifecycle activities,
reports and changes of featured collections. -/
def processActivity (db : Db) (generated : Generated) (activity : Json) (actor : RemoteActor) :
    Option (Response × Db) :=
  match processInbox server.toContext db.toDb activity actor generated.poll.now with
  | some (response, next) => some (response, { db with toDb := next })
  | none =>
      if isRemoteActorLifecycleActivity activity actor.activitypubId then none
      else
        match (inboundActivityType activity).bind InboundActivityType.persisted,
            activityId activity with
        | some .quoteRequest, some id =>
            some (processQuoteRequest server db generated activity id actor)
        | some .create, some id => some (processCreate server db generated activity id actor)
        | some .update, some id => some (acceptedStatus db
            (processRemoteStatusActivity server db generated id activity actor))
        | some .delete, some id => some (processDelete server db generated activity id actor)
        | _, _ => none

end Roosty.Federation.Status
