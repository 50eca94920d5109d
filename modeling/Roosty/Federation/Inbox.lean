import Roosty.Federation.Replay
import Roosty.Library.Table
import Roosty.Library.Text

/-!
# Inbox activities about relationships

Follows, likes, announcements and blocks of remote actors, their `Undo`, and
the answers to follows of local accounts. `processInbox` starts after the signer
of the request has been authenticated; every handler runs in one transaction
that is rolled back when it fails.
-/

set_option autoImplicit false

namespace Roosty.Federation.Inbox

open Library

/-!
## Tables
-/

structure LocalAccount where
  id : AccountId
  username : String
  locked : Bool
deriving DecidableEq

inductive QuoteApprovalPolicy where
  | everyone
  | followers
  | nobody
deriving DecidableEq

/-- A local status that is not deleted. -/
structure LocalStatus where
  id : StatusId
  accountId : AccountId
  visibility : StatusVisibility
  quoteApprovalPolicy : QuoteApprovalPolicy
deriving DecidableEq

structure RemoteStatus where
  id : StatusId
  activitypubId : String
  remoteActorId : AccountId
  content : String
  visibility : StatusVisibility
  publishedAt : Int
  updatedAt : Int
  deletedAt : Option Int
  inReplyTo : Option String
  inReplyToLocalStatusId : Option StatusId
  inReplyToRemoteStatusId : Option StatusId
  object : Json
  quoteAutomaticPolicy : List String
  quoteManualPolicy : List String
deriving DecidableEq

/-- State shared by inbound and outbound remote follow relationships. -/
inductive RemoteFollowState where
  | pending
  | accepted
deriving DecidableEq

structure RemoteFollow where
  remoteActorId : AccountId
  localAccountId : AccountId
  activityId : String
  activity : Json
  state : RemoteFollowState
deriving DecidableEq

structure RemoteFollowing where
  localAccountId : AccountId
  remoteActorId : AccountId
  activityId : String
  state : RemoteFollowState
  showReblogs : Bool
  notify : Bool
  deactivatedAt : Option Int
deriving DecidableEq

structure RemoteStatusFavourite where
  remoteActorId : AccountId
  localStatusId : StatusId
  activityId : String
deriving DecidableEq

structure RemoteStatusReblog where
  remoteActorId : AccountId
  target : StatusReference
  activityId : String
deriving DecidableEq

structure RemoteLocalAccountBlock where
  remoteActorId : AccountId
  localAccountId : AccountId
  activityId : String
deriving DecidableEq

structure StatusTrendMetric where
  target : StatusReference
  favouritesCount : Int
  reblogsCount : Int
deriving DecidableEq

inductive QuoteState where
  | pending
  | accepted
  | rejected
  | revoked
  | deleted
deriving DecidableEq

structure StatusQuote where
  id : Nat
  quotingStatus : StatusReference
  quotedStatus : Option StatusReference
  quotedActivitypubId : String
  state : QuoteState
  quoteRequestId : Option String
  authorizationId : Option String
deriving DecidableEq

/-- The rows that relationship activities read and write, apart from the
replay markers. -/
structure Relations where
  follows : List RemoteFollow
  favourites : List RemoteStatusFavourite
  reblogs : List RemoteStatusReblog
  blocks : List RemoteLocalAccountBlock
  following : List RemoteFollowing
  trends : List StatusTrendMetric
  quotes : List StatusQuote
deriving DecidableEq

structure Db where
  markers : List ProcessedInboxActivity
  relations : Relations
  localAccounts : List LocalAccount
  localStatuses : List LocalStatus
  remoteStatuses : List RemoteStatus
  /-- Blocks that local accounts placed on remote actors. -/
  localBlocks : List (AccountId × AccountId)
  remoteMentions : List (StatusId × AccountId)
deriving DecidableEq

structure RemoteActor where
  id : AccountId
  activitypubId : String
  followersUrl : Option String
deriving DecidableEq

structure Context where
  format : CanonicalJson.NumberFormat
  sha256 : List UInt8 → List UInt8
  sameUrlOrigin : String → String → Bool
  base : String
  publicUrl : String → String
  parseUuid : String → Option Nat
  uuidText : Nat → String

inductive Response where
  | accepted
  | badRequest
  | internalError
deriving DecidableEq

variable (context : Context)

def actorUrl (username : String) : String := context.publicUrl ("users/" ++ username)

def statusUrl (username : String) (statusId : StatusId) : String :=
  context.publicUrl ("users/" ++ username ++ "/statuses/" ++ context.uuidText statusId.value)

/-!
## Readers
-/

def lastSegment (url : String) : String :=
  String.ofList (url.toList.rtakeWhile (· != '/'))

def findRemoteStatusByActivitypubId (db : Db) (activitypubId : String) : Option RemoteStatus :=
  db.remoteStatuses.find? fun status =>
    status.activitypubId == activitypubId && status.deletedAt.isNone

def findRemoteStatusById (db : Db) (statusId : StatusId) : Option RemoteStatus :=
  db.remoteStatuses.find? fun status => status.id == statusId && status.deletedAt.isNone

def localAccountFromActorUrl (db : Db) (targetUrl : String) : Option LocalAccount :=
  let username := lastSegment targetUrl
  if username.isEmpty || targetUrl != actorUrl context username then none
  else db.localAccounts.find? fun account => account.username == username

def localStatusIdFromUrl (db : Db) (activitypubId : String) : Option StatusId := do
  let path ← (context.base ++ "/users/").toList.isPrefixOf? activitypubId.toList
  let (username, statusId) ← Text.splitOnceText "/statuses/".toList path
  if username.isEmpty || statusId.contains '/' then none
  else do
    let statusId ← context.parseUuid (String.ofList statusId)
    let status ← db.localStatuses.find? fun status => status.id == ⟨statusId⟩
    let account ← db.localAccounts.find? fun account => account.id == status.accountId
    if account.username.toList == username then some status.id else none

def localRemoteAccountsAreBlocked (db : Db) (account actor : AccountId) : Bool :=
  db.localBlocks.contains (account, actor) ||
    db.relations.blocks.any fun row => row.remoteActorId == actor && row.localAccountId == account

def localPrivateStatusVisibleToRemoteActor (db : Db) (status : LocalStatus) (actor : AccountId) :
    Bool :=
  match status.visibility with
  | .publicStatus | .unlisted => true
  | .direct => false
  | .privateStatus =>
      (db.relations.follows.any fun row => row.remoteActorId == actor &&
        row.localAccountId == status.accountId && row.state == .accepted) ||
      db.remoteMentions.contains (status.id, actor)

def reference : Json → Option String
  | .string id => some id
  | object => (object.get? "id").bind Json.asStr?

/-- The id of an undone activity: a bare id, or the id of an embedded activity
of the given type. -/
def undoneId (kind : String) : Json → Option String
  | .string id => some id
  | object => do
      let id ← (object.get? "id").bind Json.asStr?
      let name ← (object.get? "type").bind unitVariant
      if name == kind then some id else none

def blockId : Json → Option String := undoneId "Block"
def announceId : Json → Option String := undoneId "Announce"
def likeId : Json → Option String := undoneId "Like"
def followId : Json → Option String := undoneId "Follow"

/-!
## Statements
-/

def Db.statusExists (db : Db) : StatusReference → Bool
  | .localStatus id => db.localStatuses.any fun status => status.id == id
  | .remoteStatus id => db.remoteStatuses.any fun status => status.id == id

def adjustStatusTrend (db : Db) (target : StatusReference) (favouriteDelta reblogDelta : Int)
    (trends : List StatusTrendMetric) : List StatusTrendMetric :=
  if !db.statusExists target then trends
  else if trends.any fun metric => metric.target == target then
    Table.updateWhere (fun metric => metric.target == target) (fun metric =>
      { metric with
        favouritesCount := max (metric.favouritesCount + favouriteDelta) 0
        reblogsCount := max (metric.reblogsCount + reblogDelta) 0 }) trends
  else trends ++ [⟨target, max favouriteDelta 0, max reblogDelta 0⟩]

def processRemoteBlock (relations : Relations) (actor account : AccountId) (activityId : String) :
    Relations :=
  let conflict := relations.blocks.any fun row =>
    (row.remoteActorId == actor && row.localAccountId == account) || row.activityId == activityId
  { relations with
    blocks := if conflict then relations.blocks
      else relations.blocks ++ [⟨actor, account, activityId⟩]
    follows := Table.deleteWhere (fun row =>
      row.remoteActorId == actor && row.localAccountId == account) relations.follows
    following := Table.deleteWhere (fun row =>
      row.remoteActorId == actor && row.localAccountId == account) relations.following }

def findRemoteLocalBlockByActivity (relations : Relations) (actor : AccountId)
    (activityId : String) : Option AccountId :=
  (relations.blocks.find? fun row =>
    row.remoteActorId == actor && row.activityId == activityId).map
      RemoteLocalAccountBlock.localAccountId

def processRemoteUndoBlock (relations : Relations) (actor account : AccountId)
    (activityId : String) : Relations :=
  { relations with
    blocks := Table.deleteWhere (fun row => row.remoteActorId == actor &&
      row.localAccountId == account && row.activityId == activityId) relations.blocks }

/-- `none` stands for a violated unique activity id. -/
def upsertProcessedRemoteFollow (db : Db) (actor account : AccountId) (activityId : String)
    (activity : Json) (state : RemoteFollowState) : Option Relations :=
  let follows := db.relations.follows
  let pair (row : RemoteFollow) : Bool := row.remoteActorId == actor && row.localAccountId == account
  if localRemoteAccountsAreBlocked db account actor then some db.relations
  else if follows.any fun row => row.activityId == activityId && !pair row then none
  else
    some { db.relations with
      follows :=
        if follows.any pair then
          Table.updateWhere pair (fun row =>
            { row with activityId := activityId, activity := activity, state := state }) follows
        else follows ++ [⟨actor, account, activityId, activity, state⟩] }

def processRemoteUndoFollow (relations : Relations) (actor : AccountId) (activityId : String) :
    Relations :=
  { relations with
    follows := Table.deleteWhere (fun row =>
      row.remoteActorId == actor && row.activityId == activityId) relations.follows }

def processRemoteLike (db : Db) (actor : AccountId) (statusId : StatusId) (activityId : String)
    (recipient : AccountId) : Relations :=
  let relations := db.relations
  let conflict := relations.favourites.any fun row =>
    (row.remoteActorId == actor && row.localStatusId == statusId) || row.activityId == activityId
  if localRemoteAccountsAreBlocked db recipient actor || conflict then relations
  else
    { relations with
      favourites := relations.favourites ++ [⟨actor, statusId, activityId⟩]
      trends := adjustStatusTrend db (.localStatus statusId) 1 0 relations.trends }

/-- The row of an actor that carries an activity id, which is unique. -/
def processRemoteUndoLike (db : Db) (actor : AccountId) (activityId : String) : Relations :=
  let relations := db.relations
  match relations.favourites.find? fun row =>
      row.remoteActorId == actor && row.activityId == activityId with
  | none => relations
  | some favourite =>
      { relations with
        favourites := Table.deleteWhere (· == favourite) relations.favourites
        trends := adjustStatusTrend db (.localStatus favourite.localStatusId) (-1) 0
          relations.trends }

def reblogStatusByRemoteActor (db : Db) (actor : AccountId) (target : StatusReference)
    (activityId : String) : Option Relations :=
  let relations := db.relations
  if relations.reblogs.any fun row => row.remoteActorId == actor && row.target == target then
    some relations
  else if relations.reblogs.any fun row => row.activityId == activityId then none
  else
    some { relations with
      reblogs := relations.reblogs ++ [⟨actor, target, activityId⟩]
      trends := adjustStatusTrend db target 0 1 relations.trends }

def processRemoteUndoReblog (db : Db) (actor : AccountId) (activityId : String) : Relations :=
  let relations := db.relations
  match relations.reblogs.find? fun row =>
      row.remoteActorId == actor && row.activityId == activityId with
  | none => relations
  | some reblog =>
      { relations with
        reblogs := Table.deleteWhere (· == reblog) relations.reblogs
        trends := adjustStatusTrend db reblog.target 0 (-1) relations.trends }

def acceptRemoteFollowing (relations : Relations) (actor : AccountId) (activityId : String) :
    Relations :=
  { relations with
    following := Table.updateWhere (fun row =>
      row.remoteActorId == actor && row.activityId == activityId)
      (fun row => { row with state := .accepted }) relations.following }

def rejectRemoteFollowing (relations : Relations) (actor : AccountId) (activityId : String) :
    Relations :=
  { relations with
    following := Table.deleteWhere (fun row =>
      row.remoteActorId == actor && row.activityId == activityId) relations.following }

def quoteByRequestId (relations : Relations) (requestId : String) : Option StatusQuote :=
  relations.quotes.find? fun quote => quote.quoteRequestId == some requestId

def transitionQuoteRequest (relations : Relations) (requestId : String) (state : QuoteState)
    (authorizationId : Option String) : Relations :=
  { relations with
    quotes := Table.updateWhere (fun quote =>
      quote.quoteRequestId == some requestId && quote.state == .pending)
      (fun quote => { quote with state := state, authorizationId := authorizationId })
      relations.quotes }

/-!
## Handlers
-/

def whenNew (db : Db) (activity : Json) (actor : RemoteActor) (now : Int)
    (effects : Option Relations) : Response × Db :=
  match isNewInboxActivity context.format context.sha256 db.markers activity actor.id now with
  | (_, .error _) => (.internalError, db)
  | (_, .ok false) => (.accepted, db)
  | (marker, .ok true) =>
      match effects with
      | none => (.internalError, db)
      | some relations =>
          (.accepted, { db with markers := db.markers ++ marker.toList, relations := relations })

def finishIgnoredInboxActivity (db : Db) (activity : Json) (actor : RemoteActor) (now : Int) :
    Response × Db :=
  match registerInboxReplay context.format context.sha256 db.markers activity actor.id .ignored
      now with
  | (_, .error _) => (.internalError, db)
  | (marker, .ok _) => (.accepted, { db with markers := db.markers ++ marker.toList })

def activityId (activity : Json) : Option String := (activity.get? "id").bind Json.asStr?

def actorOf (activity : Json) : Option String := (activity.get? "actor").bind Json.asStr?

def processBlock (db : Db) (activity : Json) (id : String) (actor : RemoteActor) (now : Int) :
    Response × Db :=
  match actorOf activity, (activity.get? "object").bind reference with
  | some author, some targetUrl =>
      if author != actor.activitypubId then (.badRequest, db)
      else
        match localAccountFromActorUrl context db targetUrl with
        | none => finishIgnoredInboxActivity context db activity actor now
        | some account =>
            whenNew context db activity actor now
              (some (processRemoteBlock db.relations actor.id account.id id))
  | _, _ => (.badRequest, db)

def processFollow (db : Db) (activity : Json) (id : String) (actor : RemoteActor) (now : Int) :
    Response × Db :=
  match (activity.get? "object").bind reference with
  | none => (.badRequest, db)
  | some targetUrl =>
      if (lastSegment targetUrl).isEmpty then (.badRequest, db)
      else
        match localAccountFromActorUrl context db targetUrl with
        | none => finishIgnoredInboxActivity context db activity actor now
        | some account =>
            let state := if account.locked then RemoteFollowState.pending else .accepted
            whenNew context db activity actor now
              (upsertProcessedRemoteFollow db actor.id account.id id activity state)

def startsWithHttps (url : String) : Bool := "https://".toList.isPrefixOf url.toList

def processLike (db : Db) (activity : Json) (id : String) (actor : RemoteActor) (now : Int) :
    Response × Db :=
  match actorOf activity, (activity.get? "object").bind Json.asStr? with
  | some author, some object =>
      if author != actor.activitypubId || !startsWithHttps object then
        finishIgnoredInboxActivity context db activity actor now
      else
        match (localStatusIdFromUrl context db object).bind fun statusId =>
            db.localStatuses.find? fun status => status.id == statusId with
        | none => finishIgnoredInboxActivity context db activity actor now
        | some status =>
            if localPrivateStatusVisibleToRemoteActor db status actor.id then
              whenNew context db activity actor now
                (some (processRemoteLike db actor.id status.id id status.accountId))
            else finishIgnoredInboxActivity context db activity actor now
  | _, _ => (.badRequest, db)

def announceTarget (db : Db) (object : String) (actor : RemoteActor) : Option StatusReference :=
  match localStatusIdFromUrl context db object with
  | some statusId => do
      let status ← db.localStatuses.find? fun status => status.id == statusId
      if status.visibility = .publicStatus ∨ status.visibility = .unlisted then
        some (.localStatus status.id)
      else none
  | none => do
      let status ← findRemoteStatusByActivitypubId db object
      if status.visibility = .publicStatus ∨ status.visibility = .unlisted ∨
          (status.visibility = .privateStatus ∧ status.remoteActorId = actor.id) then
        some (.remoteStatus status.id)
      else none

def processAnnounce (db : Db) (activity : Json) (id : String) (actor : RemoteActor) (now : Int) :
    Response × Db :=
  match actorOf activity, (activity.get? "object").bind Json.asStr? with
  | some author, some object =>
      if author != actor.activitypubId || !startsWithHttps object then
        finishIgnoredInboxActivity context db activity actor now
      else
        match announceTarget context db object actor with
        | none => finishIgnoredInboxActivity context db activity actor now
        | some target =>
            whenNew context db activity actor now
              (reblogStatusByRemoteActor db actor.id target id)
  | _, _ => (.badRequest, db)

/-- The handlers of `Undo` in the order in which they are tried. A bare id is
accepted by every one of them. -/
def processUndo (db : Db) (activity : Json) (actor : RemoteActor) (now : Int) : Response × Db :=
  let object := (activity.get? "object").getD .null
  let block := (blockId object).bind fun original =>
    (findRemoteLocalBlockByActivity db.relations actor.id original).map (original, ·)
  match block with
  | some (original, account) =>
      whenNew context db activity actor now
        (some (processRemoteUndoBlock db.relations actor.id account original))
  | none =>
      match announceId object with
      | some original =>
          whenNew context db activity actor now
            (some (processRemoteUndoReblog db actor.id original))
      | none =>
          match likeId object with
          | some original =>
              whenNew context db activity actor now
                (some (processRemoteUndoLike db actor.id original))
          | none =>
              match followId object with
              | some original =>
                  whenNew context db activity actor now
                    (some (processRemoteUndoFollow db.relations actor.id original))
              | none => (.badRequest, db)

structure QuoteAuthorization where
  id : String
  attributedTo : String
  interactingObject : String
  interactionTarget : String
deriving DecidableEq

def quoteAuthorization (result : Json) : Option QuoteAuthorization := do
  let id ← (result.get? "id").bind Json.asStr?
  let kind ← (result.get? "type").bind unitVariant
  let attributedTo ← (result.get? "attributedTo").bind Json.asStr?
  let interactingObject ← (result.get? "interactingObject").bind Json.asStr?
  let interactionTarget ← (result.get? "interactionTarget").bind Json.asStr?
  if kind == "https://w3id.org/fep/044f#QuoteAuthorization" then
    some ⟨id, attributedTo, interactingObject, interactionTarget⟩
  else none

/-- The author, the referred activity and the authorization of an answer; an
absent or null authorization is accepted. -/
def quoteResponse (activity : Json) : Option (String × String × Option QuoteAuthorization) := do
  let author ← actorOf activity
  let object ← (activity.get? "object").bind reference
  match activity.get? "result" with
  | none | some .null => some (author, object, none)
  | some result => (quoteAuthorization result).map fun found => (author, object, some found)

def quoteAccepted (actor : RemoteActor) (quoting : LocalStatus) (username : String)
    (target : RemoteStatus) (authorization : QuoteAuthorization) : Bool :=
  authorization.attributedTo == actor.activitypubId &&
    authorization.interactingObject == statusUrl context username quoting.id &&
    authorization.interactionTarget == target.activitypubId &&
    startsWithHttps authorization.id &&
    context.sameUrlOrigin authorization.id actor.activitypubId

def processQuoteResponse (db : Db) (activity : Json) (actor : RemoteActor) (now : Int)
    (accepting : Bool) (author requestId : String) (authorization : Option QuoteAuthorization)
    (quote : StatusQuote) : Response × Db :=
  let transition (state : QuoteState) (authorizationId : Option String) :=
    whenNew context db activity actor now
      (some (transitionQuoteRequest db.relations requestId state authorizationId))
  if author != actor.activitypubId then (.badRequest, db)
  else
    match quote.quotingStatus, quote.quotedStatus with
    | .localStatus quotingId, some (.remoteStatus targetId) =>
        match (findRemoteStatusById db targetId).filter fun status =>
            status.remoteActorId == actor.id with
        | none => finishIgnoredInboxActivity context db activity actor now
        | some target =>
            if !accepting then transition .rejected none
            else
              match authorization, db.localStatuses.find? fun status => status.id == quotingId with
              | none, _ => (.badRequest, db)
              | some _, none => finishIgnoredInboxActivity context db activity actor now
              | some given, some quoting =>
                  match db.localAccounts.find? fun account => account.id == quoting.accountId with
                  | none => (.badRequest, db)
                  | some account =>
                      if quoteAccepted context actor quoting account.username target given then
                        transition .accepted (some given.id)
                      else (.badRequest, db)
    | _, _ => finishIgnoredInboxActivity context db activity actor now

def embeddedId : Json → Option String
  | .object members => ((Json.object members).get? "id").bind Json.asStr?
  | _ => none

def processFollowAnswer (db : Db) (activity : Json) (actor : RemoteActor) (now : Int)
    (accepting : Bool) : Response × Db :=
  match (activity.get? "object").bind embeddedId with
  | none => (.badRequest, db)
  | some objectId =>
      whenNew context db activity actor now (some
        (if accepting then acceptRemoteFollowing db.relations actor.id objectId
        else rejectRemoteFollowing db.relations actor.id objectId))

def processAnswer (db : Db) (activity : Json) (actor : RemoteActor) (now : Int)
    (accepting : Bool) : Response × Db :=
  let quoted := (quoteResponse activity).bind fun response =>
    (quoteByRequestId db.relations response.2.1).map (response, ·)
  match quoted with
  | some ((author, requestId, authorization), quote) =>
      processQuoteResponse context db activity actor now accepting author requestId authorization
        quote
  | none => processFollowAnswer context db activity actor now accepting

/-- Process an authenticated activity about a relationship; `none` for the
activity types that other handlers process. -/
def processInbox (db : Db) (activity : Json) (actor : RemoteActor) (now : Int) :
    Option (Response × Db) :=
  match (inboundActivityType activity).bind InboundActivityType.persisted with
  | none => some (.accepted, db)
  | some kind =>
      match activityId activity with
      | none => some (.badRequest, db)
      | some id =>
          if !context.sameUrlOrigin id actor.activitypubId then some (.badRequest, db)
          else
            match replayMetadata context.format context.sha256 activity actor.id .accepted with
            | .error _ => some (.badRequest, db)
            | .ok metadata =>
                if (classifyInboxActivity db.markers metadata).isSome then some (.accepted, db)
                else
                  match kind with
                  | .block => some (processBlock context db activity id actor now)
                  | .undo => some (processUndo context db activity actor now)
                  | .accept => some (processAnswer context db activity actor now true)
                  | .reject => some (processAnswer context db activity actor now false)
                  | .like => some (processLike context db activity id actor now)
                  | .announce => some (processAnnounce context db activity id actor now)
                  | .follow => some (processFollow context db activity id actor now)
                  | _ => none

end Roosty.Federation.Inbox
