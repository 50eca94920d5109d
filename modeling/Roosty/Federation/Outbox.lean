import Roosty.Federation.Collections
import Roosty.Federation.InboundNote
import Roosty.Library.Keyset
import Roosty.Library.PagingMerge

/-!
# Outboxes of local actors

The activities that an actor shows to another server: statuses, and boosts of local and of
remote statuses, merged into pages in either direction. Rows keep the columns that the
outbox reads; the Create of a status and the format of timestamps are parameters.
-/

set_option autoImplicit false

namespace Roosty.Federation.Outbox

open Library Collections

/-!
## Tables
-/

structure LocalAccount where
  id : AccountId
  username : String
  suspendedAt : Option Int
deriving DecidableEq

structure LocalStatus where
  id : StatusId
  accountId : AccountId
  visibility : StatusVisibility
  deletedAt : Option Int
deriving DecidableEq

structure RemoteStatus where
  id : StatusId
  activitypubId : String
  visibility : StatusVisibility
  deletedAt : Option Int
deriving DecidableEq

structure LocalStatusReblog where
  id : Nat
  accountId : AccountId
  statusId : StatusId
  createdAt : Int
deriving DecidableEq

structure LocalRemoteStatusReblog where
  id : Nat
  localAccountId : AccountId
  remoteStatusId : StatusId
  activityId : String
  createdAt : Int
deriving DecidableEq

structure RemoteFollow where
  remoteActorId : AccountId
  localAccountId : AccountId
  state : Inbox.RemoteFollowState
deriving DecidableEq

structure OutboxDb where
  localAccounts : List LocalAccount
  localStatuses : List LocalStatus
  remoteStatuses : List RemoteStatus
  localReblogs : List LocalStatusReblog
  remoteReblogs : List LocalRemoteStatusReblog
  remoteMentions : List (StatusId × AccountId)
  remoteFollows : List RemoteFollow
  /-- Blocks of remote actors by local accounts, and of local accounts by remote actors. -/
  localRemoteAccountBlocks : List (AccountId × AccountId)
  remoteLocalAccountBlocks : List (AccountId × AccountId)

/-- One activity exposed through a local actor's ActivityPub outbox. -/
inductive LocalOutboxItem where
  | status (status : LocalStatus)
  | localReblog (reblog : LocalStatusReblog) (status : LocalStatus)
  | remoteReblog (reblog : LocalRemoteStatusReblog) (status : RemoteStatus)
deriving DecidableEq

def LocalOutboxItem.cursor : LocalOutboxItem → Nat
  | .status shown => shown.id.value
  | .localReblog reblog _ => reblog.id
  | .remoteReblog reblog _ => reblog.id

/-!
## Queries
-/

section

variable (db : OutboxDb) (accountId : AccountId) (remoteViewer : Option AccountId)

def localOutboxStatusVisibility (status : LocalStatus) : Bool :=
  let anyone := status.visibility == .publicStatus || status.visibility == .unlisted
  match remoteViewer with
  | none => anyone
  | some viewer =>
      let mentioned := db.remoteMentions.contains (status.id, viewer)
      let followed := db.remoteFollows.any fun follow => follow.remoteActorId == viewer &&
        follow.state == .accepted && follow.localAccountId == status.accountId
      anyone || (status.visibility == .privateStatus && (followed || mentioned)) ||
        (status.visibility == .direct && mentioned)

def visibleLocalStatuses : List StatusId :=
  (db.localStatuses.filter fun status => status.deletedAt.isNone &&
    localOutboxStatusVisibility db remoteViewer status).map LocalStatus.id

def publicRemoteStatuses : List StatusId :=
  (db.remoteStatuses.filter fun status => status.deletedAt.isNone &&
    (status.visibility == .publicStatus || status.visibility == .unlisted)).map RemoteStatus.id

def outboxStatuses : List LocalStatus :=
  db.localStatuses.filter fun status => status.accountId == accountId &&
    status.deletedAt.isNone && localOutboxStatusVisibility db remoteViewer status

def outboxLocalReblogs : List LocalStatusReblog :=
  db.localReblogs.filter fun reblog => reblog.accountId == accountId &&
    (visibleLocalStatuses db remoteViewer).contains reblog.statusId

def outboxRemoteReblogs : List LocalRemoteStatusReblog :=
  db.remoteReblogs.filter fun reblog => reblog.localAccountId == accountId &&
    (publicRemoteStatuses db).contains reblog.remoteStatusId

def countLocalActorOutboxItems : Nat :=
  (outboxStatuses db accountId remoteViewer).length +
    (outboxLocalReblogs db accountId remoteViewer).length + (outboxRemoteReblogs db accountId).length

/-- `apply_outbox_uuid_cursor`, the order of the query and its limit. -/
def queryPage {Row : Type} (id : Row → Nat) (limit : Nat) (cursor : Timeline.CollectionCursor)
    (rows : List Row) : List Row :=
  let matched := rows.filter fun row => Timeline.collectionCursorMatches (id row) cursor
  (if cursor.minId.isSome then Keyset.arrange id matched else Paging.newestFirst id matched).take
    (limit + 1)

/-- Boosts with their targets, each of which is removed from the map. -/
def withTargets {Reblog Status : Type} (targetId : Reblog → StatusId) (id : Status → StatusId) :
    List Status → List Reblog → List (Reblog × Status)
  | _, [] => []
  | targets, reblog :: reblogs =>
      match targets.find? fun target => id target == targetId reblog with
      | none => withTargets targetId id targets reblogs
      | some target => (reblog, target) :: withTargets targetId id
          (targets.filter fun other => id other != targetId reblog) reblogs

def localActorOutboxPage (limit : Nat) (cursor : Timeline.CollectionCursor) :
    Paging.Page LocalOutboxItem :=
  let ascending := cursor.minId.isSome
  let statuses := queryPage (fun status => status.id.value) limit cursor
    (outboxStatuses db accountId remoteViewer)
  let localReblogs := queryPage LocalStatusReblog.id limit cursor
    (outboxLocalReblogs db accountId remoteViewer)
  let remoteReblogs := queryPage LocalRemoteStatusReblog.id limit cursor
    (outboxRemoteReblogs db accountId)
  let localTargets := db.localStatuses.filter fun status =>
    (localReblogs.map LocalStatusReblog.statusId).contains status.id
  let remoteTargets := db.remoteStatuses.filter fun status =>
    (remoteReblogs.map LocalRemoteStatusReblog.remoteStatusId).contains status.id
  let items := statuses.map LocalOutboxItem.status ++
    ((withTargets LocalStatusReblog.statusId LocalStatus.id localTargets localReblogs).map
      fun (reblog, status) => LocalOutboxItem.localReblog reblog status) ++
    (withTargets LocalRemoteStatusReblog.remoteStatusId RemoteStatus.id remoteTargets
      remoteReblogs).map fun (reblog, status) => LocalOutboxItem.remoteReblog reblog status
  let sorted := Keyset.arrange LocalOutboxItem.cursor items
  let (shown, hasMore) := Paging.trimToPage (if ascending then sorted else sorted.reverse) limit
  let shown := if ascending then shown.reverse else shown
  ⟨shown, shown.head?.map LocalOutboxItem.cursor, shown.getLast?.map LocalOutboxItem.cursor, hasMore⟩

def localRemoteAccountsAreBlocked (remoteActorId : AccountId) : Bool :=
  db.localRemoteAccountBlocks.contains (accountId, remoteActorId) ||
    db.remoteLocalAccountBlocks.contains (remoteActorId, accountId)

end

/-!
## Activities
-/

structure Renderer where
  create : String → LocalStatus → Json
  formatTimestamp : Int → String

section

variable (server : Server) (renderer : Renderer) (db : OutboxDb)

def statusAudience (username : String) : StatusVisibility → List String × List String
  | .unlisted => ([actorUrl server username ++ "/followers"], [publicAudience])
  | .privateStatus => ([actorUrl server username ++ "/followers"], [])
  | .direct => ([], [])
  | .publicStatus => ([publicAudience], [actorUrl server username ++ "/followers"])

def strings (values : List String) : Json := .array (values.map .string)

def outboxAnnounce (username object id : String) (published : Int) (visibility : StatusVisibility) :
    Json :=
  let (addressed, copied) := statusAudience server username visibility
  serialize .camelCase [("id", some (.string id)), ("type", some (.string "Announce")),
    ("actor", some (.string (actorUrl server username))),
    ("published", some (.string (renderer.formatTimestamp published))),
    ("to", some (strings addressed)), ("cc", if copied.isEmpty then none else some (strings copied)),
    ("object", some (.string object))]

def findAccount (id : AccountId) : Option LocalAccount :=
  db.localAccounts.find? fun account => account.id == id

/-- `none` stands for a boost whose target has no account, which is an error. -/
def activity (username : String) : LocalOutboxItem → Option Json
  | .status status => some (renderer.create username status)
  | .localReblog reblog status =>
      (findAccount db status.accountId).map fun target =>
        outboxAnnounce server renderer username
          (actorUrl server target.username ++ "/statuses/" ++ Text.uuidText status.id.value)
          (actorUrl server username ++ "#announce-" ++ Text.uuidText reblog.id) reblog.createdAt
          status.visibility
  | .remoteReblog reblog status =>
      some (outboxAnnounce server renderer username status.activitypubId reblog.activityId
        reblog.createdAt status.visibility)

/-!
## The endpoint
-/

structure OutboxQuery where
  page : Option Bool
  maxId : Option String
  minId : Option String
  sinceId : Option String
deriving DecidableEq

def outboxQuery (query : Option String) : Option OutboxQuery := do
  let pairs := FormQuery.formPairs server.formDecode (query.getD "")
  let page ← FormQuery.formField FormQuery.parseBool "page" pairs
  let maxId ← FormQuery.formField some "max_id" pairs
  let minId ← FormQuery.formField some "min_id" pairs
  let sinceId ← FormQuery.formField some "since_id" pairs
  some ⟨page, maxId, minId, sinceId⟩

/-- A cursor of a query; zero is allowed as the lowest one. -/
def parseCursor (allowZero : Bool) : Option String → Option (Option Nat)
  | none => some none
  | some value => if allowZero && value == "0" then some (some 0) else (Text.parseUuid value).map some

def outboxCursor (query : OutboxQuery) : Option Timeline.CollectionCursor := do
  let maxId ← parseCursor false query.maxId
  let minId ← parseCursor true query.minId
  let sinceId ← parseCursor false query.sinceId
  some ⟨maxId, sinceId, minId⟩

def outboxPageUrl (outboxId : String) (query : OutboxQuery) : String :=
  let values := "page=true" :: [("max_id", query.maxId), ("min_id", query.minId),
    ("since_id", query.sinceId)].filterMap fun (name, value) =>
      value.map fun value => name ++ "=" ++ value
  outboxId ++ "?" ++ String.intercalate "&" values

def outboxUrl (username : String) : String := actorUrl server username ++ "/outbox"

variable (requester : Option AccountId)

def blockedRequester (accountId : AccountId) : Bool :=
  requester.any (localRemoteAccountsAreBlocked db accountId)

/-- One page for a requester, to whom nothing is shown while either side blocks the other. -/
def outboxPageFor (accountId : AccountId) (cursor : Timeline.CollectionCursor) :
    Paging.Page LocalOutboxItem :=
  if blockedRequester db requester accountId then .empty
  else localActorOutboxPage db accountId requester 20 cursor

/-- Serve the local actor's public outbox as an ordered ActivityStreams collection, to the
signer of the request if there is one. `none` stands for an error. -/
def serveOutbox (username : String) (query : Option String) : Option Json := do
  let query ← outboxQuery server query
  guard server.federationEnabled
  let account ← db.localAccounts.find? fun account => account.username == username
  guard account.suspendedAt.isNone
  let outboxId := outboxUrl server account.username
  if query.page = some true then
    let cursor ← outboxCursor query
    let page := outboxPageFor db requester account.id cursor
    let orderedItems ← page.items.mapM (activity server renderer db account.username)
    let next := if orderedItems.length = 20 then page.lastCursor else none
    some (OutboxCollectionPage.json
      { id := outboxPageUrl outboxId query
        type := .orderedCollectionPage
        partOf := outboxId
        totalItems := orderedItems.length
        orderedItems := orderedItems
        next := next.map fun cursor => outboxId ++ "?page=true&max_id=" ++ Text.uuidText cursor
        prev := page.firstCursor.map fun cursor =>
          outboxId ++ "?page=true&min_id=" ++ Text.uuidText cursor })
  else
    some (OutboxCollection.json
      { id := outboxId
        type := .orderedCollection
        totalItems := if blockedRequester db requester account.id then 0
          else countLocalActorOutboxItems db account.id requester
        first := outboxId ++ "?page=true"
        last := outboxId ++ "?page=true&min_id=0" })

def fetchOutbox (username : String) : String → Option Json :=
  fetch (outboxUrl server username) (serveOutbox server renderer db requester username)

end

end Roosty.Federation.Outbox
