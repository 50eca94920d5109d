import Roosty.Library.TextMatch
import Roosty.Timeline.Home

/-!
# Tag timelines and follow collections

Other lists that merge local with remote rows: public statuses that contain a hashtag, and
the accounts of relationships. Their pages and those of the home timeline carry the same
links.
-/

set_option autoImplicit false

namespace Roosty.Timeline

open Library

/-!
## Tag timelines
-/

inductive PublicTimelineOrigin where
  | federated
  | localOnly
  | remoteOnly
deriving DecidableEq

inductive PublicTimelineItem where
  | localStatus (status : LocalStatus)
  | remoteStatus (status : RemoteStatus)
deriving DecidableEq

def publicItemId : PublicTimelineItem → StatusId
  | .localStatus status => status.id
  | .remoteStatus status => status.id

structure TagTimelineOptions where
  any : List String
  all : List String
  none : List String
  onlyMedia : Bool
  origin : PublicTimelineOrigin
  viewer : Option AccountId
  allowedRemoteDomains : List String
  blockedRemoteDomains : List String
deriving DecidableEq

structure TagDb extends HomeDb, AccountDb where
  /-- The local accounts and the remote actors that have `limited_at`. -/
  limitedAccounts : List AccountId
  limitedActors : List AccountId

structure TagSelection where
  primary : Nat
  all : List Nat
  any : List Nat
  none : List Nat
deriving DecidableEq

section

variable (toLowercase : String → String) (db : TagDb)

def localTagsByNames (names : List String) : List LocalTag :=
  names.filterMap (findLocalTagByName toLowercase db.toAccountDb)

def tagSelection (tag : String) (options : TagTimelineOptions) : Option TagSelection := do
  let primary ← findLocalTagByName toLowercase db.toAccountDb tag
  let all ← options.all.mapM (findLocalTagByName toLowercase db.toAccountDb)
  let any := localTagsByNames toLowercase db options.any
  guard (options.any.isEmpty || !any.isEmpty)
  some ⟨primary.id, all.map LocalTag.id, any.map LocalTag.id,
    (localTagsByNames toLowercase db options.none).map LocalTag.id⟩

def tagsSelected (tags : List (StatusId × Nat)) (selection : TagSelection) (status : StatusId) :
    Bool :=
  hasTag tags status [selection.primary] &&
    selection.all.all (fun tag => hasTag tags status [tag]) &&
    (selection.any.isEmpty || hasTag tags status selection.any) &&
    (selection.none.isEmpty || !hasTag tags status selection.none)

variable (options : TagTimelineOptions) (selection : TagSelection)

def tagLocalListed (status : LocalStatus) : Bool :=
  status.visibility == .publicStatus && status.deletedAt.isNone &&
    tagsSelected db.localStatusTags selection status.id &&
    (db.localAccounts.any fun account =>
      account.id == status.accountId && account.suspendedAt.isNone &&
        !db.limitedAccounts.contains account.id) &&
    (!options.onlyMedia || db.localMedia.contains status.id) &&
    !(options.viewer.any fun viewer =>
      (hiddenLocalAccountIdsForAccount db.toHomeDb viewer).contains status.accountId)

def tagDomainAllowed (domain : String) : Bool :=
  (options.allowedRemoteDomains.contains "*" || options.allowedRemoteDomains.contains domain) &&
    options.blockedRemoteDomains.all fun blocked =>
      domain != blocked && !TextMatch.like domain.toList ('%' :: '.' :: blocked.toList)

def tagRemoteListed (status : RemoteStatus) : Bool :=
  status.visibility == .publicStatus && status.deletedAt.isNone &&
    tagsSelected db.remoteStatusTags selection status.id &&
    (db.remoteActors.any fun actor =>
      actor.id == status.remoteActorId && actor.deletedAt.isNone && actor.suspendedAt.isNone &&
        !db.limitedActors.contains actor.id && tagDomainAllowed options actor.domain) &&
    (!options.onlyMedia || db.remoteMedia.contains status.id) &&
    !(options.viewer.any fun viewer =>
      (hiddenRemoteActorIdsForAccount db.toHomeDb viewer).contains status.remoteActorId)

def tagLocalStatuses : List LocalStatus :=
  if options.origin = .remoteOnly then [] else db.localStatuses

def tagRemoteStatuses : List RemoteStatus :=
  if options.origin = .localOnly || options.allowedRemoteDomains.isEmpty then []
  else db.remoteStatuses

def tagTimeline (tag : String) (limit : Nat) (cursor : TimelineCursor) :
    Paging.Page PublicTimelineItem :=
  match tagSelection toLowercase db tag options with
  | none => .empty
  | some selection =>
      let items :=
        (newestListed LocalStatus.id (tagLocalListed db options selection) limit cursor
          (tagLocalStatuses db options)).map .localStatus ++
        (newestListed RemoteStatus.id (tagRemoteListed db options selection) limit cursor
          (tagRemoteStatuses db options)).map .remoteStatus
      let key := fun item => (publicItemId item).value
      let (items, hasMore) := Paging.trimToPage (Paging.newestFirst key items) limit
      ⟨items, items.head?.map key, items.getLast?.map key, hasMore⟩

end

/-!
## Follow collections
-/

structure CollectionCursor where
  maxId : Option Nat
  sinceId : Option Nat
  minId : Option Nat
deriving DecidableEq

def collectionCursorMatches (id : Nat) (cursor : CollectionCursor) : Bool :=
  cursor.maxId.all (id < ·) && cursor.sinceId.all (· < id) && cursor.minId.all (· < id)

inductive FollowCollectionAccount where
  | localAccount (account : LocalAccount)
  | remoteActor (actor : RemoteActor)
deriving DecidableEq

structure FollowCollectionEntry where
  id : Nat
  account : FollowCollectionAccount
deriving DecidableEq

section

variable {L R : Type} (db : Db) (localRows : List L) (remoteRows : List R)
variable (localId : L → Nat × AccountId) (remoteId : R → Nat × AccountId)

/-- The entries of relationship rows whose identifiers are admitted. -/
def followEntries (admitted : Nat → Bool) : List FollowCollectionEntry :=
  (localRows.filterMap fun follow =>
      if admitted (localId follow).1 then
        (findLocalAccountById db (localId follow).2).map fun account =>
          ⟨(localId follow).1, .localAccount account⟩
      else none) ++
    remoteRows.filterMap fun follow =>
      if admitted (remoteId follow).1 then
        (findRemoteActorById db (remoteId follow).2).map fun actor =>
          ⟨(remoteId follow).1, .remoteActor actor⟩
      else none

/-- Merge UUIDv7-ordered local and remote relationship rows into one cursor page. -/
def followCollectionPage (limit : Nat) (cursor : CollectionCursor) :
    Paging.Page FollowCollectionEntry :=
  let entries := followEntries db localRows remoteRows localId remoteId fun id =>
    collectionCursorMatches id cursor
  let (items, hasMore) :=
    Paging.trimToPage (Paging.newestFirst FollowCollectionEntry.id entries) limit
  ⟨items, items.head?.map FollowCollectionEntry.id, items.getLast?.map FollowCollectionEntry.id,
    hasMore⟩

end

/-!
## Links
-/

/-- The cursors of a Link header: `min_id` of the previous page and `max_id` of the next. -/
structure PageLinks where
  prev : Nat
  next : Nat
deriving DecidableEq

/-- The header of home timelines, of tag timelines and of collections. -/
def linkHeader {Item : Type} (page : Paging.Page Item) : Option PageLinks := do
  guard page.hasMore
  let first ← page.firstCursor
  let last ← page.lastCursor
  some ⟨first, last⟩

end Roosty.Timeline
