import Roosty.Library.PagingLoss
import Roosty.Timeline.Tag

/-!
# Favourites and featured statuses

The favourites of an account, merged from two tables, and the statuses that a remote actor
features. Both look the statuses of their rows up after the rows were cut to a page.
-/

set_option autoImplicit false

namespace Roosty.Timeline

open Library

structure LocalStatusFavourite where
  id : Nat
  accountId : AccountId
  statusId : StatusId
deriving DecidableEq

structure LocalRemoteStatusFavourite where
  id : Nat
  localAccountId : AccountId
  remoteStatusId : StatusId
deriving DecidableEq

structure RemoteStatusPin where
  id : StatusId
  remoteActorId : AccountId
  remoteStatusId : StatusId
  /-- Microseconds since the Unix epoch. -/
  pinnedAt : Int
deriving DecidableEq

structure CollectionDb extends Db where
  localStatusFavourites : List LocalStatusFavourite
  localRemoteStatusFavourites : List LocalRemoteStatusFavourite
  remoteStatusPins : List RemoteStatusPin

/-- A local or cached remote status in a mixed favourites collection. -/
inductive FavouriteStatus where
  | localStatus (status : LocalStatus)
  | remoteStatus (status : RemoteStatus)
deriving DecidableEq

variable (db : CollectionDb)

/-!
## Favourites
-/

section

variable (account : AccountId)

def newestFavourites {Row : Type} (id : Row → Nat) (owner : Row → AccountId) (limit : Nat)
    (cursor : CollectionCursor) (rows : List Row) : List Row :=
  (Paging.newestFirst id (rows.filter fun row =>
    owner row == account && collectionCursorMatches (id row) cursor)).take (pageQueryLimit limit)

def localEntry (favourite : LocalStatusFavourite) : Option (Nat × FavouriteStatus) :=
  (findLocalStatusById db.toDb favourite.statusId).map fun status =>
    (favourite.id, .localStatus status)

def remoteEntry (favourite : LocalRemoteStatusFavourite) : Option (Nat × FavouriteStatus) :=
  (findRemoteStatusById db.toDb favourite.remoteStatusId).map fun status =>
    (favourite.id, .remoteStatus status)

def favouritesForAccount (limit : Nat) (cursor : CollectionCursor) :
    Paging.Page FavouriteStatus :=
  let localRows := newestFavourites account LocalStatusFavourite.id LocalStatusFavourite.accountId
    limit cursor db.localStatusFavourites
  let remoteRows := newestFavourites account LocalRemoteStatusFavourite.id
    LocalRemoteStatusFavourite.localAccountId limit cursor db.localRemoteStatusFavourites
  let entries := localRows.filterMap (localEntry db) ++ remoteRows.filterMap (remoteEntry db)
  let (entries, hasMore) := Paging.trimToPage (Paging.newestFirst Prod.fst entries) limit
  ⟨entries.map Prod.snd, entries.head?.map Prod.fst, entries.getLast?.map Prod.fst, hasMore⟩

end

/-!
## Featured statuses
-/

/-- `ORDER BY pinned_at DESC, id DESC`. -/
def pinsFirst (left right : RemoteStatusPin) : Prop :=
  right.pinnedAt < left.pinnedAt ∨
    (right.pinnedAt = left.pinnedAt ∧ right.id.value ≤ left.id.value)

instance : DecidableRel pinsFirst := fun _ _ => inferInstanceAs (Decidable (_ ∨ _))

def pinnedRemoteStatusesByAccount (accountId : AccountId) (limit : Nat) (cursor : TimelineCursor) :
    Paging.Page RemoteStatus :=
  let query := db.remoteStatusPins.filter fun pin =>
    pin.remoteActorId == accountId && applyTimelineCursor cursor pin.id
  let (pins, hasMore) :=
    Paging.trimToPage ((query.insertionSort pinsFirst).take (pageQueryLimit limit)) limit
  ⟨pins.filterMap fun pin => findRemoteStatusById db.toDb pin.remoteStatusId,
    pins.head?.map fun pin => pin.id.value, pins.getLast?.map fun pin => pin.id.value, hasMore⟩

/-- Insert a pin: its primary key, one pin for a status, and its references. -/
def insertRemoteStatusPin (db : CollectionDb) (pin : RemoteStatusPin) :
    Except RoostyError CollectionDb :=
  if db.remoteStatusPins.any fun other => other.id == pin.id then
    .error (.database "remote_status_pin_pkey")
  else if db.remoteStatusPins.any fun other => other.remoteStatusId == pin.remoteStatusId then
    .error (.database "remote_status_pin_remote_status_id_key")
  else if !db.remoteActors.any fun actor => actor.id == pin.remoteActorId then
    .error (.database "remote_status_pin_remote_actor_id_fkey")
  else if !db.remoteStatuses.any fun status => status.id == pin.remoteStatusId then
    .error (.database "remote_status_pin_remote_status_id_fkey")
  else .ok { db with remoteStatusPins := db.remoteStatusPins ++ [pin] }

/-- The inserts of `replace_remote_status_pins`, from a position on. -/
def insertRemoteStatusPins (actorId : AccountId) (now : Int) (generated : Nat → StatusId) :
    CollectionDb → Nat → List StatusId → Except RoostyError CollectionDb
  | db, _, [] => .ok db
  | db, position, statusId :: statusIds => do
      let inserted ← insertRemoteStatusPin db {
        id := generated position
        remoteActorId := actorId
        remoteStatusId := statusId
        pinnedAt := now - position }
      insertRemoteStatusPins actorId now generated inserted (position + 1) statusIds

def replaceRemoteStatusPins (actorId : AccountId) (statusIds : List StatusId) (now : Int)
    (generated : Nat → StatusId) : Except RoostyError CollectionDb :=
  insertRemoteStatusPins actorId now generated
    { db with remoteStatusPins :=
        Table.deleteWhere (fun pin => pin.remoteActorId == actorId) db.remoteStatusPins }
    0 statusIds

end Roosty.Timeline
