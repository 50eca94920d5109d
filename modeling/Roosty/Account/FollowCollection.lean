import Roosty.Account.Move
import Roosty.Timeline.Tag

/-!
# Follow collections

The accounts that a local account follows, and those that follow it. Relationships with
local accounts and with remote actors stand in tables of their own, which are listed
together and counted apart.
-/

set_option autoImplicit false

namespace Roosty.Account.FollowCollection

open Library

/-!
## Tables
-/

structure LocalFollow where
  id : Nat
  followerAccountId : AccountId
  followedAccountId : AccountId
  showReblogs : Bool
  notify : Bool
deriving DecidableEq

structure ActorColumns where
  activitypubId : String
  domain : String
  deletedAt : Option Int
  suspendedAt : Option Int
  dataPurgedAt : Option Int
deriving DecidableEq

structure FollowDb where
  /-- Accounts and actors, and the relationships between both. -/
  remote : Account.Db
  localFollows : List LocalFollow
  localAccountBlocks : List (AccountId × AccountId)
  suspendedAt : AccountId → Option Int
  actor : AccountId → ActorColumns

/-- The identifiers of the rows of `remote_follow` and `remote_following`. -/
structure RowIds where
  follow : Federation.Inbox.RemoteFollow → Nat
  following : Federation.Inbox.RemoteFollowing → Nat

variable (db : FollowDb)

def localAccounts : List Timeline.LocalAccount :=
  db.remote.inbox.localAccounts.map fun account => ⟨account.id, db.suspendedAt account.id⟩

def remoteActors : List Timeline.RemoteActor :=
  db.remote.remoteActors.map fun cached =>
    let columns := db.actor cached.id
    ⟨cached.id, columns.domain, columns.deletedAt, columns.suspendedAt, columns.dataPurgedAt⟩

def directory : Timeline.Db where
  localAccounts := localAccounts db
  remoteActors := remoteActors db
  localStatuses := []
  remoteStatuses := []
  localFollows := []
  remoteFollowings := []
  localStatusRecipients := []
  remoteStatusRecipients := []
  localAccountBlocks := []
  localRemoteAccountBlocks := []
  domainIsSuspended := fun _ => false

/-!
## Queries
-/

def localFollowers (account : AccountId) : List LocalFollow :=
  db.localFollows.filter fun follow => follow.followedAccountId == account

def localFollowing (account : AccountId) : List LocalFollow :=
  db.localFollows.filter fun follow => follow.followerAccountId == account

def acceptedFollowers (account : AccountId) : List Federation.Inbox.RemoteFollow :=
  db.remote.inbox.relations.follows.filter fun follow =>
    follow.localAccountId == account && follow.state == .accepted

def acceptedFollowing (account : AccountId) : List Federation.Inbox.RemoteFollowing :=
  db.remote.inbox.relations.following.filter fun follow =>
    follow.localAccountId == account && follow.state == .accepted

variable (ids : RowIds) (account : AccountId)

def followersForLocalAccount (limit : Nat) (cursor : Timeline.CollectionCursor) :
    Paging.Page Timeline.FollowCollectionEntry :=
  Timeline.followCollectionPage (directory db) (localFollowers db account)
    (acceptedFollowers db account) (fun follow => (follow.id, follow.followerAccountId))
    (fun follow => (ids.follow follow, follow.remoteActorId)) limit cursor

/-- Return a page of local and accepted remote accounts followed by one local account.
Deactivated follows are not left out. -/
def followingForLocalAccount (limit : Nat) (cursor : Timeline.CollectionCursor) :
    Paging.Page Timeline.FollowCollectionEntry :=
  Timeline.followCollectionPage (directory db) (localFollowing db account)
    (acceptedFollowing db account) (fun follow => (follow.id, follow.followedAccountId))
    (fun follow => (ids.following follow, follow.remoteActorId)) limit cursor

def countLocalFollowers : Nat := (localFollowers db account).length

def countRemoteFollowers : Nat := (acceptedFollowers db account).length

def countLocalFollowing : Nat := (localFollowing db account).length

def countRemoteFollowing : Nat :=
  (db.remote.inbox.relations.following.filter fun follow =>
    follow.localAccountId == account && follow.state == .accepted &&
      follow.deactivatedAt.isNone).length

/-!
## Changes
-/

def hasAccount (db : Account.Db) (id : AccountId) : Bool :=
  db.inbox.localAccounts.any fun account => account.id == id

def hasActor (db : Account.Db) (id : AccountId) : Bool :=
  db.remoteActors.any fun cached => cached.id == id

def rowsReferenced (db : Account.Db) : Bool :=
  (db.inbox.relations.following.all fun row =>
    hasAccount db row.localAccountId && hasActor db row.remoteActorId) &&
  db.inbox.relations.follows.all fun row =>
    hasAccount db row.localAccountId && hasActor db row.remoteActorId

def localAccountsAreBlocked (first second : AccountId) : Bool :=
  first != second && (db.localAccountBlocks.contains (first, second) ||
    db.localAccountBlocks.contains (second, first))

/-- Follow a local account, updating follow options when it already exists. `none` stands
for an error. -/
def followLocalAccount (id : Nat) (follower followed : AccountId) (showReblogs notify : Bool) :
    Option FollowDb :=
  let pair (row : LocalFollow) : Bool :=
    row.followerAccountId == follower && row.followedAccountId == followed
  if follower = followed then none
  else if !hasAccount db.remote followed then none
  else if localAccountsAreBlocked db follower followed then none
  else if db.localFollows.any pair then
    some { db with
      localFollows := Table.updateWhere pair
        (fun row => { row with showReblogs := showReblogs, notify := notify }) db.localFollows }
  else if !hasAccount db.remote follower || db.localFollows.any (fun row => row.id == id) then none
  else some { db with
    localFollows := db.localFollows ++ [⟨id, follower, followed, showReblogs, notify⟩] }

def unfollowLocalAccount (follower followed : AccountId) : FollowDb :=
  { db with localFollows := Table.deleteWhere (fun row =>
      row.followerAccountId == follower && row.followedAccountId == followed) db.localFollows }

inductive FollowAction where
  | follow (id : Nat) (follower followed : AccountId) (showReblogs notify : Bool)
  | unfollow (follower followed : AccountId)
  | remote (action : MoveAction)

def followings : Machine FollowDb FollowAction Bool where
  step db
    | .follow id follower followed showReblogs notify =>
        match followLocalAccount db id follower followed showReblogs notify with
        | none => (db, false)
        | some next => (next, true)
    | .unfollow follower followed => (unfollowLocalAccount db follower followed, true)
    | .remote action =>
        let (next, done) := migrations.step db.remote action
        -- a row that refers to no account or to no actor is refused
        if rowsReferenced next then ({ db with remote := next }, done) else (db, false)

end Roosty.Account.FollowCollection
