import Roosty.Account.Move

/-!
# Lists and the follows behind them

The owner of a list may add accounts that the owner follows. Calls are whole
transactions, which change the lists, the relationships among local accounts, or those
with remote actors. Titles and settings of lists, mutes, jobs and notifications are left
out.
-/

set_option autoImplicit false

namespace Roosty.Account.Lists

open Library Federation Inbox

structure LocalAccountRow where
  id : AccountId
  suspendedAt : Option Int
deriving DecidableEq

structure LocalFollow where
  followerAccountId : AccountId
  followedAccountId : AccountId
  showReblogs : Bool
  notify : Bool
deriving DecidableEq

structure LocalMember where
  listId : Nat
  accountId : AccountId
deriving DecidableEq

/-- The tables of local relationships, beside those that remote actors share. -/
structure Tables where
  remote : Db
  accounts : List LocalAccountRow
  follows : List LocalFollow
  blocks : List (AccountId × AccountId)
  localMembers : List LocalMember
deriving DecidableEq

variable (tables : Tables)

/-!
## Lists
-/

def createLocalList (owner : AccountId) (id : Nat) : Option Tables :=
  if tables.remote.lists.any fun list => list.id == id then none
  else some { tables with
    remote := { tables.remote with lists := tables.remote.lists ++ [⟨id, owner⟩] } }

/-- Delete an owned private list and all memberships, which the foreign keys cascade to. -/
def deleteLocalList (owner : AccountId) (id : Nat) : Tables :=
  if ownedBy tables.remote owner id then
    { tables with
      remote := { tables.remote with
        lists := Table.deleteWhere (fun list => list.id == id && list.accountId == owner)
          tables.remote.lists
        members := Table.deleteWhere (fun member => member.listId == id) tables.remote.members }
      localMembers := Table.deleteWhere (fun member => member.listId == id) tables.localMembers }
  else tables

inductive AddListAccountsResult where
  | added
  | listNotFound
  | accountNotFollowed
  | alreadyPresent
deriving DecidableEq

def locallyFollowed (owner id : AccountId) : Bool :=
  tables.follows.any fun row => row.followerAccountId == owner && row.followedAccountId == id

/-- An accepted follow of a remote actor that no Move has deactivated. -/
def remotelyFollowed (owner id : AccountId) : Bool :=
  tables.remote.inbox.relations.following.any fun row => row.localAccountId == owner &&
    row.remoteActorId == id && row.state == .accepted && isActive row

def addLocalListAccounts (owner : AccountId) (listId : Nat) (accountIds : List AccountId) :
    Tables × AddListAccountsResult :=
  let ids := accountIds.dedup
  if !ownedBy tables.remote owner listId then (tables, .listNotFound)
  else if ids.any fun id => !locallyFollowed tables owner id && !remotelyFollowed tables owner id then
    (tables, .accountNotFollowed)
  else if (tables.localMembers.any fun member =>
        member.listId == listId && ids.contains member.accountId) ||
      tables.remote.members.any fun member =>
        member.listId == listId && ids.contains member.remoteActorId then
    (tables, .alreadyPresent)
  else
    ({ tables with
        remote := { tables.remote with
          members := tables.remote.members ++ (ids.filter fun id =>
            !locallyFollowed tables owner id).map (RemoteMember.mk listId) }
        localMembers := tables.localMembers ++ (ids.filter fun id =>
          locallyFollowed tables owner id).map (LocalMember.mk listId) }, .added)

def removeLocalListAccounts (owner : AccountId) (listId : Nat) (accountIds : List AccountId) :
    Tables × Bool :=
  if !ownedBy tables.remote owner listId then (tables, false)
  else
    ({ tables with
        remote := { tables.remote with
          members := Table.deleteWhere (fun member =>
            member.listId == listId && accountIds.contains member.remoteActorId)
            tables.remote.members }
        localMembers := Table.deleteWhere (fun member =>
          member.listId == listId && accountIds.contains member.accountId) tables.localMembers },
      true)

/-!
## Local accounts
-/

inductive AccountRelationshipError where
  | selfFollow
  | followTargetNotFound
  | followBlocked
  | selfModeration
  | moderationTargetNotFound
deriving DecidableEq

def removeLocalAccountFromOwnedLists (owner member : AccountId) : List LocalMember :=
  Table.deleteWhere (fun row => row.accountId == member && ownedBy tables.remote owner row.listId)
    tables.localMembers

def withoutFollow (follower followed : AccountId) : List LocalFollow → List LocalFollow :=
  Table.deleteWhere fun row => row.followerAccountId == follower && row.followedAccountId == followed

def localAccountsAreBlocked (first second : AccountId) : Bool :=
  if first = second then false
  else tables.blocks.contains (first, second) || tables.blocks.contains (second, first)

def followLocalAccount (follower followed : AccountId) (showReblogs notify : Bool) :
    Except AccountRelationshipError Tables :=
  let pair (row : LocalFollow) : Bool :=
    row.followerAccountId == follower && row.followedAccountId == followed
  if follower = followed then .error .selfFollow
  else if !tables.accounts.any fun account => account.id == followed then
    .error .followTargetNotFound
  else if localAccountsAreBlocked tables follower followed then .error .followBlocked
  else if tables.follows.any pair then
    .ok { tables with
      follows := Table.updateWhere pair (fun row =>
        { row with showReblogs := showReblogs, notify := notify }) tables.follows }
  else .ok { tables with follows := tables.follows ++ [⟨follower, followed, showReblogs, notify⟩] }

def unfollowLocalAccount (follower followed : AccountId) : Tables :=
  { tables with
    localMembers := removeLocalAccountFromOwnedLists tables follower followed
    follows := withoutFollow follower followed tables.follows }

def blockLocalAccount (account target : AccountId) : Except AccountRelationshipError Tables :=
  if account = target then .error .selfModeration
  else if !tables.accounts.any fun other => other.id == target then .error .moderationTargetNotFound
  else
    let outgoing := removeLocalAccountFromOwnedLists tables account target
    .ok { tables with
      blocks := if tables.blocks.contains (account, target) then tables.blocks
        else tables.blocks ++ [(account, target)]
      follows := withoutFollow target account (withoutFollow account target tables.follows)
      localMembers :=
        removeLocalAccountFromOwnedLists { tables with localMembers := outgoing } target account }

def unblockLocalAccount (account target : AccountId) : Tables :=
  { tables with blocks := Table.deleteWhere (· == (account, target)) tables.blocks }

/-!
## Suspension and deletion
-/

def severLocalAccountRelationships (account : AccountId) : Tables :=
  let inbox := tables.remote.inbox
  let own (listId : Nat) : Bool :=
    tables.remote.lists.any fun list => list.accountId == account && list.id == listId
  { tables with
    remote := { tables.remote with
      inbox := { inbox with
        localBlocks := Table.deleteWhere (fun row => row.1 == account) inbox.localBlocks
        relations := { inbox.relations with
          follows := Table.deleteWhere (fun row => row.localAccountId == account)
            inbox.relations.follows
          following := Table.deleteWhere (fun row => row.localAccountId == account)
            inbox.relations.following
          blocks := Table.deleteWhere (fun row => row.localAccountId == account)
            inbox.relations.blocks } }
      members := Table.deleteWhere (fun member => own member.listId) tables.remote.members
      lists := Table.deleteWhere (fun list => list.accountId == account) tables.remote.lists }
    follows := Table.deleteWhere (fun row =>
      row.followerAccountId == account || row.followedAccountId == account) tables.follows
    blocks := Table.deleteWhere (fun row => row.1 == account || row.2 == account) tables.blocks
    localMembers := Table.deleteWhere (fun member =>
      member.accountId == account || own member.listId) tables.localMembers }

def purgeRemoteActorCache (actor : AccountId) : Tables :=
  let inbox := tables.remote.inbox
  { tables with
    remote := { tables.remote with
      inbox := { inbox with
        localBlocks := Table.deleteWhere (fun row => row.2 == actor) inbox.localBlocks
        relations := { inbox.relations with
          follows := Table.deleteWhere (fun row => row.remoteActorId == actor)
            inbox.relations.follows
          following := Table.deleteWhere (fun row => row.remoteActorId == actor)
            inbox.relations.following
          blocks := Table.deleteWhere (fun row => row.remoteActorId == actor)
            inbox.relations.blocks } }
      members := Table.deleteWhere (fun member => member.remoteActorId == actor)
        tables.remote.members } }

def setAccountSuspendedById (account : AccountId) (suspended : Bool) (now : Int) : Tables :=
  match tables.accounts.find? fun row => row.id == account with
  | some row =>
      let tables := { tables with
        accounts := Table.updateWhere (fun other => other.id == account) (fun other =>
          { other with suspendedAt := if suspended then some now else none }) tables.accounts }
      if suspended && row.suspendedAt.isNone then severLocalAccountRelationships tables account
      else tables
  | none =>
      if suspended && tables.remote.remoteActors.any (fun cached => cached.id == account) then
        purgeRemoteActorCache tables account
      else tables

/-- The purge of each cached actor that a suspended-domain rule covers. -/
def reconcileFederationDomainBlock (covers : AccountId → Bool) : Tables :=
  (tables.remote.remoteActors.filter fun cached => covers cached.id).foldl
    (fun tables cached => purgeRemoteActorCache tables cached.id) tables

def reconcileSuspendedRemoteDomains (covers : AccountId → Bool) : Tables :=
  let inbox := tables.remote.inbox
  let suspended (actor : AccountId) : Bool :=
    tables.remote.remoteActors.any fun cached => covers cached.id && cached.id == actor
  { tables with
    remote := { tables.remote with
      inbox := { inbox with
        relations := { inbox.relations with
          follows := Table.deleteWhere (fun row => suspended row.remoteActorId)
            inbox.relations.follows
          following := Table.deleteWhere (fun row => suspended row.remoteActorId)
            inbox.relations.following } }
      members := Table.deleteWhere (fun member => suspended member.remoteActorId)
        tables.remote.members } }

/-- Tombstone a remote actor. Its follows end, but it stays on the lists. -/
def processRemoteActorDelete (actor : AccountId) : Tables :=
  let relations := tables.remote.inbox.relations
  if tables.remote.remoteActors.any fun cached => cached.id == actor then
    { tables with
      remote := { tables.remote with
        inbox := { tables.remote.inbox with
          relations := { relations with
            follows := Table.deleteWhere (fun row => row.remoteActorId == actor) relations.follows
            following := Table.deleteWhere (fun row => row.remoteActorId == actor)
              relations.following } } } }
  else tables

/-!
## Runs
-/

inductive Call where
  | createLocalList (owner : AccountId) (id : Nat)
  | deleteLocalList (owner : AccountId) (id : Nat)
  | addLocalListAccounts (owner : AccountId) (listId : Nat) (accountIds : List AccountId)
  | removeLocalListAccounts (owner : AccountId) (listId : Nat) (accountIds : List AccountId)
  | followLocalAccount (follower followed : AccountId) (showReblogs notify : Bool)
  | unfollowLocalAccount (follower followed : AccountId)
  | blockLocalAccount (account target : AccountId)
  | unblockLocalAccount (account target : AccountId)
  | setAccountSuspended (account : AccountId) (suspended : Bool) (now : Int)
  | reconcileFederationDomainBlock (covers : AccountId → Bool)
  | reconcileSuspendedRemoteDomains (covers : AccountId → Bool)
  | processRemoteActorDelete (actor : AccountId)
  | remote (action : MoveAction)

inductive Reply where
  | done (success : Bool)
  | added (result : AddListAccountsResult)
  | related (result : Except AccountRelationshipError Unit)

/-- A failed transaction is rolled back. -/
def commit (tables : Tables) : Except AccountRelationshipError Tables → Tables × Reply
  | .ok next => (next, .related (.ok ()))
  | .error error => (tables, .related (.error error))

def memberships : Machine Tables Call Reply where
  step tables
    | .createLocalList owner id =>
        ((createLocalList tables owner id).getD tables,
          .done (createLocalList tables owner id).isSome)
    | .deleteLocalList owner id =>
        (deleteLocalList tables owner id, .done (ownedBy tables.remote owner id))
    | .addLocalListAccounts owner listId accountIds =>
        (addLocalListAccounts tables owner listId accountIds).map id .added
    | .removeLocalListAccounts owner listId accountIds =>
        (removeLocalListAccounts tables owner listId accountIds).map id .done
    | .followLocalAccount follower followed showReblogs notify =>
        commit tables (followLocalAccount tables follower followed showReblogs notify)
    | .unfollowLocalAccount follower followed =>
        (unfollowLocalAccount tables follower followed, .done true)
    | .blockLocalAccount account target => commit tables (blockLocalAccount tables account target)
    | .unblockLocalAccount account target =>
        (unblockLocalAccount tables account target, .done true)
    | .setAccountSuspended account suspended now =>
        (setAccountSuspendedById tables account suspended now, .done true)
    | .reconcileFederationDomainBlock covers =>
        (reconcileFederationDomainBlock tables covers, .done true)
    | .reconcileSuspendedRemoteDomains covers =>
        (reconcileSuspendedRemoteDomains tables covers, .done true)
    | .processRemoteActorDelete actor => (processRemoteActorDelete tables actor, .done true)
    | .remote action =>
        let (remote, success) := migrations.step tables.remote action
        ({ tables with remote := remote }, .done success)

end Roosty.Account.Lists
