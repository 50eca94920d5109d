import Roosty.Federation.Inbox
import Roosty.Library.ReadCommitted

/-!
# Follows, blocks and list members

The writers of relationship rows. Relationships among local accounts are
transactions of single statements. Relationships of a local account and a remote
actor are whole transactions; delivery jobs and notifications are left out.
-/

set_option autoImplicit false

namespace Roosty.Account

open Library Library.ReadCommitted

/-!
## Local accounts
-/

/-- The primary keys of local relationships, and the rows that they refer to. -/
inductive Key where
  | account (id : AccountId)
  | follow (follower followed : AccountId)
  | block (account target : AccountId)
  | list (id : Nat)
  | member (list : Nat) (account : AccountId)
deriving DecidableEq

inductive Row where
  | account
  | follow (showReblogs notify : Bool)
  | block
  | list (owner : AccountId)
  | member
deriving DecidableEq

inductive FollowStage where
  | target
  | blocked
  | find
  | insert
  | update
  | done
  | failed
deriving DecidableEq

inductive BlockStage where
  | target
  | find
  | insert
  | deleteOutgoing
  | deleteIncoming
  | removeTarget
  | removeAccount
  | done
  | failed
deriving DecidableEq

inductive DeleteStage where
  | remove
  | find
  | delete
  | done
deriving DecidableEq

inductive Position where
  | follow (follower followed : AccountId) (showReblogs notify : Bool) (stage : FollowStage)
  | unfollow (follower followed : AccountId) (stage : DeleteStage)
  | block (account target : AccountId) (stage : BlockStage)
  | unblock (account target : AccountId) (stage : DeleteStage)
deriving DecidableEq

section

variable (rows : Rows Key Row)

def localAccountsAreBlocked (first second : AccountId) : Bool :=
  if first = second then false
  else (rows (.block first second)).isSome || (rows (.block second first)).isSome

/-- An insertion fails on a row with the same key. -/
def inserted (key : Key) (row : Row) : Writes Key Row := fun other =>
  if other = key ∧ rows key = none then some (some row) else none

/-- An update finds no row where it has been deleted. -/
def updated (key : Key) (row : Row) : Writes Key Row := fun other =>
  if other = key ∧ (rows key).isSome then some (some row) else none

def deleted (key : Key) : Writes Key Row := fun other =>
  if other = key ∧ (rows key).isSome then some none else none

def removeLocalAccountFromOwnedLists (owner member : AccountId) : Writes Key Row
  | .member list account =>
      if account = member ∧ rows (.list list) = some (.list owner) ∧
        (rows (.member list account)).isSome
      then some none else none
  | _ => none

end

def reading (next : Rows Key Row → Position) : Instruction Key Row Position :=
  .statement (fun _ => .none) next

def followLocalAccount (follower followed : AccountId) (showReblogs notify : Bool) :
    FollowStage → Instruction Key Row Position :=
  let at_ := Position.follow follower followed showReblogs notify
  let key := Key.follow follower followed
  let row := Row.follow showReblogs notify
  fun
  | .target =>
      if follower = followed then .rollback
      else reading fun rows => at_ (if (rows (.account followed)).isNone then .failed else .blocked)
  | .blocked => reading fun rows =>
      at_ (if localAccountsAreBlocked rows follower followed then .failed else .find)
  | .find => reading fun rows => at_ (if (rows key).isSome then .update else .insert)
  | .insert => .statement (fun rows => inserted rows key row) fun rows =>
      at_ (if (rows key).isNone then .done else .failed)
  | .update => .statement (fun rows => updated rows key row) fun rows =>
      at_ (if (rows key).isSome then .done else .failed)
  | .done => .commit
  | .failed => .rollback

def unfollowLocalAccount (follower followed : AccountId) :
    DeleteStage → Instruction Key Row Position :=
  let at_ := Position.unfollow follower followed
  let key := Key.follow follower followed
  fun
  | .remove => .statement (fun rows => removeLocalAccountFromOwnedLists rows follower followed)
      fun _ => at_ .find
  | .find => reading fun rows => at_ (if (rows key).isSome then .delete else .done)
  | .delete => .statement (fun rows => deleted rows key) fun _ => at_ .done
  | .done => .commit

def blockLocalAccount (account target : AccountId) : BlockStage → Instruction Key Row Position :=
  let at_ := Position.block account target
  let key := Key.block account target
  fun
  | .target =>
      if account = target then .rollback
      else reading fun rows => at_ (if (rows (.account target)).isNone then .failed else .find)
  | .find => reading fun rows => at_ (if (rows key).isNone then .insert else .deleteOutgoing)
  | .insert => .statement (fun rows => inserted rows key .block) fun rows =>
      at_ (if (rows key).isNone then .deleteOutgoing else .failed)
  | .deleteOutgoing => .statement (fun rows => deleted rows (.follow account target))
      fun _ => at_ .deleteIncoming
  | .deleteIncoming => .statement (fun rows => deleted rows (.follow target account))
      fun _ => at_ .removeTarget
  | .removeTarget => .statement (fun rows => removeLocalAccountFromOwnedLists rows account target)
      fun _ => at_ .removeAccount
  | .removeAccount => .statement (fun rows => removeLocalAccountFromOwnedLists rows target account)
      fun _ => at_ .done
  | .done => .commit
  | .failed => .rollback

def unblockLocalAccount (account target : AccountId) :
    DeleteStage → Instruction Key Row Position :=
  let at_ := Position.unblock account target
  let key := Key.block account target
  fun
  | .remove | .find => reading fun rows => at_ (if (rows key).isSome then .delete else .done)
  | .delete => .statement (fun rows => deleted rows key) fun _ => at_ .done
  | .done => .commit

def code : Code Key Row Position where
  starts
    | .follow _ _ _ _ stage => stage = .target
    | .unfollow _ _ stage => stage = .remove
    | .block _ _ stage => stage = .target
    | .unblock _ _ stage => stage = .find
  instruction _
    | .follow follower followed showReblogs notify stage =>
        followLocalAccount follower followed showReblogs notify stage
    | .unfollow follower followed stage => unfollowLocalAccount follower followed stage
    | .block account target stage => blockLocalAccount account target stage
    | .unblock account target stage => unblockLocalAccount account target stage

/-!
## Remote actors
-/

open Federation Inbox

structure CachedActor where
  id : AccountId
  movedTo : Option AccountId
deriving DecidableEq

structure LocalList where
  id : Nat
  accountId : AccountId
deriving DecidableEq

structure RemoteMember where
  listId : Nat
  remoteActorId : AccountId
deriving DecidableEq

structure Db where
  inbox : Inbox.Db
  remoteActors : List CachedActor
  lists : List LocalList
  members : List RemoteMember
deriving DecidableEq

variable (db : Db)

def ownedBy (owner : AccountId) (listId : Nat) : Bool :=
  (db.lists.find? fun list => list.id == listId).map LocalList.accountId == some owner

def removeRemoteAccountFromOwnedLists (owner actor : AccountId) : List RemoteMember :=
  Table.deleteWhere (fun member => member.remoteActorId == actor && ownedBy db owner member.listId)
    db.members

/-- Create a local-to-remote block and sever bilateral follows. `none` stands for
an error, which rolls the transaction back. -/
def blockRemoteAccount (account actor : AccountId) : Option Db :=
  if db.remoteActors.any fun cached => cached.id == actor then
    let pair (row : AccountId × AccountId) : Bool := row == (account, actor)
    let blocks := db.inbox.localBlocks
    let relations := db.inbox.relations
    some { db with
      members := removeRemoteAccountFromOwnedLists db account actor
      inbox := { db.inbox with
        localBlocks := if blocks.any pair then blocks else blocks ++ [(account, actor)]
        relations := { relations with
          following := Table.deleteWhere (fun row =>
            row.localAccountId == account && row.remoteActorId == actor) relations.following
          follows := Table.deleteWhere (fun row =>
            row.localAccountId == account && row.remoteActorId == actor) relations.follows } } }
  else none

def unblockRemoteAccount (account actor : AccountId) : Db :=
  { db with inbox := { db.inbox with
      localBlocks := Table.deleteWhere (· == (account, actor)) db.inbox.localBlocks } }

def processRemoteBlock (actor account : AccountId) (activityId : String) : Db :=
  { db with
    inbox := { db.inbox with
      relations := Inbox.processRemoteBlock db.inbox.relations actor account activityId }
    members := removeRemoteAccountFromOwnedLists db account actor }

def processRemoteUndoBlock (actor account : AccountId) (activityId : String) : Db :=
  { db with inbox := { db.inbox with
      relations := Inbox.processRemoteUndoBlock db.inbox.relations actor account activityId } }

/-- Insertion into `remote_following`, with the unique pair and activity id. -/
def insertRemoteFollowing (row : RemoteFollowing) : Option (List RemoteFollowing) :=
  let following := db.inbox.relations.following
  if following.any fun other => (other.localAccountId == row.localAccountId &&
      other.remoteActorId == row.remoteActorId) || other.activityId == row.activityId
  then none
  else some (following ++ [row])

def withFollowing (following : List RemoteFollowing) : Db :=
  { db with inbox := { db.inbox with
      relations := { db.inbox.relations with following := following } } }

/-- Create a pending local-to-remote follow. A deactivated one is asked for again. -/
def createRemoteFollowing (account actor : AccountId) (activityId : String)
    (showReblogs notify : Bool) : Option Db :=
  let following := db.inbox.relations.following
  let pair (row : RemoteFollowing) : Bool :=
    row.localAccountId == account && row.remoteActorId == actor
  if localRemoteAccountsAreBlocked db.inbox account actor then none
  else
    match following.find? pair with
    | some existing =>
        if existing.deactivatedAt.isNone then
          some (withFollowing db (Table.updateWhere pair (fun row =>
            { row with showReblogs := showReblogs, notify := notify }) following))
        else if following.any fun row => row.activityId == activityId && !pair row then none
        else
          some (withFollowing db (Table.updateWhere pair (fun row =>
            { row with
              activityId := activityId
              state := .pending
              showReblogs := showReblogs
              notify := notify
              deactivatedAt := none }) following))
    | none =>
        (insertRemoteFollowing db
          ⟨account, actor, activityId, .pending, showReblogs, notify, none⟩).map (withFollowing db)

def upsertRemoteFollow (actor account : AccountId) (activityId : String) (activity : Json)
    (state : RemoteFollowState) : Option Db :=
  (upsertProcessedRemoteFollow db.inbox actor account activityId activity state).map
    fun relations => { db with inbox := { db.inbox with relations := relations } }

def acceptRemoteFollow (account actor : AccountId) (activityId : String) : Db :=
  { db with inbox := { db.inbox with
      relations := { db.inbox.relations with
        follows := Table.updateWhere (fun row => row.localAccountId == account &&
          row.remoteActorId == actor && row.activityId == activityId && row.state == .pending)
          (fun row => { row with state := .accepted }) db.inbox.relations.follows } } }

def isActive (row : RemoteFollowing) : Bool := row.deactivatedAt.isNone

/-- Follow the replacement of a moved actor, unless it is followed already. -/
def followTarget (moved : RemoteFollowing) (target : AccountId) (followId : String) :
    Option (List RemoteFollowing) :=
  if db.inbox.relations.following.any fun row => row.localAccountId == moved.localAccountId &&
      row.remoteActorId == target && isActive row
  then some db.inbox.relations.following
  else insertRemoteFollowing db
    ⟨moved.localAccountId, target, followId, .pending, moved.showReblogs, moved.notify, none⟩

/-- Put the replacement of a moved actor on the lists that have the actor. -/
def copyMemberships (owner actor target : AccountId) : List RemoteMember :=
  let memberships := db.members.filter fun member =>
    member.remoteActorId == actor && ownedBy db owner member.listId
  db.members ++ (memberships.map fun member => RemoteMember.mk member.listId target).filter
    fun member => !db.members.contains member

/-- Move one accepted local follow to a verified replacement actor. The target is
allowed by policy, and unless either side blocks the other; `followId` names the
Follow of the target. -/
def migrateRemoteFollowingForActorMove (moved : RemoteFollowing) (target : AccountId)
    (policyAllows : Bool) (followId : String) (now : Int) : Option Db :=
  let account := moved.localAccountId
  let allowTarget := policyAllows && !localRemoteAccountsAreBlocked db.inbox account target
  let source (row : RemoteFollowing) : Bool := row.localAccountId == account &&
    row.remoteActorId == moved.remoteActorId && row.activityId == moved.activityId &&
    row.state == .accepted && isActive row
  let actor := db.remoteActors.find? fun cached => cached.id == moved.remoteActorId
  let deactivate (row : RemoteFollowing) : RemoteFollowing := { row with deactivatedAt := some now }
  if !db.inbox.relations.following.any source then some db
  else if actor.bind CachedActor.movedTo ≠ some target then some db
  else
    let followed := if allowTarget then followTarget db moved target followId
      else some db.inbox.relations.following
    let members := if allowTarget then copyMemberships db account moved.remoteActorId target
      else db.members
    let remaining := removeRemoteAccountFromOwnedLists { db with members := members } account
      moved.remoteActorId
    followed.map fun following =>
      withFollowing { db with members := remaining } (Table.updateWhere source deactivate following)

/-- A transaction on the relationships of a local account and a remote actor. -/
inductive Transaction where
  | blockRemoteAccount (account actor : AccountId)
  | unblockRemoteAccount (account actor : AccountId)
  | processRemoteBlock (actor account : AccountId) (activityId : String)
  | processRemoteUndoBlock (actor account : AccountId) (activityId : String)
  | createRemoteFollowing (account actor : AccountId) (activityId : String)
      (showReblogs notify : Bool)
  | upsertRemoteFollow (actor account : AccountId) (activityId : String) (activity : Json)
      (state : RemoteFollowState)
  | acceptRemoteFollow (account actor : AccountId) (activityId : String)
  | migrateRemoteFollowing (moved : RemoteFollowing) (target : AccountId) (policyAllows : Bool)
      (followId : String) (now : Int)

def perform : Transaction → Option Db
  | .blockRemoteAccount account actor => blockRemoteAccount db account actor
  | .unblockRemoteAccount account actor => some (unblockRemoteAccount db account actor)
  | .processRemoteBlock actor account activityId =>
      some (processRemoteBlock db actor account activityId)
  | .processRemoteUndoBlock actor account activityId =>
      some (processRemoteUndoBlock db actor account activityId)
  | .createRemoteFollowing account actor activityId showReblogs notify =>
      createRemoteFollowing db account actor activityId showReblogs notify
  | .upsertRemoteFollow actor account activityId activity state =>
      upsertRemoteFollow db actor account activityId activity state
  | .acceptRemoteFollow account actor activityId =>
      some (acceptRemoteFollow db account actor activityId)
  | .migrateRemoteFollowing moved target policyAllows followId now =>
      migrateRemoteFollowingForActorMove db moved target policyAllows followId now

/-!
## Both together
-/

structure System where
  localAccounts : State Key Row Position
  remoteActors : Db

/-- One statement of a local transaction, or a whole remote one. -/
inductive System.Step : System → System → Prop
  | statement {system : System} {event : Event Position} {next : State Key Row Position}
      (step : ReadCommitted.Step code system.localAccounts event next) :
      System.Step system { system with localAccounts := next }
  | transaction {system : System} {transaction : Transaction} {next : Db}
      (performed : perform system.remoteActors transaction = some next) :
      System.Step system { system with remoteActors := next }

end Roosty.Account
