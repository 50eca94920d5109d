import Roosty.Core
import Roosty.Library.Table

/-!
# Visibility of statuses

The rows that decide who may read a status, and the checks of a single status. Rows keep
the columns that a check or a listing of statuses reads.
-/

set_option autoImplicit false

namespace Roosty.Timeline

open Library

/-!
## Tables
-/

structure LocalAccount where
  id : AccountId
  suspendedAt : Option Int
deriving DecidableEq

structure RemoteActor where
  id : AccountId
  domain : String
  deletedAt : Option Int
  suspendedAt : Option Int
  dataPurgedAt : Option Int
deriving DecidableEq

structure LocalStatus where
  id : StatusId
  accountId : AccountId
  visibility : StatusVisibility
  inReplyToId : Option StatusId
  inReplyToRemoteStatusId : Option StatusId
  deletedAt : Option Int
deriving DecidableEq

structure RemoteStatus where
  id : StatusId
  remoteActorId : AccountId
  visibility : StatusVisibility
  inReplyTo : Option String
  inReplyToLocalStatusId : Option StatusId
  inReplyToRemoteStatusId : Option StatusId
  deletedAt : Option Int
deriving DecidableEq

structure LocalFollow where
  followerAccountId : AccountId
  followedAccountId : AccountId
  showReblogs : Bool
deriving DecidableEq

inductive RemoteFollowState where
  | pending
  | accepted
deriving DecidableEq

structure RemoteFollowing where
  localAccountId : AccountId
  remoteActorId : AccountId
  state : RemoteFollowState
  showReblogs : Bool
  deactivatedAt : Option Int
deriving DecidableEq

structure Recipient where
  statusId : StatusId
  accountId : AccountId
deriving DecidableEq

structure AccountPair where
  accountId : AccountId
  targetId : AccountId
deriving DecidableEq

structure Db where
  localAccounts : List LocalAccount
  remoteActors : List RemoteActor
  localStatuses : List LocalStatus
  remoteStatuses : List RemoteStatus
  localFollows : List LocalFollow
  remoteFollowings : List RemoteFollowing
  localStatusRecipients : List Recipient
  remoteStatusRecipients : List Recipient
  localAccountBlocks : List AccountPair
  localRemoteAccountBlocks : List AccountPair
  /-- `federation_domain_policy(domain).is_suspended()`. -/
  domainIsSuspended : String → Bool

structure Db.Keyed (db : Db) : Prop where
  localStatuses : (db.localStatuses.map LocalStatus.id).Nodup
  remoteStatuses : (db.remoteStatuses.map RemoteStatus.id).Nodup

variable (db : Db)

def findLocalStatusById (id : StatusId) : Option LocalStatus :=
  db.localStatuses.find? fun status => status.id == id && status.deletedAt.isNone

def findRemoteStatusById (id : StatusId) : Option RemoteStatus :=
  db.remoteStatuses.find? fun status => status.id == id && status.deletedAt.isNone

def findLocalAccountById (id : AccountId) : Option LocalAccount :=
  db.localAccounts.find? fun account => account.id == id

def findRemoteActorById (id : AccountId) : Option RemoteActor :=
  db.remoteActors.find? fun actor => actor.id == id

section

variable {db}

theorem findLocalStatusById_eq_some_iff (keyed : db.Keyed) {id : StatusId} {status : LocalStatus} :
    findLocalStatusById db id = some status ↔
      status ∈ db.localStatuses ∧ status.id = id ∧ status.deletedAt = none := by
  rw [findLocalStatusById, Table.find?_key_eq_some_iff keyed.localStatuses,
    Option.isNone_iff_eq_none]

theorem findRemoteStatusById_eq_some_iff (keyed : db.Keyed) {id : StatusId}
    {status : RemoteStatus} :
    findRemoteStatusById db id = some status ↔
      status ∈ db.remoteStatuses ∧ status.id = id ∧ status.deletedAt = none := by
  rw [findRemoteStatusById, Table.find?_key_eq_some_iff keyed.remoteStatuses,
    Option.isNone_iff_eq_none]

end

/-!
## One status
-/

def isOpen (visibility : StatusVisibility) : Bool :=
  visibility == .publicStatus || visibility == .unlisted

def follows (follower followed : AccountId) : Bool :=
  db.localFollows.any fun row =>
    row.followerAccountId == follower && row.followedAccountId == followed

def followsRemote (account actor : AccountId) : Bool :=
  db.remoteFollowings.any fun row =>
    row.localAccountId == account && row.remoteActorId == actor && row.state == .accepted &&
      row.deactivatedAt.isNone

def addresses (recipients : List Recipient) (status : StatusId) (account : AccountId) : Bool :=
  recipients.any fun row => row.statusId == status && row.accountId == account

def localAccountsAreBlocked (first second : AccountId) : Bool :=
  first != second && db.localAccountBlocks.any fun row =>
    (row.accountId == first && row.targetId == second) ||
      (row.accountId == second && row.targetId == first)

def blocksRemote (account actor : AccountId) : Bool :=
  db.localRemoteAccountBlocks.any fun row => row.accountId == account && row.targetId == actor

def localStatusVisibleToAccount (status : LocalStatus) (account : AccountId) : Bool :=
  if isOpen status.visibility || status.accountId == account then true
  else if status.visibility == .privateStatus && follows db account status.accountId then true
  else addresses db.localStatusRecipients status.id account

def remoteStatusVisibleToAccount (status : RemoteStatus) (account : AccountId) : Bool :=
  if blocksRemote db account status.remoteActorId then false
  else if isOpen status.visibility then true
  else if status.visibility == .privateStatus && followsRemote db account status.remoteActorId then
    true
  else addresses db.remoteStatusRecipients status.id account

def canViewStatus (status : LocalStatus) (viewer : Option AccountId) : Bool :=
  isOpen status.visibility || viewer == some status.accountId

def statusVisibleToViewerOn (status : LocalStatus) (viewer : Option AccountId) : Bool :=
  match viewer with
  | none => canViewStatus status none
  | some viewer =>
      if viewer != status.accountId && localAccountsAreBlocked db viewer status.accountId then false
      else if canViewStatus status (some viewer) then true
      else localStatusVisibleToAccount db status viewer

section

variable {db} {viewer : AccountId}

theorem statusVisibleToViewerOn_iff {status : LocalStatus} :
    statusVisibleToViewerOn db status (some viewer) = true ↔
      localAccountsAreBlocked db viewer status.accountId = false ∧
        (isOpen status.visibility = true ∨ viewer = status.accountId ∨
          (status.visibility = .privateStatus ∧ follows db viewer status.accountId = true) ∨
          addresses db.localStatusRecipients status.id viewer = true) := by
  by_cases own : viewer = status.accountId
  · simp [statusVisibleToViewerOn, canViewStatus, localAccountsAreBlocked, own]
  · have other : ¬status.accountId = viewer := fun same => own same.symm
    cases blocked : localAccountsAreBlocked db viewer status.accountId with
    | true => simp [statusVisibleToViewerOn, own, blocked]
    | false =>
        simp [statusVisibleToViewerOn, canViewStatus, localStatusVisibleToAccount, own, other,
          blocked]

theorem remoteStatusVisibleToAccount_iff {status : RemoteStatus} :
    remoteStatusVisibleToAccount db status viewer = true ↔
      blocksRemote db viewer status.remoteActorId = false ∧
        (isOpen status.visibility = true ∨
          (status.visibility = .privateStatus ∧
            followsRemote db viewer status.remoteActorId = true) ∨
          addresses db.remoteStatusRecipients status.id viewer = true) := by
  cases blocked : blocksRemote db viewer status.remoteActorId with
  | true => simp [remoteStatusVisibleToAccount, blocked]
  | false => simp [remoteStatusVisibleToAccount, blocked]

end

end Roosty.Timeline
