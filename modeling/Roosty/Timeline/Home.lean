import Roosty.Library.Result
import Roosty.Timeline.Account

/-!
# The home timeline and the streams of boosts

The home timeline merges five queries and renders each item for its viewer. A boost is
also sent at once, to those whose timelines will show it. One rendering is sent to all.
-/

set_option autoImplicit false

namespace Roosty.Timeline

open Library

/-!
## Tables
-/

structure AccountMute where
  accountId : AccountId
  targetId : AccountId
  expiresAt : Option Int
deriving DecidableEq

structure LocalStatusReblog where
  id : StatusId
  accountId : AccountId
  statusId : StatusId
deriving DecidableEq

structure LocalRemoteStatusReblog where
  id : StatusId
  localAccountId : AccountId
  remoteStatusId : StatusId
deriving DecidableEq

structure RemoteStatusReblog where
  id : StatusId
  remoteActorId : AccountId
  target : StatusReference
  activityId : String
deriving DecidableEq

structure LocalList where
  id : Nat
  accountId : AccountId
  exclusive : Bool
deriving DecidableEq

structure ListMember where
  listId : Nat
  accountId : AccountId
deriving DecidableEq

structure HomeDb extends Db where
  now : Int
  localAccountMutes : List AccountMute
  localRemoteAccountMutes : List AccountMute
  /-- Blocks of local accounts by remote actors. -/
  remoteLocalAccountBlocks : List AccountPair
  localStatusReblogs : List LocalStatusReblog
  localRemoteStatusReblogs : List LocalRemoteStatusReblog
  remoteStatusReblogs : List RemoteStatusReblog
  localLists : List LocalList
  localListLocalMembers : List ListMember
  localListRemoteMembers : List ListMember
  localTagFollows : List (AccountId × Nat)
  localStatusTags : List (StatusId × Nat)
  remoteStatusTags : List (StatusId × Nat)

/-- Primary and foreign keys, the checks of the tables, and that an identifier is generated
once: no local account has that of a remote actor. -/
structure HomeDb.Keyed (db : HomeDb) : Prop extends db.toDb.Keyed where
  localStatusReblogs : (db.localStatusReblogs.map LocalStatusReblog.id).Nodup
  localRemoteStatusReblogs : (db.localRemoteStatusReblogs.map LocalRemoteStatusReblog.id).Nodup
  remoteStatusReblogs : (db.remoteStatusReblogs.map RemoteStatusReblog.id).Nodup
  localAuthors : ∀ status ∈ db.localStatuses, (findLocalAccountById db.toDb status.accountId).isSome
  remoteAuthors : ∀ status ∈ db.remoteStatuses,
    (findRemoteActorById db.toDb status.remoteActorId).isSome
  localBoosters : ∀ reblog ∈ db.localStatusReblogs,
    (findLocalAccountById db.toDb reblog.accountId).isSome
  localRemoteBoosters : ∀ reblog ∈ db.localRemoteStatusReblogs,
    (findLocalAccountById db.toDb reblog.localAccountId).isSome
  remoteBoosters : ∀ reblog ∈ db.remoteStatusReblogs,
    (findRemoteActorById db.toDb reblog.remoteActorId).isSome
  blocks : ∀ row ∈ db.localAccountBlocks, row.accountId ≠ row.targetId
  mutes : ∀ row ∈ db.localAccountMutes, row.accountId ≠ row.targetId
  accountsApart : ∀ account ∈ db.localAccounts, ∀ actor ∈ db.remoteActors, account.id ≠ actor.id

variable (db : HomeDb)

/-!
## Mutes and blocks
-/

def activeMute (mutes : List AccountMute) (account target : AccountId) : Bool :=
  mutes.any fun row =>
    row.accountId == account && row.targetId == target && row.expiresAt.all (db.now < ·)

def activeLocalAccountMute : AccountId → AccountId → Bool :=
  activeMute db db.localAccountMutes

def activeLocalRemoteAccountMute : AccountId → AccountId → Bool :=
  activeMute db db.localRemoteAccountMutes

def localAccountIsHiddenForViewer (viewer target : AccountId) : Bool :=
  localAccountsAreBlocked db.toDb viewer target || activeLocalAccountMute db viewer target

def remoteAccountIsHiddenForViewer (viewer actor : AccountId) : Bool :=
  blocksRemote db.toDb viewer actor || activeLocalRemoteAccountMute db viewer actor

def localRemoteAccountsAreBlocked (account actor : AccountId) : Bool :=
  blocksRemote db.toDb account actor || db.remoteLocalAccountBlocks.any fun row =>
    row.accountId == actor && row.targetId == account

def blockedLocalAccountIdsForAccount (account : AccountId) : List AccountId :=
  (db.localAccountBlocks.filter fun row =>
    row.accountId == account || row.targetId == account).map fun row =>
      if row.accountId == account then row.targetId else row.accountId

def mutedIds (mutes : List AccountMute) (account : AccountId) : List AccountId :=
  (mutes.filter fun row =>
    row.accountId == account && row.expiresAt.all (db.now < ·)).map AccountMute.targetId

/-- Hidden ids are only looked up, so they stay unsorted. -/
def hiddenLocalAccountIdsForAccount (account : AccountId) : List AccountId :=
  blockedLocalAccountIdsForAccount db account ++ mutedIds db db.localAccountMutes account

def hiddenRemoteActorIdsForAccount (account : AccountId) : List AccountId :=
  (db.localRemoteAccountBlocks.filter fun row => row.accountId == account).map
    AccountPair.targetId ++ mutedIds db db.localRemoteAccountMutes account

/-!
## Queries of the home timeline
-/

inductive HomeTimelineItem where
  | status (status : LocalStatus)
  | reblog (reblog : LocalStatusReblog)
  | remoteStatus (status : RemoteStatus)
  | localRemoteReblog (reblog : LocalRemoteStatusReblog)
  | remoteReblog (reblog : RemoteStatusReblog)
deriving DecidableEq

def timelineItemId : HomeTimelineItem → StatusId
  | .status status => status.id
  | .reblog reblog => reblog.id
  | .remoteStatus status => status.id
  | .localRemoteReblog reblog => reblog.id
  | .remoteReblog reblog => reblog.id

def exclusiveListIds (account : AccountId) : List Nat :=
  (db.localLists.filter fun list => list.accountId == account && list.exclusive).map LocalList.id

def exclusiveIds (members : List ListMember) (account : AccountId) : List AccountId :=
  (members.filter fun member => (exclusiveListIds db account).contains member.listId).map
    ListMember.accountId

def exclusiveLocalIds (account : AccountId) : List AccountId :=
  exclusiveIds db db.localListLocalMembers account

def exclusiveRemoteIds (account : AccountId) : List AccountId :=
  exclusiveIds db db.localListRemoteMembers account

def followedIds (account : AccountId) : List AccountId :=
  (db.localFollows.filter fun row => row.followerAccountId == account &&
    !(exclusiveLocalIds db account).contains row.followedAccountId).map
      LocalFollow.followedAccountId

def reblogFollowedIds (account : AccountId) : List AccountId :=
  (db.localFollows.filter fun row => row.followerAccountId == account &&
    !(exclusiveLocalIds db account).contains row.followedAccountId && row.showReblogs).map
      LocalFollow.followedAccountId

def reblogAccountIds (account : AccountId) : List AccountId :=
  account :: reblogFollowedIds db account

def followedTagIds (account : AccountId) : List Nat :=
  (db.localTagFollows.filter fun row => row.1 == account).map Prod.snd

def hasTag (tags : List (StatusId × Nat)) (status : StatusId) (tagIds : List Nat) : Bool :=
  tags.any fun row => row.1 == status && tagIds.contains row.2

def isFollowable (visibility : StatusVisibility) : Bool :=
  [StatusVisibility.publicStatus, .unlisted, .privateStatus].contains visibility

def statusListed (account : AccountId) (status : LocalStatus) : Bool :=
  (status.accountId == account ||
    ((followedIds db account).contains status.accountId && isFollowable status.visibility) ||
    (status.visibility == .privateStatus &&
      addresses db.localStatusRecipients status.id account) ||
    (status.visibility == .publicStatus &&
      hasTag db.localStatusTags status.id (followedTagIds db account))) &&
  status.deletedAt.isNone &&
  !(hiddenLocalAccountIdsForAccount db account).contains status.accountId &&
  !(exclusiveLocalIds db account).contains status.accountId

def reblogListed (account : AccountId) (reblog : LocalStatusReblog) : Bool :=
  (reblogAccountIds db account).contains reblog.accountId &&
    !(hiddenLocalAccountIdsForAccount db account).contains reblog.accountId

/-- Hidden boosters are not left out. -/
def localRemoteReblogListed (account : AccountId) (reblog : LocalRemoteStatusReblog) : Bool :=
  (reblogAccountIds db account).contains reblog.localAccountId

def remoteStatusHomeListed (account : AccountId) (status : RemoteStatus) : Bool :=
  ((followsRemote db.toDb account status.remoteActorId &&
      !(exclusiveRemoteIds db account).contains status.remoteActorId &&
      isFollowable status.visibility) ||
    (status.visibility == .privateStatus &&
      addresses db.remoteStatusRecipients status.id account) ||
    (status.visibility == .publicStatus &&
      hasTag db.remoteStatusTags status.id (followedTagIds db account))) &&
  status.deletedAt.isNone &&
  !(hiddenRemoteActorIdsForAccount db account).contains status.remoteActorId &&
  !(exclusiveRemoteIds db account).contains status.remoteActorId

def remoteReblogListed (account : AccountId) (reblog : RemoteStatusReblog) : Bool :=
  (db.remoteFollowings.any fun row =>
    row.localAccountId == account && row.remoteActorId == reblog.remoteActorId &&
      row.state == .accepted && row.showReblogs && row.deactivatedAt.isNone) &&
  !(exclusiveRemoteIds db account).contains reblog.remoteActorId &&
  !(hiddenRemoteActorIdsForAccount db account).contains reblog.remoteActorId

/-- One query: the listed rows that the cursor admits, one more than the page holds. -/
def newestListed {Row : Type} (id : Row → StatusId) (listed : Row → Bool) (limit : Nat)
    (cursor : TimelineCursor) (rows : List Row) : List Row :=
  (Paging.newestFirst (fun row => (id row).value)
    (rows.filter fun row => listed row && applyTimelineCursor cursor (id row))).take
      (pageQueryLimit limit)

def homeTimelineCandidates (account : AccountId) (limit : Nat) (cursor : TimelineCursor) :
    List HomeTimelineItem :=
  (newestListed LocalStatus.id (statusListed db account) limit cursor db.localStatuses).map
      .status ++
    (newestListed LocalStatusReblog.id (reblogListed db account) limit cursor
      db.localStatusReblogs).map .reblog ++
    (newestListed RemoteStatus.id (remoteStatusHomeListed db account) limit cursor
      db.remoteStatuses).map .remoteStatus ++
    (newestListed LocalRemoteStatusReblog.id (localRemoteReblogListed db account) limit cursor
      db.localRemoteStatusReblogs).map .localRemoteReblog ++
    (newestListed RemoteStatusReblog.id (remoteReblogListed db account) limit cursor
      db.remoteStatusReblogs).map .remoteReblog

def homeTimelineForAccount (account : AccountId) (limit : Nat) (cursor : TimelineCursor) :
    Paging.Page HomeTimelineItem :=
  let key := fun item => (timelineItemId item).value
  let (items, hasMore) :=
    Paging.trimToPage (Paging.newestFirst key (homeTimelineCandidates db account limit cursor)) limit
  ⟨items, items.head?.map key, items.getLast?.map key, hasMore⟩

/-!
## Rendering
-/

inductive StatusAccountResponse where
  | localAccount (id : AccountId)
  | remoteActor (id : AccountId)
deriving DecidableEq

inductive StatusBody where
  | localStatus (status : LocalStatus)
  | remoteStatus (status : RemoteStatus)
deriving DecidableEq

/-- A status with its author, or a boost with the original inside. -/
inductive StatusResponse where
  | status (status : StatusBody)
  | reblog (id : StatusId) (account : StatusAccountResponse) (reblog : StatusBody)
deriving DecidableEq

def statusWithAuthor (status : LocalStatus) : Except RoostyError StatusBody := do
  let _ ← okOr (findLocalAccountById db.toDb status.accountId)
    (.invalidInput "status author does not exist")
  return .localStatus status

def remoteStatusResponseForViewer (status : RemoteStatus) : Except RoostyError StatusBody := do
  let _ ← okOr (findRemoteActorById db.toDb status.remoteActorId)
    (.invalidInput "remote status author does not exist")
  return .remoteStatus status

def actorIsSuspended (actor : RemoteActor) : Bool :=
  actor.suspendedAt.isSome || db.domainIsSuspended actor.domain

def remoteStatusAvailable (status : RemoteStatus) : Bool :=
  match findRemoteActorById db.toDb status.remoteActorId with
  | none => false
  | some actor => !actorIsSuspended db actor

def reblogResponse (reblog : LocalStatusReblog) (viewer : Option AccountId) :
    Except RoostyError (Option StatusResponse) :=
  match findLocalStatusById db.toDb reblog.statusId with
  | none => .ok none
  | some original =>
      if !statusVisibleToViewerOn db.toDb original viewer then .ok none
      else match findLocalAccountById db.toDb reblog.accountId with
        | none => .ok none
        | some account => do
            let original ← statusWithAuthor db original
            return some (.reblog reblog.id (.localAccount account.id) original)

def localRemoteReblogResponse (reblog : LocalRemoteStatusReblog) :
    Except RoostyError (Option StatusResponse) :=
  match findRemoteStatusById db.toDb reblog.remoteStatusId with
  | none => .ok none
  | some original =>
      match findLocalAccountById db.toDb reblog.localAccountId with
      | none => .ok none
      | some account => do
          let original ← remoteStatusResponseForViewer db original
          return some (.reblog reblog.id (.localAccount account.id) original)

def remoteStatusVisibleToViewer (status : RemoteStatus) : Option AccountId → Bool
  | none => isOpen status.visibility
  | some viewer => remoteStatusVisibleToAccount db.toDb status viewer

/-- The original of a remote boost, where the viewer may read it. -/
def remoteReblogOriginal (target : StatusReference) (viewer : Option AccountId) :
    Except RoostyError (Option StatusBody) :=
  match target with
  | .localStatus id =>
      match findLocalStatusById db.toDb id with
      | none => .ok none
      | some status =>
          if !statusVisibleToViewerOn db.toDb status viewer then .ok none
          else some <$> statusWithAuthor db status
  | .remoteStatus id =>
      match findRemoteStatusById db.toDb id with
      | none => .ok none
      | some status =>
          if !remoteStatusVisibleToViewer db status viewer then .ok none
          else some <$> remoteStatusResponseForViewer db status

def remoteReblogResponse (reblog : RemoteStatusReblog) (viewer : Option AccountId) :
    Except RoostyError (Option StatusResponse) := do
  let actor ← okOr (findRemoteActorById db.toDb reblog.remoteActorId)
    (.invalidInput "remote boost actor does not exist")
  if actorIsSuspended db actor then return none
  if viewer.any fun viewer => remoteAccountIsHiddenForViewer db viewer reblog.remoteActorId then
    return none
  let original ← remoteReblogOriginal db reblog.target viewer
  return original.map (.reblog reblog.id (.remoteActor actor.id))

/-- One round of the loop of `home_timeline_models`. -/
def homeTimelineModel (viewer : AccountId) : HomeTimelineItem →
    Except RoostyError (Option StatusResponse)
  | .status status => do return some (.status (← statusWithAuthor db status))
  | .reblog reblog => reblogResponse db reblog (some viewer)
  | .remoteStatus status =>
      if !remoteStatusAvailable db status then .ok none
      else do return some (.status (← remoteStatusResponseForViewer db status))
  | .localRemoteReblog reblog =>
      match findRemoteStatusById db.toDb reblog.remoteStatusId with
      | none => .ok none
      | some original =>
          if !remoteStatusAvailable db original ||
              remoteAccountIsHiddenForViewer db viewer original.remoteActorId then .ok none
          else localRemoteReblogResponse db reblog
  | .remoteReblog reblog => remoteReblogResponse db reblog (some viewer)

def homeTimelineModels (viewer : AccountId) : List HomeTimelineItem →
    Except RoostyError (List StatusResponse)
  | [] => .ok []
  | item :: items => do
      let response ← homeTimelineModel db viewer item
      let responses ← homeTimelineModels viewer items
      return response.toList ++ responses

def homeTimeline (viewer : AccountId) (limit : Option Nat) (cursor : TimelineCursor) :
    Except RoostyError (List StatusResponse) :=
  homeTimelineModels db viewer (homeTimelineForAccount db viewer (timelineLimit limit) cursor).items

/-!
## Streams
-/

/-- An `update` event that is not for the public streams. -/
structure HomeUpdate where
  payload : StatusResponse
  accountId : AccountId
  userRecipientIds : List AccountId
deriving DecidableEq

def publishHomeUpdate (status : StatusResponse) (authorId : AccountId)
    (recipients : List AccountId) : HomeUpdate :=
  ⟨status, authorId, recipients⟩

/-- `is_visible_to_stream` on the `user` stream. -/
def HomeUpdate.isVisibleToUser (event : HomeUpdate) (account : AccountId) : Bool :=
  event.accountId == account || event.userRecipientIds.contains account

def localFollowerIdsForAccount (account : AccountId) (includeReblogMuted : Bool) :
    List AccountId :=
  (db.localFollows.filter fun row =>
    row.followedAccountId == account && (includeReblogMuted || row.showReblogs)).map
      LocalFollow.followerAccountId

def filterStreamRecipients (authorId : AccountId) (recipients : List AccountId) : List AccountId :=
  recipients.filter fun recipient => !localAccountIsHiddenForViewer db recipient authorId

def reblogStreamRecipients (account : AccountId) : List AccountId :=
  filterStreamRecipients db account (localFollowerIdsForAccount db account false)

inductive ApiError where
  | badRequest (message : String)
  | notFound (message : String)
  | internal (error : RoostyError)
deriving DecidableEq

def liftInternal {Value : Type} : Except RoostyError Value → Except ApiError Value
  | .ok value => .ok value
  | .error error => .error (.internal error)

structure PendingStatusNotification where
  accountId : AccountId
  statusId : StatusId
deriving DecidableEq

structure StatusCollectionOutcome where
  response : StatusResponse
  notifications : List PendingStatusNotification
  streamEvents : List (StatusResponse × List AccountId)
deriving DecidableEq

def visibleStatusForAccount (statusId : StatusId) (account : AccountId) : Option LocalStatus :=
  (findLocalStatusById db.toDb statusId).filter fun status =>
    statusVisibleToViewerOn db.toDb status (some account)

def reblogLocalStatus (account : AccountId) (statusId newId : StatusId) :
    HomeDb × LocalStatusReblog :=
  match db.localStatusReblogs.find? fun row => row.accountId == account && row.statusId == statusId with
  | some reblog => (db, reblog)
  | none =>
      let reblog := ⟨newId, account, statusId⟩
      ({ db with localStatusReblogs := db.localStatusReblogs ++ [reblog] }, reblog)

def findRemoteStatusReblog (account : AccountId) (statusId : StatusId) :
    Option LocalRemoteStatusReblog :=
  db.localRemoteStatusReblogs.find? fun row =>
    row.localAccountId == account && row.remoteStatusId == statusId

/-- `prove_local_activity`, which fails for an account whose key cannot be used. -/
structure ActivityProofs where
  proveLocalActivity : AccountId → Except RoostyError Unit

/-- Build the Announce of a boost; the delivery itself is left out. -/
def prepareRemoteReblog (proofs : ActivityProofs) (account : AccountId) (remote : RemoteStatus) :
    Except RoostyError Unit := do
  let _ ← okOr (findLocalAccountById db.toDb account)
    (.invalidInput "local boost actor does not exist")
  let _ ← okOr (findRemoteActorById db.toDb remote.remoteActorId)
    (.invalidInput "remote boost status author does not exist")
  proofs.proveLocalActivity account

def reblogRemoteStatus (proofs : ActivityProofs) (account : AccountId) (remote : RemoteStatus)
    (newId : StatusId) : Except RoostyError (HomeDb × LocalRemoteStatusReblog) :=
  match findRemoteStatusReblog db account remote.id with
  | some reblog => .ok (db, reblog)
  | none => do
      prepareRemoteReblog db proofs account remote
      let reblog := ⟨newId, account, remote.id⟩
      return ({ db with localRemoteStatusReblogs := db.localRemoteStatusReblogs ++ [reblog] }, reblog)

/-- The `Reblog` action of `status_collection_action` on a cached remote status. -/
def reblogActionRemote (proofs : ActivityProofs) (account : AccountId) (remote : RemoteStatus)
    (newId : StatusId) : Except ApiError (HomeDb × StatusCollectionOutcome) := do
  let (db, reblog) ← liftInternal (reblogRemoteStatus db proofs account remote newId)
  let response ← liftInternal (localRemoteReblogResponse db reblog)
  let response ← okOr response (.notFound "Record not found")
  return (db, ⟨response, [], [(response, reblogStreamRecipients db account)]⟩)

/-- The `Reblog` action of `status_collection_action` on a local status. -/
def reblogActionLocal (account : AccountId) (status : LocalStatus) (newId : StatusId) :
    Except ApiError (HomeDb × StatusCollectionOutcome) := do
  let (db, reblog) := reblogLocalStatus db account status.id newId
  let notifications :=
    if status.accountId != account then [⟨status.accountId, status.id⟩] else []
  let response ← liftInternal (reblogResponse db reblog (some account))
  let response ← okOr response (.notFound "Record not found")
  return (db, ⟨response, notifications, [(response, reblogStreamRecipients db account)]⟩)

/-- The `Reblog` action of `status_collection_action`. -/
def statusCollectionReblog (proofs : ActivityProofs) (account : AccountId)
    (statusId newId : StatusId) : Except ApiError (HomeDb × StatusCollectionOutcome) :=
  match visibleStatusForAccount db statusId account with
  | none => do
      let remote ← okOr (findRemoteStatusById db.toDb statusId) (.notFound "Record not found")
      if !remoteStatusVisibleToAccount db.toDb remote account then
        throw (.notFound "Record not found")
      if remote.visibility = .privateStatus then
        throw (.badRequest "private statuses cannot be boosted")
      reblogActionRemote db proofs account remote newId
  | some status =>
      if status.visibility = .privateStatus ∧ status.accountId ≠ account then
        .error (.badRequest "private statuses cannot be boosted")
      else reblogActionLocal db account status newId

/-- The events that `status_collection_action_with_database` publishes after the commit. -/
def publishOutcome (account : AccountId) (outcome : StatusCollectionOutcome) : List HomeUpdate :=
  outcome.streamEvents.map fun event => publishHomeUpdate event.1 account event.2

def acceptedLocalReblogFollowersOfRemoteActor (actor : AccountId) : List AccountId :=
  ((db.remoteFollowings.filter fun row =>
    row.remoteActorId == actor && row.state == .accepted && row.deactivatedAt.isNone &&
      row.showReblogs).map RemoteFollowing.localAccountId).filter fun account =>
        !localRemoteAccountsAreBlocked db account actor

def filterRemoteStreamRecipients (actor : AccountId) (recipients : List AccountId) :
    List AccountId :=
  recipients.filter fun recipient => !remoteAccountIsHiddenForViewer db recipient actor

def remoteReblogRecipients (actor : AccountId) : List AccountId :=
  filterRemoteStreamRecipients db actor (acceptedLocalReblogFollowersOfRemoteActor db actor)

def findRemoteStatusReblogByActivityId (actor : AccountId) (activityId : String) :
    Option RemoteStatusReblog :=
  db.remoteStatusReblogs.find? fun row =>
    row.remoteActorId == actor && row.activityId == activityId

/-- Publish a remote actor's newly stored boost to accounts following that actor. The boost
is rendered for the first of them. -/
def publishRemoteReblogUpdate (actor : AccountId) (activityId : String) :
    Except RoostyError (Option HomeUpdate) :=
  match findRemoteStatusReblogByActivityId db actor activityId with
  | none => .ok none
  | some reblog => do
      let recipients := remoteReblogRecipients db actor
      let response ← remoteReblogResponse db reblog recipients.head?
      return response.map fun response => publishHomeUpdate response actor recipients

end Roosty.Timeline
