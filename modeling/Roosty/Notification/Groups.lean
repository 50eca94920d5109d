import Roosty.Library.Grouping
import Roosty.Library.Keyset
import Roosty.Notification.Requests
import Roosty.Timeline.Tag

/-!
# Notification groups

Favourites, follows and boosts with one stored group are shown as one notification. A group
is named by a key that the query concatenates, and that is parsed again when the group is
shown or dismissed. Rows keep the columns that these queries read.
-/

set_option autoImplicit false

namespace Roosty.Notification.Groups

open Library

/-!
## Tables
-/

structure LocalNotification where
  id : NotificationId
  accountId : AccountId
  notificationType : LocalNotificationType
  actorAccountId : Option AccountId
  remoteActorId : Option AccountId
  statusId : Option StatusId
  remoteStatusId : Option StatusId
  groupId : Option Nat
  filtered : Bool
  createdAt : Int
  dismissedAt : Option Int
deriving DecidableEq

structure LocalRemoteAccountBlock where
  localAccountId : AccountId
  remoteActorId : AccountId
deriving DecidableEq

structure LocalRemoteAccountMute where
  localAccountId : AccountId
  remoteActorId : AccountId
  expiresAt : Option Int
deriving DecidableEq

structure Db where
  notifications : List LocalNotification
  localRemoteAccountBlocks : List LocalRemoteAccountBlock
  localRemoteAccountMutes : List LocalRemoteAccountMute
  now : Int

structure NotificationFilter where
  includeTypes : List LocalNotificationType := []
  excludeTypes : List LocalNotificationType := []
  accountId : Option AccountId := none
  includeFiltered : Bool := false

structure NotificationGroup where
  groupKey : String
  notificationsCount : Nat
  notificationType : LocalNotificationType
  mostRecentNotificationId : NotificationId
  pageMinId : NotificationId
  pageMaxId : NotificationId
  latestPageNotificationAt : Int
  sampleAccountIds : List AccountId
  statusId : Option StatusId
  remoteStatus : Bool
deriving DecidableEq

def asStr : LocalNotificationType → String
  | .mention => "mention"
  | .favourite => "favourite"
  | .follow => "follow"
  | .followRequest => "follow_request"
  | .reblog => "reblog"
  | .status => "status"
  | .update => "update"
  | .quote => "quote"
  | .quotedUpdate => "quoted_update"
  | .poll => "poll"
  | .adminReport => "admin.report"

/-!
## Listing groups
-/

section

variable (db : Db) (accountId : AccountId)

/-- Hidden ids are only looked up, so they stay unsorted. -/
def hiddenRemoteActorIdsForAccount : List AccountId :=
  (db.localRemoteAccountBlocks.filter fun row => row.localAccountId == accountId).map
      LocalRemoteAccountBlock.remoteActorId ++
    (db.localRemoteAccountMutes.filter fun row =>
      row.localAccountId == accountId && row.expiresAt.all (db.now < ·)).map
        LocalRemoteAccountMute.remoteActorId

/-- The remote actor of a notification is not hidden, if it has one. -/
def unhidden (row : LocalNotification) : Bool :=
  row.remoteActorId.all fun actor => !(hiddenRemoteActorIdsForAccount db accountId).contains actor

def conditions (filter : NotificationFilter) (row : LocalNotification) : Bool :=
  row.accountId == accountId && row.dismissedAt.isNone &&
    (filter.includeFiltered || !row.filtered) &&
    (filter.includeTypes.isEmpty || filter.includeTypes.contains row.notificationType) &&
    (filter.excludeTypes.isEmpty || !filter.excludeTypes.contains row.notificationType) &&
    (filter.accountId.all fun actor =>
      row.actorAccountId == some actor || row.remoteActorId == some actor) &&
    unhidden db accountId row

end

def groupableTypes : List LocalNotificationType := [.favourite, .follow, .reblog]

def groupable (groupedTypes : List LocalNotificationType) : List LocalNotificationType :=
  groupedTypes.filter groupableTypes.contains

/-- `COALESCE(actor_account_id, remote_actor_id)`. -/
def sourceAccountId (row : LocalNotification) : Option AccountId :=
  row.actorAccountId.or row.remoteActorId

section

variable (grouped : List LocalNotificationType)

def effectiveGroupKey (row : LocalNotification) : String :=
  match row.groupId with
  | some groupId =>
      if grouped.contains row.notificationType then
        asStr row.notificationType ++ "-" ++ Text.uuidText groupId
      else "ungrouped-" ++ Text.uuidText row.id.value
  | none => "ungrouped-" ++ Text.uuidText row.id.value

variable (effective : List LocalNotification)

/-- The sources of the newest notifications of a group, each once. -/
def sampleAccountIds (groupKey : String) : List AccountId :=
  let rows := effective.filter fun row =>
    effectiveGroupKey grouped row == groupKey && (sourceAccountId row).isSome
  let distinctActors := Grouping.distinctOn sourceAccountId (fun row => row.id.value) rows
  ((Paging.newestFirst (fun row => row.id.value) distinctActors).take 8).filterMap sourceAccountId

/-- The columns of `GROUP BY`. -/
def groupColumns (row : LocalNotification) : String × LocalNotificationType :=
  (effectiveGroupKey grouped row, row.notificationType)

/-- The row of a group; `none` stands for a group without members, which no query returns. -/
def notificationGroupRow (group : String × LocalNotificationType) : Option NotificationGroup := do
  let rows := Grouping.members (groupColumns grouped) group effective
  let newest := Paging.newestFirst (fun row => row.id.value) rows
  let mostRecent ← newest.head?
  let oldest ← (Keyset.arrange (fun row => row.id.value) rows).head?
  let latest ← (rows.map LocalNotification.createdAt).max?
  some
    { groupKey := group.1
      notificationsCount := rows.length
      notificationType := group.2
      mostRecentNotificationId := mostRecent.id
      pageMinId := oldest.id
      pageMaxId := mostRecent.id
      latestPageNotificationAt := latest
      sampleAccountIds := sampleAccountIds grouped effective group.1
      statusId := (newest.filterMap fun row => row.statusId.or row.remoteStatusId).head?
      remoteStatus := rows.any fun row => row.remoteStatusId.isSome }

def notificationGroupRows : List NotificationGroup :=
  (Grouping.keys (groupColumns grouped) effective).filterMap (notificationGroupRow grouped effective)

end

section

variable (db : Db) (accountId : AccountId)

def notificationGroupsForAccount (limit : Nat) (cursor : Timeline.CollectionCursor)
    (filter : NotificationFilter) (groupedTypes : List LocalNotificationType) :
    Paging.Page NotificationGroup :=
  let effective := db.notifications.filter (conditions db accountId filter)
  let rows := notificationGroupRows (groupable groupedTypes) effective
  Paging.page (fun group => group.mostRecentNotificationId.value) limit (limit + 1)
    (rows.filter fun group =>
      Timeline.collectionCursorMatches group.mostRecentNotificationId.value cursor)

/-!
## One group
-/

def stripPrefix (front text : String) : Option String :=
  (text.toList.dropPrefix? front.toList).map String.ofList

def parseKindKey (groupKey : String) :
    List LocalNotificationType → Option (Option LocalNotificationType × Nat)
  | [] => none
  | kind :: kinds =>
      match stripPrefix (asStr kind ++ "-") groupKey with
      | some id => (Text.parseUuid id).map (some kind, ·)
      | none => parseKindKey groupKey kinds

def parseNotificationGroupKey (groupKey : String) :
    Option (Option LocalNotificationType × Nat) :=
  match stripPrefix "ungrouped-" groupKey with
  | some id => (Text.parseUuid id).map (none, ·)
  | none => parseKindKey groupKey groupableTypes

def inGroup (place : Option LocalNotificationType × Nat) (row : LocalNotification) : Bool :=
  match place with
  | (some kind, id) => row.notificationType == kind && row.groupId == some id
  | (none, id) => row.id.value == id

def notificationsInGroup (groupKey : String) : List LocalNotification :=
  match parseNotificationGroupKey groupKey with
  | none => []
  | some place =>
      Paging.newestFirst (fun row => row.id.value) (db.notifications.filter fun row =>
        row.accountId == accountId && row.dismissedAt.isNone && !row.filtered &&
          inGroup place row && unhidden db accountId row)

def dismissRows (rows : List LocalNotification) : Db :=
  let notifications := Table.updateWhere
    (fun row => (rows.map LocalNotification.id).contains row.id)
    (fun row => { row with dismissedAt := some db.now }) db.notifications
  { db with notifications := notifications }

/-- Soft-dismiss every row in one notification group owned by the recipient. -/
def dismissNotificationGroup (groupKey : String) : Db × Bool :=
  let rows := notificationsInGroup db accountId groupKey
  if rows.isEmpty then (db, false) else (dismissRows db rows, true)

end

end Roosty.Notification.Groups
