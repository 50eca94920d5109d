import Mathlib.Algebra.Group.Nat.Defs
import Mathlib.Order.Bounds.Basic
import Roosty.Library.UuidText
import Roosty.Notification.Groups

/-!
# Notification groups partition the notifications

A key is parsed back to what its rows have in common, so that the query of one group finds
the rows that were counted under the key. Walking the groups, whatever types are grouped,
shows every visible notification in one group.
-/

set_option autoImplicit false

namespace Roosty.Notification.Groups

open Library

/-!
## What groups are for
-/

/-- The recipient has blocked the actor, or mutes it still. -/
def Hidden (db : Db) (accountId actor : AccountId) : Prop :=
  (∃ block ∈ db.localRemoteAccountBlocks, block.localAccountId = accountId ∧
    block.remoteActorId = actor) ∨
  ∃ mute ∈ db.localRemoteAccountMutes, mute.localAccountId = accountId ∧
    mute.remoteActorId = actor ∧ ∀ time, mute.expiresAt = some time → db.now < time

/-- Notifications of an account that are neither dismissed nor filtered nor hidden. -/
def Visible (db : Db) (accountId : AccountId) (row : LocalNotification) : Prop :=
  row ∈ db.notifications ∧ row.accountId = accountId ∧ row.dismissedAt = none ∧
    row.filtered = false ∧ ∀ actor, row.remoteActorId = some actor → ¬Hidden db accountId actor

structure Samples (rows : List LocalNotification) (sample : List AccountId) : Prop where
  distinct : sample.Nodup
  few : sample.length ≤ 8
  sources : ∀ id ∈ sample, ∃ row ∈ rows, sourceAccountId row = some id
  newest : sample.Pairwise fun first second => ∃ newer ∈ rows, sourceAccountId newer = some first ∧
    ∀ older ∈ rows, sourceAccountId older = some second → older.id.value < newer.id.value
  rest : ∀ row ∈ rows, ∀ id, sourceAccountId row = some id → id ∉ sample → sample.length = 8 ∧
    ∀ other ∈ sample, ∃ newer ∈ rows, sourceAccountId newer = some other ∧
      row.id.value < newer.id.value

structure NotificationGroup.Describes (group : NotificationGroup) (rows : List LocalNotification) :
    Prop where
  count : rows.length = group.notificationsCount
  kind : ∀ row ∈ rows, row.notificationType = group.notificationType
  cursor : group.mostRecentNotificationId = group.pageMaxId
  greatest : IsGreatest {id | ∃ row ∈ rows, row.id.value = id} group.pageMaxId.value
  least : IsLeast {id | ∃ row ∈ rows, row.id.value = id} group.pageMinId.value
  samples : Samples rows group.sampleAccountIds

/-- The groups that a walk with the default filter shows. -/
def Shows (db : Db) (accountId : AccountId) (limit : Nat) (groupedTypes : List LocalNotificationType)
    (groups : List NotificationGroup) : Prop :=
  Paging.Walked (fun cursor => notificationGroupsForAccount db accountId limit ⟨cursor, none, none⟩
    {} groupedTypes) groups

structure Partitioned (db : Db) (accountId : AccountId) (limit : Nat)
    (groupedTypes : List LocalNotificationType) (groups : List NotificationGroup) : Prop where
  shown : Shows db accountId limit groupedTypes groups
  /-- Every visible notification is in one group, and nothing else is. -/
  once : (groups.flatMap fun group => notificationsInGroup db accountId group.groupKey).Nodup
  visible : ∀ row, row ∈ groups.flatMap (fun group =>
    notificationsInGroup db accountId group.groupKey) ↔ Visible db accountId row
  described : ∀ group ∈ groups, group.Describes (notificationsInGroup db accountId group.groupKey)
  dismissed : ∀ group ∈ groups, ∃ later,
    dismissNotificationGroup db accountId group.groupKey = (later, true) ∧
      (∀ viewer row, Visible later viewer row ↔ Visible db viewer row ∧
        row ∉ notificationsInGroup db accountId group.groupKey) ∧
      Shows later accountId limit groupedTypes (groups.filter fun other => other != group)

structure Db.Keyed (db : Db) : Prop where
  distinct : (db.notifications.map fun row => row.id.value).Nodup
  ids : ∀ row ∈ db.notifications, row.id.value < 2 ^ 128
  groupIds : ∀ row ∈ db.notifications, ∀ groupId ∈ row.groupId, groupId < 2 ^ 128

/-!
## Keys
-/

theorem stripPrefix_append (front text : String) : stripPrefix front (front ++ text) = some text := by
  rw [stripPrefix, String.toList_append,
    List.dropPrefix?_append_of_beq _ (beq_self_eq_true front.toList), Option.map_some,
    String.ofList_toList]

theorem stripPrefix_apart {front other : String} (text : String)
    (apart : ¬front.toList <+: other.toList ∧ ¬other.toList <+: front.toList) :
    stripPrefix front (other ++ text) = none := by
  rw [stripPrefix, Option.map_eq_none_iff, Option.eq_none_iff_forall_ne_some]
  intro rest stripped
  obtain ⟨start, whole, same⟩ := List.dropPrefix?_eq_some_iff.mp stripped
  obtain rfl := eq_of_beq same
  have front_prefix : front.toList <+: (other ++ text).toList := ⟨rest, whole.symm⟩
  have other_prefix : other.toList <+: (other ++ text).toList :=
    ⟨text.toList, String.toList_append.symm⟩
  rcases List.prefix_or_prefix_of_prefix front_prefix other_prefix with before | before
  · exact apart.1 before
  · exact apart.2 before

theorem parse_ungrouped {id : Nat} (bounded : id < 2 ^ 128) :
    parseNotificationGroupKey ("ungrouped-" ++ Text.uuidText id) = some (none, id) := by
  rw [parseNotificationGroupKey, stripPrefix_append]
  dsimp only
  rw [Text.parseUuid_uuidText bounded, Option.map_some]

theorem parse_kind {kind : LocalNotificationType} (listed : kind ∈ groupableTypes) {id : Nat}
    (bounded : id < 2 ^ 128) :
    parseNotificationGroupKey (asStr kind ++ "-" ++ Text.uuidText id) = some (some kind, id) := by
  have plain : ∀ kind ∈ groupableTypes,
      ¬"ungrouped-".toList <+: (asStr kind ++ "-").toList ∧
        ¬(asStr kind ++ "-").toList <+: "ungrouped-".toList := by decide
  have apart : ∀ kind ∈ groupableTypes, ∀ other ∈ groupableTypes, kind ≠ other →
      ¬(asStr other ++ "-").toList <+: (asStr kind ++ "-").toList ∧
        ¬(asStr kind ++ "-").toList <+: (asStr other ++ "-").toList := by decide
  have read : ∀ kinds ⊆ groupableTypes, kind ∈ kinds →
      parseKindKey (asStr kind ++ "-" ++ Text.uuidText id) kinds = some (some kind, id) := by
    intro kinds subset member
    induction kinds with
    | nil => cases member
    | cons first kinds ih =>
        rw [parseKindKey]
        by_cases same : first = kind
        · rw [same, stripPrefix_append]
          dsimp only
          rw [Text.parseUuid_uuidText bounded, Option.map_some]
        · rw [stripPrefix_apart _ (apart kind listed first (subset List.mem_cons_self) (Ne.symm same))]
          refine ih (List.Subset.trans (List.subset_cons_self _ _) subset) ?_
          exact (List.mem_cons.mp member).resolve_left (Ne.symm same)
  rw [parseNotificationGroupKey, stripPrefix_apart _ (plain kind listed)]
  exact read groupableTypes (List.Subset.refl _) listed

def place (grouped : List LocalNotificationType) (row : LocalNotification) :
    Option LocalNotificationType × Nat :=
  match row.groupId with
  | some groupId =>
      if grouped.contains row.notificationType then (some row.notificationType, groupId)
      else (none, row.id.value)
  | none => (none, row.id.value)

section

variable {db : Db} {accountId : AccountId} {grouped : List LocalNotificationType}
variable {row other : LocalNotification}

theorem parse_effectiveGroupKey (keyed : db.Keyed) (types : grouped ⊆ groupableTypes)
    (stored : row ∈ db.notifications) :
    parseNotificationGroupKey (effectiveGroupKey grouped row) = some (place grouped row) := by
  unfold effectiveGroupKey place
  cases group : row.groupId with
  | none => exact parse_ungrouped (keyed.ids row stored)
  | some groupId =>
      dsimp only
      split
      next listed =>
        exact parse_kind (types (List.contains_iff_mem.mp listed))
          (keyed.groupIds row stored groupId group)
      next => exact parse_ungrouped (keyed.ids row stored)

theorem inGroup_place (grouped : List LocalNotificationType) (row : LocalNotification) :
    inGroup (place grouped row) row = true := by
  unfold place
  split
  next groupId group =>
    split
    · simp [inGroup, group]
    · simp [inGroup]
  next => simp [inGroup]

theorem effectiveGroupKey_eq_iff (keyed : db.Keyed) (types : grouped ⊆ groupableTypes)
    (stored : row ∈ db.notifications) (otherStored : other ∈ db.notifications) :
    effectiveGroupKey grouped other = effectiveGroupKey grouped row ↔
      inGroup (place grouped row) other = true := by
  constructor
  · intro same
    have read := congrArg parseNotificationGroupKey same
    rw [parse_effectiveGroupKey keyed types stored, parse_effectiveGroupKey keyed types otherStored]
      at read
    rw [← Option.some.inj read]
    exact inGroup_place grouped other
  · have alone : other.id.value = row.id.value →
        effectiveGroupKey grouped other = effectiveGroupKey grouped row := fun same =>
      congrArg (effectiveGroupKey grouped)
        (List.inj_on_of_nodup_map keyed.distinct otherStored stored same)
    intro selected
    cases group : row.groupId with
    | none =>
        simp only [place, group, inGroup, beq_iff_eq] at selected
        exact alone selected
    | some groupId =>
        by_cases listed : grouped.contains row.notificationType = true
        · simp only [place, group, if_pos listed, inGroup, Bool.and_eq_true, beq_iff_eq] at selected
          unfold effectiveGroupKey
          simp only [selected.1, selected.2, group, if_pos listed]
        · simp only [place, group, if_neg listed, inGroup, beq_iff_eq] at selected
          exact alone selected

theorem kind_of_key (keyed : db.Keyed) (types : grouped ⊆ groupableTypes)
    (stored : row ∈ db.notifications) (otherStored : other ∈ db.notifications)
    (same : effectiveGroupKey grouped other = effectiveGroupKey grouped row) :
    other.notificationType = row.notificationType := by
  have selected := (effectiveGroupKey_eq_iff keyed types stored otherStored).mp same
  have alone : other.id.value = row.id.value → other.notificationType = row.notificationType :=
    fun same => congrArg LocalNotification.notificationType
      (List.inj_on_of_nodup_map keyed.distinct otherStored stored same)
  unfold place at selected
  split at selected
  · split at selected
    · simp only [inGroup, Bool.and_eq_true, beq_iff_eq] at selected
      exact selected.1
    · exact alone (eq_of_beq selected)
  · exact alone (eq_of_beq selected)

/-!
## The rows behind a key
-/

/-- The notifications that a query with the default filter groups. -/
def visibleNotifications (db : Db) (accountId : AccountId) : List LocalNotification :=
  db.notifications.filter (conditions db accountId {})

theorem mem_hiddenRemoteActorIds {actor : AccountId} :
    actor ∈ hiddenRemoteActorIdsForAccount db accountId ↔ Hidden db accountId actor := by
  simp only [hiddenRemoteActorIdsForAccount, Hidden, List.mem_append, List.mem_map, List.mem_filter,
    Bool.and_eq_true, beq_iff_eq, Option.all_eq_true, decide_eq_true_eq]
  refine or_congr ⟨?_, ?_⟩ ⟨?_, ?_⟩
  · rintro ⟨block, ⟨member, own⟩, target⟩
    exact ⟨block, member, own, target⟩
  · rintro ⟨block, member, own, target⟩
    exact ⟨block, ⟨member, own⟩, target⟩
  · rintro ⟨mute, ⟨member, own, active⟩, target⟩
    exact ⟨mute, member, own, target, active⟩
  · rintro ⟨mute, member, own, target, active⟩
    exact ⟨mute, ⟨member, own, active⟩, target⟩

theorem unhidden_iff : unhidden db accountId row = true ↔
    ∀ actor, row.remoteActorId = some actor → ¬Hidden db accountId actor := by
  simp only [unhidden, Option.all_eq_true, Bool.not_eq_true', ← mem_hiddenRemoteActorIds,
    ← List.contains_iff_mem, Bool.not_eq_true]

theorem conditions_default (db : Db) (accountId : AccountId) (row : LocalNotification) :
    conditions db accountId {} row =
      (row.accountId == accountId && row.dismissedAt.isNone && !row.filtered &&
        unhidden db accountId row) := by
  simp [conditions]

theorem mem_visibleNotifications :
    row ∈ visibleNotifications db accountId ↔ Visible db accountId row := by
  rw [visibleNotifications, List.mem_filter, conditions_default]
  simp only [Visible, Bool.and_eq_true, beq_iff_eq, Option.isNone_iff_eq_none, Bool.not_eq_true',
    unhidden_iff, and_assoc]

theorem visible_stored (visible : row ∈ visibleNotifications db accountId) : row ∈ db.notifications :=
  (List.mem_filter.mp visible).1

theorem Db.Keyed.visible (keyed : db.Keyed) (accountId : AccountId) :
    ((visibleNotifications db accountId).map fun row => row.id.value).Nodup :=
  keyed.distinct.sublist (List.filter_sublist.map _)

def keyRows (grouped : List LocalNotificationType) (effective : List LocalNotification)
    (groupKey : String) : List LocalNotification :=
  effective.filter fun other => effectiveGroupKey grouped other == groupKey

@[simp] theorem mem_keyRows {effective : List LocalNotification} {groupKey : String} :
    row ∈ keyRows grouped effective groupKey ↔
      row ∈ effective ∧ effectiveGroupKey grouped row = groupKey := by
  simp [keyRows]

theorem notificationsInGroup_key (keyed : db.Keyed) (types : grouped ⊆ groupableTypes)
    (stored : row ∈ db.notifications) :
    notificationsInGroup db accountId (effectiveGroupKey grouped row) =
      Paging.newestFirst (fun row => row.id.value)
        (keyRows grouped (visibleNotifications db accountId) (effectiveGroupKey grouped row)) := by
  rw [notificationsInGroup, parse_effectiveGroupKey keyed types stored]
  dsimp only
  rw [keyRows, visibleNotifications, List.filter_filter]
  refine congrArg _ (List.filter_congr fun other otherStored => ?_)
  have selected : inGroup (place grouped row) other =
      (effectiveGroupKey grouped other == effectiveGroupKey grouped row) :=
    Bool.eq_iff_iff.mpr ((effectiveGroupKey_eq_iff keyed types stored otherStored).symm.trans
      beq_iff_eq.symm)
  rw [conditions_default, selected]
  ac_rfl

theorem members_groupColumns (keyed : db.Keyed) (types : grouped ⊆ groupableTypes)
    (visible : row ∈ visibleNotifications db accountId) :
    Grouping.members (groupColumns grouped) (groupColumns grouped row)
        (visibleNotifications db accountId) =
      keyRows grouped (visibleNotifications db accountId) (effectiveGroupKey grouped row) := by
  refine Grouping.members_eq_filter fun other otherVisible => ?_
  rw [beq_iff_eq, groupColumns, groupColumns, Prod.mk.injEq]
  exact ⟨And.left, fun same => ⟨same,
    kind_of_key keyed types (visible_stored visible) (visible_stored otherVisible) same⟩⟩

end

/-!
## Samples
-/

section

variable {rows sourced : List LocalNotification} {row : LocalNotification}

def newestOfSources (sourced : List LocalNotification) : List LocalNotification :=
  Paging.newestFirst (fun row => row.id.value)
    (Grouping.distinctOn sourceAccountId (fun row => row.id.value) sourced)

theorem mem_newestOfSources (distinct : (sourced.map fun row => row.id.value).Nodup) :
    row ∈ newestOfSources sourced ↔ row ∈ sourced ∧ ∀ other ∈ sourced,
      sourceAccountId other = sourceAccountId row → other.id.value ≤ row.id.value := by
  rw [newestOfSources, Paging.mem_newestFirst, Grouping.mem_distinctOn distinct]

theorem newestOfSources_sources (distinct : (sourced.map fun row => row.id.value).Nodup) :
    ((newestOfSources sourced).map sourceAccountId).Nodup := by
  have perm := (List.perm_insertionSort (fun left right : LocalNotification =>
    right.id.value ≤ left.id.value)
      (Grouping.distinctOn sourceAccountId (fun row => row.id.value) sourced)).map sourceAccountId
  rw [Grouping.map_distinctOn distinct] at perm
  exact perm.nodup_iff.mpr (Grouping.keys_nodup _ _)

theorem newestOfSources_descending (distinct : (sourced.map fun row => row.id.value).Nodup) :
    (newestOfSources sourced).Pairwise fun newer older => older.id.value < newer.id.value :=
  Paging.newestFirst_descending (Grouping.distinctOn_distinct distinct)

theorem exists_newestOfSources (distinct : (sourced.map fun row => row.id.value).Nodup)
    (stored : row ∈ sourced) : ∃ newest ∈ newestOfSources sourced,
      sourceAccountId newest = sourceAccountId row ∧ row.id.value ≤ newest.id.value := by
  have listed : sourceAccountId row ∈ Grouping.keys sourceAccountId sourced :=
    Grouping.mem_keys.mpr ⟨row, stored, rfl⟩
  rw [← Grouping.map_distinctOn distinct] at listed
  obtain ⟨newest, member, same⟩ := List.mem_map.mp listed
  have inside : newest ∈ newestOfSources sourced := Paging.mem_newestFirst.mpr member
  exact ⟨newest, inside, same,
    ((mem_newestOfSources distinct).mp inside).2 row stored same.symm⟩

theorem samples_newestOfSources (distinct : (sourced.map fun row => row.id.value).Nodup)
    (sources : ∀ row, row ∈ sourced ↔ row ∈ rows ∧ (sourceAccountId row).isSome = true) :
    Samples rows (((newestOfSources sourced).take 8).filterMap sourceAccountId) := by
  have stored : ∀ row ∈ newestOfSources sourced, row ∈ rows ∧ (sourceAccountId row).isSome = true :=
    fun row member => (sources row).mp ((mem_newestOfSources distinct).mp member).1
  have descending := newestOfSources_descending distinct
  refine ⟨?_, ?_, ?_, ?_, ?_⟩
  · have taken := (newestOfSources_sources distinct).sublist
      ((List.take_sublist 8 (newestOfSources sourced)).map sourceAccountId)
    have plain : ((newestOfSources sourced).take 8).filterMap sourceAccountId =
        (((newestOfSources sourced).take 8).map sourceAccountId).filterMap id := by
      rw [List.filterMap_map, Function.id_comp]
    rw [plain]
    exact taken.filterMap fun first second value here there => here.trans there.symm
  · exact (List.length_filterMap_le _ _).trans (List.length_take_le _ _)
  · intro id member
    obtain ⟨row, taken, source⟩ := List.mem_filterMap.mp member
    exact ⟨row, (stored row (List.mem_of_mem_take taken)).1, source⟩
  · rw [List.pairwise_filterMap]
    refine ((descending.sublist (List.take_sublist 8 _)).imp_of_mem ?_)
    intro newer older newerTaken olderTaken less first isFirst second isSecond
    refine ⟨newer, (stored newer (List.mem_of_mem_take newerTaken)).1, isFirst, ?_⟩
    intro row member source
    have newest := ((mem_newestOfSources distinct).mp (List.mem_of_mem_take olderTaken)).2 row
      ((sources row).mpr ⟨member, by rw [source, Option.isSome_some]⟩) (source.trans isSecond.symm)
    exact Nat.lt_of_le_of_lt newest less
  · intro row member id source absent
    obtain ⟨newest, inside, same, bound⟩ := exists_newestOfSources distinct
      ((sources row).mpr ⟨member, by rw [source, Option.isSome_some]⟩)
    -- the newest notification of the source stands behind the first eight
    have behind : newest ∈ (newestOfSources sourced).drop 8 := by
      rw [← List.take_append_drop 8 (newestOfSources sourced)] at inside
      refine (List.mem_append.mp inside).resolve_left fun taken => absent ?_
      exact List.mem_filterMap.mpr ⟨newest, taken, same.trans source⟩
    have order := descending
    rw [← List.take_append_drop 8 (newestOfSources sourced)] at order
    have before := (List.pairwise_append.mp order).2.2
    constructor
    · have long : 8 < (newestOfSources sourced).length := by
        have some_ := List.length_pos_of_mem behind
        rw [List.length_drop] at some_
        omega
      have taken : ((newestOfSources sourced).take 8).length = 8 := by
        rw [List.length_take]
        omega
      refine (List.filterMap_length_eq_length.mpr fun row member => ?_).trans taken
      exact (stored row (List.mem_of_mem_take member)).2
    · intro other shown
      obtain ⟨newer, taken, isOther⟩ := List.mem_filterMap.mp shown
      exact ⟨newer, (stored newer (List.mem_of_mem_take taken)).1, isOther,
        Nat.lt_of_le_of_lt bound (before newer taken newest behind)⟩

end

/-!
## Groups
-/

section

variable {db : Db} {accountId : AccountId} {grouped : List LocalNotificationType}
variable {row : LocalNotification} {group : NotificationGroup}

def groupOf (db : Db) (accountId : AccountId) (grouped : List LocalNotificationType)
    (row : LocalNotification) : Option NotificationGroup :=
  notificationGroupRow grouped (visibleNotifications db accountId) (groupColumns grouped row)

def allGroups (db : Db) (accountId : AccountId) (grouped : List LocalNotificationType) :
    List NotificationGroup :=
  Paging.newestFirst (fun group => group.mostRecentNotificationId.value)
    (notificationGroupRows grouped (visibleNotifications db accountId))

theorem mem_notificationGroupRows :
    group ∈ notificationGroupRows grouped (visibleNotifications db accountId) ↔
      ∃ row ∈ visibleNotifications db accountId, groupOf db accountId grouped row = some group := by
  simp only [notificationGroupRows, List.mem_filterMap, Grouping.mem_keys, groupOf]
  constructor
  · rintro ⟨_, ⟨row, visible, rfl⟩, made⟩
    exact ⟨row, visible, made⟩
  · rintro ⟨row, visible, made⟩
    exact ⟨_, ⟨row, visible, rfl⟩, made⟩

theorem groupOf_isSome (visible : row ∈ visibleNotifications db accountId) :
    (groupOf db accountId grouped row).isSome = true := by
  let rows := Grouping.members (groupColumns grouped) (groupColumns grouped row)
    (visibleNotifications db accountId)
  have member : row ∈ rows := Grouping.mem_members.mpr ⟨visible, rfl⟩
  obtain ⟨newest, isNewest⟩ := Option.isSome_iff_exists.mp (List.isSome_head?.mpr
    (List.ne_nil_of_mem ((@Paging.mem_newestFirst _ (fun row => row.id.value) rows row).mpr member)))
  obtain ⟨oldest, isOldest⟩ := Option.isSome_iff_exists.mp (List.isSome_head?.mpr
    (List.ne_nil_of_mem ((@Keyset.mem_arrange _ _ _ (fun row => row.id.value) rows row).mpr member)))
  obtain ⟨latest, isLatest⟩ := Option.isSome_iff_exists.mp
    (List.isSome_max?_of_mem (List.mem_map_of_mem (f := LocalNotification.createdAt) member))
  rw [groupOf, notificationGroupRow]
  simp only [rows] at isNewest isOldest isLatest
  rw [isNewest, isOldest, isLatest]
  rfl

def sameKey (db : Db) (accountId : AccountId) (grouped : List LocalNotificationType)
    (row : LocalNotification) : List LocalNotification :=
  keyRows grouped (visibleNotifications db accountId) (effectiveGroupKey grouped row)

theorem mem_sameKey {other : LocalNotification} : other ∈ sameKey db accountId grouped row ↔
    other ∈ visibleNotifications db accountId ∧
      effectiveGroupKey grouped other = effectiveGroupKey grouped row :=
  mem_keyRows

theorem sameKey_distinct (keyed : db.Keyed) (row : LocalNotification) :
    ((sameKey db accountId grouped row).map fun row => row.id.value).Nodup :=
  (keyed.visible accountId).sublist (List.filter_sublist.map _)

structure Aggregates (db : Db) (accountId : AccountId) (grouped : List LocalNotificationType)
    (row : LocalNotification) (group : NotificationGroup) : Prop where
  groupKey : group.groupKey = effectiveGroupKey grouped row
  kind : group.notificationType = row.notificationType
  count : group.notificationsCount = (sameKey db accountId grouped row).length
  cursor : group.mostRecentNotificationId = group.pageMaxId
  newest : ∃ newest ∈ sameKey db accountId grouped row, newest.id = group.pageMaxId ∧
    ∀ other ∈ sameKey db accountId grouped row, other.id.value ≤ newest.id.value
  oldest : ∃ oldest ∈ sameKey db accountId grouped row, oldest.id = group.pageMinId ∧
    ∀ other ∈ sameKey db accountId grouped row, oldest.id.value ≤ other.id.value
  samples : Samples (sameKey db accountId grouped row) group.sampleAccountIds

theorem groupOf_aggregates (keyed : db.Keyed) (types : grouped ⊆ groupableTypes)
    (visible : row ∈ visibleNotifications db accountId)
    (made : groupOf db accountId grouped row = some group) :
    Aggregates db accountId grouped row group := by
  have distinct := @sameKey_distinct db accountId grouped keyed row
  have members : Grouping.members (groupColumns grouped) (groupColumns grouped row)
      (visibleNotifications db accountId) = sameKey db accountId grouped row :=
    members_groupColumns keyed types visible
  simp only [groupOf, notificationGroupRow, members, Option.bind_eq_bind,
    Option.bind_eq_some_iff, Option.some.injEq] at made
  obtain ⟨newest, isNewest, oldest, isOldest, latest, isLatest, rfl⟩ := made
  obtain ⟨newestMember, greatest⟩ := (Grouping.head?_newestFirst_eq_some_iff distinct).mp isNewest
  obtain ⟨oldestMember, least⟩ := Keyset.head?_arrange distinct isOldest
  refine ⟨rfl, rfl, rfl, rfl, ⟨newest, newestMember, rfl, greatest⟩,
    ⟨oldest, oldestMember, rfl, least⟩, ?_⟩
  refine samples_newestOfSources ?_ fun other => ?_
  · exact (keyed.visible accountId).sublist (List.filter_sublist.map _)
  · simp only [List.mem_filter, Bool.and_eq_true, beq_iff_eq, mem_sameKey, groupColumns, and_assoc]

theorem key_of_cursor (keyed : db.Keyed) {other : LocalNotification} {another : NotificationGroup}
    (first : Aggregates db accountId grouped row group)
    (second : Aggregates db accountId grouped other another)
    (same : group.mostRecentNotificationId = another.mostRecentNotificationId) :
    effectiveGroupKey grouped row = effectiveGroupKey grouped other := by
  obtain ⟨newest, member, id, -⟩ := first.newest
  obtain ⟨newestOther, memberOther, idOther, -⟩ := second.newest
  have ids : newest.id = newestOther.id := by
    rw [id, idOther, ← first.cursor, ← second.cursor, same]
  obtain ⟨visible, key⟩ := mem_sameKey.mp member
  obtain ⟨visibleOther, keyOther⟩ := mem_sameKey.mp memberOther
  have equal : newest = newestOther :=
    List.inj_on_of_nodup_map keyed.distinct (visible_stored visible) (visible_stored visibleOther)
      (congrArg NotificationId.value ids)
  rw [← key, ← keyOther, equal]

theorem groupOf_congr (keyed : db.Keyed) (types : grouped ⊆ groupableTypes) {other : LocalNotification}
    (visible : row ∈ visibleNotifications db accountId)
    (otherVisible : other ∈ visibleNotifications db accountId)
    (same : effectiveGroupKey grouped other = effectiveGroupKey grouped row) :
    groupOf db accountId grouped other = groupOf db accountId grouped row := by
  have kinds := kind_of_key keyed types (visible_stored visible) (visible_stored otherVisible) same
  rw [groupOf, groupOf, groupColumns, groupColumns, same, kinds]

theorem notificationGroupRows_aggregates (keyed : db.Keyed) (types : grouped ⊆ groupableTypes)
    (listed : group ∈ notificationGroupRows grouped (visibleNotifications db accountId)) :
    ∃ row ∈ visibleNotifications db accountId, groupOf db accountId grouped row = some group ∧
      Aggregates db accountId grouped row group := by
  obtain ⟨row, visible, made⟩ := mem_notificationGroupRows.mp listed
  exact ⟨row, visible, made, groupOf_aggregates keyed types visible made⟩

theorem groups_eq_of_key (keyed : db.Keyed) (types : grouped ⊆ groupableTypes)
    {another : NotificationGroup}
    (listed : group ∈ notificationGroupRows grouped (visibleNotifications db accountId))
    (anotherListed : another ∈ notificationGroupRows grouped (visibleNotifications db accountId))
    (same : another.groupKey = group.groupKey) : another = group := by
  obtain ⟨row, visible, made, holds⟩ := notificationGroupRows_aggregates keyed types listed
  obtain ⟨other, otherVisible, otherMade, otherHolds⟩ :=
    notificationGroupRows_aggregates keyed types anotherListed
  rw [holds.groupKey, otherHolds.groupKey] at same
  rw [groupOf_congr keyed types visible otherVisible same, made] at otherMade
  exact (Option.some.inj otherMade).symm

/-!
## Walking the groups
-/

theorem groupable_types (groupedTypes : List LocalNotificationType) :
    groupable groupedTypes ⊆ groupableTypes :=
  fun _ member => List.contains_iff_mem.mp (List.mem_filter.mp member).2

theorem cursors_distinct (keyed : db.Keyed) (types : grouped ⊆ groupableTypes) :
    ((notificationGroupRows grouped (visibleNotifications db accountId)).map fun group =>
      group.mostRecentNotificationId.value).Nodup := by
  rw [List.Nodup, List.pairwise_map, notificationGroupRows, List.pairwise_filterMap]
  refine (Grouping.keys_nodup _ _).imp_of_mem ?_
  intro columns otherColumns listed otherListed apart group made another otherMade same
  obtain ⟨row, visible, rfl⟩ := Grouping.mem_keys.mp listed
  obtain ⟨other, otherVisible, rfl⟩ := Grouping.mem_keys.mp otherListed
  have key := key_of_cursor keyed (groupOf_aggregates keyed types visible made)
    (groupOf_aggregates keyed types otherVisible otherMade) (congrArg NotificationId.mk same)
  have kinds := kind_of_key keyed types (visible_stored otherVisible) (visible_stored visible) key
  exact apart (Prod.ext key kinds)

theorem allGroups_perm : (allGroups db accountId grouped).Perm
    (notificationGroupRows grouped (visibleNotifications db accountId)) :=
  List.perm_insertionSort _ _

theorem shows_allGroups (keyed : db.Keyed) {limit : Nat} (positive : 0 < limit)
    (groupedTypes : List LocalNotificationType) :
    Shows db accountId limit groupedTypes (allGroups db accountId (groupable groupedTypes)) := by
  refine Paging.walked_page (cursors_distinct keyed (groupable_types groupedTypes)) positive ?_
  intro cursor
  rw [notificationGroupsForAccount]
  refine congrArg _ (List.filter_congr fun group _ => ?_)
  rw [Timeline.collectionCursorMatches, Option.all_none, Bool.and_true, Bool.and_true]
  rfl

theorem notificationsInGroup_sameKey (keyed : db.Keyed) (types : grouped ⊆ groupableTypes)
    (visible : row ∈ visibleNotifications db accountId)
    (holds : Aggregates db accountId grouped row group) :
    notificationsInGroup db accountId group.groupKey =
      Paging.newestFirst (fun row => row.id.value) (sameKey db accountId grouped row) := by
  rw [holds.groupKey, notificationsInGroup_key keyed types (visible_stored visible)]
  rfl

theorem flatMap_allGroups_perm (keyed : db.Keyed) (types : grouped ⊆ groupableTypes) :
    ((allGroups db accountId grouped).flatMap fun group =>
      notificationsInGroup db accountId group.groupKey).Perm (visibleNotifications db accountId) := by
  have listed : (notificationGroupRows grouped (visibleNotifications db accountId)).flatMap
      (fun group => notificationsInGroup db accountId group.groupKey) =
        (Grouping.keys (groupColumns grouped) (visibleNotifications db accountId)).flatMap
          fun columns => Paging.newestFirst (fun row => row.id.value)
            (Grouping.members (groupColumns grouped) columns (visibleNotifications db accountId)) := by
    refine Grouping.flatMap_filterMap fun columns listed => ?_
    obtain ⟨row, visible, rfl⟩ := Grouping.mem_keys.mp listed
    obtain ⟨group, made⟩ :=
      Option.isSome_iff_exists.mp (@groupOf_isSome db accountId grouped row visible)
    refine ⟨group, made, ?_⟩
    rw [notificationsInGroup_sameKey keyed types visible (groupOf_aggregates keyed types visible made),
      members_groupColumns keyed types visible]
    rfl
  refine (allGroups_perm.flatMap_right _).trans ?_
  rw [listed]
  refine (List.Perm.flatMap_left _ fun columns _ => ?_).trans
    (Grouping.flatMap_keys_perm (groupColumns grouped) (visibleNotifications db accountId))
  exact List.perm_insertionSort _ _

theorem Aggregates.describes (keyed : db.Keyed) (types : grouped ⊆ groupableTypes)
    (visible : row ∈ visibleNotifications db accountId)
    (holds : Aggregates db accountId grouped row group) :
    group.Describes (notificationsInGroup db accountId group.groupKey) := by
  have rows := notificationsInGroup_sameKey keyed types visible holds
  have mem : ∀ other, other ∈ notificationsInGroup db accountId group.groupKey ↔
      other ∈ sameKey db accountId grouped row := by
    intro other
    rw [rows, Paging.mem_newestFirst]
  refine ⟨?_, ?_, holds.cursor, ?_, ?_, ?_⟩
  · rw [rows, Paging.length_newestFirst, holds.count]
  · intro other member
    obtain ⟨otherVisible, same⟩ := mem_sameKey.mp ((mem other).mp member)
    rw [holds.kind]
    exact kind_of_key keyed types (visible_stored visible) (visible_stored otherVisible) same
  · obtain ⟨newest, member, id, greatest⟩ := holds.newest
    rw [← id]
    refine ⟨⟨newest, (mem newest).mpr member, rfl⟩, ?_⟩
    rintro _ ⟨other, inside, rfl⟩
    exact greatest other ((mem other).mp inside)
  · obtain ⟨oldest, member, id, least⟩ := holds.oldest
    rw [← id]
    refine ⟨⟨oldest, (mem oldest).mpr member, rfl⟩, ?_⟩
    rintro _ ⟨other, inside, rfl⟩
    exact least other ((mem other).mp inside)
  · obtain ⟨distinct, few, sources, newest, rest⟩ := holds.samples
    simp only [← mem] at sources newest rest
    exact ⟨distinct, few, sources, newest, rest⟩

/-!
## Dismissing a group
-/

theorem notificationGroupRow_filter {effective : List LocalNotification}
    {keep : LocalNotification → Bool}
    {columns : String × LocalNotificationType}
    (kept : ∀ row ∈ effective, effectiveGroupKey grouped row = columns.1 → keep row = true) :
    notificationGroupRow grouped (effective.filter keep) columns =
      notificationGroupRow grouped effective columns := by
  have members : Grouping.members (groupColumns grouped) columns (effective.filter keep) =
      Grouping.members (groupColumns grouped) columns effective :=
    Grouping.members_filter fun row member same => kept row member (congrArg Prod.fst same)
  have samples : sampleAccountIds grouped (effective.filter keep) columns.1 =
      sampleAccountIds grouped effective columns.1 := by
    have rows : (effective.filter keep).filter (fun row =>
        effectiveGroupKey grouped row == columns.1 && (sourceAccountId row).isSome) =
        effective.filter fun row =>
          effectiveGroupKey grouped row == columns.1 && (sourceAccountId row).isSome := by
      rw [List.filter_filter]
      refine List.filter_congr fun row member => ?_
      by_cases same : effectiveGroupKey grouped row = columns.1
      · rw [kept row member same, Bool.and_true]
      · rw [beq_eq_false_iff_ne.mpr same, Bool.false_and, Bool.false_and]
    rw [sampleAccountIds, rows, sampleAccountIds]
  rw [notificationGroupRow, notificationGroupRow, members, samples]

theorem dismissNotificationGroup_eq {groupKey : String}
    (found : notificationsInGroup db accountId groupKey ≠ []) :
    dismissNotificationGroup db accountId groupKey =
      (dismissRows db (notificationsInGroup db accountId groupKey), true) := by
  have nonempty : (notificationsInGroup db accountId groupKey).isEmpty ≠ true :=
    fun empty => found (List.isEmpty_iff.mp empty)
  rw [dismissNotificationGroup]
  exact if_neg nonempty

theorem Db.Keyed.dismissRows (keyed : db.Keyed) (rows : List LocalNotification) :
    (dismissRows db rows).Keyed := by
  refine ⟨?_, ?_, ?_⟩
  · have ids : (Groups.dismissRows db rows).notifications.map (fun row => row.id.value) =
        db.notifications.map fun row => row.id.value :=
      Table.map_updateWhere fun _ _ _ => rfl
    rw [ids]
    exact keyed.distinct
  · intro row member
    rcases Table.mem_updateWhere.mp member with ⟨stored, -⟩ | ⟨before, stored, -, rfl⟩
    · exact keyed.ids row stored
    · exact keyed.ids before stored
  · intro row member
    rcases Table.mem_updateWhere.mp member with ⟨stored, -⟩ | ⟨before, stored, -, rfl⟩
    · exact keyed.groupIds row stored
    · exact keyed.groupIds before stored

theorem visibleNotifications_dismissRows (db : Db) (rows : List LocalNotification)
    (viewer : AccountId) :
    visibleNotifications (dismissRows db rows) viewer =
      (visibleNotifications db viewer).filter fun row =>
        !(rows.map LocalNotification.id).contains row.id := by
  refine Table.filter_updateWhere_gone fun row _ => ?_
  rw [conditions_default, Option.isNone_some, Bool.and_false, Bool.false_and, Bool.false_and]

theorem dismissed_iff (keyed : db.Keyed) {rows : List LocalNotification}
    (listed : rows ⊆ db.notifications) (stored : row ∈ db.notifications) :
    (rows.map LocalNotification.id).contains row.id = true ↔ row ∈ rows := by
  rw [List.contains_iff_mem, List.mem_map]
  constructor
  · rintro ⟨other, member, same⟩
    rw [← List.inj_on_of_nodup_map keyed.distinct (listed member) stored
      (congrArg NotificationId.value same)]
    exact member
  · exact fun member => ⟨row, member, rfl⟩

theorem visible_dismissRows_iff (keyed : db.Keyed) {rows : List LocalNotification}
    (listed : rows ⊆ db.notifications) (viewer : AccountId) :
    row ∈ visibleNotifications (dismissRows db rows) viewer ↔
      row ∈ visibleNotifications db viewer ∧ row ∉ rows := by
  rw [visibleNotifications_dismissRows, List.mem_filter]
  refine and_congr_right fun visible => ?_
  rw [← dismissed_iff keyed listed (visible_stored visible), Bool.not_eq_true', Bool.not_eq_true]

theorem groupOf_dismissRows (keyed : db.Keyed) {rows : List LocalNotification}
    (own : ∀ other, other ∈ rows ↔ other ∈ sameKey db accountId grouped row)
    {other : LocalNotification}
    (apart : effectiveGroupKey grouped other ≠ effectiveGroupKey grouped row) :
    groupOf (dismissRows db rows) accountId grouped other = groupOf db accountId grouped other := by
  have listed : rows ⊆ db.notifications := fun _ member =>
    visible_stored (mem_sameKey.mp ((own _).mp member)).1
  rw [groupOf, groupOf, visibleNotifications_dismissRows]
  refine notificationGroupRow_filter fun third visible same => ?_
  have kept : third ∉ rows := fun inside =>
    apart (same.symm.trans (mem_sameKey.mp ((own third).mp inside)).2)
  rw [← dismissed_iff keyed listed (visible_stored visible)] at kept
  rw [Bool.not_eq_true', ← Bool.not_eq_true]
  exact kept

theorem mem_groups_dismissRows (keyed : db.Keyed) (types : grouped ⊆ groupableTypes)
    {rows : List LocalNotification}
    (own : ∀ other, other ∈ rows ↔ other ∈ sameKey db accountId grouped row)
    (visible : row ∈ visibleNotifications db accountId)
    (made : groupOf db accountId grouped row = some group) (another : NotificationGroup) :
    another ∈ notificationGroupRows grouped (visibleNotifications (dismissRows db rows) accountId) ↔
      another ∈ notificationGroupRows grouped (visibleNotifications db accountId) ∧
        another ≠ group := by
  have holds := groupOf_aggregates keyed types visible made
  have stored : group ∈ notificationGroupRows grouped (visibleNotifications db accountId) :=
    mem_notificationGroupRows.mpr ⟨row, visible, made⟩
  have listed : rows ⊆ db.notifications := fun _ member =>
    visible_stored (mem_sameKey.mp ((own _).mp member)).1
  constructor
  · intro member
    obtain ⟨other, later, otherMade⟩ := mem_notificationGroupRows.mp member
    obtain ⟨otherVisible, outside⟩ := (visible_dismissRows_iff keyed listed accountId).mp later
    have apart : effectiveGroupKey grouped other ≠ effectiveGroupKey grouped row := fun same =>
      outside ((own other).mpr (mem_sameKey.mpr ⟨otherVisible, same⟩))
    rw [groupOf_dismissRows keyed own apart] at otherMade
    refine ⟨mem_notificationGroupRows.mpr ⟨other, otherVisible, otherMade⟩, ?_⟩
    rintro rfl
    have otherHolds := groupOf_aggregates keyed types otherVisible otherMade
    exact apart (otherHolds.groupKey.symm.trans holds.groupKey)
  · rintro ⟨member, different⟩
    obtain ⟨other, otherVisible, otherMade, otherHolds⟩ :=
      notificationGroupRows_aggregates keyed types member
    have apart : effectiveGroupKey grouped other ≠ effectiveGroupKey grouped row := by
      intro same
      refine different (groups_eq_of_key keyed types stored member ?_)
      rw [otherHolds.groupKey, holds.groupKey, same]
    have outside : other ∉ rows := fun inside =>
      apart (mem_sameKey.mp ((own other).mp inside)).2
    refine mem_notificationGroupRows.mpr ⟨other,
      (visible_dismissRows_iff keyed listed accountId).mpr ⟨otherVisible, outside⟩, ?_⟩
    rw [groupOf_dismissRows keyed own apart, otherMade]

theorem allGroups_dismissRows (keyed : db.Keyed) (types : grouped ⊆ groupableTypes)
    {rows : List LocalNotification}
    (own : ∀ other, other ∈ rows ↔ other ∈ sameKey db accountId grouped row)
    (visible : row ∈ visibleNotifications db accountId)
    (made : groupOf db accountId grouped row = some group) :
    allGroups (dismissRows db rows) accountId grouped =
      (allGroups db accountId grouped).filter fun other => other != group := by
  have cursors := @cursors_distinct db accountId grouped keyed types
  have laterCursors := @cursors_distinct _ accountId grouped (keyed.dismissRows rows) types
  refine Paging.newestFirst_eq ?_ ((Paging.newestFirst_descending cursors).filter _)
  refine (allGroups_perm.filter _).trans ?_
  refine (List.perm_ext_iff_of_nodup (cursors.of_map.filter _) laterCursors.of_map).mpr ?_
  intro another
  rw [List.mem_filter, bne_iff_ne, mem_groups_dismissRows keyed types own visible made]

/-- Groups partition the notifications. -/
theorem groups_partition (keyed : db.Keyed) {limit : Nat} (positive : 0 < limit)
    (groupedTypes : List LocalNotificationType) :
    ∃ groups, Partitioned db accountId limit groupedTypes groups := by
  have types := groupable_types groupedTypes
  have perm := @flatMap_allGroups_perm db accountId _ keyed types
  have listed : ∀ group ∈ allGroups db accountId (groupable groupedTypes),
      ∃ row ∈ visibleNotifications db accountId,
        groupOf db accountId (groupable groupedTypes) row = some group ∧
          Aggregates db accountId (groupable groupedTypes) row group :=
    fun group member => notificationGroupRows_aggregates keyed types (allGroups_perm.mem_iff.mp member)
  refine ⟨allGroups db accountId (groupable groupedTypes), shows_allGroups keyed positive groupedTypes,
    ?_, ?_, ?_, ?_⟩
  · exact perm.nodup_iff.mpr (keyed.visible accountId).of_map
  · exact fun row => perm.mem_iff.trans mem_visibleNotifications
  · intro group member
    obtain ⟨row, visible, -, holds⟩ := listed group member
    exact holds.describes keyed types visible
  · intro group member
    obtain ⟨row, visible, made, holds⟩ := listed group member
    have rows := notificationsInGroup_sameKey keyed types visible holds
    have own : ∀ other, other ∈ notificationsInGroup db accountId group.groupKey ↔
        other ∈ sameKey db accountId (groupable groupedTypes) row := by
      intro other
      rw [rows, Paging.mem_newestFirst]
    have found : notificationsInGroup db accountId group.groupKey ≠ [] :=
      List.ne_nil_of_mem ((own row).mpr (mem_sameKey.mpr ⟨visible, rfl⟩))
    have stored : notificationsInGroup db accountId group.groupKey ⊆ db.notifications :=
      fun _ inside => visible_stored (mem_sameKey.mp ((own _).mp inside)).1
    refine ⟨_, dismissNotificationGroup_eq found, fun viewer other => ?_, ?_⟩
    · rw [← mem_visibleNotifications, ← mem_visibleNotifications,
        visible_dismissRows_iff keyed stored]
    · rw [← allGroups_dismissRows keyed types own visible made]
      exact shows_allGroups (keyed.dismissRows _) positive groupedTypes

end

/-!
## Two favourites and a follow
-/

namespace Sample

def recipient : AccountId := ⟨1⟩

/-- A favourite of an account and one of a remote actor are in one group; the recipient has
blocked another actor, whose follow is in a group of its own. -/
def db : Db where
  notifications :=
    [⟨⟨10⟩, recipient, .favourite, some ⟨2⟩, none, some ⟨5⟩, none, some 70, false, 100, none⟩,
      ⟨⟨11⟩, recipient, .follow, none, some ⟨4⟩, none, none, some 71, false, 110, none⟩,
      ⟨⟨12⟩, recipient, .favourite, none, some ⟨3⟩, some ⟨5⟩, none, some 70, false, 120, none⟩,
      ⟨⟨13⟩, recipient, .follow, some ⟨2⟩, none, none, none, some 72, false, 130, none⟩]
  localRemoteAccountBlocks := [⟨recipient, ⟨4⟩⟩]
  localRemoteAccountMutes := [⟨recipient, ⟨3⟩, some 90⟩]
  now := 200

private theorem db_keyed : db.Keyed where
  distinct := by decide +kernel
  ids := by decide +kernel
  groupIds := by decide +kernel

end Sample

open Groups.Sample in
/-- The first page holds the follow, whose type is not grouped. -/
theorem sample_groups_partition :
    ((notificationGroupsForAccount db recipient 1 ⟨none, none, none⟩ {} [.favourite]).items.map
        NotificationGroup.groupKey = ["ungrouped-00000000-0000-0000-0000-00000000000d"] ∧
      (notificationGroupsForAccount db recipient 1 ⟨some 13, none, none⟩ {} [.favourite]).items.map
        NotificationGroup.sampleAccountIds = [[⟨3⟩, ⟨2⟩]]) ∧
    ∃ groups, Partitioned db recipient 1 [.favourite] groups :=
  ⟨by decide +kernel, groups_partition db_keyed (by decide) [.favourite]⟩

end Roosty.Notification.Groups
