import Mathlib.Algebra.Group.Nat.Defs
import Roosty.Federation.Outbox

/-!
# Pages of an outbox

A page in either direction holds the next of the activities that are visible to the requester,
although three queries are limited before their rows are joined to the statuses and merged.
-/

set_option autoImplicit false

namespace Roosty.Federation.Outbox

open Library Collections

/-!
## What an outbox shows
-/

def Shown (db : OutboxDb) (accountId : AccountId) (requester : Option AccountId) :
    LocalOutboxItem → Prop
  | .status status => status ∈ db.localStatuses ∧ status.accountId = accountId ∧
      status.deletedAt = none ∧ localOutboxStatusVisibility db requester status = true
  | .localReblog reblog status => reblog ∈ db.localReblogs ∧ reblog.accountId = accountId ∧
      status ∈ db.localStatuses ∧ status.id = reblog.statusId ∧ status.deletedAt = none ∧
        localOutboxStatusVisibility db requester status = true
  | .remoteReblog reblog status => reblog ∈ db.remoteReblogs ∧ reblog.localAccountId = accountId ∧
      status ∈ db.remoteStatuses ∧ status.id = reblog.remoteStatusId ∧ status.deletedAt = none ∧
        (status.visibility = .publicStatus ∨ status.visibility = .unlisted)

def rowCursors (db : OutboxDb) : List Nat :=
  db.localStatuses.map (fun status => status.id.value) ++
    (db.localReblogs.map LocalStatusReblog.id ++ db.remoteReblogs.map LocalRemoteStatusReblog.id)

/-- The constraints of the tables, and identifiers that are unique and positive. -/
structure OutboxDb.Keyed (db : OutboxDb) : Prop where
  distinct : (rowCursors db).Nodup
  bounded : ∀ cursor ∈ rowCursors db, 0 < cursor ∧ cursor < 2 ^ 128
  remoteStatuses : (db.remoteStatuses.map RemoteStatus.id).Nodup
  localReblogs : Table.UniqueOn (fun reblog : LocalStatusReblog =>
    some (reblog.accountId, reblog.statusId)) db.localReblogs
  remoteReblogs : Table.UniqueOn (fun reblog : LocalRemoteStatusReblog =>
    some (reblog.localAccountId, reblog.remoteStatusId)) db.remoteReblogs
  authors : ∀ status ∈ db.localStatuses, (findAccount db status.accountId).isSome = true

theorem OutboxDb.Keyed.localStatuses {db : OutboxDb} (keyed : db.Keyed) :
    (db.localStatuses.map LocalStatus.id).Nodup := by
  have values := keyed.distinct.sublist (List.sublist_append_left _ _)
  have ids : (db.localStatuses.map LocalStatus.id).map StatusId.value =
      db.localStatuses.map fun status => status.id.value := List.map_map
  rw [← ids] at values
  exact values.of_map

section

variable (db : OutboxDb)

def localReblogItem (reblog : LocalStatusReblog) : Option LocalOutboxItem :=
  (db.localStatuses.find? fun status => status.id == reblog.statusId).map (.localReblog reblog)

def remoteReblogItem (reblog : LocalRemoteStatusReblog) : Option LocalOutboxItem :=
  (db.remoteStatuses.find? fun status => status.id == reblog.remoteStatusId).map
    (.remoteReblog reblog)

/-- The activities of an outbox in full, of each of the three queries. -/
def outboxLists (accountId : AccountId) (requester : Option AccountId) :
    List (List LocalOutboxItem) :=
  [(outboxStatuses db accountId requester).map .status,
    (outboxLocalReblogs db accountId requester).filterMap (localReblogItem db),
    (outboxRemoteReblogs db accountId).filterMap (remoteReblogItem db)]

def outboxItems (accountId : AccountId) (requester : Option AccountId) : List LocalOutboxItem :=
  (outboxLists db accountId requester).flatten

end

section

variable {db : OutboxDb} {accountId : AccountId} {requester : Option AccountId}

theorem localReblogItem_eq_some_iff (keyed : db.Keyed) {reblog : LocalStatusReblog}
    {item : LocalOutboxItem} :
    localReblogItem db reblog = some item ↔
      ∃ status ∈ db.localStatuses, status.id = reblog.statusId ∧ .localReblog reblog status = item := by
  unfold localReblogItem
  simp only [Option.map_eq_some_iff, Table.find?_primary_eq_some_iff keyed.localStatuses, and_assoc]

theorem remoteReblogItem_eq_some_iff (keyed : db.Keyed) {reblog : LocalRemoteStatusReblog}
    {item : LocalOutboxItem} :
    remoteReblogItem db reblog = some item ↔
      ∃ status ∈ db.remoteStatuses,
        status.id = reblog.remoteStatusId ∧ .remoteReblog reblog status = item := by
  unfold remoteReblogItem
  simp only [Option.map_eq_some_iff, Table.find?_primary_eq_some_iff keyed.remoteStatuses, and_assoc]

theorem mem_visibleLocalStatuses_iff {id : StatusId} :
    id ∈ visibleLocalStatuses db requester ↔ ∃ status ∈ db.localStatuses,
      status.deletedAt = none ∧ localOutboxStatusVisibility db requester status = true ∧
        status.id = id := by
  simp [visibleLocalStatuses, List.mem_map, List.mem_filter, and_assoc]

theorem mem_publicRemoteStatuses_iff {id : StatusId} :
    id ∈ publicRemoteStatuses db ↔ ∃ status ∈ db.remoteStatuses,
      status.deletedAt = none ∧ (status.visibility = .publicStatus ∨ status.visibility = .unlisted) ∧
        status.id = id := by
  simp [publicRemoteStatuses, List.mem_map, List.mem_filter, and_assoc]

theorem mem_outboxItems_iff (keyed : db.Keyed) (item : LocalOutboxItem) :
    item ∈ outboxItems db accountId requester ↔ Shown db accountId requester item := by
  simp only [outboxItems, outboxLists, List.flatten_cons, List.flatten_nil, List.append_nil,
    List.mem_append, List.mem_map, List.mem_filterMap, localReblogItem_eq_some_iff keyed,
    remoteReblogItem_eq_some_iff keyed]
  cases item with
  | status status =>
      simp [outboxStatuses, Shown, and_assoc]
  | localReblog reblog status =>
      simp only [outboxLocalReblogs, Shown, List.mem_filter, Bool.and_eq_true, beq_iff_eq,
        List.contains_iff_mem, mem_visibleLocalStatuses_iff, reduceCtorEq, and_false, exists_false,
        false_or, or_false, LocalOutboxItem.localReblog.injEq]
      constructor
      · rintro ⟨_, ⟨member, own, target, stored, live, visible, same⟩, _, found, id, rfl, rfl⟩
        obtain rfl := List.inj_on_of_nodup_map keyed.localStatuses stored found (same.trans id.symm)
        exact ⟨member, own, found, id, live, visible⟩
      · rintro ⟨member, own, found, id, live, visible⟩
        exact ⟨reblog, ⟨member, own, status, found, live, visible, id⟩, status, found, id, rfl, rfl⟩
  | remoteReblog reblog status =>
      simp only [outboxRemoteReblogs, Shown, List.mem_filter, Bool.and_eq_true, beq_iff_eq,
        List.contains_iff_mem, mem_publicRemoteStatuses_iff, reduceCtorEq, and_false, exists_false,
        false_or, LocalOutboxItem.remoteReblog.injEq]
      constructor
      · rintro ⟨_, ⟨member, own, target, stored, live, visible, same⟩, _, found, id, rfl, rfl⟩
        obtain rfl := List.inj_on_of_nodup_map keyed.remoteStatuses stored found (same.trans id.symm)
        exact ⟨member, own, found, id, live, visible⟩
      · rintro ⟨member, own, found, id, live, visible⟩
        exact ⟨reblog, ⟨member, own, status, found, live, visible, id⟩, status, found, id, rfl, rfl⟩

theorem localReblogItem_cursor {reblog : LocalStatusReblog} {item : LocalOutboxItem}
    (made : localReblogItem db reblog = some item) : item.cursor = reblog.id := by
  obtain ⟨status, _, rfl⟩ := Option.map_eq_some_iff.mp made
  rfl

theorem remoteReblogItem_cursor {reblog : LocalRemoteStatusReblog} {item : LocalOutboxItem}
    (made : remoteReblogItem db reblog = some item) : item.cursor = reblog.id := by
  obtain ⟨status, _, rfl⟩ := Option.map_eq_some_iff.mp made
  rfl

theorem localReblogItem_isSome {reblog : LocalStatusReblog}
    (member : reblog ∈ outboxLocalReblogs db accountId requester) :
    ∃ item, localReblogItem db reblog = some item ∧ item.cursor = reblog.id := by
  obtain ⟨_, visible⟩ := Bool.and_eq_true_iff.mp (List.mem_filter.mp member).2
  obtain ⟨status, stored, _, _, same⟩ :=
    mem_visibleLocalStatuses_iff.mp (List.contains_iff_mem.mp visible)
  have present : (db.localStatuses.any fun status => status.id == reblog.statusId) = true :=
    List.any_eq_true.mpr ⟨status, stored, by rw [same, beq_self_eq_true]⟩
  obtain ⟨target, found, _⟩ := Table.exists_find?_of_any present
  exact ⟨.localReblog reblog target, by rw [localReblogItem, found, Option.map_some], rfl⟩

theorem remoteReblogItem_isSome {reblog : LocalRemoteStatusReblog}
    (member : reblog ∈ outboxRemoteReblogs db accountId) :
    ∃ item, remoteReblogItem db reblog = some item ∧ item.cursor = reblog.id := by
  obtain ⟨_, visible⟩ := Bool.and_eq_true_iff.mp (List.mem_filter.mp member).2
  obtain ⟨status, stored, _, _, same⟩ :=
    mem_publicRemoteStatuses_iff.mp (List.contains_iff_mem.mp visible)
  have present : (db.remoteStatuses.any fun status => status.id == reblog.remoteStatusId) = true :=
    List.any_eq_true.mpr ⟨status, stored, by rw [same, beq_self_eq_true]⟩
  obtain ⟨target, found, _⟩ := Table.exists_find?_of_any present
  exact ⟨.remoteReblog reblog target, by rw [remoteReblogItem, found, Option.map_some], rfl⟩

theorem outboxItems_cursors (db : OutboxDb) (accountId : AccountId) (requester : Option AccountId) :
    (outboxItems db accountId requester).map LocalOutboxItem.cursor =
      (outboxStatuses db accountId requester).map (fun status => status.id.value) ++
        ((outboxLocalReblogs db accountId requester).map LocalStatusReblog.id ++
          (outboxRemoteReblogs db accountId).map LocalRemoteStatusReblog.id) := by
  simp only [outboxItems, outboxLists, List.flatten_cons, List.flatten_nil, List.append_nil,
    List.map_append, List.map_map]
  refine congrArg₂ (· ++ ·) rfl (congrArg₂ (· ++ ·) ?_ ?_)
  · exact Table.map_filterMap_lookup fun _ member => localReblogItem_isSome member
  · exact Table.map_filterMap_lookup fun _ member => remoteReblogItem_isSome member

theorem outboxItems_length (db : OutboxDb) (accountId : AccountId) (requester : Option AccountId) :
    (outboxItems db accountId requester).length =
      countLocalActorOutboxItems db accountId requester := by
  have counted := congrArg List.length (outboxItems_cursors db accountId requester)
  simpa [countLocalActorOutboxItems, Nat.add_assoc] using counted

theorem outboxItems_sublist (db : OutboxDb) (accountId : AccountId) (requester : Option AccountId) :
    ((outboxItems db accountId requester).map LocalOutboxItem.cursor).Sublist (rowCursors db) := by
  rw [outboxItems_cursors]
  exact (List.filter_sublist.map _).append
    ((List.filter_sublist.map _).append (List.filter_sublist.map _))

theorem OutboxDb.Keyed.items (keyed : db.Keyed) (accountId : AccountId)
    (requester : Option AccountId) :
    ((outboxItems db accountId requester).map LocalOutboxItem.cursor).Nodup :=
  keyed.distinct.sublist (outboxItems_sublist db accountId requester)

end

/-!
## Boosts and their targets
-/

section

variable {Reblog Status : Type} {targetId : Reblog → StatusId} {id : Status → StatusId}

theorem withTargets_eq {targets : List Status} {reblogs : List Reblog}
    (distinct : (reblogs.map targetId).Nodup) :
    withTargets targetId id targets reblogs = reblogs.filterMap fun reblog =>
      (targets.find? fun target => id target == targetId reblog).map (reblog, ·) := by
  induction reblogs generalizing targets with
  | nil => rfl
  | cons reblog reblogs ih =>
      obtain ⟨apart, later⟩ := List.nodup_cons.mp distinct
      unfold withTargets
      cases found : targets.find? fun target => id target == targetId reblog with
      | none => simp only [List.filterMap_cons, found, Option.map_none, ih later]
      | some target =>
          simp only [List.filterMap_cons, found, Option.map_some, ih later]
          congr 1
          refine List.filterMap_congr fun other member => ?_
          rw [List.find?_filter]
          congr 2
          funext status
          by_cases own : id status = targetId other
          · have different : targetId other ≠ targetId reblog := fun same =>
              apart (same ▸ List.mem_map_of_mem member)
            simp [own, different]
          · simp [own]

theorem withTargets_items {Item : Type} {make : Reblog → Status → Item} {statuses : List Status}
    {reblogs : List Reblog} (distinct : (reblogs.map targetId).Nodup) :
    (withTargets targetId id
      (statuses.filter fun status => (reblogs.map targetId).contains (id status)) reblogs).map
        (fun (reblog, status) => make reblog status) =
      reblogs.filterMap fun reblog =>
        (statuses.find? fun status => id status == targetId reblog).map (make reblog) := by
  rw [withTargets_eq distinct, List.map_filterMap]
  refine List.filterMap_congr fun reblog member => ?_
  have listed : targetId reblog ∈ reblogs.map targetId := List.mem_map_of_mem member
  rw [List.find?_filter, Option.map_map]
  refine congrArg (Option.map (make reblog))
    (congrArg (List.find? · statuses) (funext fun status => ?_))
  by_cases own : id status = targetId reblog
  · simpa [own] using ⟨reblog, member, rfl⟩
  · simp [own]

end

/-!
## Pages
-/

theorem take_filterMap {Row Item : Type} {make : Row → Option Item} {rows : List Row}
    (made : ∀ row ∈ rows, ∃ item, make row = some item) (count : Nat) :
    (rows.take count).filterMap make = (rows.filterMap make).take count := by
  induction rows generalizing count with
  | nil => simp
  | cons row rows ih =>
      obtain ⟨item, here⟩ := made row List.mem_cons_self
      cases count with
      | zero => rfl
      | succ count =>
          have later := ih (fun other member => made other (List.mem_cons_of_mem _ member)) count
          rw [List.take_succ_cons, List.filterMap_cons_some here, List.filterMap_cons_some here,
            List.take_succ_cons, later]

section

variable {db : OutboxDb} {accountId : AccountId} {requester : Option AccountId}
variable {Key : Type} [LinearOrder Key] {order : Nat → Key} (injective : Function.Injective order)

include injective

theorem query_items {Row : Type} {id : Row → Nat} {make : Row → Option LocalOutboxItem}
    {rows : List Row} (distinct : (rows.map id).Nodup)
    (made : ∀ row ∈ rows, ∃ item, make row = some item)
    (keyed : ∀ row item, make row = some item → item.cursor = id row) (admitted : Nat → Bool)
    (count : Nat) :
    ((Keyset.arrange (order ∘ id) (rows.filter fun row => admitted (id row))).take count).filterMap
        make =
      (Keyset.arrange (order ∘ LocalOutboxItem.cursor)
        ((rows.filterMap make).filter fun item => admitted item.cursor)).take count := by
  have chosen : (rows.filterMap make).filter (fun item => admitted item.cursor) =
      (rows.filter fun row => admitted (id row)).filterMap make := by
    rw [List.filter_filterMap, List.filterMap_filter]
    refine List.filterMap_congr fun row _ => ?_
    cases item : make row with
    | none => simp
    | some item' => simp [Option.filter, keyed row item' item]
  have part : ((rows.filter fun row => admitted (id row)).map id).Sublist (rows.map id) :=
    List.filter_sublist.map id
  have once : ((rows.filter fun row => admitted (id row)).map (order ∘ id)).Nodup := by
    have ids := (distinct.sublist part).map injective
    rwa [List.map_map] at ids
  have arranged : Keyset.arrange (order ∘ LocalOutboxItem.cursor)
      ((rows.filter fun row => admitted (id row)).filterMap make) = _ :=
    Keyset.arrange_filterMap once fun row item made => congrArg order (keyed row item made)
  rw [chosen, arranged]
  refine take_filterMap (fun row member => ?_) count
  exact made row (List.mem_filter.mp (Keyset.mem_arrange.mp member)).1

omit injective in
theorem queriedRows_sublist (db : OutboxDb) (accountId : AccountId) (requester : Option AccountId) :
    ((outboxStatuses db accountId requester).map (fun status => status.id.value) ++
      ((outboxLocalReblogs db accountId requester).map LocalStatusReblog.id ++
        (outboxRemoteReblogs db accountId).map LocalRemoteStatusReblog.id)).Sublist
      (rowCursors db) :=
  (List.filter_sublist.map _).append ((List.filter_sublist.map _).append (List.filter_sublist.map _))

def queriedItems (order : Nat → Key) (db : OutboxDb) (accountId : AccountId)
    (requester : Option AccountId) (admitted : Nat → Bool) (count : Nat) : List LocalOutboxItem :=
  ((Keyset.arrange (order ∘ fun status : LocalStatus => status.id.value)
      ((outboxStatuses db accountId requester).filter fun status =>
        admitted status.id.value)).take count).map .status ++
    ((Keyset.arrange (order ∘ LocalStatusReblog.id)
      ((outboxLocalReblogs db accountId requester).filter fun reblog =>
        admitted reblog.id)).take count).filterMap (localReblogItem db) ++
    ((Keyset.arrange (order ∘ LocalRemoteStatusReblog.id)
      ((outboxRemoteReblogs db accountId).filter fun reblog =>
        admitted reblog.id)).take count).filterMap (remoteReblogItem db)

theorem queriedItems_eq (keyed : db.Keyed) (admitted : Nat → Bool) (count : Nat) :
    queriedItems order db accountId requester admitted count =
      ((outboxLists db accountId requester).map (List.filter fun item => admitted item.cursor)).flatMap
        fun rows => (Keyset.arrange (order ∘ LocalOutboxItem.cursor) rows).take count := by
  have rows := keyed.distinct.sublist (queriedRows_sublist db accountId requester)
  obtain ⟨statuses, others, _⟩ := List.nodup_append.mp rows
  obtain ⟨locals, remotes, _⟩ := List.nodup_append.mp others
  have first := @query_items _ _ order injective _ _ (some ∘ .status) _ statuses
    (fun _ _ => ⟨_, rfl⟩) (by rintro row item ⟨⟩; rfl) admitted count
  rw [List.filterMap_eq_map] at first
  rw [queriedItems, first, query_items injective locals
      (fun _ member => (localReblogItem_isSome member).imp fun _ found => found.1)
      (fun row item made => localReblogItem_cursor made) admitted count,
    query_items injective remotes
      (fun _ member => (remoteReblogItem_isSome member).imp fun _ found => found.1)
      (fun row item made => remoteReblogItem_cursor made) admitted count]
  simp [outboxLists]

omit injective in
theorem flatten_outboxLists (db : OutboxDb) (accountId : AccountId) (requester : Option AccountId)
    (admitted : Nat → Bool) :
    ((outboxLists db accountId requester).map
      (List.filter fun item => admitted item.cursor)).flatten =
        (outboxItems db accountId requester).filter fun item => admitted item.cursor :=
  List.filter_flatten.symm

omit [LinearOrder Key] in
theorem OutboxDb.Keyed.ordered (keyed : db.Keyed) (accountId : AccountId)
    (requester : Option AccountId) (admitted : Nat → Bool) :
    (((outboxItems db accountId requester).filter fun item => admitted item.cursor).map
      (order ∘ LocalOutboxItem.cursor)).Nodup := by
  have part : (((outboxItems db accountId requester).filter fun item =>
      admitted item.cursor).map LocalOutboxItem.cursor).Sublist
        ((outboxItems db accountId requester).map LocalOutboxItem.cursor) :=
    List.filter_sublist.map _
  have items := ((keyed.items accountId requester).sublist part).map injective
  rwa [List.map_map] at items

theorem take_queriedItems (keyed : db.Keyed) (admitted : Nat → Bool) (count : Nat) :
    (Keyset.arrange (order ∘ LocalOutboxItem.cursor)
      (queriedItems order db accountId requester admitted count)).take count =
      (Keyset.arrange (order ∘ LocalOutboxItem.cursor)
        ((outboxItems db accountId requester).filter fun item => admitted item.cursor)).take count := by
  have once := keyed.ordered injective accountId requester admitted
  rw [← flatten_outboxLists] at once ⊢
  rw [queriedItems_eq injective keyed, Keyset.take_arrange_merge once]

theorem queriedItems_distinct (keyed : db.Keyed) (admitted : Nat → Bool) (count : Nat) :
    ((queriedItems order db accountId requester admitted count).map LocalOutboxItem.cursor).Nodup := by
  have once := keyed.ordered injective accountId requester admitted
  rw [← flatten_outboxLists] at once
  have cuts := @Keyset.cuts_distinct _ _ _ _ count _ once
  rw [← queriedItems_eq injective keyed, ← List.map_map] at cuts
  exact cuts.of_map

end

section

variable {db : OutboxDb} {accountId : AccountId} {requester : Option AccountId}

theorem queryPage_ascending {Row : Type} {id : Row → Nat} {limit : Nat}
    {cursor : Timeline.CollectionCursor} {rows : List Row} (ascending : cursor.minId.isSome = true) :
    queryPage id limit cursor rows = (Keyset.arrange id
      (rows.filter fun row => Timeline.collectionCursorMatches (id row) cursor)).take (limit + 1) := by
  rw [queryPage, if_pos ascending]

theorem queryPage_descending {Row : Type} {id : Row → Nat} {limit : Nat}
    {cursor : Timeline.CollectionCursor} {rows : List Row} (descending : cursor.minId.isSome = false) :
    queryPage id limit cursor rows = (Keyset.arrange (OrderDual.toDual ∘ id)
      (rows.filter fun row => Timeline.collectionCursorMatches (id row) cursor)).take (limit + 1) := by
  rw [queryPage, if_neg (by simp [descending])]
  rfl

theorem queryPage_distinct {Row Value : Type} {id : Row → Nat} {value : Row → Value} {limit : Nat}
    {cursor : Timeline.CollectionCursor} {rows : List Row} (distinct : (rows.map value).Nodup) :
    ((queryPage id limit cursor rows).map value).Nodup := by
  have matched := distinct.sublist (List.filter_sublist.map value :
    ((rows.filter fun row => Timeline.collectionCursorMatches (id row) cursor).map value).Sublist _)
  cases direction : cursor.minId.isSome with
  | true =>
      rw [queryPage_ascending direction]
      exact (((Keyset.arrange_perm _ _).map value).nodup_iff.mpr matched).sublist
        ((List.take_sublist _ _).map value)
  | false =>
      rw [queryPage_descending direction]
      exact (((Keyset.arrange_perm _ _).map value).nodup_iff.mpr matched).sublist
        ((List.take_sublist _ _).map value)

theorem localActorOutboxPage_items (keyed : db.Keyed) (limit : Nat)
    (cursor : Timeline.CollectionCursor) :
    (localActorOutboxPage db accountId requester limit cursor).items =
      let items := (queryPage (fun status => status.id.value) limit cursor
          (outboxStatuses db accountId requester)).map .status ++
        (queryPage LocalStatusReblog.id limit cursor
          (outboxLocalReblogs db accountId requester)).filterMap (localReblogItem db) ++
        (queryPage LocalRemoteStatusReblog.id limit cursor
          (outboxRemoteReblogs db accountId)).filterMap (remoteReblogItem db)
      if cursor.minId.isSome then ((Keyset.arrange LocalOutboxItem.cursor items).take limit).reverse
      else (Keyset.arrange LocalOutboxItem.cursor items).reverse.take limit := by
  have locals : ((queryPage LocalStatusReblog.id limit cursor
      (outboxLocalReblogs db accountId requester)).map LocalStatusReblog.statusId).Nodup := by
    refine queryPage_distinct (@Table.UniqueOn.nodup_map_filter _ _ _ _ _ _ keyed.localReblogs _
      accountId fun reblog own => ?_)
    exact beq_iff_eq.mp (Bool.and_eq_true_iff.mp own).1
  have remotes : ((queryPage LocalRemoteStatusReblog.id limit cursor
      (outboxRemoteReblogs db accountId)).map LocalRemoteStatusReblog.remoteStatusId).Nodup := by
    refine queryPage_distinct (@Table.UniqueOn.nodup_map_filter _ _ _ _ _ _ keyed.remoteReblogs _
      accountId fun reblog own => ?_)
    exact beq_iff_eq.mp (Bool.and_eq_true_iff.mp own).1
  unfold localActorOutboxPage
  dsimp only
  rw [withTargets_items locals, withTargets_items remotes, Paging.trimToPage_eq]
  cases direction : cursor.minId.isSome with
  | true => rfl
  | false => rfl

theorem localActorOutboxPage_firstCursor (limit : Nat) (cursor : Timeline.CollectionCursor) :
    (localActorOutboxPage db accountId requester limit cursor).firstCursor =
      (localActorOutboxPage db accountId requester limit cursor).items.head?.map
        LocalOutboxItem.cursor := by
  unfold localActorOutboxPage
  rfl

theorem localActorOutboxPage_lastCursor (limit : Nat) (cursor : Timeline.CollectionCursor) :
    (localActorOutboxPage db accountId requester limit cursor).lastCursor =
      (localActorOutboxPage db accountId requester limit cursor).items.getLast?.map
        LocalOutboxItem.cursor := by
  unfold localActorOutboxPage
  rfl

def newestItems (db : OutboxDb) (accountId : AccountId) (requester : Option AccountId) :
    List LocalOutboxItem :=
  Keyset.arrange (OrderDual.toDual ∘ LocalOutboxItem.cursor) (outboxItems db accountId requester)

def oldestItems (db : OutboxDb) (accountId : AccountId) (requester : Option AccountId) :
    List LocalOutboxItem :=
  Keyset.arrange LocalOutboxItem.cursor (outboxItems db accountId requester)

theorem page_before (keyed : db.Keyed) (limit : Nat) (cursor : Option Nat) :
    (localActorOutboxPage db accountId requester limit ⟨cursor, none, none⟩).items =
      (Keyset.after (OrderDual.toDual ∘ LocalOutboxItem.cursor) (cursor.map OrderDual.toDual)
        (newestItems db accountId requester)).take limit := by
  let admitted (id : Nat) := Timeline.collectionCursorMatches id ⟨cursor, none, none⟩
  have dual : Function.Injective (OrderDual.toDual : Nat → Natᵒᵈ) := OrderDual.toDual.injective
  have once := @queriedItems_distinct db accountId requester _ _ _ dual keyed admitted (limit + 1)
  have merged := @take_queriedItems db accountId requester _ _ _ dual keyed admitted (limit + 1)
  have kept : Keyset.arrange (OrderDual.toDual ∘ LocalOutboxItem.cursor)
      ((outboxItems db accountId requester).filter fun item => admitted item.cursor) =
        Keyset.after (OrderDual.toDual ∘ LocalOutboxItem.cursor) (cursor.map OrderDual.toDual)
          (newestItems db accountId requester) := by
    have items := (keyed.items accountId requester).map dual
    rw [List.map_map] at items
    rw [Keyset.arrange_filter items]
    cases cursor with
    | none => exact List.filter_eq_self.mpr fun _ _ => rfl
    | some bound =>
        refine List.filter_congr fun item _ => ?_
        simp [admitted, Timeline.collectionCursorMatches]
  rw [localActorOutboxPage_items keyed]
  simp only [queryPage_descending, Option.isSome_none, if_false, Bool.false_eq_true]
  change (Keyset.arrange LocalOutboxItem.cursor
    (queriedItems OrderDual.toDual db accountId requester admitted (limit + 1))).reverse.take limit = _
  calc (Keyset.arrange LocalOutboxItem.cursor
        (queriedItems OrderDual.toDual db accountId requester admitted (limit + 1))).reverse.take limit
      = ((Keyset.arrange (OrderDual.toDual ∘ LocalOutboxItem.cursor)
          (queriedItems OrderDual.toDual db accountId requester admitted (limit + 1))).take
            (limit + 1)).take limit := by
        rw [List.take_take, Nat.min_eq_left (Nat.le_succ limit), Keyset.arrange_dual once]
    _ = _ := by
        rw [merged, List.take_take, Nat.min_eq_left (Nat.le_succ limit), kept]

theorem page_above (keyed : db.Keyed) (limit : Nat) (cursor : Nat) :
    (localActorOutboxPage db accountId requester limit ⟨none, none, some cursor⟩).items =
      ((Keyset.after LocalOutboxItem.cursor (some cursor)
        (oldestItems db accountId requester)).take limit).reverse := by
  let admitted (id : Nat) := Timeline.collectionCursorMatches id ⟨none, none, some cursor⟩
  have merged := @take_queriedItems db accountId requester _ _ _ Function.injective_id keyed admitted
    (limit + 1)
  have kept : Keyset.arrange LocalOutboxItem.cursor
      ((outboxItems db accountId requester).filter fun item => admitted item.cursor) =
        Keyset.after LocalOutboxItem.cursor (some cursor) (oldestItems db accountId requester) := by
    rw [Keyset.arrange_filter (keyed.items accountId requester)]
    refine List.filter_congr fun item _ => ?_
    simp [admitted, Timeline.collectionCursorMatches]
  rw [localActorOutboxPage_items keyed]
  simp only [queryPage_ascending, Option.isSome_some, if_true]
  change ((Keyset.arrange LocalOutboxItem.cursor
    (queriedItems id db accountId requester admitted (limit + 1))).take limit).reverse = _
  calc ((Keyset.arrange LocalOutboxItem.cursor
        (queriedItems id db accountId requester admitted (limit + 1))).take limit).reverse
      = (((Keyset.arrange (id ∘ LocalOutboxItem.cursor)
          (queriedItems id db accountId requester admitted (limit + 1))).take (limit + 1)).take
            limit).reverse := by
        rw [List.take_take, Nat.min_eq_left (Nat.le_succ limit)]
        rfl
    _ = _ := by
        rw [merged, List.take_take, Nat.min_eq_left (Nat.le_succ limit), ← kept]
        rfl

end

end Roosty.Federation.Outbox
