import Mathlib.Algebra.Group.Nat.Defs
import Roosty.Library.PagingMerge
import Roosty.Timeline.HomeProperties

/-!
# Pages of the home timeline

Each of the five queries is cut before the merge, and the merge is cut again. A page is
still the page of one list that holds the rows of all five.
-/

set_option autoImplicit false

namespace Roosty.Timeline

open Library

def itemKey (item : HomeTimelineItem) : Nat := (timelineItemId item).value

section

variable (db : HomeDb)

def tableItems : List HomeTimelineItem :=
  db.localStatuses.map .status ++ db.localStatusReblogs.map .reblog ++
    db.remoteStatuses.map .remoteStatus ++
    db.localRemoteStatusReblogs.map .localRemoteReblog ++
    db.remoteStatusReblogs.map .remoteReblog

/-- The home timeline in full: the statuses and boosts that its queries list. -/
def homeItems (viewer : AccountId) : List HomeTimelineItem :=
  (db.localStatuses.filter (statusListed db viewer)).map .status ++
    (db.localStatusReblogs.filter (reblogListed db viewer)).map .reblog ++
    (db.remoteStatuses.filter (remoteStatusHomeListed db viewer)).map .remoteStatus ++
    (db.localRemoteStatusReblogs.filter (localRemoteReblogListed db viewer)).map
      .localRemoteReblog ++
    (db.remoteStatusReblogs.filter (remoteReblogListed db viewer)).map .remoteReblog

def homeItemsWithin (viewer : AccountId) (cursor : TimelineCursor) : List HomeTimelineItem :=
  (homeItems db viewer).filter fun item => applyTimelineCursor cursor (timelineItemId item)

end

/-- The limit of a query is one more than that of its page, or more than there are items. -/
def LimitFits (limit count : Nat) : Prop := limit + 1 < 2 ^ 64 ∨ count < 2 ^ 64

theorem take_pageQueryLimit {Row : Type} {limit count : Nat} {rows : List Row}
    (fits : LimitFits limit count) (few : rows.length ≤ count) :
    rows.take (pageQueryLimit limit) = rows.take (limit + 1) := by
  unfold pageQueryLimit
  by_cases narrow : limit + 1 < 2 ^ 64
  · rw [Nat.min_eq_left (by omega)]
  · have size : rows.length < 2 ^ 64 := lt_of_le_of_lt few (fits.resolve_left narrow)
    rw [List.take_of_length_le (by omega), List.take_of_length_le (by omega)]

variable {db : HomeDb} {viewer : AccountId} {limit : Nat}

theorem homeItems_sublist (db : HomeDb) (viewer : AccountId) :
    (homeItems db viewer).Sublist (tableItems db) := by
  unfold homeItems tableItems
  exact ((((List.filter_sublist.map _).append (List.filter_sublist.map _)).append
    (List.filter_sublist.map _)).append (List.filter_sublist.map _)).append
      (List.filter_sublist.map _)

theorem homeItems_distinct (distinct : ((tableItems db).map itemKey).Nodup) :
    ((homeItems db viewer).map itemKey).Nodup :=
  distinct.sublist ((homeItems_sublist db viewer).map itemKey)

theorem newestListed_map {Row Item : Type} (id : Row → StatusId) (itemId : Item → StatusId)
    (make : Row → Item) {listed : Row → Bool} {rows : List Row} {count : Nat}
    (made : ∀ row, itemId (make row) = id row) (fits : LimitFits limit count)
    (few : ((rows.filter listed).map make).length ≤ count) (cursor : TimelineCursor) :
    (newestListed id listed limit cursor rows).map make =
      (Paging.newestFirst (fun item => (itemId item).value)
        (((rows.filter listed).map make).filter fun item =>
          applyTimelineCursor cursor (itemId item))).take (limit + 1) := by
  have selected : ((rows.filter listed).map make).filter
      (fun item => applyTimelineCursor cursor (itemId item)) =
        (rows.filter fun row => listed row && applyTimelineCursor cursor (id row)).map make := by
    rw [List.filter_map, List.filter_filter]
    congr 1
    refine List.filter_congr fun row _ => ?_
    rw [Function.comp_apply, made, Bool.and_comm]
  have sorted : ∀ chosen : List Row,
      (Paging.newestFirst (fun row => (id row).value) chosen).map make =
        Paging.newestFirst (fun item => (itemId item).value) (chosen.map make) := by
    intro chosen
    refine List.map_insertionSort _ _ make chosen fun first _ second _ => ?_
    simp only [made]
  rw [newestListed, selected, List.map_take, sorted]
  refine take_pageQueryLimit fits ?_
  rw [Paging.length_newestFirst, ← selected]
  exact (List.length_filter_le _ _).trans few

theorem homeTimelineForAccount_eq (distinct : ((tableItems db).map itemKey).Nodup)
    (fits : LimitFits limit (homeItems db viewer).length) (cursor : TimelineCursor) :
    homeTimelineForAccount db viewer limit cursor =
      Paging.page itemKey limit (limit + 1) (homeItemsWithin db viewer cursor) := by
  have counts : (homeItems db viewer).length =
      ((db.localStatuses.filter (statusListed db viewer)).map HomeTimelineItem.status).length +
      ((db.localStatusReblogs.filter (reblogListed db viewer)).map
        HomeTimelineItem.reblog).length +
      ((db.remoteStatuses.filter (remoteStatusHomeListed db viewer)).map
        HomeTimelineItem.remoteStatus).length +
      ((db.localRemoteStatusReblogs.filter (localRemoteReblogListed db viewer)).map
        HomeTimelineItem.localRemoteReblog).length +
      ((db.remoteStatusReblogs.filter (remoteReblogListed db viewer)).map
        HomeTimelineItem.remoteReblog).length := by
    simp only [homeItems, List.length_append]
  let within (items : List HomeTimelineItem) : List HomeTimelineItem :=
    items.filter fun item => applyTimelineCursor cursor (timelineItemId item)
  let lists := [within ((db.localStatuses.filter (statusListed db viewer)).map .status),
    within ((db.localStatusReblogs.filter (reblogListed db viewer)).map .reblog),
    within ((db.remoteStatuses.filter (remoteStatusHomeListed db viewer)).map .remoteStatus),
    within ((db.localRemoteStatusReblogs.filter (localRemoteReblogListed db viewer)).map
      .localRemoteReblog),
    within ((db.remoteStatusReblogs.filter (remoteReblogListed db viewer)).map .remoteReblog)]
  have union : homeItemsWithin db viewer cursor = lists.flatten := by
    simp [homeItemsWithin, homeItems, lists, within]
  have candidates : homeTimelineCandidates db viewer limit cursor =
      lists.flatMap fun rows => (Paging.newestFirst itemKey rows).take (limit + 1) := by
    unfold homeTimelineCandidates
    rw [newestListed_map LocalStatus.id timelineItemId .status (fun _ => rfl) fits (by omega)
        cursor,
      newestListed_map LocalStatusReblog.id timelineItemId .reblog (fun _ => rfl) fits (by omega)
        cursor,
      newestListed_map RemoteStatus.id timelineItemId .remoteStatus (fun _ => rfl) fits (by omega)
        cursor,
      newestListed_map LocalRemoteStatusReblog.id timelineItemId .localRemoteReblog (fun _ => rfl)
        fits (by omega) cursor,
      newestListed_map RemoteStatusReblog.id timelineItemId .remoteReblog (fun _ => rfl) fits
        (by omega) cursor]
    simp only [lists, List.flatMap_cons, List.flatMap_nil, List.append_nil, List.append_assoc]
    rfl
  have once : (lists.flatten.map itemKey).Nodup := by
    rw [← union]
    exact (homeItems_distinct distinct).sublist (List.filter_sublist.map itemKey)
  have merged := Paging.page_merge once limit
  rw [← candidates, ← union] at merged
  unfold homeTimelineForAccount Paging.page
  rw [← merged]
  rfl

/-- The home timeline has no gaps: a page holds the newest of the items that its cursor
admits, and a walk along the last cursors lists every item once. -/
theorem homeTimeline_without_gaps (distinct : ((tableItems db).map itemKey).Nodup)
    (positive : 0 < limit) (fits : LimitFits limit (homeItems db viewer).length)
    (since : Option StatusId) :
    (∀ max, Paging.Newest itemKey (homeItemsWithin db viewer ⟨max, since, none⟩) limit
      (homeTimelineForAccount db viewer limit ⟨max, since, none⟩)) ∧
    ∃ items : List HomeTimelineItem,
      items.Perm (homeItemsWithin db viewer ⟨none, since, none⟩) ∧
      items.Pairwise (fun first second => itemKey second < itemKey first) ∧
      ∀ rounds, (homeItems db viewer).length < rounds →
        Paging.walk (fun max => homeTimelineForAccount db viewer limit
          ⟨max.map StatusId.mk, since, none⟩) rounds none = some items := by
  have once : ((homeItems db viewer).map itemKey).Nodup := homeItems_distinct distinct
  have within : ∀ cursor, ((homeItemsWithin db viewer cursor).map itemKey).Nodup := by
    intro cursor
    exact once.sublist (List.filter_sublist.map itemKey)
  constructor
  · intro max
    rw [homeTimelineForAccount_eq distinct fits]
    exact Paging.page_newest (within _) positive
  · refine ⟨Paging.newestFirst itemKey (homeItemsWithin db viewer ⟨none, since, none⟩),
      List.perm_insertionSort _ _, Paging.newestFirst_descending (within _), ?_⟩
    intro rounds enough
    have loads : (fun max : Option Nat => homeTimelineForAccount db viewer limit
        ⟨max.map StatusId.mk, since, none⟩) = fun max => Paging.page itemKey limit (limit + 1)
          ((homeItemsWithin db viewer ⟨none, since, none⟩).filter (Paging.before itemKey max)) := by
      funext max
      rw [homeTimelineForAccount_eq distinct fits]
      congr 1
      unfold homeItemsWithin
      rw [List.filter_filter]
      refine List.filter_congr fun item _ => ?_
      cases max with
      | none => simp [applyTimelineCursor, Paging.before]
      | some bound =>
          simp only [applyTimelineCursor, Paging.before, itemKey, Option.map_some,
            Option.all_some, Option.all_none, Bool.true_and, Bool.and_true]
          rfl
    have whole : (homeItemsWithin db viewer ⟨none, since, none⟩).filter
        (Paging.before itemKey none) = homeItemsWithin db viewer ⟨none, since, none⟩ :=
      List.filter_eq_self.mpr fun _ _ => rfl
    rw [loads, Paging.walk_page (within _) positive, whole]
    rw [whole]
    exact lt_of_le_of_lt (List.length_filter_le _ _) enough

open HomeSample in
/-- The follower's home timeline, one item a page. -/
theorem follower_home_without_gaps :
    ∃ items, items.Perm (homeItemsWithin sample follower ⟨none, none, none⟩) ∧
      Paging.walk (fun max => homeTimelineForAccount sample follower 1
        ⟨max.map StatusId.mk, none, none⟩) 20 none = some items := by
  have distinct : ((tableItems sample).map itemKey).Nodup := by decide
  have fits : LimitFits 1 (homeItems sample follower).length := .inl (by decide)
  obtain ⟨_, items, all, _, walked⟩ := homeTimeline_without_gaps distinct Nat.one_pos fits none
  exact ⟨items, all, walked 20 (by decide)⟩

end Roosty.Timeline
