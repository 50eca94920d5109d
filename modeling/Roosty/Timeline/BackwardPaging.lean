import Roosty.Timeline.HomePaging
import Roosty.Timeline.Tag

/-!
# Backward pages

A cursor of newer items does not turn the order of the queries. Its page holds the newest
items above it, which are those immediately above it only where they fit one page.
-/

set_option autoImplicit false

namespace Roosty.Timeline

open Library

/-!
## One loader
-/

/-- When the pages above a cursor are the immediate ones, for a function from a maximum and
a minimum to a page, and when a walk from the oldest page lists all that is newer. -/
structure BackwardExact {Item : Type} (key : Item → Nat) (items : List Item) (limit : Nat)
    (load : Option Nat → Option Nat → Paging.Page Item) : Prop where
  page : ∀ item ∈ items,
    (load none (some (key item))).items =
        Paging.immediatelyNewer key limit (key item) items ↔
      limit = 0 ∨ (items.filter (Paging.after key (key item))).length ≤ limit
  walk : ∀ max first, (load max none).hasMore = false →
    (load max none).firstCursor = some first →
      ((∃ enough, ∀ rounds, enough ≤ rounds →
          (Paging.walkBack Paging.Page.firstCursor (fun min => load none (some min)) rounds
            (load max none)).Perm (items.filter (Paging.after key first))) ↔
        (items.filter (Paging.after key first)).length ≤ limit)
  /-- A client that follows the headers, of which the oldest page has none. -/
  links : ∀ max first, (load max none).hasMore = false →
    (load max none).firstCursor = some first →
      ((∃ enough, ∀ rounds, enough ≤ rounds →
          (Paging.walkBack (fun page => (linkHeader page).map PageLinks.prev)
            (fun min => load none (some min)) rounds (load max none)).Perm
              (items.filter (Paging.after key first))) ↔
        items.filter (Paging.after key first) = [])

theorem linkHeader_last {Item : Type} {page : Paging.Page Item} (last : page.hasMore = false) :
    linkHeader page = none := by
  rw [linkHeader, last]
  rfl

theorem backwardExact_of_newest {Item : Type} {key : Item → Nat} {items : List Item} {limit : Nat}
    {load : Option Nat → Option Nat → Paging.Page Item} (distinct : (items.map key).Nodup)
    (newest : ∀ cursor, load none (some cursor) =
      Paging.page key limit (limit + 1) (items.filter (Paging.after key cursor))) :
    BackwardExact key items limit load where
  page item _ := by
    rw [newest, Paging.page_items]
    exact Paging.take_eq_immediatelyNewer_iff distinct
  walk max first _ isFirst := by
    simp only [newest]
    exact Paging.walkBack_perm_iff isFirst limit
  links max first last _ := by
    have unlinked : (linkHeader (load max none)).map PageLinks.prev = none := by
      rw [linkHeader_last last]
      rfl
    have nothing : ∀ rounds, Paging.walkBack (fun page => (linkHeader page).map PageLinks.prev)
        (fun min => load none (some min)) rounds (load max none) = [] := by
      intro rounds
      exact Paging.walkBack_of_no_link unlinked rounds
    simp only [nothing]
    constructor
    · rintro ⟨enough, same⟩
      exact (same enough le_rfl).nil_eq.symm
    · intro none_newer
      exact ⟨0, fun _ _ => none_newer ▸ .refl _⟩

theorem LimitFits.mono {limit count fewer : Nat} (fits : LimitFits limit count)
    (few : fewer ≤ count) : LimitFits limit fewer :=
  fits.imp_right fun size => Nat.lt_of_le_of_lt few size

theorem applyTimelineCursor_min (cursor : Nat) (id : StatusId) :
    applyTimelineCursor ⟨none, none, some ⟨cursor⟩⟩ id = decide (cursor < id.value) := by
  simp [applyTimelineCursor]

/-!
## The home timeline
-/

theorem homeTimeline_above {db : HomeDb} {viewer : AccountId} {limit : Nat}
    (distinct : ((tableItems db).map itemKey).Nodup)
    (fits : LimitFits limit (tableItems db).length) (cursor : Nat) :
    homeTimelineForAccount db viewer limit ⟨none, none, some ⟨cursor⟩⟩ =
      Paging.page itemKey limit (limit + 1)
        ((homeItems db viewer).filter (Paging.after itemKey cursor)) := by
  rw [homeTimelineForAccount_eq distinct (fits.mono (homeItems_sublist db viewer).length_le)]
  have above : homeItemsWithin db viewer ⟨none, none, some ⟨cursor⟩⟩ =
      (homeItems db viewer).filter (Paging.after itemKey cursor) := by
    unfold homeItemsWithin
    refine List.filter_congr fun item _ => ?_
    exact applyTimelineCursor_min cursor (timelineItemId item)
  rw [above]

/-!
## Tag timelines
-/

section

variable (toLowercase : String → String) (db : TagDb) (options : TagTimelineOptions)

def publicItemKey (item : PublicTimelineItem) : Nat := (publicItemId item).value

def selectedItems (selection : TagSelection) : List PublicTimelineItem :=
  ((tagLocalStatuses db options).filter (tagLocalListed db options selection)).map
      .localStatus ++
    ((tagRemoteStatuses db options).filter (tagRemoteListed db options selection)).map
      .remoteStatus

def tagItems (tag : String) : List PublicTimelineItem :=
  ((tagSelection toLowercase db tag options).map (selectedItems db options)).getD []

theorem selectedItems_sublist (selection : TagSelection) :
    (selectedItems db options selection).Sublist
      (db.localStatuses.map .localStatus ++ db.remoteStatuses.map .remoteStatus) := by
  have locals : (tagLocalStatuses db options).Sublist db.localStatuses := by
    unfold tagLocalStatuses
    split
    · exact List.nil_sublist _
    · exact List.Sublist.refl _
  have remotes : (tagRemoteStatuses db options).Sublist db.remoteStatuses := by
    unfold tagRemoteStatuses
    split
    · exact List.nil_sublist _
    · exact List.Sublist.refl _
  exact ((List.filter_sublist.trans locals).map _).append
    ((List.filter_sublist.trans remotes).map _)

end

theorem publicItems_sublist (db : TagDb) :
    ((db.localStatuses.map PublicTimelineItem.localStatus ++
        db.remoteStatuses.map PublicTimelineItem.remoteStatus).map publicItemKey).Sublist
      ((tableItems db.toHomeDb).map itemKey) := by
  simp only [tableItems, List.map_append, List.map_map, List.append_assoc]
  refine List.Sublist.append (List.Sublist.refl _) ?_
  refine List.Sublist.trans ?_ (List.sublist_append_right _ _)
  exact List.sublist_append_left _ _

section

variable {toLowercase : String → String} {db : TagDb} {options : TagTimelineOptions}
variable {selection : TagSelection} {tag : String} {limit : Nat}

theorem selectedItems_keys : ((selectedItems db options selection).map publicItemKey).Sublist
    ((tableItems db.toHomeDb).map itemKey) :=
  ((selectedItems_sublist db options selection).map publicItemKey).trans (publicItems_sublist db)

theorem tagItems_distinct (distinct : ((tableItems db.toHomeDb).map itemKey).Nodup) :
    ((tagItems toLowercase db options tag).map publicItemKey).Nodup := by
  unfold tagItems
  cases tagSelection toLowercase db tag options with
  | none => exact List.nodup_nil
  | some selection => exact distinct.sublist selectedItems_keys

theorem selected_above (distinct : ((tableItems db.toHomeDb).map itemKey).Nodup)
    (fits : LimitFits limit (tableItems db.toHomeDb).length) (cursor : Nat) :
    Paging.trimToPage (Paging.newestFirst publicItemKey
        ((newestListed LocalStatus.id (tagLocalListed db options selection) limit
            ⟨none, none, some ⟨cursor⟩⟩ (tagLocalStatuses db options)).map .localStatus ++
          (newestListed RemoteStatus.id (tagRemoteListed db options selection) limit
            ⟨none, none, some ⟨cursor⟩⟩ (tagRemoteStatuses db options)).map .remoteStatus)) limit =
      Paging.trimToPage ((Paging.newestFirst publicItemKey
        ((selectedItems db options selection).filter
          (Paging.after publicItemKey cursor))).take (limit + 1)) limit := by
  have few : (selectedItems db options selection).length ≤ (tableItems db.toHomeDb).length := by
    simpa using (@selectedItems_keys db options selection).length_le
  rw [selectedItems, List.length_append] at few
  let above (items : List PublicTimelineItem) : List PublicTimelineItem :=
    items.filter fun item => applyTimelineCursor ⟨none, none, some ⟨cursor⟩⟩ (publicItemId item)
  let lists := [
    above (((tagLocalStatuses db options).filter (tagLocalListed db options selection)).map
      .localStatus),
    above (((tagRemoteStatuses db options).filter (tagRemoteListed db options selection)).map
      .remoteStatus)]
  have union : lists.flatten =
      (selectedItems db options selection).filter (Paging.after publicItemKey cursor) := by
    have both : lists.flatten = above (selectedItems db options selection) := by
      simp [lists, above, selectedItems]
    rw [both]
    refine List.filter_congr fun item _ => ?_
    exact applyTimelineCursor_min cursor (publicItemId item)
  have once : (lists.flatten.map publicItemKey).Nodup := by
    rw [union]
    exact distinct.sublist ((List.filter_sublist.map publicItemKey).trans selectedItems_keys)
  have merged := Paging.page_merge once limit
  rw [union] at merged
  rw [← merged, newestListed_map LocalStatus.id publicItemId .localStatus (fun _ => rfl) fits
      (by omega) _,
    newestListed_map RemoteStatus.id publicItemId .remoteStatus (fun _ => rfl) fits
      (by omega) _]
  simp only [lists, List.flatMap_cons, List.flatMap_nil, List.append_nil]
  rfl

theorem tagTimeline_above (distinct : ((tableItems db.toHomeDb).map itemKey).Nodup)
    (fits : LimitFits limit (tableItems db.toHomeDb).length) (cursor : Nat) :
    tagTimeline toLowercase db options tag limit ⟨none, none, some ⟨cursor⟩⟩ =
      Paging.page publicItemKey limit (limit + 1)
        ((tagItems toLowercase db options tag).filter (Paging.after publicItemKey cursor)) := by
  unfold tagTimeline tagItems
  cases tagSelection toLowercase db tag options with
  | none => rfl
  | some selection =>
      unfold Paging.page
      simp only [Option.map_some, Option.getD_some]
      rw [← selected_above distinct fits cursor]
      rfl

end

/-!
## Follow collections
-/

section

variable {Row Target : Type} {rows : List Row} {rowId : Row → Nat} {find : Row → Option Target}
variable {account : Target → FollowCollectionAccount}

theorem filterMap_admitted (admitted : Nat → Bool) :
    (rows.filterMap fun row =>
      if admitted (rowId row) then (find row).map fun target =>
        (⟨rowId row, account target⟩ : FollowCollectionEntry)
      else none) =
      (rows.filterMap fun row => (find row).map fun target =>
        (⟨rowId row, account target⟩ : FollowCollectionEntry)).filter fun entry =>
          admitted entry.id := by
  induction rows with
  | nil => rfl
  | cons row rows ih =>
      cases found : find row with
      | none => simp [found, ih]
      | some target =>
          by_cases kept : admitted (rowId row) = true
          · simp [found, ih, kept]
          · simp [found, ih, kept]

theorem filterMap_ids :
    ((rows.filterMap fun row => (find row).map fun target =>
        (⟨rowId row, account target⟩ : FollowCollectionEntry)).map
          FollowCollectionEntry.id).Sublist (rows.map rowId) := by
  induction rows with
  | nil => exact List.Sublist.refl _
  | cons row rows ih =>
      cases found : find row with
      | none => simpa [found] using ih.cons (rowId row)
      | some target => simpa [found] using ih

end

section

variable {L R : Type} (db : Db) (localRows : List L) (remoteRows : List R)
variable (localId : L → Nat × AccountId) (remoteId : R → Nat × AccountId)

def followItems : List FollowCollectionEntry :=
  (localRows.filterMap fun follow => (findLocalAccountById db (localId follow).2).map fun account =>
      ⟨(localId follow).1, .localAccount account⟩) ++
    remoteRows.filterMap fun follow => (findRemoteActorById db (remoteId follow).2).map fun actor =>
      ⟨(remoteId follow).1, .remoteActor actor⟩

theorem followEntries_eq_filter (admitted : Nat → Bool) :
    followEntries db localRows remoteRows localId remoteId admitted =
      (followItems db localRows remoteRows localId remoteId).filter fun entry =>
        admitted entry.id := by
  rw [followItems, List.filter_append]
  exact congrArg₂ (· ++ ·)
    (filterMap_admitted admitted) (filterMap_admitted admitted)

theorem followItems_ids :
    ((followItems db localRows remoteRows localId remoteId).map FollowCollectionEntry.id).Sublist
      (localRows.map (fun follow => (localId follow).1) ++
        remoteRows.map fun follow => (remoteId follow).1) := by
  rw [followItems, List.map_append]
  exact List.Sublist.append filterMap_ids filterMap_ids

theorem followCollection_above (limit cursor : Nat) :
    followCollectionPage db localRows remoteRows localId remoteId limit
        ⟨none, none, some cursor⟩ =
      Paging.page FollowCollectionEntry.id limit (limit + 1)
        ((followItems db localRows remoteRows localId remoteId).filter
          (Paging.after FollowCollectionEntry.id cursor)) := by
  have above : followEntries db localRows remoteRows localId remoteId
      (fun id => collectionCursorMatches id ⟨none, none, some cursor⟩) =
      (followItems db localRows remoteRows localId remoteId).filter
        (Paging.after FollowCollectionEntry.id cursor) := by
    rw [followEntries_eq_filter]
    refine List.filter_congr fun entry _ => ?_
    simp [collectionCursorMatches, Paging.after]
  unfold followCollectionPage Paging.page
  rw [above, Paging.trimToPage_take]

end

/-!
## All three
-/

section

variable {toLowercase : String → String} {db : TagDb} {limit : Nat}
variable {L R : Type} {localRows : List L} {remoteRows : List R}
variable {localId : L → Nat × AccountId} {remoteId : R → Nat × AccountId}

/-- Home timelines, tag timelines and follow collections page backward without gaps exactly
as far as the items above a cursor fit one page. -/
theorem backwardPaging_exact (distinct : ((tableItems db.toHomeDb).map itemKey).Nodup)
    (fits : LimitFits limit (tableItems db.toHomeDb).length)
    (relationships : (localRows.map (fun follow => (localId follow).1) ++
      remoteRows.map fun follow => (remoteId follow).1).Nodup) :
    (∀ viewer, BackwardExact itemKey (homeItems db.toHomeDb viewer) limit fun max min =>
      homeTimelineForAccount db.toHomeDb viewer limit
        ⟨max.map StatusId.mk, none, min.map StatusId.mk⟩) ∧
    (∀ options tag, BackwardExact publicItemKey (tagItems toLowercase db options tag) limit
      fun max min => tagTimeline toLowercase db options tag limit
        ⟨max.map StatusId.mk, none, min.map StatusId.mk⟩) ∧
    BackwardExact FollowCollectionEntry.id
      (followItems db.toDb localRows remoteRows localId remoteId) limit fun max min =>
        followCollectionPage db.toDb localRows remoteRows localId remoteId limit
          ⟨max, none, min⟩ := by
  refine ⟨?home, ?tag, ?follow⟩
  case home =>
    intro viewer
    exact backwardExact_of_newest (homeItems_distinct distinct) (homeTimeline_above distinct fits)
  case tag =>
    intro options tag
    exact backwardExact_of_newest (tagItems_distinct distinct) (tagTimeline_above distinct fits)
  case follow =>
    exact backwardExact_of_newest (relationships.sublist (followItems_ids ..))
      (followCollection_above _ _ _ _ _ _)

end

namespace BackwardSample

open HomeSample

def sample : TagDb :=
  { HomeSample.sample with
    localStatusTags := [(post.id, 7), (ownPost.id, 7)]
    localMedia := []
    remoteMedia := []
    localTags := [⟨7, "news"⟩]
    limitedAccounts := []
    limitedActors := [] }

def everything : TagTimelineOptions := ⟨[], [], [], false, .federated, none, ["*"], []⟩

/-- The follower sees 102, 300, 301 and 302. After 102 a page of one shows the newest, and
the walk from the oldest page ends there. -/
theorem newer_items_skipped :
    ((homeTimelineForAccount HomeSample.sample follower 1
        ⟨none, none, some ⟨102⟩⟩).items.map itemKey = [302] ∧
      (Paging.immediatelyNewer itemKey 1 102
        (homeItems HomeSample.sample follower)).map itemKey = [300]) ∧
    (homeTimelineForAccount HomeSample.sample follower 1 ⟨some ⟨300⟩, none, none⟩).hasMore =
      false ∧
    (Paging.walkBack Paging.Page.firstCursor
      (fun min => homeTimelineForAccount HomeSample.sample follower 1 ⟨none, none, some ⟨min⟩⟩) 5
      (homeTimelineForAccount HomeSample.sample follower 1 ⟨some ⟨300⟩, none, none⟩)).map
        itemKey = [302] := by
  decide +kernel

/-- Relationship rows of the author and the booster, and of the writer. -/
def localRelationships : List (Nat × AccountId) := [(1, author), (4, booster)]

def remoteRelationships : List (Nat × AccountId) := [(2, writer)]

/-- The samples page backward exactly as far as one page reaches. -/
theorem sample_backward_exact :
    BackwardExact itemKey (homeItems sample.toHomeDb follower) 1 (fun max min =>
      homeTimelineForAccount sample.toHomeDb follower 1
        ⟨max.map StatusId.mk, none, min.map StatusId.mk⟩) ∧
    BackwardExact publicItemKey (tagItems id sample everything "news") 1 (fun max min =>
      tagTimeline id sample everything "news" 1
        ⟨max.map StatusId.mk, none, min.map StatusId.mk⟩) ∧
    BackwardExact FollowCollectionEntry.id
      (followItems sample.toDb localRelationships remoteRelationships id id) 1 fun max min =>
        followCollectionPage sample.toDb localRelationships remoteRelationships id id 1
          ⟨max, none, min⟩ := by
  have distinct : ((tableItems sample.toHomeDb).map itemKey).Nodup := by decide
  have fits : LimitFits 1 (tableItems sample.toHomeDb).length := .inl (by decide)
  have relationships : (localRelationships.map Prod.fst ++
      remoteRelationships.map Prod.fst).Nodup := by decide
  obtain ⟨homes, tags, follows⟩ := @backwardPaging_exact id sample 1 _ _ _ _ id id distinct fits
    relationships
  exact ⟨homes follower, tags everything "news", follows⟩

end BackwardSample

end Roosty.Timeline
