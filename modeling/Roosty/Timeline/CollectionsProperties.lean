import Mathlib.Algebra.Group.Nat.Defs
import Roosty.Timeline.Collections

/-!
# Walks over favourites and featured statuses

Both collections lose statuses on the way. The walk over the favourites is complete
exactly when, at each page boundary, the favourites of deleted statuses do not crowd the
live ones out; the walk over the featured statuses when one page holds them all.
-/

set_option autoImplicit false

namespace Roosty.Timeline

open Library Paging

/-!
## Favourites
-/

/-- The favourites of an account whose statuses are live, with the keys of their rows. -/
def liveFavourites (db : CollectionDb) (account : AccountId) : List (Nat × FavouriteStatus) :=
  (db.localStatusFavourites.filter fun row => row.accountId == account).filterMap (localEntry db) ++
    (db.localRemoteStatusFavourites.filter fun row => row.localAccountId == account).filterMap
      (remoteEntry db)

/-- A collection read to its end with `max_id`. -/
def walkFavourites (db : CollectionDb) (account : AccountId) (limit rounds : Nat) :
    Option (List FavouriteStatus) :=
  walk (fun cursor => favouritesForAccount db account limit ⟨cursor, none, none⟩) rounds none

structure CollectionDb.Keyed (db : CollectionDb) : Prop extends db.toDb.Keyed where
  favouriteIds : (db.localStatusFavourites.map LocalStatusFavourite.id ++
    db.localRemoteStatusFavourites.map LocalRemoteStatusFavourite.id).Nodup
  localFavourites : (db.localStatusFavourites.map fun row => (row.accountId, row.statusId)).Nodup
  remoteFavourites : (db.localRemoteStatusFavourites.map fun row =>
    (row.localAccountId, row.remoteStatusId)).Nodup

/-- How many favourites of a table, live or not, a page reads down to one of them. -/
def depth {Row : Type} (id : Row → Nat) (owner : Row → AccountId) (account : AccountId)
    (cursor : Option Nat) (rows : List Row) (newest : Nat) : Nat :=
  (rows.filter fun row =>
    owner row == account && before id cursor row && decide (newest ≤ id row)).length

/-- How many favourites of its own table a page reads down to a favourite. -/
def favouriteDepth (db : CollectionDb) (account : AccountId) (cursor : Option Nat) :
    Nat × FavouriteStatus → Nat
  | (id, .localStatus _) => depth LocalStatusFavourite.id LocalStatusFavourite.accountId account
      cursor db.localStatusFavourites id
  | (id, .remoteStatus _) => depth LocalRemoteStatusFavourite.id
      LocalRemoteStatusFavourite.localAccountId account cursor db.localRemoteStatusFavourites id

def readFavourites (db : CollectionDb) (account : AccountId) (limit : Nat) (cursor : Option Nat) :
    List (Nat × FavouriteStatus) :=
  (remaining Prod.fst (liveFavourites db account) cursor).filter fun entry =>
    favouriteDepth db account cursor entry ≤ pageQueryLimit limit

/-- The next live favourites are read, and more of them where there are more. -/
structure Uncrowded (db : CollectionDb) (account : AccountId) (limit : Nat)
    (cursor : Option Nat) : Prop where
  next : ∀ entry ∈ (newestFirst Prod.fst
    (remaining Prod.fst (liveFavourites db account) cursor)).take limit,
      favouriteDepth db account cursor entry ≤ pageQueryLimit limit
  more : limit < (remaining Prod.fst (liveFavourites db account) cursor).length →
    limit < (readFavourites db account limit cursor).length

section

variable {db : CollectionDb} {account : AccountId} {limit : Nat} {cursor : Option Nat}
  {entry : Nat × FavouriteStatus}

theorem localEntry_id (db : CollectionDb) (row : LocalStatusFavourite)
    (entry : Nat × FavouriteStatus) (found : localEntry db row = some entry) : entry.1 = row.id := by
  obtain ⟨status, _, rfl⟩ := Option.map_eq_some_iff.mp found
  rfl

theorem remoteEntry_id (db : CollectionDb) (row : LocalRemoteStatusFavourite)
    (entry : Nat × FavouriteStatus) (found : remoteEntry db row = some entry) :
    entry.1 = row.id := by
  obtain ⟨status, _, rfl⟩ := Option.map_eq_some_iff.mp found
  rfl

private theorem mem_newestFavourites_iff {Row : Type} {id : Row → Nat} (owner : Row → AccountId)
    {toEntry : Row → Option (Nat × FavouriteStatus)} {rows : List Row}
    (keeps : ∀ row entry, toEntry row = some entry → entry.1 = id row)
    (distinct : (rows.map id).Nodup) (account : AccountId) (limit : Nat) (cursor : Option Nat)
    (entry : Nat × FavouriteStatus) :
    entry ∈ (newestFavourites account id owner limit ⟨cursor, none, none⟩ rows).filterMap toEntry ↔
      entry ∈ (rows.filter fun row => owner row == account).filterMap toEntry ∧
        before Prod.fst cursor entry = true ∧
          depth id owner account cursor rows entry.1 ≤ pageQueryLimit limit := by
  have filtered : ((rows.filter fun row =>
      owner row == account && collectionCursorMatches (id row) ⟨cursor, none, none⟩).map id).Nodup :=
    (List.filter_sublist.map id).nodup distinct
  have matching (row : Row) :
      collectionCursorMatches (id row) ⟨cursor, none, none⟩ = before id cursor row := by
    simp [collectionCursorMatches, before]
  have counted (row : Row) : ((rows.filter fun other =>
      owner other == account && collectionCursorMatches (id other) ⟨cursor, none, none⟩).filter
        fun other => id row ≤ id other).length = depth id owner account cursor rows (id row) := by
    unfold depth
    rw [List.filter_filter]
    congr 2
    funext other
    rw [matching, Bool.and_comm]
  rw [List.mem_filterMap, List.mem_filterMap]
  unfold newestFavourites
  constructor
  · rintro ⟨row, member, found⟩
    obtain ⟨inside, few⟩ := (mem_take_newestFirst_iff filtered).mp member
    obtain ⟨stored, selected⟩ := List.mem_filter.mp inside
    rw [Bool.and_eq_true, matching] at selected
    have same := keeps row entry found
    rw [counted, ← same] at few
    refine ⟨⟨row, List.mem_filter.mpr ⟨stored, selected.1⟩, found⟩, ?_, few⟩
    have earlier := selected.2
    unfold before at earlier ⊢
    rwa [same]
  · rintro ⟨⟨row, inside, found⟩, earlier, few⟩
    obtain ⟨stored, owned⟩ := List.mem_filter.mp inside
    have same := keeps row entry found
    refine ⟨row, (mem_take_newestFirst_iff filtered).mpr ⟨?_, ?_⟩, found⟩
    · refine List.mem_filter.mpr ⟨stored, ?_⟩
      rw [Bool.and_eq_true, matching]
      refine ⟨owned, ?_⟩
      unfold before at earlier ⊢
      rwa [← same]
    · rw [counted, ← same]
      exact few

private def cutFavourites (db : CollectionDb) (account : AccountId) (limit : Nat)
    (cursor : Option Nat) : List (Nat × FavouriteStatus) :=
  (newestFavourites account LocalStatusFavourite.id LocalStatusFavourite.accountId limit
      ⟨cursor, none, none⟩ db.localStatusFavourites).filterMap (localEntry db) ++
    (newestFavourites account LocalRemoteStatusFavourite.id
      LocalRemoteStatusFavourite.localAccountId limit ⟨cursor, none, none⟩
        db.localRemoteStatusFavourites).filterMap (remoteEntry db)

private theorem localEntry_kind {rows : List LocalStatusFavourite}
    (member : entry ∈ rows.filterMap (localEntry db)) :
    ∃ id status, entry = (id, .localStatus status) := by
  obtain ⟨row, _, found⟩ := List.mem_filterMap.mp member
  obtain ⟨status, _, rfl⟩ := Option.map_eq_some_iff.mp found
  exact ⟨_, _, rfl⟩

private theorem remoteEntry_kind {rows : List LocalRemoteStatusFavourite}
    (member : entry ∈ rows.filterMap (remoteEntry db)) :
    ∃ id status, entry = (id, .remoteStatus status) := by
  obtain ⟨row, _, found⟩ := List.mem_filterMap.mp member
  obtain ⟨status, _, rfl⟩ := Option.map_eq_some_iff.mp found
  exact ⟨_, _, rfl⟩

private theorem mem_cutFavourites_iff (keyed : db.Keyed) :
    entry ∈ cutFavourites db account limit cursor ↔ entry ∈ readFavourites db account limit cursor := by
  have ids := List.nodup_append.mp keyed.favouriteIds
  unfold cutFavourites readFavourites remaining liveFavourites
  rw [List.mem_append, List.mem_filter, List.mem_filter, List.mem_append,
    mem_newestFavourites_iff _ (localEntry_id db) ids.1,
    mem_newestFavourites_iff _ (remoteEntry_id db) ids.2.1]
  constructor
  · rintro (⟨member, earlier, few⟩ | ⟨member, earlier, few⟩)
    · obtain ⟨id, status, rfl⟩ := localEntry_kind member
      exact ⟨⟨.inl member, earlier⟩, decide_eq_true few⟩
    · obtain ⟨id, status, rfl⟩ := remoteEntry_kind member
      exact ⟨⟨.inr member, earlier⟩, decide_eq_true few⟩
  · rintro ⟨⟨member | member, earlier⟩, few⟩
    · obtain ⟨id, status, rfl⟩ := localEntry_kind member
      exact .inl ⟨member, earlier, of_decide_eq_true few⟩
    · obtain ⟨id, status, rfl⟩ := remoteEntry_kind member
      exact .inr ⟨member, earlier, of_decide_eq_true few⟩

private theorem entries_sublist {Row : Type} {id : Row → Nat}
    {toEntry : Row → Option (Nat × FavouriteStatus)}
    (keeps : ∀ row entry, toEntry row = some entry → entry.1 = id row) (rows : List Row) :
    ((rows.filterMap toEntry).map Prod.fst).Sublist (rows.map id) := by
  induction rows with
  | nil => exact List.Sublist.refl _
  | cons row rows ih =>
      cases found : toEntry row with
      | none =>
          rw [List.filterMap_cons_none found, List.map_cons]
          exact ih.cons _
      | some entry =>
          rw [List.filterMap_cons_some found, List.map_cons, List.map_cons, keeps row entry found]
          exact ih.cons_cons _

private theorem entries_nodup (keyed : db.Keyed) {localRows : List LocalStatusFavourite}
    {remoteRows : List LocalRemoteStatusFavourite} (localIn : localRows ⊆ db.localStatusFavourites)
    (localOnce : (localRows.map LocalStatusFavourite.id).Nodup)
    (remoteIn : remoteRows ⊆ db.localRemoteStatusFavourites)
    (remoteOnce : (remoteRows.map LocalRemoteStatusFavourite.id).Nodup) :
    ((localRows.filterMap (localEntry db) ++ remoteRows.filterMap (remoteEntry db)).map
      Prod.fst).Nodup := by
  have localKeys := entries_sublist (localEntry_id db) localRows
  have remoteKeys := entries_sublist (remoteEntry_id db) remoteRows
  have apart := (List.nodup_append.mp keyed.favouriteIds).2.2
  rw [List.map_append, List.nodup_append]
  refine ⟨localKeys.nodup localOnce, remoteKeys.nodup remoteOnce, ?_⟩
  intro left leftIn right rightIn
  exact apart left (List.map_subset _ localIn (localKeys.subset leftIn)) right
    (List.map_subset _ remoteIn (remoteKeys.subset rightIn))

private theorem newestFavourites_once {Row : Type} {id : Row → Nat} (owner : Row → AccountId)
    {rows : List Row} (distinct : (rows.map id).Nodup) (account : AccountId) (limit : Nat)
    (cursor : CollectionCursor) :
    newestFavourites account id owner limit cursor rows ⊆ rows ∧
      ((newestFavourites account id owner limit cursor rows).map id).Nodup := by
  unfold newestFavourites
  constructor
  · intro row member
    exact (List.mem_filter.mp (mem_newestFirst.mp (List.mem_of_mem_take member))).1
  · have filtered : ((rows.filter fun row =>
        owner row == account && collectionCursorMatches (id row) cursor).map id).Nodup :=
      (List.filter_sublist.map id).nodup distinct
    have sorted := ((List.perm_insertionSort (fun left right => id right ≤ id left) _).map
      id).nodup_iff.mpr filtered
    exact ((List.take_sublist _ _).map id).nodup sorted

private theorem cutFavourites_nodup (keyed : db.Keyed) :
    ((cutFavourites db account limit cursor).map Prod.fst).Nodup := by
  have ids := List.nodup_append.mp keyed.favouriteIds
  obtain ⟨localIn, localOnce⟩ := newestFavourites_once LocalStatusFavourite.accountId ids.1 account
    limit ⟨cursor, none, none⟩
  obtain ⟨remoteIn, remoteOnce⟩ := newestFavourites_once LocalRemoteStatusFavourite.localAccountId
    ids.2.1 account limit ⟨cursor, none, none⟩
  exact entries_nodup keyed localIn localOnce remoteIn remoteOnce

theorem liveFavourites_nodup (keyed : db.Keyed) :
    ((liveFavourites db account).map Prod.fst).Nodup := by
  have ids := List.nodup_append.mp keyed.favouriteIds
  exact entries_nodup keyed (List.filter_subset_self _) ((List.filter_sublist.map _).nodup ids.1)
    (List.filter_subset_self _) ((List.filter_sublist.map _).nodup ids.2.1)

private theorem liveFavourites_injective (keyed : db.Keyed) :
    ∀ first ∈ liveFavourites db account, ∀ second ∈ liveFavourites db account,
      first.2 = second.2 → first = second := by
  intro first firstIn second secondIn same
  rcases List.mem_append.mp firstIn with firstIn | firstIn <;>
    rcases List.mem_append.mp secondIn with secondIn | secondIn
  · obtain ⟨one, oneIn, oneFound⟩ := List.mem_filterMap.mp firstIn
    obtain ⟨two, twoIn, twoFound⟩ := List.mem_filterMap.mp secondIn
    obtain ⟨oneStored, oneOwned⟩ := List.mem_filter.mp oneIn
    obtain ⟨twoStored, twoOwned⟩ := List.mem_filter.mp twoIn
    obtain ⟨status, oneStatus, rfl⟩ := Option.map_eq_some_iff.mp oneFound
    obtain ⟨other, twoStatus, rfl⟩ := Option.map_eq_some_iff.mp twoFound
    cases same
    have oneId := ((findLocalStatusById_eq_some_iff keyed.toKeyed).mp oneStatus).2.1
    have twoId := ((findLocalStatusById_eq_some_iff keyed.toKeyed).mp twoStatus).2.1
    have sameRow := List.inj_on_of_nodup_map keyed.localFavourites oneStored twoStored
      (Prod.ext ((beq_iff_eq.mp oneOwned).trans (beq_iff_eq.mp twoOwned).symm)
        (oneId.symm.trans twoId))
    rw [sameRow]
  · obtain ⟨id, status, rfl⟩ := localEntry_kind firstIn
    obtain ⟨id, status, rfl⟩ := remoteEntry_kind secondIn
    cases same
  · obtain ⟨id, status, rfl⟩ := remoteEntry_kind firstIn
    obtain ⟨id, status, rfl⟩ := localEntry_kind secondIn
    cases same
  · obtain ⟨one, oneIn, oneFound⟩ := List.mem_filterMap.mp firstIn
    obtain ⟨two, twoIn, twoFound⟩ := List.mem_filterMap.mp secondIn
    obtain ⟨oneStored, oneOwned⟩ := List.mem_filter.mp oneIn
    obtain ⟨twoStored, twoOwned⟩ := List.mem_filter.mp twoIn
    obtain ⟨status, oneStatus, rfl⟩ := Option.map_eq_some_iff.mp oneFound
    obtain ⟨other, twoStatus, rfl⟩ := Option.map_eq_some_iff.mp twoFound
    cases same
    have oneId := ((findRemoteStatusById_eq_some_iff keyed.toKeyed).mp oneStatus).2.1
    have twoId := ((findRemoteStatusById_eq_some_iff keyed.toKeyed).mp twoStatus).2.1
    have sameRow := List.inj_on_of_nodup_map keyed.remoteFavourites oneStored twoStored
      (Prod.ext ((beq_iff_eq.mp oneOwned).trans (beq_iff_eq.mp twoOwned).symm)
        (oneId.symm.trans twoId))
    rw [sameRow]

private theorem sees_cutFavourites_iff (keyed : db.Keyed) :
    Sees Prod.fst limit (remaining Prod.fst (liveFavourites db account) cursor)
        (cutFavourites db account limit cursor) ↔ Uncrowded db account limit cursor := by
  have members (entry : Nat × FavouriteStatus) : entry ∈ cutFavourites db account limit cursor ↔
      entry ∈ readFavourites db account limit cursor := mem_cutFavourites_iff keyed
  have readOnce : ((readFavourites db account limit cursor).map Prod.fst).Nodup :=
    ((List.filter_sublist.trans List.filter_sublist).map _).nodup (liveFavourites_nodup keyed)
  have sameLength : (cutFavourites db account limit cursor).length =
      (readFavourites db account limit cursor).length :=
    ((List.perm_ext_iff_of_nodup ((cutFavourites_nodup keyed).of_map _)
      (readOnce.of_map _)).mpr members).length_eq
  constructor
  · rintro ⟨next, more⟩
    refine ⟨fun entry member => ?_, fun further => sameLength ▸ more further⟩
    exact of_decide_eq_true (List.mem_filter.mp ((members entry).mp (next member))).2
  · rintro ⟨next, more⟩
    refine ⟨fun entry member => ?_, fun further => sameLength ▸ more further⟩
    exact (members entry).mpr (List.mem_filter.mpr
      ⟨mem_newestFirst.mp (List.mem_of_mem_take member), decide_eq_true (next entry member)⟩)

end

/-- A walk over the favourites of an account lists all live ones, newest first, if and only
if the favourites of deleted statuses crowd none out at any boundary of the complete list. -/
theorem walkFavourites_iff {db : CollectionDb} (keyed : db.Keyed) (account : AccountId)
    {limit rounds : Nat} (positive : 0 < limit)
    (enough : (liveFavourites db account).length < rounds) :
    walkFavourites db account limit rounds =
        some ((newestFirst Prod.fst (liveFavourites db account)).map Prod.snd) ↔
      ∀ pages, Uncrowded db account limit
        (boundary Prod.fst limit (liveFavourites db account) none pages) := by
  have whole : remaining Prod.fst (liveFavourites db account) none = liveFavourites db account :=
    List.filter_eq_self.mpr fun _ _ => rfl
  have inside (cursor : Option Nat) : cutFavourites db account limit cursor ⊆
      remaining Prod.fst (liveFavourites db account) cursor := fun entry member =>
    List.mem_of_mem_filter ((mem_cutFavourites_iff keyed).mp member)
  have walked : walk (fun cursor => shownPage Prod.fst Prod.snd limit
      (cutFavourites db account limit cursor)) rounds none =
        some ((newestFirst Prod.fst (remaining Prod.fst (liveFavourites db account) none)).map
          Prod.snd) ↔ _ :=
    walk_shownPage_iff (liveFavourites_nodup keyed) positive (liveFavourites_injective keyed) inside
      (fun cursor => cutFavourites_nodup keyed) (by rw [whole]; exact enough)
  rw [whole] at walked
  exact walked.trans (forall_congr' fun pages => sees_cutFavourites_iff keyed)

namespace Shelved

def account : AccountId := ⟨20⟩

def actor : AccountId := ⟨30⟩

def localStatus (id : Nat) (deletedAt : Option Int) : LocalStatus :=
  ⟨⟨id⟩, account, .publicStatus, none, none, deletedAt⟩

def remoteStatus (id : Nat) : RemoteStatus :=
  ⟨⟨id⟩, actor, .publicStatus, none, none, none, none⟩

/-- One live status was favourited before two that were deleted since. -/
def shelf : CollectionDb where
  localAccounts := [⟨account, none⟩]
  remoteActors := [⟨actor, "remote.example", none, none, none⟩]
  localStatuses := [localStatus 1 none, localStatus 2 (some 0), localStatus 3 (some 0)]
  remoteStatuses := [remoteStatus 4, remoteStatus 5]
  localFollows := []
  remoteFollowings := []
  localStatusRecipients := []
  remoteStatusRecipients := []
  localAccountBlocks := []
  localRemoteAccountBlocks := []
  domainIsSuspended _ := false
  localStatusFavourites := [⟨101, account, ⟨1⟩⟩, ⟨103, account, ⟨2⟩⟩, ⟨104, account, ⟨3⟩⟩]
  localRemoteStatusFavourites := [⟨102, account, ⟨4⟩⟩]
  remoteStatusPins := []

theorem shelf_keyed : shelf.Keyed :=
  ⟨⟨by decide, by decide⟩, by decide, by decide, by decide⟩

end Shelved

open Shelved in
theorem shelf_uncrowded : Uncrowded shelf account 2
    (boundary Prod.fst 2 (liveFavourites shelf account) none 0) :=
  (walkFavourites_iff shelf_keyed account (show 0 < 2 by decide)
    (show (liveFavourites shelf account).length < 3 by decide +kernel)).mp (by decide +kernel) 0

open Shelved in
/-- By pages of one, the favourites of deleted statuses hide an older one of a live status. -/
theorem shelf_crowded :
    shelf.Keyed ∧ walkFavourites shelf account 1 3 = some [.remoteStatus (remoteStatus 4)] ∧
      walkFavourites shelf account 1 3 ≠
        some ((newestFirst Prod.fst (liveFavourites shelf account)).map Prod.snd) :=
  ⟨shelf_keyed, by decide +kernel, by decide +kernel⟩

/-!
## Featured statuses
-/

/-- The rows that `replaceRemoteStatusPins` inserts. -/
def pinRows (actorId : AccountId) (now : Int) (generated : Nat → StatusId) :
    Nat → List StatusId → List RemoteStatusPin
  | _, [] => []
  | position, statusId :: statusIds =>
      ⟨generated position, actorId, statusId, now - position⟩ ::
        pinRows actorId now generated (position + 1) statusIds

section

variable {actorId : AccountId} {now : Int} {generated : Nat → StatusId}

private theorem insertRemoteStatusPins_ok {db next : CollectionDb} {position : Nat}
    {statusIds : List StatusId}
    (success : insertRemoteStatusPins actorId now generated db position statusIds = .ok next) :
    next = { db with remoteStatusPins :=
      db.remoteStatusPins ++ pinRows actorId now generated position statusIds } := by
  induction statusIds generalizing db position with
  | nil =>
      cases success
      rw [pinRows, List.append_nil]
  | cons statusId statusIds ih =>
      obtain ⟨inserted, insertion, success⟩ := bind_ok success
      obtain ⟨_, insertion⟩ := guard_ok insertion
      obtain ⟨_, insertion⟩ := guard_ok insertion
      obtain ⟨_, insertion⟩ := guard_ok insertion
      obtain ⟨_, insertion⟩ := guard_ok insertion
      cases insertion
      rw [ih success, pinRows, List.append_assoc, List.singleton_append]

private theorem pinRows_spec {position : Nat} {statusIds : List StatusId} :
    ∀ pin ∈ pinRows actorId now generated position statusIds, pin.remoteActorId = actorId ∧
      ∃ index, position ≤ index ∧ pin.id = generated index ∧ pin.pinnedAt = now - index := by
  induction statusIds generalizing position with
  | nil => exact fun pin member => absurd member List.not_mem_nil
  | cons statusId statusIds ih =>
      intro pin member
      rcases List.mem_cons.mp member with rfl | later
      · exact ⟨rfl, position, le_refl _, rfl, rfl⟩
      · obtain ⟨owner, index, bound, rest⟩ := ih pin later
        exact ⟨owner, index, by omega, rest⟩

private theorem pinRows_sorted (increasing : ∀ first second, first < second →
    (generated first).value < (generated second).value) (position : Nat)
    (statusIds : List StatusId) :
    (pinRows actorId now generated position statusIds).Pairwise fun left right =>
      pinsFirst left right ∧ left.id.value < right.id.value := by
  induction statusIds generalizing position with
  | nil => exact List.Pairwise.nil
  | cons statusId statusIds ih =>
      refine List.Pairwise.cons ?_ (ih (position + 1))
      intro pin member
      obtain ⟨_, index, bound, id, pinnedAt⟩ := pinRows_spec pin member
      refine ⟨.inl ?_, ?_⟩
      · dsimp only
        rw [pinnedAt]
        omega
      · rw [id]
        exact increasing position index bound

private theorem pinRows_statuses {find : StatusId → Option RemoteStatus} {position : Nat}
    {statuses : List RemoteStatus} (found : ∀ status ∈ statuses, find status.id = some status) :
    (pinRows actorId now generated position (statuses.map RemoteStatus.id)).map
      (fun pin => find pin.remoteStatusId) = statuses.map some := by
  induction statuses generalizing position with
  | nil => rfl
  | cons status statuses ih =>
      rw [List.map_cons, pinRows, List.map_cons, List.map_cons,
        found status List.mem_cons_self,
        ih fun other member => found other (List.mem_cons_of_mem _ member)]

end

private theorem filter_ascending {Row : Type} {key : Row → Nat} {front back : List Row} {row : Row}
    (ascending : (front ++ row :: back).Pairwise fun left right => key left < key right) :
    (front ++ row :: back).filter (fun other => key other < key row) = front := by
  obtain ⟨_, behind, across⟩ := List.pairwise_append.mp ascending
  have larger := (List.pairwise_cons.mp behind).1
  have allFront : front.filter (fun other => key other < key row) = front := by
    rw [List.filter_eq_self]
    intro other member
    simpa using across other member row List.mem_cons_self
  have noBack : back.filter (fun other => key other < key row) = [] := by
    rw [List.filter_eq_nil_iff]
    intro other member
    have greater := larger other member
    simp only [decide_eq_true_eq]
    omega
  simp [allFront, noBack]

/-- The cache of one actor after it was replaced, with the statuses in the order in which
the collection listed them. -/
private structure Pinned (db : CollectionDb) (actorId : AccountId) (pins : List RemoteStatusPin)
    (statuses : List RemoteStatus) : Prop where
  stored : db.remoteStatusPins.filter (fun pin => pin.remoteActorId == actorId) = pins
  sorted : pins.Pairwise fun left right => pinsFirst left right ∧ left.id.value < right.id.value
  found : pins.map (fun pin => findRemoteStatusById db.toDb pin.remoteStatusId) = statuses.map some

section

variable {db : CollectionDb} {actorId : AccountId} {pins : List RemoteStatusPin}
  {statuses : List RemoteStatus} {limit : Nat}

private theorem Pinned.query (pinned : Pinned db actorId pins statuses) (limit : Nat)
    (cursor : TimelineCursor)
    {read : List RemoteStatusPin} (reads : (pins.filter fun pin =>
      applyTimelineCursor cursor pin.id).take (pageQueryLimit limit) = read) :
    pinnedRemoteStatusesByAccount db actorId limit cursor =
      ⟨(read.take limit).filterMap fun pin => findRemoteStatusById db.toDb pin.remoteStatusId,
        (read.take limit).head?.map fun pin => pin.id.value,
        (read.take limit).getLast?.map fun pin => pin.id.value, decide (limit < read.length)⟩ := by
  unfold pinnedRemoteStatusesByAccount
  have inOrder : (pins.filter fun pin => applyTimelineCursor cursor pin.id).Pairwise pinsFirst :=
    (pinned.sorted.imp fun both => both.1).sublist List.filter_sublist
  have filtered : db.remoteStatusPins.filter (fun pin =>
      pin.remoteActorId == actorId && applyTimelineCursor cursor pin.id) =
        pins.filter fun pin => applyTimelineCursor cursor pin.id := by
    rw [← pinned.stored, List.filter_filter]
    congr 1
    funext pin
    exact Bool.and_comm _ _
  dsimp only
  rw [filtered, inOrder.insertionSort_eq, reads, trimToPage_eq]

private theorem Pinned.items (pinned : Pinned db actorId pins statuses) (count : Nat) :
    (pins.take count).filterMap (fun pin => findRemoteStatusById db.toDb pin.remoteStatusId) =
      statuses.take count := by
  have front := congrArg (fun found => (found.take count).filterMap id) pinned.found
  simp only [← List.map_take, List.filterMap_map] at front
  simpa using front

private theorem Pinned.length (pinned : Pinned db actorId pins statuses) :
    pins.length = statuses.length := by
  have lengths := congrArg List.length pinned.found
  rwa [List.length_map, List.length_map] at lengths

private theorem Pinned.walk_short (pinned : Pinned db actorId pins statuses)
    (word : limit < 2 ^ 64) (short : statuses.length ≤ limit) (rounds : Nat) :
    walkTimeline (pinnedRemoteStatusesByAccount db actorId limit) (rounds + 1) = some statuses := by
  have length := pinned.length
  have every : pins.filter (fun pin => applyTimelineCursor ⟨none, none, none⟩ pin.id) = pins :=
    List.filter_eq_self.mpr fun _ _ => rfl
  have reads : (pins.filter fun pin => applyTimelineCursor ⟨none, none, none⟩ pin.id).take
      (pageQueryLimit limit) = pins := by
    rw [every, List.take_of_length_le (by unfold pageQueryLimit; omega)]
  have loaded := pinned.query limit ⟨none, none, none⟩ reads
  unfold walkTimeline
  rw [walk_stop]
  · dsimp only [Option.map_none]
    rw [loaded, pinned.items, List.take_of_length_le short]
  · dsimp only [Option.map_none]
    rw [loaded, decide_eq_false (by omega)]

private theorem Pinned.walk_long (pinned : Pinned db actorId pins statuses) (positive : 0 < limit)
    (word : limit < 2 ^ 64) (long : limit < statuses.length) (rounds : Nat) :
    walkTimeline (pinnedRemoteStatusesByAccount db actorId limit) rounds = none ∨
      walkTimeline (pinnedRemoteStatusesByAccount db actorId limit) rounds =
        some (statuses.take limit) ∨
      walkTimeline (pinnedRemoteStatusesByAccount db actorId limit) rounds =
        some (statuses.take limit ++ statuses.take (limit - 1)) := by
  have length := pinned.length
  have every : pins.filter (fun pin => applyTimelineCursor ⟨none, none, none⟩ pin.id) = pins :=
    List.filter_eq_self.mpr fun _ _ => rfl
  have loaded := pinned.query limit ⟨none, none, none⟩ rfl
  have bounds : limit ≤ pageQueryLimit limit := by
    unfold pageQueryLimit
    omega
  rw [every, List.take_take, Nat.min_eq_left bounds, pinned.items] at loaded
  unfold walkTimeline
  cases rounds with
  | zero => exact .inl rfl
  | succ rounds =>
      by_cases more : limit < (pins.take (pageQueryLimit limit)).length
      · rw [walk_next]
        · obtain ⟨front, row, back, split, size⟩ :=
            exists_split (show limit - 1 < pins.length by omega)
          have taken : pins.take limit = front ++ [row] := by
            rw [split, show limit = front.length + 1 by omega, List.take_length_add_append]
            rfl
          have last : (pinnedRemoteStatusesByAccount db actorId limit
              ⟨none, none, none⟩).lastCursor = some row.id.value := by
            rw [loaded, taken, List.getLast?_concat]
            rfl
          have behind : pins.filter (fun pin =>
              applyTimelineCursor ⟨some row.id, none, none⟩ pin.id) = front := by
            have ascending := pinned.sorted.imp fun both => both.2
            rw [split] at ascending
            rw [split]
            refine (List.filter_congr fun pin _ => ?_).trans (filter_ascending ascending)
            simp [applyTimelineCursor]
          have again := pinned.query limit ⟨some row.id, none, none⟩ rfl
          have frontTaken : pins.take (limit - 1) = front := by
            rw [split, ← size, List.take_left]
          have whole : front.take (pageQueryLimit limit) = front :=
            List.take_of_length_le (by omega)
          have page : front.take limit = front := List.take_of_length_le (by omega)
          rw [behind, whole, page, decide_eq_false (by omega)] at again
          dsimp only [Option.map_none]
          rw [last]
          cases rounds with
          | zero => exact .inl rfl
          | succ rounds =>
              refine .inr (.inr ?_)
              rw [walk_stop]
              · change Option.map _ (some (pinnedRemoteStatusesByAccount db actorId limit
                  ⟨some row.id, none, none⟩).items) = _
                rw [again, ← frontTaken, pinned.items, loaded]
                rfl
              · change (pinnedRemoteStatusesByAccount db actorId limit
                  ⟨some row.id, none, none⟩).hasMore = false
                rw [again]
        · dsimp only [Option.map_none]
          rw [loaded, decide_eq_true more]
      · rw [walk_stop]
        · dsimp only [Option.map_none]
          rw [loaded]
          exact .inr (.inl rfl)
        · dsimp only [Option.map_none]
          rw [loaded, decide_eq_false more]

end

/-- A walk over the statuses that a remote collection was replaced with lists them all, in
its order, if and only if they fit one page. -/
theorem walkPins_iff {db next : CollectionDb} (keyed : db.toDb.Keyed) {actorId : AccountId}
    {statuses : List RemoteStatus}
    (live : ∀ status ∈ statuses, status ∈ db.remoteStatuses ∧ status.deletedAt = none)
    (distinct : (statuses.map RemoteStatus.id).Nodup) {now : Int} {generated : Nat → StatusId}
    (increasing : ∀ first second, first < second →
      (generated first).value < (generated second).value)
    (replaced : replaceRemoteStatusPins db actorId (statuses.map RemoteStatus.id) now generated =
      .ok next) {limit rounds : Nat} (positive : 0 < limit) (word : limit < 2 ^ 64)
    (started : 0 < rounds) :
    walkTimeline (pinnedRemoteStatusesByAccount next actorId limit) rounds = some statuses ↔
      statuses.length ≤ limit := by
  have stored := insertRemoteStatusPins_ok replaced
  have pinned : Pinned next actorId
      (pinRows actorId now generated 0 (statuses.map RemoteStatus.id)) statuses := by
    rw [stored]
    refine ⟨Table.filter_replaced fun pin member => ?_, pinRows_sorted increasing 0 _,
      pinRows_statuses fun status member => ?_⟩
    · simpa using (pinRows_spec pin member).1
    · obtain ⟨cached, alive⟩ := live status member
      exact (findRemoteStatusById_eq_some_iff keyed).mpr ⟨cached, rfl, alive⟩
  obtain ⟨rounds, rfl⟩ := Nat.exists_eq_succ_of_ne_zero (Nat.ne_of_gt started)
  constructor
  · intro complete
    by_contra long
    have once : statuses.Nodup := distinct.of_map _
    rcases pinned.walk_long positive word (Nat.lt_of_not_le long) (rounds + 1) with
      walked | walked | walked
    · rw [walked] at complete
      cases complete
    · rw [walked] at complete
      have lengths := congrArg List.length (Option.some.inj complete)
      rw [List.length_take] at lengths
      omega
    · rw [walked] at complete
      have joined := Option.some.inj complete
      cases statuses with
      | nil => exact long (Nat.zero_le _)
      | cons status rest =>
          obtain ⟨limit, rfl⟩ := Nat.exists_eq_succ_of_ne_zero (Nat.ne_of_gt positive)
          cases limit with
          | zero =>
              have lengths := congrArg List.length joined
              simp only [List.length_append, List.length_take, List.length_cons] at lengths long
              omega
          | succ limit =>
              -- the first status is listed on both pages
              rw [← joined] at once
              have apart := (List.nodup_append.mp once).2.2
              exact apart status (by simp) status (by simp) rfl
  · intro short
    exact pinned.walk_short word short rounds

open Shelved in
theorem pins_fit : walkTimeline (pinnedRemoteStatusesByAccount
    { shelf with remoteStatusPins := [⟨⟨0⟩, actor, ⟨5⟩, 1000⟩, ⟨⟨1⟩, actor, ⟨4⟩, 999⟩] } actor 2) 1 =
      some [remoteStatus 5, remoteStatus 4] :=
  (walkPins_iff shelf_keyed.toKeyed (by decide) (by decide) (fun _ _ less => less)
    (show replaceRemoteStatusPins shelf actor ([remoteStatus 5, remoteStatus 4].map RemoteStatus.id)
      1000 StatusId.mk = .ok _ from rfl) (by decide) (by decide) (by decide)).mpr (by decide)

open Shelved in
/-- By pages of one, the second of two statuses is never listed. -/
theorem pins_lost : ∃ next, replaceRemoteStatusPins shelf actor
    ([remoteStatus 5, remoteStatus 4].map RemoteStatus.id) 1000 StatusId.mk = .ok next ∧
      walkTimeline (pinnedRemoteStatusesByAccount next actor 1) 3 = some [remoteStatus 5] :=
  ⟨_, rfl, by decide +kernel⟩

end Roosty.Timeline
