import Roosty.Account.FollowCollection
import Roosty.Account.MoveProperties
import Roosty.Timeline.BackwardPaging

/-!
# Following as listed and as counted

The collection of a local account lists every accepted follow, and the counters leave out
those that a Move has deactivated. Both agree exactly while there are none.
-/

set_option autoImplicit false

namespace Roosty.Account.FollowCollection

open Library Federation.Inbox

/-!
## What a collection is for
-/

/-- The existing accounts that are followed by a follow in force. -/
def Followed (db : FollowDb) (account : AccountId) : Timeline.FollowCollectionAccount → Prop
  | .localAccount target =>
      target ∈ localAccounts db ∧ ∃ follow ∈ db.localFollows,
        follow.followerAccountId = account ∧ follow.followedAccountId = target.id
  | .remoteActor target =>
      target ∈ remoteActors db ∧ ∃ row ∈ db.remote.inbox.relations.following,
        row.localAccountId = account ∧ row.remoteActorId = target.id ∧ row.state = .accepted ∧
          row.deactivatedAt = none

/-- By pages of any size, every followed account is listed once, and their number is that
of the counters. -/
def ListsAsCounted (db : FollowDb) (ids : RowIds) (account : AccountId) : Prop :=
  ∀ limit, 0 < limit → ∃ entries,
    Paging.Walked (fun cursor => followingForLocalAccount db ids account limit ⟨cursor, none, none⟩)
      entries ∧
    (entries.map Timeline.FollowCollectionEntry.account).Nodup ∧
    (∀ target, target ∈ entries.map Timeline.FollowCollectionEntry.account ↔
      Followed db account target) ∧
    entries.length = countLocalFollowing db account + countRemoteFollowing db account

def NoneDeactivated (db : FollowDb) (account : AccountId) : Prop :=
  ∀ row ∈ db.remote.inbox.relations.following, row.localAccountId = account →
    row.state = .accepted → row.deactivatedAt = none

/-- The constraints of the tables. -/
structure Sound (db : FollowDb) : Prop where
  accounts : (db.remote.inbox.localAccounts.map LocalAccount.id).Nodup
  actors : (db.remote.remoteActors.map CachedActor.id).Nodup
  remotePairs : UniquePairs db.remote
  localPairs : Table.UniqueOn (fun row : LocalFollow =>
    some (row.followerAccountId, row.followedAccountId)) db.localFollows
  followed : ∀ row ∈ db.localFollows, hasAccount db.remote row.followedAccountId = true
  referenced : rowsReferenced db.remote = true

/-- Identifiers are unique, also across both tables. -/
def DistinctIds (db : FollowDb) (ids : RowIds) : Prop :=
  (db.localFollows.map LocalFollow.id ++
    db.remote.inbox.relations.following.map ids.following).Nodup

/-!
## Lookups
-/

section

variable {db : FollowDb} {ids : RowIds} {account : AccountId}

theorem hasAccount_directory (db : FollowDb) (id : AccountId) :
    (localAccounts db).any (fun target => target.id == id) = hasAccount db.remote id := by
  simp [localAccounts, hasAccount, List.any_map, Function.comp_def]

theorem hasActor_directory (db : FollowDb) (id : AccountId) :
    (remoteActors db).any (fun target => target.id == id) = hasActor db.remote id := by
  simp [remoteActors, hasActor, List.any_map, Function.comp_def]

theorem findLocalAccountById_directory {id : AccountId}
    (present : hasAccount db.remote id = true) :
    ∃ target, Timeline.findLocalAccountById (directory db) id = some target ∧ target.id = id := by
  rw [← hasAccount_directory] at present
  obtain ⟨target, found, same⟩ := Table.exists_find?_of_any present
  exact ⟨target, found, beq_iff_eq.mp same⟩

theorem findRemoteActorById_directory {id : AccountId} (present : hasActor db.remote id = true) :
    ∃ target, Timeline.findRemoteActorById (directory db) id = some target ∧ target.id = id := by
  rw [← hasActor_directory] at present
  obtain ⟨target, found, same⟩ := Table.exists_find?_of_any present
  exact ⟨target, found, beq_iff_eq.mp same⟩

theorem Sound.findLocalAccountById_iff (sound : Sound db) {id : AccountId}
    {target : Timeline.LocalAccount} :
    Timeline.findLocalAccountById (directory db) id = some target ↔
      target ∈ localAccounts db ∧ target.id = id := by
  have keyed : ((localAccounts db).map Timeline.LocalAccount.id).Nodup := by
    rw [localAccounts, List.map_map]
    exact sound.accounts
  exact Table.find?_primary_eq_some_iff keyed

theorem Sound.findRemoteActorById_iff (sound : Sound db) {id : AccountId}
    {target : Timeline.RemoteActor} :
    Timeline.findRemoteActorById (directory db) id = some target ↔
      target ∈ remoteActors db ∧ target.id = id := by
  have keyed : ((remoteActors db).map Timeline.RemoteActor.id).Nodup := by
    rw [remoteActors, List.map_map]
    exact sound.actors
  exact Table.find?_primary_eq_some_iff keyed

/-!
## Listed accounts
-/

def followedAccounts (db : FollowDb) (account : AccountId) :
    List Timeline.FollowCollectionAccount :=
  ((localFollowing db account).filterMap fun follow =>
      (Timeline.findLocalAccountById (directory db) follow.followedAccountId).map .localAccount) ++
    (acceptedFollowing db account).filterMap fun follow =>
      (Timeline.findRemoteActorById (directory db) follow.remoteActorId).map .remoteActor

def accountKey : Timeline.FollowCollectionAccount → AccountId ⊕ AccountId
  | .localAccount target => .inl target.id
  | .remoteActor target => .inr target.id

theorem Sound.followedAccounts_keys (sound : Sound db) (account : AccountId) :
    (followedAccounts db account).map accountKey =
      (localFollowing db account).map (fun follow => .inl follow.followedAccountId) ++
        (acceptedFollowing db account).map fun follow => .inr follow.remoteActorId := by
  have referenced := sound.referenced
  simp only [rowsReferenced, Bool.and_eq_true, List.all_eq_true] at referenced
  rw [followedAccounts, List.map_append]
  refine congrArg₂ (· ++ ·) (Table.map_filterMap_lookup ?_) (Table.map_filterMap_lookup ?_)
  · intro follow member
    obtain ⟨target, found, same⟩ :=
      findLocalAccountById_directory (sound.followed follow (List.mem_filter.mp member).1)
    exact ⟨.localAccount target, by rw [found, Option.map_some], congrArg Sum.inl same⟩
  · intro follow member
    obtain ⟨target, found, same⟩ :=
      findRemoteActorById_directory (referenced.1 follow (List.mem_filter.mp member).1).2
    exact ⟨.remoteActor target, by rw [found, Option.map_some], congrArg Sum.inr same⟩

theorem Sound.followedAccounts_nodup (sound : Sound db) (account : AccountId) :
    (followedAccounts db account).Nodup := by
  have locals : ((localFollowing db account).map LocalFollow.followedAccountId).Nodup :=
    sound.localPairs.nodup_map_filter fun follow own => beq_iff_eq.mp own
  have remotes : ((acceptedFollowing db account).map RemoteFollowing.remoteActorId).Nodup := by
    have shared : ∀ row : RemoteFollowing,
        (row.localAccountId == account && row.state == .accepted) = true →
          row.localAccountId = account :=
      fun row own => beq_iff_eq.mp (Bool.and_eq_true_iff.mp own).1
    exact sound.remotePairs.nodup_map_filter shared
  refine List.Nodup.of_map accountKey ?_
  rw [sound.followedAccounts_keys, List.nodup_append]
  refine ⟨?_, ?_, ?_⟩
  · have once := locals.map (Sum.inl_injective : Function.Injective (@Sum.inl _ AccountId))
    rwa [List.map_map] at once
  · have once := remotes.map (Sum.inr_injective : Function.Injective (@Sum.inr AccountId _))
    rwa [List.map_map] at once
  · simp

theorem Sound.followedAccounts_length (sound : Sound db) (account : AccountId) :
    (followedAccounts db account).length =
      countLocalFollowing db account + (acceptedFollowing db account).length := by
  have keys := congrArg List.length (sound.followedAccounts_keys account)
  simpa [countLocalFollowing] using keys

theorem Sound.mem_followedAccounts_iff (sound : Sound db) (active : NoneDeactivated db account)
    (target : Timeline.FollowCollectionAccount) :
    target ∈ followedAccounts db account ↔ Followed db account target := by
  rw [followedAccounts, List.mem_append]
  simp only [List.mem_filterMap, Option.map_eq_some_iff, sound.findLocalAccountById_iff,
    sound.findRemoteActorById_iff, localFollowing, acceptedFollowing, List.mem_filter,
    beq_iff_eq, Bool.and_eq_true]
  cases target with
  | localAccount target =>
      simp only [Timeline.FollowCollectionAccount.localAccount.injEq, reduceCtorEq, and_false,
        exists_false, or_false]
      constructor
      · rintro ⟨follow, ⟨member, own⟩, _, ⟨inside, same⟩, rfl⟩
        exact ⟨inside, follow, member, own, same.symm⟩
      · rintro ⟨inside, follow, member, own, same⟩
        exact ⟨follow, ⟨member, own⟩, target, ⟨inside, same.symm⟩, rfl⟩
  | remoteActor target =>
      simp only [Timeline.FollowCollectionAccount.remoteActor.injEq, reduceCtorEq, and_false,
        exists_false, false_or]
      constructor
      · rintro ⟨row, ⟨member, own, accepted⟩, _, ⟨inside, same⟩, rfl⟩
        exact ⟨inside, row, member, own, same.symm, accepted, active row member own accepted⟩
      · rintro ⟨inside, row, member, own, same, accepted, _⟩
        exact ⟨row, ⟨member, own, accepted⟩, target, ⟨inside, same.symm⟩, rfl⟩

theorem countRemoteFollowing_eq_iff (db : FollowDb) (account : AccountId) :
    (acceptedFollowing db account).length = countRemoteFollowing db account ↔
      NoneDeactivated db account := by
  have counted : countRemoteFollowing db account =
      ((acceptedFollowing db account).filter fun row => row.deactivatedAt.isNone).length := by
    rw [countRemoteFollowing, acceptedFollowing, List.filter_filter]
    congr 2
    funext row
    exact Bool.and_comm _ _
  rw [counted, eq_comm, List.length_filter_eq_length_iff]
  simp only [acceptedFollowing, List.mem_filter, Bool.and_eq_true, beq_iff_eq,
    Option.isNone_iff_eq_none, NoneDeactivated]
  constructor
  · intro active row member own accepted
    exact active row ⟨member, own, accepted⟩
  · rintro active row ⟨member, own, accepted⟩
    exact active row member own accepted

end

/-!
## Walks
-/

section

variable {L R : Type} {directory : Timeline.Db} {localRows : List L} {remoteRows : List R}
variable {localId : L → Nat × AccountId} {remoteId : R → Nat × AccountId}

theorem followCollectionPage_eq (limit : Nat) (cursor : Option Nat) :
    Timeline.followCollectionPage directory localRows remoteRows localId remoteId limit
        ⟨cursor, none, none⟩ =
      Paging.page Timeline.FollowCollectionEntry.id limit (limit + 1)
        ((Timeline.followItems directory localRows remoteRows localId remoteId).filter
          (Paging.before Timeline.FollowCollectionEntry.id cursor)) := by
  have admitted : Timeline.followEntries directory localRows remoteRows localId remoteId
      (fun id => Timeline.collectionCursorMatches id ⟨cursor, none, none⟩) =
      (Timeline.followItems directory localRows remoteRows localId remoteId).filter
        (Paging.before Timeline.FollowCollectionEntry.id cursor) := by
    rw [Timeline.followEntries_eq_filter]
    refine List.filter_congr fun entry _ => ?_
    simp [Timeline.collectionCursorMatches, Paging.before]
  unfold Timeline.followCollectionPage Paging.page
  rw [admitted, Paging.trimToPage_take]

end

section

variable {db : FollowDb} {ids : RowIds} {account : AccountId}

def followingItems (db : FollowDb) (ids : RowIds) (account : AccountId) :
    List Timeline.FollowCollectionEntry :=
  Timeline.followItems (directory db) (localFollowing db account) (acceptedFollowing db account)
    (fun follow => (follow.id, follow.followedAccountId))
    (fun follow => (ids.following follow, follow.remoteActorId))

theorem followingItems_accounts (db : FollowDb) (ids : RowIds) (account : AccountId) :
    (followingItems db ids account).map Timeline.FollowCollectionEntry.account =
      followedAccounts db account := by
  rw [followingItems, Timeline.followItems, followedAccounts, List.map_append]
  simp only [List.map_filterMap, Option.map_map, Function.comp_def]

theorem DistinctIds.walked (distinct : DistinctIds db ids) (account : AccountId) {limit : Nat}
    (positive : 0 < limit) :
    Paging.Walked (fun cursor => followingForLocalAccount db ids account limit ⟨cursor, none, none⟩)
      (Paging.newestFirst Timeline.FollowCollectionEntry.id (followingItems db ids account)) := by
  have rows : ((localFollowing db account).map LocalFollow.id ++
      (acceptedFollowing db account).map ids.following).Nodup :=
    distinct.sublist ((List.filter_sublist.map _).append (List.filter_sublist.map _))
  exact Paging.walked_page (rows.sublist (Timeline.followItems_ids ..)) positive
    (followCollectionPage_eq limit)

theorem Sound.listsAsCounted_iff (sound : Sound db) (distinct : DistinctIds db ids) :
    ListsAsCounted db ids account ↔ NoneDeactivated db account := by
  have listed := (List.perm_insertionSort
    (fun left right => Timeline.FollowCollectionEntry.id right ≤
      Timeline.FollowCollectionEntry.id left) (followingItems db ids account)).map
        Timeline.FollowCollectionEntry.account
  rw [followingItems_accounts] at listed
  have size := listed.length_eq
  rw [List.length_map, sound.followedAccounts_length] at size
  constructor
  · intro lists
    obtain ⟨entries, walked, _, _, counted⟩ := lists 1 Nat.one_pos
    have same := walked.unique (distinct.walked account Nat.one_pos)
    rw [same] at counted
    refine (countRemoteFollowing_eq_iff db account).mp ?_
    exact Nat.add_left_cancel (size.symm.trans counted)
  · intro active limit positive
    refine ⟨_, distinct.walked account positive, ?_, ?_, ?_⟩
    · exact listed.nodup_iff.mpr (sound.followedAccounts_nodup account)
    · intro target
      exact listed.mem_iff.trans (sound.mem_followedAccounts_iff active target)
    · exact size.trans (congrArg _ ((countRemoteFollowing_eq_iff db account).mpr active))

end

/-!
## Runs
-/

structure SameAccounts (before after : Account.Db) : Prop where
  accounts : after.inbox.localAccounts = before.inbox.localAccounts
  actors : after.remoteActors.map CachedActor.id = before.remoteActors.map CachedActor.id

theorem SameAccounts.refl (db : Account.Db) : SameAccounts db db := ⟨rfl, rfl⟩

private theorem migrate_sameAccounts {start db next : Account.Db} {moved : RemoteFollowing}
    {target : AccountId} {policyAllows : Bool} {followId : String} {now : Int}
    (same : SameAccounts start db)
    (performed : migrateRemoteFollowingForActorMove db moved target policyAllows followId now =
      some next) : SameAccounts start next := by
  obtain rfl | ⟨following, members, _, rfl⟩ := migrate_cases performed
  · exact same
  · exact ⟨same.accounts, same.actors⟩

private theorem perform_sameAccounts {db next : Account.Db} {transaction : Transaction}
    (performed : perform db transaction = some next) : SameAccounts db next := by
  cases transaction with
  | blockRemoteAccount account actor =>
      simp only [perform, blockRemoteAccount] at performed
      split at performed
      · cases performed
        exact ⟨rfl, rfl⟩
      · cases performed
  | unblockRemoteAccount account actor | processRemoteBlock actor account activityId
  | processRemoteUndoBlock actor account activityId | acceptRemoteFollow account actor activityId =>
      cases performed
      exact ⟨rfl, rfl⟩
  | createRemoteFollowing account actor activityId showReblogs notify =>
      simp only [perform, createRemoteFollowing] at performed
      split at performed
      · cases performed
      split at performed
      · split at performed
        · cases performed
          exact ⟨rfl, rfl⟩
        · split at performed
          · cases performed
          · cases performed
            exact ⟨rfl, rfl⟩
      · obtain ⟨following, _, rfl⟩ := Option.map_eq_some_iff.mp performed
        exact ⟨rfl, rfl⟩
  | upsertRemoteFollow actor account activityId activity state =>
      obtain ⟨relations, _, rfl⟩ := Option.map_eq_some_iff.mp performed
      exact ⟨rfl, rfl⟩
  | migrateRemoteFollowing moved target policyAllows followId now =>
      exact migrate_sameAccounts (.refl db) performed

theorem sameAccounts_step (db : Account.Db) (action : MoveAction) :
    SameAccounts db (migrations.step db action).1 := by
  cases action with
  | move move =>
      have recorded : SameAccounts db (processRemoteActorMove db move.source move.target) :=
        ⟨rfl, Table.map_updateWhere fun _ _ _ => rfl⟩
      exact moveRemoteActor_invariant (fun _ _ _ => migrate_sameAccounts) recorded
  | accept actor activityId => exact ⟨rfl, rfl⟩
  | reject actor activityId => exact ⟨rfl, rfl⟩
  | unfollow account actor =>
      dsimp only [migrations]
      unfold deleteRemoteFollowing
      dsimp only
      split
      · exact ⟨rfl, rfl⟩
      · exact ⟨rfl, rfl⟩
  | perform transaction =>
      dsimp only [migrations]
      split
      · exact ⟨rfl, rfl⟩
      · rename_i performed
        exact perform_sameAccounts performed

section

variable {db : FollowDb}

theorem Sound.remote (sound : Sound db) (action : MoveAction)
    (referenced : rowsReferenced (migrations.step db.remote action).1 = true) :
    Sound { db with remote := (migrations.step db.remote action).1 } := by
  have same := sameAccounts_step db.remote action
  refine ⟨?_, ?_, sound.remotePairs.step action, sound.localPairs, ?_, referenced⟩
  · rw [same.accounts]
    exact sound.accounts
  · rw [same.actors]
    exact sound.actors
  · intro row member
    unfold hasAccount
    rw [same.accounts]
    exact sound.followed row member

theorem Sound.followLocalAccount (sound : Sound db) {next : FollowDb} {id : Nat}
    {follower followed : AccountId} {showReblogs notify : Bool}
    (done : followLocalAccount db id follower followed showReblogs notify = some next) :
    Sound next := by
  unfold FollowCollection.followLocalAccount at done
  dsimp only at done
  split_ifs at done with self missing blocked existing refused
  · cases done
    refine ⟨sound.accounts, sound.actors, sound.remotePairs, ?_, ?_, sound.referenced⟩
    · exact Table.UniqueOn.updateWhere sound.localPairs fun _ _ _ => .inl rfl
    · intro row member
      rcases Table.mem_updateWhere.mp member with ⟨stored, _⟩ | ⟨before, stored, _, rfl⟩
      · exact sound.followed row stored
      · exact sound.followed before stored
  · cases done
    refine ⟨sound.accounts, sound.actors, sound.remotePairs, ?_, ?_, sound.referenced⟩
    · refine Table.UniqueOn.insert sound.localPairs ?_
      intro value isValue other member otherKey
      cases isValue
      obtain ⟨one, two⟩ := Prod.mk.inj (Option.some.inj otherKey)
      exact existing (List.any_eq_true.mpr ⟨other, member, by simp [one, two]⟩)
    · intro row member
      rcases List.mem_append.mp member with stored | new
      · exact sound.followed row stored
      · rw [List.mem_singleton.mp new]
        simpa using missing

theorem Sound.step (sound : Sound db) (action : FollowAction) :
    Sound (followings.step db action).1 := by
  cases action with
  | follow id follower followed showReblogs notify =>
      dsimp only [followings]
      split
      · exact sound
      · rename_i done
        exact sound.followLocalAccount done
  | unfollow follower followed =>
      refine ⟨sound.accounts, sound.actors, sound.remotePairs, ?_, ?_, sound.referenced⟩
      · exact Table.UniqueOn.deleteWhere sound.localPairs _
      · intro row member
        exact sound.followed row (Table.mem_deleteWhere.mp member).1
  | remote action =>
      dsimp only [followings]
      split
      · rename_i referenced
        exact sound.remote action referenced
      · exact sound

/-- In every state of every run, following is listed as it is counted exactly when no
accepted follow of the account is deactivated. -/
theorem following_listed_iff {start : FollowDb} (sound : Sound start) (actions : List FollowAction)
    {ids : RowIds} (distinct : DistinctIds (followings.run start actions) ids)
    (account : AccountId) :
    ListsAsCounted (followings.run start actions) ids account ↔
      NoneDeactivated (followings.run start actions) account :=
  Sound.listsAsCounted_iff (followings.run_invariant Sound (fun _ action sound => sound.step action)
    sound actions) distinct

end

namespace Sample

open Migration

/-- Bob and Carol have local accounts, and nobody follows anybody. -/
def carol : AccountId := ⟨2⟩

def start : FollowDb where
  remote :=
    { Migration.start with
      inbox := { Migration.start.inbox with
        localAccounts := [⟨bob, "bob", false⟩, ⟨carol, "carol", false⟩]
        relations := { Migration.start.inbox.relations with following := [] } }
      lists := []
      members := [] }
  localFollows := []
  localAccountBlocks := []
  suspendedAt _ := none
  actor _ := ⟨"https://remote.example/users/alice", "remote.example", none, none, none⟩

def followed : List FollowAction :=
  [.follow 100 bob carol true false,
    .remote (.perform (.createRemoteFollowing bob alice aliceFollow true false)),
    .remote (.accept alice aliceFollow)]

def moved : List FollowAction :=
  followed ++ [.remote (.move (Migration.move 1 alice alice2)),
    .remote (.accept alice2 (followId 1 bob))]

def ids : RowIds where
  follow row := row.remoteActorId.value
  following row := row.remoteActorId.value

theorem start_sound : Sound start where
  accounts := by decide
  actors := by decide
  remotePairs := by
    unfold UniquePairs
    decide
  localPairs := by decide
  followed := by decide
  referenced := by decide

end Sample

open Sample in
theorem following_listed_before_move :
    ListsAsCounted (followings.run start followed) ids Migration.bob := by
  refine (following_listed_iff start_sound followed ?_ Migration.bob).mpr ?_
  · unfold DistinctIds
    decide +kernel
  · unfold NoneDeactivated
    decide +kernel

open Sample in
/-- Bob is shown to follow Alice's old account and the new one, and both are counted as one. -/
theorem moved_follow_listed :
    ((followingForLocalAccount (followings.run start moved) ids Migration.bob 20
        ⟨none, none, none⟩).items.map Timeline.FollowCollectionEntry.id = [100, 8, 7] ∧
      countLocalFollowing (followings.run start moved) Migration.bob +
        countRemoteFollowing (followings.run start moved) Migration.bob = 2) ∧
    ¬ListsAsCounted (followings.run start moved) ids Migration.bob := by
  refine ⟨by decide +kernel, fun lists => ?_⟩
  have sound := followings.run_invariant Sound (fun _ action sound => sound.step action)
    start_sound moved
  have distinct : DistinctIds (followings.run start moved) ids := by
    unfold DistinctIds
    decide +kernel
  have active := (sound.listsAsCounted_iff distinct).mp lists
  unfold NoneDeactivated at active
  exact absurd active (by decide +kernel)

end Roosty.Account.FollowCollection
