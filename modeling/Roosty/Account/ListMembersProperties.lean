import Mathlib.Data.Set.BooleanAlgebra
import Mathlib.Order.CompletePartialOrder
import Roosty.Account.ListMembers
import Roosty.Account.MoveProperties
import Roosty.Library.Reference

/-!
# Members of lists are followed

The owner of a list follows its members. Every operation that ends a follow takes the
account off the lists of the follower, but for the Reject of a Follow and the deletion
of a remote actor.
-/

set_option autoImplicit false

namespace Roosty.Account.Lists

open Library Federation Inbox

/-!
## What lists promise
-/

abbrev Pair := AccountId × AccountId

def localListed (tables : Tables) : Set Pair :=
  {pair | ∃ list ∈ tables.remote.lists, list.accountId = pair.1 ∧
    ∃ member ∈ tables.localMembers, member.listId = list.id ∧ member.accountId = pair.2}

def localFollowed (tables : Tables) : Set Pair :=
  {pair | ∃ row ∈ tables.follows,
    row.followerAccountId = pair.1 ∧ row.followedAccountId = pair.2}

def remoteListed (db : Db) : Set Pair :=
  {pair | ∃ list ∈ db.lists, list.accountId = pair.1 ∧
    ∃ member ∈ db.members, member.listId = list.id ∧ member.remoteActorId = pair.2}

def remoteFollowed (db : Db) : Set Pair :=
  {pair | ∃ row ∈ db.inbox.relations.following,
    row.localAccountId = pair.1 ∧ row.remoteActorId = pair.2 ∧
      (row.state = .accepted ∨ row.state = .pending) ∧ isActive row = true}

structure MembersFollowed (tables : Tables) : Prop where
  locals : localListed tables ⊆ localFollowed tables
  remotes : remoteListed tables.remote ⊆ remoteFollowed tables.remote

/-- The accounts whose follow has ended are on no list of the follower. -/
structure MembershipsEnded (before after : Tables) : Prop where
  locals : Disjoint (localFollowed before \ localFollowed after) (localListed after)
  remotes : Disjoint (remoteFollowed before.remote \ remoteFollowed after.remote)
    (remoteListed after.remote)

/-- No selected follow is that of a member of a list of its author. -/
def SparesListed (db : Db) (selected : RemoteFollowing → Bool) : Prop :=
  ∀ row ∈ db.inbox.relations.following, selected row = true →
    (row.localAccountId, row.remoteActorId) ∉ remoteListed db

def SparesMembers (tables : Tables) : Call → Prop
  | .remote (.reject actor activityId) => SparesListed tables.remote fun row =>
      row.remoteActorId == actor && row.activityId == activityId
  | .processRemoteActorDelete actor =>
      tables.remote.remoteActors.any (fun cached => cached.id == actor) = true →
        SparesListed tables.remote fun row => row.remoteActorId == actor
  | _ => True

/-- The primary key of lists, the foreign keys to it, and the unique pairs of
`remote_following`. -/
structure Constraints (tables : Tables) : Prop where
  ids : (tables.remote.lists.map LocalList.id).Nodup
  localLists : ∀ member ∈ tables.localMembers, ∃ list ∈ tables.remote.lists,
    list.id = member.listId
  remoteLists : ∀ member ∈ tables.remote.members, ∃ list ∈ tables.remote.lists,
    list.id = member.listId
  pairs : UniquePairs tables.remote

/-!
## Members as references
-/

def listOwner (lists : List LocalList) (id : Nat) : Option AccountId :=
  (lists.find? fun list => list.id == id).map LocalList.accountId

theorem ownedBy_eq (db : Db) (owner : AccountId) (id : Nat) :
    ownedBy db owner id = (listOwner db.lists id == some owner) := rfl

theorem listOwner_eq_some {lists : List LocalList} (ids : (lists.map LocalList.id).Nodup)
    {id : Nat} {owner : AccountId} :
    listOwner lists id = some owner ↔ ∃ list ∈ lists, list.id = id ∧ list.accountId = owner := by
  unfold listOwner
  rw [Option.map_eq_some_iff]
  constructor
  · rintro ⟨list, found, rfl⟩
    exact ⟨list, List.mem_of_find?_eq_some found, by simpa using List.find?_some found, rfl⟩
  · rintro ⟨list, member, rfl, rfl⟩
    have unique : Table.UniqueOn (fun list : LocalList => some list.id) lists := by
      unfold Table.UniqueOn
      rwa [List.filterMap_eq_map']
    exact ⟨list, unique.find?_eq_some member, rfl⟩

theorem ownedBy_iff {db : Db} (ids : (db.lists.map LocalList.id).Nodup) {owner : AccountId}
    {id : Nat} : ownedBy db owner id = true ↔
      ∃ list ∈ db.lists, list.id = id ∧ list.accountId = owner := by
  rw [ownedBy_eq, beq_iff_eq, listOwner_eq_some ids]

def memberKey (lists : List LocalList) (id : Nat) (account : AccountId) : Option Pair :=
  (listOwner lists id).map fun owner => (owner, account)

def localKey (lists : List LocalList) (member : LocalMember) : Option Pair :=
  memberKey lists member.listId member.accountId

def remoteKey (lists : List LocalList) (member : RemoteMember) : Option Pair :=
  memberKey lists member.listId member.remoteActorId

def followKey (row : LocalFollow) : Option Pair :=
  some (row.followerAccountId, row.followedAccountId)

def followingKey (row : RemoteFollowing) : Option Pair :=
  if isActive row then some (row.localAccountId, row.remoteActorId) else none

section

variable {tables : Tables} {db next : Db} {pair : Pair}

theorem followingKey_eq_some {row : RemoteFollowing} :
    followingKey row = some pair ↔
      isActive row = true ∧ row.localAccountId = pair.1 ∧ row.remoteActorId = pair.2 := by
  unfold followingKey
  split
  · rename_i active
    simp [active, Prod.ext_iff]
  · rename_i inactive
    simp [inactive]

theorem memberKey_eq_some {lists : List LocalList} {id : Nat} {account : AccountId} :
    memberKey lists id account = some pair ↔ listOwner lists id = some pair.1 ∧ account = pair.2 := by
  unfold memberKey
  rw [Option.map_eq_some_iff]
  constructor
  · rintro ⟨owner, owns, rfl⟩
    exact ⟨owns, rfl⟩
  · rintro ⟨owns, rfl⟩
    exact ⟨pair.1, owns, rfl⟩

private theorem listed_iff {Row : Type} {lists : List LocalList}
    (ids : (lists.map LocalList.id).Nodup) {rows : List Row} {listId : Row → Nat}
    {account : Row → AccountId} :
    pair ∈ Table.keys (fun row => memberKey lists (listId row) (account row)) rows ↔
      ∃ list ∈ lists, list.accountId = pair.1 ∧
        ∃ row ∈ rows, listId row = list.id ∧ account row = pair.2 := by
  simp only [Table.mem_keys, memberKey_eq_some, listOwner_eq_some ids]
  constructor
  · rintro ⟨row, member, ⟨list, stored, same, owner⟩, listed⟩
    exact ⟨list, stored, owner, row, member, same.symm, listed⟩
  · rintro ⟨list, stored, owner, row, member, same, listed⟩
    exact ⟨row, member, ⟨list, stored, same.symm, owner⟩, listed⟩

theorem localListed_eq (ids : (tables.remote.lists.map LocalList.id).Nodup) :
    localListed tables = Table.keys (localKey tables.remote.lists) tables.localMembers :=
  Set.ext fun _ => (listed_iff ids).symm

theorem remoteListed_eq (ids : (db.lists.map LocalList.id).Nodup) :
    remoteListed db = Table.keys (remoteKey db.lists) db.members :=
  Set.ext fun _ => (listed_iff ids).symm

theorem localFollowed_eq : localFollowed tables = Table.keys followKey tables.follows := by
  ext pair
  simp [localFollowed, Table.mem_keys, followKey, Prod.ext_iff]

theorem remoteFollowed_eq :
    remoteFollowed db = Table.keys followingKey db.inbox.relations.following := by
  ext pair
  simp only [Table.mem_keys, followingKey_eq_some]
  constructor
  · rintro ⟨row, member, owner, actor, _, active⟩
    exact ⟨row, member, active, owner, actor⟩
  · rintro ⟨row, member, active, owner, actor⟩
    refine ⟨row, member, owner, actor, ?_, active⟩
    cases row.state with
    | accepted => exact .inl rfl
    | pending => exact .inr rfl

end

/-!
## Remote actors
-/

def remoteNeeded (db : Db) : Set Pair := Table.keys (remoteKey db.lists) db.members

def remoteDefined (db : Db) : Set Pair := Table.keys followingKey db.inbox.relations.following

/-- A change that leaves lists as they are, adds members to no other lists than had some,
and keeps members followed. -/
structure RemoteSound (db next : Db) : Prop where
  lists : next.lists = db.lists
  references : ∀ member ∈ next.members, ∃ old ∈ db.members, old.listId = member.listId
  covered : remoteNeeded db ⊆ remoteDefined db → remoteNeeded next ⊆ remoteDefined next

section

variable {db mid next : Db} {owner account actor target : AccountId}

theorem RemoteSound.refl (db : Db) : RemoteSound db db :=
  ⟨rfl, fun member listed => ⟨member, listed, rfl⟩, id⟩

theorem RemoteSound.trans (first : RemoteSound db mid) (second : RemoteSound mid next) :
    RemoteSound db next where
  lists := second.lists.trans first.lists
  references member listed := by
    obtain ⟨between, present, same⟩ := second.references member listed
    obtain ⟨old, stored, before⟩ := first.references between present
    exact ⟨old, stored, before.trans same⟩
  covered := second.covered ∘ first.covered

theorem RemoteSound.of_kept (lists : next.lists = db.lists) (members : next.members = db.members)
    (followed : remoteDefined db ⊆ remoteDefined next) : RemoteSound db next where
  lists := lists
  references member listed := ⟨member, members ▸ listed, rfl⟩
  covered subset := by
    unfold remoteNeeded
    rw [lists, members]
    exact subset.trans followed

private theorem removed_subset :
    Table.keys (remoteKey db.lists) (removeRemoteAccountFromOwnedLists db owner actor) ⊆
      remoteNeeded db \ {(owner, actor)} := by
  refine Table.keys_deleteWhere_subset_diff ?_
  rintro member _ pair rfl defined
  obtain ⟨owns, same⟩ := memberKey_eq_some.mp defined
  rw [Bool.and_eq_true, beq_iff_eq, ownedBy_eq, beq_iff_eq]
  exact ⟨same, owns⟩

theorem RemoteSound.of_severed (lists : next.lists = db.lists)
    (members : next.members = removeRemoteAccountFromOwnedLists db owner actor)
    {selected : RemoteFollowing → Bool}
    (following : next.inbox.relations.following =
      Table.deleteWhere selected db.inbox.relations.following)
    (pairs : ∀ row, selected row = true → row.localAccountId = owner ∧ row.remoteActorId = actor) :
    RemoteSound db next where
  lists := lists
  references member listed := by
    rw [members] at listed
    exact ⟨member, (Table.mem_deleteWhere.mp listed).1, rfl⟩
  covered := by
    refine Table.subset_of_replaced ∅ {(owner, actor)} ?_ ?_
    · unfold remoteNeeded
      rw [lists, members, Set.union_empty]
      exact removed_subset
    · unfold remoteDefined
      rw [following, Set.union_empty]
      refine Table.diff_subset_keys_deleteWhere ?_
      intro row _ chosen pair defined
      obtain ⟨_, isOwner, isActor⟩ := followingKey_eq_some.mp defined
      obtain ⟨ofOwner, ofActor⟩ := pairs row chosen
      exact Prod.ext (isOwner.symm.trans ofOwner) (isActor.symm.trans ofActor)

private theorem insertRemoteFollowing_eq {row : RemoteFollowing}
    {following : List RemoteFollowing} (inserted : insertRemoteFollowing db row = some following) :
    following = db.inbox.relations.following ++ [row] := by
  unfold insertRemoteFollowing at inserted
  dsimp only at inserted
  split at inserted
  · cases inserted
  · exact (Option.some.inj inserted).symm

private theorem joined_replaces {moved : RemoteFollowing} {followId : String}
    {following : List RemoteFollowing} {members : List RemoteMember}
    (joined : Joined db moved target followId following members) :
    Table.keys (remoteKey db.lists) members ⊆
        remoteNeeded db ∪ {(moved.localAccountId, target)} ∧
      remoteDefined db ∪ {(moved.localAccountId, target)} ⊆
        Table.keys followingKey following := by
  constructor
  · rw [joined.members]
    unfold copyMemberships
    rw [Table.keys_append]
    refine Set.union_subset_union_right _ ?_
    rintro pair ⟨member, listed, defined⟩
    obtain ⟨copied, _⟩ := List.mem_filter.mp listed
    obtain ⟨source, found, rfl⟩ := List.mem_map.mp copied
    obtain ⟨_, owned⟩ := List.mem_filter.mp found
    rw [Bool.and_eq_true, ownedBy_eq, beq_iff_eq, beq_iff_eq] at owned
    obtain ⟨owns, same⟩ := memberKey_eq_some.mp defined
    rw [owned.2] at owns
    exact Prod.ext (Option.some.inj owns).symm same.symm
  · obtain ⟨same, row, member, isOwner, isTarget, active⟩ | inserted :=
      followTarget_cases joined.following
    · rw [same] at member ⊢
      refine Set.union_subset subset_rfl ?_
      rintro pair rfl
      exact ⟨row, member, followingKey_eq_some.mpr ⟨active, isOwner, isTarget⟩⟩
    · rw [insertRemoteFollowing_eq inserted, Table.keys_append]
      refine Set.union_subset_union_right _ ?_
      rintro pair rfl
      exact ⟨_, List.mem_singleton_self _, rfl⟩

private theorem copied_references {member : RemoteMember}
    (listed : member ∈ copyMemberships db owner actor target) :
    ∃ old ∈ db.members, old.listId = member.listId := by
  obtain stored | copied := List.mem_append.mp listed
  · exact ⟨member, stored, rfl⟩
  · obtain ⟨source, found, rfl⟩ := List.mem_map.mp (List.mem_filter.mp copied).1
    exact ⟨source, (List.mem_filter.mp found).1, rfl⟩

private theorem migrated_pair {moved row : RemoteFollowing} (chosen : migrated moved row = true) :
    row.localAccountId = moved.localAccountId ∧ row.remoteActorId = moved.remoteActorId := by
  simp only [migrated, Bool.and_eq_true, beq_iff_eq] at chosen
  exact ⟨chosen.1.1.1.1, chosen.1.1.1.2⟩

theorem RemoteSound.of_migrated {moved : RemoteFollowing} {policyAllows : Bool}
    {followId : String} {now : Int}
    (performed : migrateRemoteFollowingForActorMove db moved target policyAllows followId now =
      some next) : RemoteSound db next := by
  obtain rfl | ⟨following, members, joined, rfl⟩ := migrate_cases performed
  · exact .refl _
  let account := moved.localAccountId
  have deactivated : Table.keys followingKey following \ {(account, moved.remoteActorId)} ⊆
      Table.keys followingKey (Table.updateWhere (migrated moved)
        (fun row => { row with deactivatedAt := some now }) following) := by
    refine Table.diff_subset_keys_updateWhere ?_
    intro row _ chosen pair defined
    obtain ⟨_, isOwner, isActor⟩ := followingKey_eq_some.mp defined
    obtain ⟨ofOwner, ofActor⟩ := migrated_pair chosen
    exact .inr (Prod.ext (isOwner.symm.trans ofOwner) (isActor.symm.trans ofActor))
  have removed : Table.keys (remoteKey db.lists) (removeRemoteAccountFromOwnedLists
      { db with members := members } account moved.remoteActorId) ⊆
      Table.keys (remoteKey db.lists) members \ {(account, moved.remoteActorId)} :=
    @removed_subset { db with members := members } account moved.remoteActorId
  obtain joined | ⟨rfl, rfl⟩ := joined
  · obtain ⟨listed, followed⟩ := joined_replaces joined
    refine ⟨rfl, ?_, Table.subset_of_replaced {(account, target)} {(account, moved.remoteActorId)}
      (removed.trans (Set.sdiff_subset_sdiff_left listed))
      ((Set.sdiff_subset_sdiff_left followed).trans deactivated)⟩
    intro member present
    have copied := (Table.mem_deleteWhere.mp present).1
    rw [joined.members] at copied
    exact copied_references copied
  · refine ⟨rfl, ?_, Table.subset_of_replaced ∅ {(account, moved.remoteActorId)} ?_ ?_⟩
    · intro member present
      exact ⟨member, (Table.mem_deleteWhere.mp present).1, rfl⟩
    · rw [Set.union_empty]
      exact removed
    · rw [Set.union_empty]
      exact deactivated

private theorem createRemoteFollowing_sound {activityId : String} {showReblogs notify : Bool}
    (performed : createRemoteFollowing db account actor activityId showReblogs notify = some next) :
    RemoteSound db next := by
  unfold createRemoteFollowing at performed
  dsimp only at performed
  split at performed
  · cases performed
  split at performed
  · split at performed
    · cases performed
      exact .of_kept rfl rfl (Table.keys_updateWhere_subset fun _ _ _ _ defined => defined)
    · split at performed
      · cases performed
      · cases performed
        refine .of_kept rfl rfl (Table.keys_updateWhere_subset ?_)
        intro row _ _ pair defined
        obtain ⟨_, isOwner, isActor⟩ := followingKey_eq_some.mp defined
        exact followingKey_eq_some.mpr ⟨rfl, isOwner, isActor⟩
  · obtain ⟨following, inserted, rfl⟩ := Option.map_eq_some_iff.mp performed
    refine .of_kept rfl rfl ?_
    unfold remoteDefined withFollowing
    rw [insertRemoteFollowing_eq inserted, Table.keys_append]
    exact Set.subset_union_left

private theorem pair_of_and {row : RemoteFollowing}
    (chosen : (row.localAccountId == account && row.remoteActorId == actor) = true) :
    row.localAccountId = account ∧ row.remoteActorId = actor := by
  simpa using chosen

private theorem perform_sound {transaction : Transaction}
    (performed : perform db transaction = some next) : RemoteSound db next := by
  cases transaction with
  | blockRemoteAccount account actor =>
      simp only [perform, blockRemoteAccount] at performed
      split at performed
      · cases performed
        exact .of_severed rfl rfl rfl fun _ => pair_of_and
      · cases performed
  | unblockRemoteAccount account actor =>
      cases performed
      exact .of_kept rfl rfl subset_rfl
  | processRemoteBlock actor account activityId =>
      cases performed
      refine .of_severed rfl rfl rfl fun row chosen => ?_
      exact pair_of_and ((Bool.and_comm _ _).trans chosen)
  | processRemoteUndoBlock actor account activityId =>
      cases performed
      exact .of_kept rfl rfl subset_rfl
  | createRemoteFollowing account actor activityId showReblogs notify =>
      exact createRemoteFollowing_sound performed
  | upsertRemoteFollow actor account activityId activity state =>
      obtain ⟨relations, upserted, rfl⟩ := Option.map_eq_some_iff.mp performed
      have same : relations.following = db.inbox.relations.following := by
        unfold upsertProcessedRemoteFollow at upserted
        dsimp only at upserted
        split at upserted
        · cases upserted
          rfl
        · split at upserted
          · cases upserted
          · cases upserted
            rfl
      exact .of_kept rfl rfl (by unfold remoteDefined; rw [same])
  | acceptRemoteFollow account actor activityId =>
      cases performed
      exact .of_kept rfl rfl subset_rfl
  | migrateRemoteFollowing moved target policyAllows followId now =>
      exact .of_migrated performed

private theorem unfollow_sound : RemoteSound db (deleteRemoteFollowing db account actor) := by
  unfold deleteRemoteFollowing
  dsimp only
  split
  · exact .of_severed rfl rfl rfl fun _ => pair_of_and
  · exact .refl db

theorem RemoteSound.step (action : MoveAction) (other : ∀ actor id, action ≠ .reject actor id) :
    RemoteSound db (migrations.step db action).1 := by
  cases action with
  | move move =>
      refine @moveRemoteActor_invariant _ move (RemoteSound db) ?_ ?_
      · intro between row after sound performed
        exact sound.trans (.of_migrated performed)
      · exact .of_kept rfl rfl subset_rfl
  | accept actor activityId =>
      exact .of_kept rfl rfl (Table.keys_updateWhere_subset fun _ _ _ _ defined => defined)
  | reject actor activityId => exact absurd rfl (other actor activityId)
  | unfollow account actor => exact unfollow_sound
  | perform transaction =>
      dsimp only [migrations]
      split
      · exact .refl db
      · rename_i performed
        exact perform_sound performed

end

/-!
## Local accounts
-/

def localNeeded (tables : Tables) : Set Pair :=
  Table.keys (localKey tables.remote.lists) tables.localMembers

def localDefined (tables : Tables) : Set Pair := Table.keys followKey tables.follows

/-- A transaction that keeps the constraints, and keeps members followed. -/
structure Sound (tables next : Tables) : Prop where
  constraints : Constraints next
  locals : localNeeded tables ⊆ localDefined tables → localNeeded next ⊆ localDefined next
  remotes : remoteNeeded tables.remote ⊆ remoteDefined tables.remote →
    remoteNeeded next.remote ⊆ remoteDefined next.remote

section

variable {tables mid next : Tables} {owner account target member actor : AccountId}

theorem Sound.refl (constraints : Constraints tables) : Sound tables tables :=
  ⟨constraints, id, id⟩

theorem Sound.trans (first : Sound tables mid) (second : Sound mid next) : Sound tables next :=
  ⟨second.constraints, second.locals ∘ first.locals, second.remotes ∘ first.remotes⟩

theorem Sound.of_local (constraints : Constraints tables) (remote : next.remote = tables.remote)
    (members : next.localMembers ⊆ tables.localMembers)
    (locals : localNeeded tables ⊆ localDefined tables → localNeeded next ⊆ localDefined next) :
    Sound tables next where
  constraints := by
    refine ⟨?_, ?_, ?_, ?_⟩
    · rw [remote]
      exact constraints.ids
    · intro member listed
      rw [remote]
      exact constraints.localLists member (members listed)
    · rw [remote]
      exact constraints.remoteLists
    · rw [remote]
      exact constraints.pairs
  locals := locals
  remotes := by
    rw [remote]
    exact id

private theorem removed_local_subset :
    Table.keys (localKey tables.remote.lists)
        (removeLocalAccountFromOwnedLists tables owner member) ⊆
      localNeeded tables \ {(owner, member)} := by
  refine Table.keys_deleteWhere_subset_diff ?_
  rintro row _ pair rfl defined
  obtain ⟨owns, same⟩ := memberKey_eq_some.mp defined
  rw [Bool.and_eq_true, beq_iff_eq, ownedBy_eq, beq_iff_eq]
  exact ⟨same, owns⟩

private theorem withoutFollow_subset {follows : List LocalFollow} :
    Table.keys followKey follows \ {(owner, member)} ⊆
      Table.keys followKey (withoutFollow owner member follows) := by
  refine Table.diff_subset_keys_deleteWhere ?_
  intro row _ chosen pair defined
  rw [Bool.and_eq_true, beq_iff_eq, beq_iff_eq] at chosen
  cases defined
  exact Prod.ext chosen.1 chosen.2

private theorem unfollow_local_sound (constraints : Constraints tables) :
    Sound tables (unfollowLocalAccount tables owner member) := by
  refine .of_local constraints rfl (List.filter_subset_self _) ?_
  refine Table.subset_of_replaced ∅ {(owner, member)} ?_ ?_
  · rw [Set.union_empty]
    exact removed_local_subset
  · rw [Set.union_empty]
    exact withoutFollow_subset

private theorem follow_local_sound (constraints : Constraints tables) {showReblogs notify : Bool}
    (followed : followLocalAccount tables owner member showReblogs notify = .ok next) :
    Sound tables next := by
  unfold followLocalAccount at followed
  dsimp only at followed
  obtain ⟨_, followed⟩ := guard_ok followed
  obtain ⟨_, followed⟩ := guard_ok followed
  obtain ⟨_, followed⟩ := guard_ok followed
  split at followed
  · cases followed
    refine .of_local constraints rfl (List.Subset.refl _) fun covered => covered.trans ?_
    exact Table.keys_updateWhere_subset fun _ _ _ _ defined => defined
  · cases followed
    refine .of_local constraints rfl (List.Subset.refl _) fun covered => covered.trans ?_
    unfold localDefined
    rw [Table.keys_append]
    exact Set.subset_union_left

private theorem block_local_sound (constraints : Constraints tables)
    (blocked : blockLocalAccount tables account target = .ok next) : Sound tables next := by
  unfold blockLocalAccount at blocked
  obtain ⟨_, blocked⟩ := guard_ok blocked
  obtain ⟨_, blocked⟩ := guard_ok blocked
  cases blocked
  -- Each direction is an end of a follow as in `unfollow_local_account`.
  have outgoing : Sound tables (unfollowLocalAccount tables account target) :=
    unfollow_local_sound constraints
  have incoming : Sound _ (unfollowLocalAccount (unfollowLocalAccount tables account target)
    target account) := unfollow_local_sound outgoing.constraints
  refine .of_local constraints rfl ?_ (outgoing.trans incoming).locals
  exact List.Subset.trans (List.filter_subset_self _) (List.filter_subset_self _)

/-!
## Lists
-/

private theorem owner_of_list {lists : List LocalList} {id : Nat} {list : LocalList}
    (stored : list ∈ lists) (same : list.id = id) (new : LocalList) :
    listOwner (lists ++ [new]) id = listOwner lists id := by
  unfold listOwner
  rw [List.find?_append]
  cases found : lists.find? fun list => list.id == id with
  | none => exact absurd (List.find?_eq_none.mp found list stored) (by simp [same])
  | some list => rfl

private theorem create_list_sound (constraints : Constraints tables) {id : Nat}
    (created : createLocalList tables owner id = some next) : Sound tables next := by
  unfold createLocalList at created
  split at created
  · cases created
  rename_i free
  cases created
  have local_same : ∀ member ∈ tables.localMembers,
      localKey (tables.remote.lists ++ [⟨id, owner⟩]) member =
        localKey tables.remote.lists member := by
    intro member listed
    obtain ⟨list, stored, same⟩ := constraints.localLists member listed
    unfold localKey memberKey
    rw [owner_of_list stored same]
  have remote_same : ∀ member ∈ tables.remote.members,
      remoteKey (tables.remote.lists ++ [⟨id, owner⟩]) member =
        remoteKey tables.remote.lists member := by
    intro member listed
    obtain ⟨list, stored, same⟩ := constraints.remoteLists member listed
    unfold remoteKey memberKey
    rw [owner_of_list stored same]
  refine ⟨⟨?_, ?_, ?_, constraints.pairs⟩, ?_, ?_⟩
  · rw [List.map_append, List.nodup_append]
    refine ⟨constraints.ids, List.nodup_singleton _, ?_⟩
    rintro first listed _ (_ | ⟨_, ⟨⟩⟩) rfl
    obtain ⟨list, stored, same⟩ := List.mem_map.mp listed
    exact free (List.any_eq_true.mpr ⟨list, stored, by simp [same]⟩)
  · intro member listed
    obtain ⟨list, stored, same⟩ := constraints.localLists member listed
    exact ⟨list, List.mem_append_left _ stored, same⟩
  · intro member listed
    obtain ⟨list, stored, same⟩ := constraints.remoteLists member listed
    exact ⟨list, List.mem_append_left _ stored, same⟩
  · rintro covered pair ⟨member, listed, defined⟩
    exact covered ⟨member, listed, (local_same member listed).symm.trans defined⟩
  · rintro covered pair ⟨member, listed, defined⟩
    exact covered ⟨member, listed, (remote_same member listed).symm.trans defined⟩

private theorem listOwner_of_subset {lists fewer : List LocalList}
    (ids : (lists.map LocalList.id).Nodup) (subset : fewer ⊆ lists) {id : Nat}
    {owner : AccountId} (owns : listOwner fewer id = some owner) :
    listOwner lists id = some owner ∧
      ∃ list ∈ fewer, list.id = id ∧ list.accountId = owner := by
  unfold listOwner at owns
  obtain ⟨list, found, isOwner⟩ := Option.map_eq_some_iff.mp owns
  have member := List.mem_of_find?_eq_some found
  have same : list.id = id := by simpa using List.find?_some found
  exact ⟨(listOwner_eq_some ids).mpr ⟨list, subset member, same, isOwner⟩,
    list, member, same, isOwner⟩

private theorem delete_list_sound (constraints : Constraints tables) {id : Nat} :
    Sound tables (deleteLocalList tables owner id) := by
  unfold deleteLocalList
  split
  · have stays : ∀ {listId : Nat}, (listId == id) = false →
        (∃ list ∈ tables.remote.lists, list.id = listId) →
        ∃ list ∈ Table.deleteWhere (fun list => list.id == id && list.accountId == owner)
          tables.remote.lists, list.id = listId := by
      rintro listId other ⟨list, stored, rfl⟩
      exact ⟨list, Table.mem_deleteWhere.mpr ⟨stored, by simp [other]⟩, rfl⟩
    refine ⟨⟨?_, ?_, ?_, constraints.pairs⟩, ?_, ?_⟩
    · exact constraints.ids.sublist (List.filter_sublist.map LocalList.id)
    · intro member listed
      obtain ⟨present, other⟩ := Table.mem_deleteWhere.mp listed
      exact stays other (constraints.localLists member present)
    · intro member listed
      obtain ⟨present, other⟩ := Table.mem_deleteWhere.mp listed
      exact stays other (constraints.remoteLists member present)
    · rintro covered pair ⟨member, listed, defined⟩
      obtain ⟨owns, same⟩ := memberKey_eq_some.mp defined
      exact covered ⟨member, (Table.mem_deleteWhere.mp listed).1, memberKey_eq_some.mpr
        ⟨(listOwner_of_subset constraints.ids (List.filter_subset_self _) owns).1, same⟩⟩
    · rintro covered pair ⟨member, listed, defined⟩
      obtain ⟨owns, same⟩ := memberKey_eq_some.mp defined
      exact covered ⟨member, (Table.mem_deleteWhere.mp listed).1, memberKey_eq_some.mpr
        ⟨(listOwner_of_subset constraints.ids (List.filter_subset_self _) owns).1, same⟩⟩
  · exact .refl constraints

private theorem locallyFollowed_mem {id : AccountId}
    (followed : locallyFollowed tables owner id = true) : (owner, id) ∈ localDefined tables := by
  obtain ⟨row, member, same⟩ := List.any_eq_true.mp followed
  rw [Bool.and_eq_true, beq_iff_eq, beq_iff_eq] at same
  exact ⟨row, member, congrArg some (Prod.ext same.1 same.2)⟩

private theorem remotelyFollowed_mem {id : AccountId}
    (followed : remotelyFollowed tables owner id = true) :
    (owner, id) ∈ remoteDefined tables.remote := by
  obtain ⟨row, member, same⟩ := List.any_eq_true.mp followed
  simp only [Bool.and_eq_true, beq_iff_eq] at same
  exact ⟨row, member, followingKey_eq_some.mpr ⟨same.2, same.1.1.1, same.1.1.2⟩⟩

private theorem add_accounts_sound (constraints : Constraints tables) {listId : Nat}
    {accountIds : List AccountId} :
    Sound tables (addLocalListAccounts tables owner listId accountIds).1 := by
  unfold addLocalListAccounts
  dsimp only
  split
  · exact .refl constraints
  rename_i owned
  have owned : ownedBy tables.remote owner listId = true := by simpa using owned
  split
  · exact .refl constraints
  rename_i followed
  split
  · exact .refl constraints
  obtain ⟨list, stored, same, isOwner⟩ := (ownedBy_iff constraints.ids).mp owned
  have owns : listOwner tables.remote.lists listId = some owner := by
    rwa [ownedBy_eq, beq_iff_eq] at owned
  refine ⟨⟨constraints.ids, ?_, ?_, constraints.pairs⟩, ?_, ?_⟩
  · intro member listed
    obtain present | added := List.mem_append.mp listed
    · exact constraints.localLists member present
    · obtain ⟨id, _, rfl⟩ := List.mem_map.mp added
      exact ⟨list, stored, same⟩
  · intro member listed
    obtain present | added := List.mem_append.mp listed
    · exact constraints.remoteLists member present
    · obtain ⟨id, _, rfl⟩ := List.mem_map.mp added
      exact ⟨list, stored, same⟩
  · intro covered
    unfold localNeeded
    rw [Table.keys_append]
    refine Set.union_subset covered ?_
    rintro pair ⟨member, added, defined⟩
    obtain ⟨id, chosen, rfl⟩ := List.mem_map.mp added
    obtain ⟨ofOwner, rfl⟩ := memberKey_eq_some.mp defined
    rw [owns] at ofOwner
    rw [← Prod.mk.eta (p := pair), ← Option.some.inj ofOwner]
    exact locallyFollowed_mem (List.mem_filter.mp chosen).2
  · intro covered
    unfold remoteNeeded
    rw [Table.keys_append]
    refine Set.union_subset covered ?_
    rintro pair ⟨member, added, defined⟩
    obtain ⟨id, chosen, rfl⟩ := List.mem_map.mp added
    obtain ⟨ofOwner, rfl⟩ := memberKey_eq_some.mp defined
    obtain ⟨requested, notLocal⟩ := List.mem_filter.mp chosen
    have remotely : remotelyFollowed tables owner pair.2 = true := by
      by_contra notRemote
      exact followed (List.any_eq_true.mpr
        ⟨pair.2, requested, by rw [notLocal, Bool.eq_false_iff.mpr notRemote]; rfl⟩)
    rw [owns] at ofOwner
    rw [← Prod.mk.eta (p := pair), ← Option.some.inj ofOwner]
    exact remotelyFollowed_mem remotely

private theorem remove_accounts_sound (constraints : Constraints tables) {listId : Nat}
    {accountIds : List AccountId} :
    Sound tables (removeLocalListAccounts tables owner listId accountIds).1 := by
  unfold removeLocalListAccounts
  split
  · exact .refl constraints
  · refine ⟨⟨constraints.ids, ?_, ?_, constraints.pairs⟩, ?_, ?_⟩
    · intro member listed
      exact constraints.localLists member (Table.mem_deleteWhere.mp listed).1
    · intro member listed
      exact constraints.remoteLists member (Table.mem_deleteWhere.mp listed).1
    · exact fun covered => Table.keys_deleteWhere_subset.trans covered
    · exact fun covered => Table.keys_deleteWhere_subset.trans covered

/-!
## Suspension
-/

private theorem sever_sound (constraints : Constraints tables) :
    Sound tables (severLocalAccountRelationships tables account) := by
  have stays : ∀ {listId : Nat}, (tables.remote.lists.any fun list =>
        list.accountId == account && list.id == listId) = false →
      (∃ list ∈ tables.remote.lists, list.id = listId) →
      ∃ list ∈ Table.deleteWhere (fun list => list.accountId == account) tables.remote.lists,
        list.id = listId := by
    rintro listId others ⟨list, stored, rfl⟩
    refine ⟨list, Table.mem_deleteWhere.mpr ⟨stored, ?_⟩, rfl⟩
    have other := List.any_eq_false.mp others list stored
    simpa using other
  -- The lists that remain are those of other accounts.
  have needed : ∀ {id : Nat} {pair : Pair} {member : AccountId}, memberKey
        (Table.deleteWhere (fun list => list.accountId == account) tables.remote.lists) id member =
          some pair →
      memberKey tables.remote.lists id member = some pair ∧ pair.1 ≠ account := by
    intro id pair member defined
    obtain ⟨owns, same⟩ := memberKey_eq_some.mp defined
    obtain ⟨owned, list, kept, _, isOwner⟩ :=
      listOwner_of_subset constraints.ids (List.filter_subset_self _) owns
    refine ⟨memberKey_eq_some.mpr ⟨owned, same⟩, ?_⟩
    have other := (Table.mem_deleteWhere.mp kept).2
    rw [isOwner] at other
    simpa using other
  refine ⟨⟨?_, ?_, ?_, constraints.pairs.deleteWhere _⟩, ?_, ?_⟩
  · exact constraints.ids.sublist (List.filter_sublist.map LocalList.id)
  · intro member listed
    obtain ⟨present, other⟩ := Table.mem_deleteWhere.mp listed
    exact stays (Bool.or_eq_false_iff.mp other).2 (constraints.localLists member present)
  · intro member listed
    obtain ⟨present, other⟩ := Table.mem_deleteWhere.mp listed
    exact stays other (constraints.remoteLists member present)
  · refine Table.subset_of_replaced ∅ {pair | pair.1 = account ∨ pair.2 = account} ?_ ?_
    · rw [Set.union_empty]
      rintro pair ⟨member, listed, defined⟩
      obtain ⟨present, kept⟩ := Table.mem_deleteWhere.mp listed
      obtain ⟨owned, other⟩ := needed defined
      refine ⟨⟨member, present, owned⟩, ?_⟩
      rintro (isOwner | isMember)
      · exact other isOwner
      · have same := (memberKey_eq_some.mp owned).2.trans isMember
        simp [same] at kept
    · rw [Set.union_empty]
      refine Table.diff_subset_keys_deleteWhere ?_
      intro row _ chosen pair defined
      cases defined
      simpa using chosen
  · refine Table.subset_of_replaced ∅ {pair | pair.1 = account} ?_ ?_
    · rw [Set.union_empty]
      rintro pair ⟨member, listed, defined⟩
      obtain ⟨owned, other⟩ := needed defined
      exact ⟨⟨member, (Table.mem_deleteWhere.mp listed).1, owned⟩, other⟩
    · rw [Set.union_empty]
      refine Table.diff_subset_keys_deleteWhere ?_
      intro row _ chosen pair defined
      obtain ⟨_, isOwner, _⟩ := followingKey_eq_some.mp defined
      exact isOwner.symm.trans (by simpa using chosen)

theorem Sound.of_departed (constraints : Constraints tables) (gone : AccountId → Bool)
    (follows : next.follows = tables.follows)
    (localMembers : next.localMembers = tables.localMembers)
    (lists : next.remote.lists = tables.remote.lists)
    (members : next.remote.members =
      Table.deleteWhere (fun member => gone member.remoteActorId) tables.remote.members)
    (following : next.remote.inbox.relations.following =
      Table.deleteWhere (fun row => gone row.remoteActorId)
        tables.remote.inbox.relations.following) :
    Sound tables next where
  constraints := by
    refine ⟨?_, ?_, ?_, ?_⟩
    · rw [lists]
      exact constraints.ids
    · rw [lists, localMembers]
      exact constraints.localLists
    · intro member listed
      rw [members] at listed
      rw [lists]
      exact constraints.remoteLists member (Table.mem_deleteWhere.mp listed).1
    · unfold UniquePairs
      rw [following]
      exact constraints.pairs.deleteWhere _
  locals covered := by
    unfold localNeeded localDefined
    rw [lists, localMembers, follows]
    exact covered
  remotes := by
    refine Table.subset_of_replaced ∅ {pair | gone pair.2 = true} ?_ ?_
    · unfold remoteNeeded
      rw [lists, members, Set.union_empty]
      refine Table.keys_deleteWhere_subset_diff ?_
      intro member _ pair isGone defined
      rw [(memberKey_eq_some.mp defined).2]
      exact isGone
    · unfold remoteDefined
      rw [following, Set.union_empty]
      refine Table.diff_subset_keys_deleteWhere ?_
      intro row _ chosen pair defined
      rw [(followingKey_eq_some.mp defined).2.2] at chosen
      exact chosen

private theorem purge_sound (constraints : Constraints tables) :
    Sound tables (purgeRemoteActorCache tables actor) :=
  .of_departed constraints (· == actor) rfl rfl rfl rfl rfl

private theorem domain_block_sound (constraints : Constraints tables)
    (covers : AccountId → Bool) : Sound tables (reconcileFederationDomainBlock tables covers) := by
  unfold reconcileFederationDomainBlock
  generalize tables.remote.remoteActors.filter _ = actors
  induction actors generalizing tables with
  | nil => exact .refl constraints
  | cons cached actors ih =>
      have purged : Sound tables (purgeRemoteActorCache tables cached.id) :=
        purge_sound constraints
      exact purged.trans (ih purged.constraints)

private theorem suspended_domains_sound (constraints : Constraints tables)
    (covers : AccountId → Bool) : Sound tables (reconcileSuspendedRemoteDomains tables covers) :=
  .of_departed constraints (fun actor => tables.remote.remoteActors.any fun cached =>
    covers cached.id && cached.id == actor) rfl rfl rfl rfl rfl

private theorem suspend_sound (constraints : Constraints tables) (suspended : Bool) (now : Int) :
    Sound tables (setAccountSuspendedById tables account suspended now) := by
  unfold setAccountSuspendedById
  split
  · dsimp only
    let marked := { tables with
      accounts := Table.updateWhere (fun other => other.id == account) (fun other =>
        { other with suspendedAt := if suspended then some now else none }) tables.accounts }
    have sound : Sound tables marked := .of_local constraints rfl (List.Subset.refl _) id
    split
    · exact sound.trans (sever_sound sound.constraints)
    · exact sound
  · split
    · exact purge_sound constraints
    · exact .refl constraints

/-!
## Every call
-/

theorem membersFollowed_iff (constraints : Constraints tables) :
    MembersFollowed tables ↔ localNeeded tables ⊆ localDefined tables ∧
      remoteNeeded tables.remote ⊆ remoteDefined tables.remote := by
  have locals := @localListed_eq tables constraints.ids
  have remotes := @remoteListed_eq tables.remote constraints.ids
  constructor
  · intro followed
    refine ⟨?_, ?_⟩
    · unfold localNeeded localDefined
      rw [← locals, ← localFollowed_eq]
      exact followed.locals
    · unfold remoteNeeded remoteDefined
      rw [← remotes, ← remoteFollowed_eq]
      exact followed.remotes
  · rintro ⟨local_, remote⟩
    refine ⟨?_, ?_⟩
    · rw [locals, localFollowed_eq]
      exact local_
    · rw [remotes, remoteFollowed_eq]
      exact remote

theorem Sound.membersFollowed (sound : Sound tables next) (constraints : Constraints tables)
    (followed : MembersFollowed tables) : MembersFollowed next := by
  obtain ⟨locals, remotes⟩ := (membersFollowed_iff constraints).mp followed
  exact (membersFollowed_iff sound.constraints).mpr ⟨sound.locals locals, sound.remotes remotes⟩

theorem RemoteSound.sound {remote : Db} (constraints : Constraints tables)
    (kept : RemoteSound tables.remote remote) (pairs : UniquePairs remote) :
    Sound tables { tables with remote := remote } where
  constraints := by
    refine ⟨?_, ?_, ?_, pairs⟩
    · rw [kept.lists]
      exact constraints.ids
    · rw [kept.lists]
      exact constraints.localLists
    · intro member listed
      obtain ⟨old, stored, same⟩ := kept.references member listed
      obtain ⟨list, present, isList⟩ := constraints.remoteLists old stored
      rw [kept.lists]
      exact ⟨list, present, isList.trans same⟩
  locals covered := by
    unfold localNeeded
    rw [kept.lists]
    exact covered
  remotes := kept.covered

structure Unfollowed (selected : RemoteFollowing → Bool) (tables next : Tables) : Prop where
  lists : next.remote.lists = tables.remote.lists
  members : next.remote.members = tables.remote.members
  localMembers : next.localMembers = tables.localMembers
  follows : next.follows = tables.follows
  following : next.remote.inbox.relations.following =
    Table.deleteWhere selected tables.remote.inbox.relations.following

section

variable {selected : RemoteFollowing → Bool}

theorem Unfollowed.constraints (ended : Unfollowed selected tables next)
    (constraints : Constraints tables) : Constraints next := by
  refine ⟨?_, ?_, ?_, ?_⟩
  · rw [ended.lists]
    exact constraints.ids
  · rw [ended.lists, ended.localMembers]
    exact constraints.localLists
  · rw [ended.lists, ended.members]
    exact constraints.remoteLists
  · unfold UniquePairs
    rw [ended.following]
    exact constraints.pairs.deleteWhere selected

theorem Unfollowed.membersFollowed_iff (ended : Unfollowed selected tables next)
    (constraints : Constraints tables) (followed : MembersFollowed tables) :
    MembersFollowed next ↔ SparesListed tables.remote selected := by
  have listed : remoteListed next.remote = remoteListed tables.remote := by
    unfold remoteListed
    rw [ended.lists, ended.members]
  constructor
  · intro after row member chosen onList
    rw [← listed] at onList
    obtain ⟨other, kept, sameOwner, sameActor, _⟩ := after.remotes onList
    rw [ended.following] at kept
    obtain ⟨stored, spared⟩ := Table.mem_deleteWhere.mp kept
    have same : other = row := constraints.pairs.eq_of_key stored member
      (congrArg some (Prod.ext sameOwner sameActor)) rfl
    rw [same, chosen] at spared
    cases spared
  · intro spares
    refine ⟨?_, ?_⟩
    · unfold localListed localFollowed
      rw [ended.lists, ended.localMembers, ended.follows]
      exact followed.locals
    · intro pair onList
      rw [listed] at onList
      obtain ⟨row, member, isOwner, isActor, state, active⟩ := followed.remotes onList
      refine ⟨row, ?_, isOwner, isActor, state, active⟩
      rw [ended.following, Table.mem_deleteWhere]
      refine ⟨member, Bool.eq_false_iff.mpr fun chosen => spares row member chosen ?_⟩
      rwa [isOwner, isActor]

end

private theorem reject_unfollowed (id : String) :
    Unfollowed (fun row => row.remoteActorId == actor && row.activityId == id) tables
      (memberships.step tables (.remote (.reject actor id))).1 :=
  ⟨rfl, rfl, rfl, rfl, rfl⟩

private theorem deletion_unfollowed
    (cached : tables.remote.remoteActors.any (fun cached => cached.id == actor) = true) :
    Unfollowed (fun row => row.remoteActorId == actor) tables
      (memberships.step tables (.processRemoteActorDelete actor)).1 := by
  dsimp only [memberships, processRemoteActorDelete]
  rw [if_pos cached]
  exact ⟨rfl, rfl, rfl, rfl, rfl⟩

private theorem deletion_nothing
    (unknown : ¬tables.remote.remoteActors.any (fun cached => cached.id == actor) = true) :
    (memberships.step tables (.processRemoteActorDelete actor)).1 = tables := by
  dsimp only [memberships, processRemoteActorDelete]
  rw [if_neg unknown]

def EndsAlone : Call → Prop
  | .remote (.reject _ _) | .processRemoteActorDelete _ => True
  | _ => False

private theorem commit_sound (constraints : Constraints tables)
    {result : Except AccountRelationshipError Tables}
    (sound : ∀ next, result = .ok next → Sound tables next) :
    Sound tables (commit tables result).1 := by
  cases result with
  | error error => exact .refl constraints
  | ok next => exact sound next rfl

theorem Sound.step (constraints : Constraints tables) {call : Call} (other : ¬EndsAlone call) :
    Sound tables (memberships.step tables call).1 := by
  cases call with
  | createLocalList owner id =>
      dsimp only [memberships]
      cases created : createLocalList tables owner id with
      | none => exact .refl constraints
      | some next => exact create_list_sound constraints created
  | deleteLocalList owner id => exact delete_list_sound constraints
  | addLocalListAccounts owner listId accountIds => exact add_accounts_sound constraints
  | removeLocalListAccounts owner listId accountIds => exact remove_accounts_sound constraints
  | followLocalAccount follower followed showReblogs notify =>
      exact commit_sound constraints fun _ => follow_local_sound constraints
  | unfollowLocalAccount follower followed => exact unfollow_local_sound constraints
  | blockLocalAccount account target =>
      exact commit_sound constraints fun _ => block_local_sound constraints
  | unblockLocalAccount account target =>
      exact .of_local constraints rfl (List.Subset.refl _) id
  | setAccountSuspended account suspended now => exact suspend_sound constraints suspended now
  | reconcileFederationDomainBlock covers => exact domain_block_sound constraints covers
  | reconcileSuspendedRemoteDomains covers => exact suspended_domains_sound constraints covers
  | processRemoteActorDelete actor => exact absurd trivial other
  | remote action =>
      refine RemoteSound.sound constraints (.step action ?_) (constraints.pairs.step action)
      rintro actor id rfl
      exact other trivial

theorem Constraints.step (constraints : Constraints tables) (call : Call) :
    Constraints (memberships.step tables call).1 := by
  by_cases alone : EndsAlone call
  · cases call with
    | remote action =>
        cases action with
        | reject actor id => exact (reject_unfollowed id).constraints constraints
        | _ => exact alone.elim
    | processRemoteActorDelete actor =>
        by_cases cached :
            tables.remote.remoteActors.any (fun cached => cached.id == actor) = true
        · exact (deletion_unfollowed cached).constraints constraints
        · rw [deletion_nothing cached]
          exact constraints
    | _ => exact alone.elim
  · exact (Sound.step constraints alone).constraints

theorem step_membersFollowed_iff (constraints : Constraints tables)
    (followed : MembersFollowed tables) (call : Call) :
    MembersFollowed (memberships.step tables call).1 ↔ SparesMembers tables call := by
  by_cases alone : EndsAlone call
  · cases call with
    | remote action =>
        cases action with
        | reject actor id => exact (reject_unfollowed id).membersFollowed_iff constraints followed
        | _ => exact alone.elim
    | processRemoteActorDelete actor =>
        by_cases cached :
            tables.remote.remoteActors.any (fun cached => cached.id == actor) = true
        · rw [(deletion_unfollowed cached).membersFollowed_iff constraints followed]
          exact ⟨fun spares _ => spares, fun spares => spares cached⟩
        · rw [deletion_nothing cached]
          exact ⟨fun _ isCached => absurd isCached cached, fun _ => followed⟩
    | _ => exact alone.elim
  · refine iff_of_true ((Sound.step constraints alone).membersFollowed constraints followed) ?_
    cases call with
    | remote action =>
        cases action with
        | reject actor id => exact absurd trivial alone
        | _ => trivial
    | processRemoteActorDelete actor => exact absurd trivial alone
    | _ => trivial

theorem MembersFollowed.ended (followed : MembersFollowed next) : MembershipsEnded tables next where
  locals := Set.disjoint_left.mpr fun _ ended listed => ended.2 (followed.locals listed)
  remotes := Set.disjoint_left.mpr fun _ ended listed => ended.2 (followed.remotes listed)

end

/-!
## Runs
-/

/-- In every state of a run members are followed, and every operation that ends a follow
ends the memberships it justified. -/
structure KeepsFollowed (start : Tables) (calls : List Call) : Prop where
  followed : ∀ before after, calls = before ++ after →
    MembersFollowed (memberships.run start before)
  ended : ∀ before call after, calls = before ++ call :: after →
    MembershipsEnded (memberships.run start before)
      (memberships.step (memberships.run start before) call).1

/-- A run keeps the members of lists followed exactly when no Reject and no deletion of an
actor ends the follow of a member. -/
theorem members_followed_iff {start : Tables} (constraints : Constraints start)
    (followed : MembersFollowed start) (calls : List Call) :
    KeepsFollowed start calls ↔ memberships.Guarded SparesMembers start calls := by
  have states : (∀ before after, calls = before ++ after →
      MembersFollowed (memberships.run start before)) ↔
        memberships.Guarded SparesMembers start calls :=
    @Machine.guarded_iff _ _ _ memberships SparesMembers Constraints MembersFollowed
      (fun _ call valid => Constraints.step valid call)
      (fun _ call valid kept => step_membersFollowed_iff valid kept call) start constraints followed
      calls
  rw [← states]
  constructor
  · exact KeepsFollowed.followed
  · intro holds
    refine ⟨holds, ?_⟩
    intro before call after same
    have reached := holds (before ++ [call]) after (by rw [same, List.append_assoc]; rfl)
    rw [Machine.run_snoc] at reached
    exact reached.ended

/-!
## A rejected member
-/

namespace Sample

open Migration

def carol : AccountId := ⟨2⟩

def start : Tables where
  remote := { Migration.start with members := [] }
  accounts := [⟨bob, none⟩, ⟨carol, none⟩]
  follows := []
  blocks := []
  localMembers := []

private theorem start_constraints : Constraints start where
  ids := by decide
  localLists := nofun
  remoteLists := nofun
  pairs := by
    unfold UniquePairs
    decide +kernel

private theorem start_followed : MembersFollowed start where
  locals := by
    rintro pair ⟨_, _, _, member, listed, _⟩
    cases listed
  remotes := by
    rintro pair ⟨_, _, _, member, listed, _⟩
    cases listed

/-- Bob lists Alice, who moves, and Carol, who blocks him. The replacement of Alice is
unlisted before it rejects the Follow. -/
def careful : List Call :=
  [.addLocalListAccounts bob 1 [alice], .followLocalAccount bob carol true false,
    .addLocalListAccounts bob 1 [carol], .remote (.move (Migration.move 1 alice alice2)),
    .blockLocalAccount carol bob, .removeLocalListAccounts bob 1 [alice2],
    .remote (.reject alice2 (followId 1 bob)), .setAccountSuspended bob true 0]

end Sample

instance (db : Db) (pair : Pair) : Decidable (pair ∈ remoteListed db) :=
  inferInstanceAs (Decidable (∃ list ∈ db.lists, list.accountId = pair.1 ∧
    ∃ member ∈ db.members, member.listId = list.id ∧ member.remoteActorId = pair.2))

instance (db : Db) (pair : Pair) : Decidable (pair ∈ remoteFollowed db) :=
  inferInstanceAs (Decidable (∃ row ∈ db.inbox.relations.following,
    row.localAccountId = pair.1 ∧ row.remoteActorId = pair.2 ∧
      (row.state = .accepted ∨ row.state = .pending) ∧ isActive row = true))

instance (db : Db) (selected : RemoteFollowing → Bool) : Decidable (SparesListed db selected) :=
  inferInstanceAs (Decidable (∀ row ∈ db.inbox.relations.following, selected row = true →
    (row.localAccountId, row.remoteActorId) ∉ remoteListed db))

instance (tables : Tables) : (call : Call) → Decidable (SparesMembers tables call)
  | .remote (.reject _ _) => inferInstanceAs (Decidable (SparesListed _ _))
  | .processRemoteActorDelete _ => inferInstanceAs (Decidable (_ → SparesListed _ _))
  | .remote (.move _) | .remote (.accept _ _) | .remote (.unfollow _ _) | .remote (.perform _)
  | .createLocalList _ _ | .deleteLocalList _ _ | .addLocalListAccounts _ _ _
  | .removeLocalListAccounts _ _ _ | .followLocalAccount _ _ _ _ | .unfollowLocalAccount _ _
  | .blockLocalAccount _ _ | .unblockLocalAccount _ _ | .setAccountSuspended _ _ _
  | .reconcileFederationDomainBlock _ | .reconcileSuspendedRemoteDomains _ => .isTrue trivial

open Sample in
theorem careful_members_followed : KeepsFollowed start careful := by
  refine (members_followed_iff Sample.start_constraints Sample.start_followed careful).mpr ?_
  refine Machine.guarded_of_get _ ?_
  decide +kernel

open Sample Migration in
/-- A Reject leaves Alice on the list of Bob, who follows her no longer. -/
theorem rejected_member_stays :
    ¬KeepsFollowed Sample.start
      [.addLocalListAccounts bob 1 [alice], .remote (.reject alice aliceFollow)] := by
  intro kept
  have after := (kept.followed _ [] (List.append_nil _).symm).remotes
  have listed : (bob, alice) ∈ remoteListed (memberships.run Sample.start
      [.addLocalListAccounts bob 1 [alice], .remote (.reject alice aliceFollow)]).remote := by
    decide +kernel
  exact absurd (after listed) (by decide +kernel)

end Roosty.Account.Lists
