import Roosty.Account.Move

/-!
# Followers after a Move

A Move reaches every follower of the old actor, and leaves it with one relationship
with the new actor and none with the old one. The exception is a follower with a
deactivated relationship with the new actor: a second row for the pair is refused,
and the job fails.
-/

set_option autoImplicit false

namespace Roosty.Account

open Library Federation Inbox

/-!
## What a Move is for
-/

/-- The unique constraint on local account and remote actor. -/
def UniquePairs (db : Db) : Prop :=
  Table.UniqueOn (fun row : RemoteFollowing => some (row.localAccountId, row.remoteActorId))
    db.inbox.relations.following

/-- The active relationships of a local account with a remote actor. -/
def activeWith (db : Db) (account actor : AccountId) : List RemoteFollowing :=
  db.inbox.relations.following.filter fun row =>
    row.localAccountId == account && (row.remoteActorId == actor && isActive row)

def targetAllowed (db : Db) (move : Move) (account : AccountId) : Bool :=
  move.policy.allowsTarget move.profile &&
    !localRemoteAccountsAreBlocked db.inbox account move.target

/-- The settings of an active relationship with the new actor, or else the copied ones. -/
def settings (db : Db) (move : Move) (row : RemoteFollowing) : Bool × Bool :=
  match activeWith db row.localAccountId move.target with
  | existing :: _ => (existing.showReblogs, existing.notify)
  | [] => (row.showReblogs, row.notify)

/-- What a Move makes of an active accepted follow of the old actor. -/
structure Moved (before after : Db) (move : Move) (row : RemoteFollowing) : Prop where
  left : activeWith after row.localAccountId move.source = []
  joined : targetAllowed before move row.localAccountId = true →
    ∃ follow, activeWith after row.localAccountId move.target = [follow] ∧
      (follow.showReblogs, follow.notify) = settings before move row
  listed : targetAllowed before move row.localAccountId = true →
    ∀ member ∈ before.members, ownedBy before row.localAccountId member.listId = true →
      member.remoteActorId = move.source → ⟨member.listId, move.target⟩ ∈ after.members

/-- No follower who may follow the new actor has only a deactivated relationship with it. -/
def Passes (db : Db) (move : Move) (row : RemoteFollowing) : Prop :=
  targetAllowed db move row.localAccountId = true →
    activeWith db row.localAccountId move.target = [] →
      ∀ other ∈ db.inbox.relations.following, other.localAccountId = row.localAccountId →
        other.remoteActorId ≠ move.target

/-!
## Accounts are moved one by one
-/

/-- The rows and the list members of an account are the same. -/
structure Same (db next : Db) (account : AccountId) : Prop where
  rows : next.inbox.relations.following.filter (·.localAccountId == account) =
    db.inbox.relations.following.filter (·.localAccountId == account)
  members : ∀ member : RemoteMember, ownedBy db account member.listId = true →
    (member ∈ next.members ↔ member ∈ db.members)

structure Frame (db next : Db) : Prop where
  actors : next.remoteActors = db.remoteActors
  lists : next.lists = db.lists
  localBlocks : next.inbox.localBlocks = db.inbox.localBlocks
  remoteBlocks : next.inbox.relations.blocks = db.inbox.relations.blocks

section

variable {db mid next : Db} {move : Move} {account : AccountId} {row : RemoteFollowing}

theorem Frame.refl (db : Db) : Frame db db := ⟨rfl, rfl, rfl, rfl⟩

theorem Frame.trans (first : Frame db mid) (second : Frame mid next) : Frame db next :=
  ⟨second.actors.trans first.actors, second.lists.trans first.lists,
    second.localBlocks.trans first.localBlocks, second.remoteBlocks.trans first.remoteBlocks⟩

theorem Frame.ownedBy (frame : Frame db next) (owner : AccountId) (list : Nat) :
    ownedBy next owner list = ownedBy db owner list := by
  unfold Account.ownedBy
  rw [frame.lists]

theorem Frame.targetAllowed (frame : Frame db next) (move : Move) (account : AccountId) :
    targetAllowed next move account = targetAllowed db move account := by
  unfold Account.targetAllowed localRemoteAccountsAreBlocked
  rw [frame.localBlocks, frame.remoteBlocks]

theorem Same.refl (db : Db) (account : AccountId) : Same db db account :=
  ⟨rfl, fun _ _ => Iff.rfl⟩

theorem Same.trans (first : Same db mid account) (frame : Frame db mid)
    (second : Same mid next account) : Same db next account where
  rows := second.rows.trans first.rows
  members member owned :=
    (second.members member (by rwa [frame.ownedBy])).trans (first.members member owned)

private theorem activeWith_eq (db : Db) (account actor : AccountId) :
    activeWith db account actor = (db.inbox.relations.following.filter
      (·.localAccountId == account)).filter fun row => row.remoteActorId == actor && isActive row := by
  rw [List.filter_filter]
  unfold activeWith
  congr 1
  funext row
  exact Bool.and_comm _ _

theorem Same.activeWith (same : Same db next account) (actor : AccountId) :
    activeWith next account actor = activeWith db account actor := by
  rw [activeWith_eq, activeWith_eq, same.rows]

theorem Same.settings (same : Same db next row.localAccountId) :
    settings next move row = settings db move row := by
  unfold Account.settings
  rw [same.activeWith]

theorem Moved.of_before (moved : Moved mid next move row) (frame : Frame db mid)
    (same : Same db mid row.localAccountId) : Moved db next move row where
  left := moved.left
  joined allowed := by
    rw [← frame.targetAllowed] at allowed
    obtain ⟨follow, only, copied⟩ := moved.joined allowed
    exact ⟨follow, only, copied.trans same.settings⟩
  listed allowed member present owned isSource := by
    rw [← frame.targetAllowed] at allowed
    exact moved.listed allowed member ((same.members member owned).mpr present)
      (by rwa [frame.ownedBy]) isSource

theorem Moved.of_after (moved : Moved db mid move row) (frame : Frame db mid)
    (same : Same mid next row.localAccountId) : Moved db next move row where
  left := by
    rw [same.activeWith]
    exact moved.left
  joined allowed := by
    obtain ⟨follow, only, copied⟩ := moved.joined allowed
    exact ⟨follow, by rwa [same.activeWith], copied⟩
  listed allowed member present owned isSource :=
    (same.members _ (by rwa [frame.ownedBy])).mpr
      (moved.listed allowed member present owned isSource)

theorem Same.passes (same : Same db next row.localAccountId) (frame : Frame db next) :
    Passes next move row ↔ Passes db move row := by
  have rows : ∀ other : RemoteFollowing, other.localAccountId = row.localAccountId →
      (other ∈ next.inbox.relations.following ↔ other ∈ db.inbox.relations.following) := by
    intro other own
    have filtered := congrArg (other ∈ ·) same.rows
    simpa [own] using filtered
  unfold Passes
  rw [frame.targetAllowed, same.activeWith]
  constructor
  · intro passes allowed none other member own
    exact passes allowed none other ((rows other own).mpr member) own
  · intro passes allowed none other member own
    exact passes allowed none other ((rows other own).mp member) own

end

/-!
## One follow
-/

def selects (row other : RemoteFollowing) : Bool :=
  other.localAccountId == row.localAccountId && other.remoteActorId == row.remoteActorId &&
    other.activityId == row.activityId && other.state == .accepted && isActive other

def movedMembers (db : Db) (move : Move) (row : RemoteFollowing) : List RemoteMember :=
  let members := if targetAllowed db move row.localAccountId then
      copyMemberships db row.localAccountId row.remoteActorId move.target
    else db.members
  removeRemoteAccountFromOwnedLists { db with members := members } row.localAccountId
    row.remoteActorId

structure Ready (move : Move) (db : Db) (rest : List RemoteFollowing) : Prop where
  unique : UniquePairs db
  recorded : (db.remoteActors.find? fun cached => cached.id == move.source).bind
    CachedActor.movedTo = some move.target
  injective : Function.Injective move.followId
  fresh : ∀ row ∈ db.inbox.relations.following, ∀ other ∈ rest,
    row.activityId ≠ move.followId other.localAccountId
  pending : db.inbox.relations.following.filter (followsActor move.source) = rest

section

variable {db next : Db} {move : Move} {row : RemoteFollowing} {rest : List RemoteFollowing}

private theorem Ready.head (ready : Ready move db (row :: rest)) :
    row ∈ db.inbox.relations.following ∧ row.remoteActorId = move.source ∧
      row.state = .accepted ∧ isActive row = true := by
  have member : row ∈ db.inbox.relations.following.filter (followsActor move.source) := by
    rw [ready.pending]
    exact List.mem_cons_self
  obtain ⟨stored, follows⟩ := List.mem_filter.mp member
  simp only [followsActor, Bool.and_eq_true, beq_iff_eq] at follows
  exact ⟨stored, follows.1.1, follows.1.2, follows.2⟩

private theorem Ready.eq_of_pair (ready : Ready move db (row :: rest)) {other : RemoteFollowing}
    (member : other ∈ db.inbox.relations.following)
    (account : other.localAccountId = row.localAccountId)
    (actor : other.remoteActorId = row.remoteActorId) : other = row :=
  ready.unique.eq_of_key member ready.head.1 (by rw [account, actor]) rfl

private theorem Ready.selects_self (ready : Ready move db (row :: rest)) :
    selects row row = true := by
  obtain ⟨_, _, accepted, active⟩ := ready.head
  simp [selects, accepted, active]

private theorem selects_pair {other : RemoteFollowing} (chosen : selects row other = true) :
    other.localAccountId = row.localAccountId ∧ other.remoteActorId = row.remoteActorId := by
  simp only [selects, Bool.and_eq_true, beq_iff_eq] at chosen
  exact chosen.1.1.1

private theorem Ready.distinct (ready : Ready move db (row :: rest)) :
    ∀ other ∈ rest, other.localAccountId ≠ row.localAccountId := by
  intro other member same
  have unique : Table.UniqueOn (fun row : RemoteFollowing =>
      some (row.localAccountId, row.remoteActorId)) (row :: rest) := by
    rw [← ready.pending]
    exact List.Nodup.sublist (List.Sublist.filterMap _ List.filter_sublist) ready.unique
  have actor : other.remoteActorId = move.source := by
    have pending : other ∈ db.inbox.relations.following.filter (followsActor move.source) := by
      rw [ready.pending]
      exact List.mem_cons_of_mem row member
    have follows := (List.mem_filter.mp pending).2
    simp only [followsActor, Bool.and_eq_true, beq_iff_eq] at follows
    exact follows.1.1
  have nodup : ((row.localAccountId, row.remoteActorId) :: rest.map fun row =>
      (row.localAccountId, row.remoteActorId)).Nodup := by
    simpa [Table.UniqueOn] using unique
  refine (List.nodup_cons.mp nodup).1 (List.mem_map.mpr ⟨other, member, ?_⟩)
  rw [same, actor, ready.head.2.1]

private theorem Ready.migrate (ready : Ready move db (row :: rest)) :
    migrateRemoteFollowingForActorMove db row move.target (move.policy.allowsTarget move.profile)
        (move.followId row.localAccountId) move.now =
      (if targetAllowed db move row.localAccountId then
          followTarget db row move.target (move.followId row.localAccountId)
        else some db.inbox.relations.following).map fun following =>
          withFollowing { db with members := movedMembers db move row }
            (Table.updateWhere (selects row)
              (fun other => { other with deactivatedAt := some move.now }) following) := by
  have found : db.inbox.relations.following.any (selects row) = true :=
    List.any_eq_true.mpr ⟨row, ready.head.1, ready.selects_self⟩
  have recorded : ¬((db.remoteActors.find? fun cached => cached.id == row.remoteActorId).bind
      CachedActor.movedTo ≠ some move.target) := by
    rw [ready.head.2.1, not_not]
    exact ready.recorded
  unfold migrateRemoteFollowingForActorMove
  dsimp only
  refine (if_neg ?_).trans ((if_neg recorded).trans rfl)
  change ¬(!db.inbox.relations.following.any (selects row)) = true
  simp [found]

/-- The Follow of the target that is prepared for a follower. -/
def newFollow (move : Move) (row : RemoteFollowing) : RemoteFollowing :=
  ⟨row.localAccountId, move.target, move.followId row.localAccountId, .pending, row.showReblogs,
    row.notify, none⟩

private theorem Ready.follow_cases (ready : Ready move db (row :: rest)) :
    (Passes db move row ∧ (targetAllowed db move row.localAccountId = true →
        activeWith db row.localAccountId move.target ≠ []) ∧
      (if targetAllowed db move row.localAccountId then
          followTarget db row move.target (move.followId row.localAccountId)
        else some db.inbox.relations.following) = some db.inbox.relations.following) ∨
    (Passes db move row ∧ targetAllowed db move row.localAccountId = true ∧
      activeWith db row.localAccountId move.target = [] ∧
      (if targetAllowed db move row.localAccountId then
          followTarget db row move.target (move.followId row.localAccountId)
        else some db.inbox.relations.following) =
          some (db.inbox.relations.following ++ [newFollow move row])) ∨
    (¬Passes db move row ∧ (if targetAllowed db move row.localAccountId then
        followTarget db row move.target (move.followId row.localAccountId)
      else some db.inbox.relations.following) = none) := by
  cases allowed : targetAllowed db move row.localAccountId with
  | false =>
      refine .inl ⟨?_, by simp, by simp⟩
      intro isAllowed
      rw [allowed] at isAllowed
      cases isAllowed
  | true =>
      rw [if_pos rfl]
      unfold followTarget
      by_cases followed : activeWith db row.localAccountId move.target = []
      · have absent : ¬(db.inbox.relations.following.any fun other =>
            other.localAccountId == row.localAccountId && other.remoteActorId == move.target &&
              isActive other) = true := by
          rw [List.any_eq_true]
          intro present
          obtain ⟨other, member, both⟩ := present
          rw [Bool.and_assoc] at both
          exact List.filter_eq_nil_iff.mp followed other member both
        rw [if_neg absent]
        unfold insertRemoteFollowing
        dsimp only
        split
        · rename_i taken
          refine .inr (.inr ⟨?_, rfl⟩)
          intro passes
          obtain ⟨other, member, clash⟩ := List.any_eq_true.mp taken
          simp only [Bool.or_eq_true, Bool.and_eq_true, beq_iff_eq] at clash
          rcases clash with ⟨account, actor⟩ | activity
          · exact passes allowed followed other member account actor
          · exact ready.fresh other member row List.mem_cons_self activity
        · rename_i free
          refine .inr (.inl ⟨?_, rfl, followed, rfl⟩)
          intro _ _ other member account actor
          exact free (List.any_eq_true.mpr ⟨other, member, by simp [account, actor]⟩)
      · have present : (db.inbox.relations.following.any fun other =>
            other.localAccountId == row.localAccountId && other.remoteActorId == move.target &&
              isActive other) = true := by
          obtain ⟨other, member⟩ := List.exists_mem_of_ne_nil _ followed
          obtain ⟨stored, both⟩ := List.mem_filter.mp member
          exact List.any_eq_true.mpr ⟨other, stored, by rw [Bool.and_assoc]; exact both⟩
        rw [if_pos present]
        refine .inl ⟨?_, fun _ => followed, rfl⟩
        intro _ none
        exact absurd none followed

/-- The rows that a successful transaction deactivates one of. -/
structure Followed (db : Db) (move : Move) (row : RemoteFollowing)
    (following : List RemoteFollowing) : Prop where
  rows : following = db.inbox.relations.following ∨
    following = db.inbox.relations.following ++ [newFollow move row] ∧
      activeWith db row.localAccountId move.target = [] ∧
      ∀ other ∈ db.inbox.relations.following, other.localAccountId = row.localAccountId →
        other.remoteActorId ≠ move.target
  target : targetAllowed db move row.localAccountId = true →
    activeWith db row.localAccountId move.target = [] →
      following = db.inbox.relations.following ++ [newFollow move row]

def deactivated (move : Move) (row : RemoteFollowing) (following : List RemoteFollowing) :
    List RemoteFollowing :=
  Table.updateWhere (selects row) (fun other => { other with deactivatedAt := some move.now })
    following

variable {following : List RemoteFollowing}

private theorem mem_deactivated {other : RemoteFollowing}
    (member : other ∈ deactivated move row following) :
    ∃ before ∈ following, other.localAccountId = before.localAccountId ∧
      other.remoteActorId = before.remoteActorId ∧ other.activityId = before.activityId ∧
      (isActive other = true → other = before ∧ selects row before = false) := by
  rcases Table.mem_updateWhere.mp member with ⟨old, spared⟩ | ⟨before, old, _, rfl⟩
  · exact ⟨other, old, rfl, rfl, rfl, fun _ => ⟨rfl, spared⟩⟩
  · refine ⟨before, old, rfl, rfl, rfl, ?_⟩
    intro active
    cases active

private theorem Followed.mem (followed : Followed db move row following) {other : RemoteFollowing}
    (member : other ∈ following) :
    other ∈ db.inbox.relations.following ∨ other = newFollow move row ∧
      activeWith db row.localAccountId move.target = [] := by
  rcases followed.rows with same | ⟨added, none, _⟩
  · exact .inl (same ▸ member)
  · rw [added] at member
    rcases List.mem_append.mp member with old | new
    · exact .inl old
    · exact .inr ⟨List.mem_singleton.mp new, none⟩

private theorem Ready.left (ready : Ready move db (row :: rest))
    (followed : Followed db move row following) :
    (deactivated move row following).filter (fun other =>
      other.localAccountId == row.localAccountId &&
        (other.remoteActorId == move.source && isActive other)) = [] := by
  rw [List.filter_eq_nil_iff]
  intro other member both
  simp only [Bool.and_eq_true, beq_iff_eq] at both
  obtain ⟨account, actor, active⟩ := both
  obtain ⟨before, stored, _, _, _, unchanged⟩ := mem_deactivated member
  obtain ⟨rfl, spared⟩ := unchanged active
  obtain ⟨rowMember, rowActor, _, rowActive⟩ := ready.head
  rcases followed.mem stored with old | ⟨rfl, none⟩
  · rw [ready.eq_of_pair old account (actor.trans rowActor.symm), ready.selects_self] at spared
    cases spared
  · refine List.filter_eq_nil_iff.mp none row rowMember ?_
    have sameActor : row.remoteActorId = move.target := rowActor.trans actor.symm
    simp [sameActor, rowActive]

private theorem newFollow_inactive : followsActor move.source (newFollow move row) = false := by
  simp [followsActor, newFollow]

private theorem Ready.pending_next (ready : Ready move db (row :: rest))
    (followed : Followed db move row following) :
    (deactivated move row following).filter (followsActor move.source) = rest := by
  have before : following.filter (followsActor move.source) = row :: rest := by
    rcases followed.rows with same | ⟨added, _⟩
    · rw [same, ready.pending]
    · rw [added, List.filter_append, ready.pending, List.filter_cons_of_neg
        (by simp [newFollow_inactive]), List.filter_nil, List.append_nil]
  have gone : ∀ other, selects row other = true → followsActor move.source
      ({ other with deactivatedAt := some move.now } : RemoteFollowing) = false := by
    intro other _
    simp [followsActor, isActive]
  unfold deactivated
  rw [Table.filter_updateWhere_gone gone, before, List.filter_cons_of_neg
    (by simp [ready.selects_self]), List.filter_eq_self]
  intro other member
  rw [Bool.not_eq_true', ← Bool.not_eq_true]
  intro chosen
  exact ready.distinct other member (selects_pair chosen).1

private theorem Followed.pairs (followed : Followed db move row following)
    (unique : UniquePairs db) : Table.UniqueOn (fun row : RemoteFollowing =>
      some (row.localAccountId, row.remoteActorId)) (deactivated move row following) := by
  refine Table.UniqueOn.updateWhere ?_ fun _ _ _ => .inl rfl
  rcases followed.rows with same | ⟨added, _, absent⟩
  · rw [same]
    exact unique
  · rw [added]
    refine unique.insert ?_
    intro value isValue other member otherKey
    cases isValue
    obtain ⟨account, actor⟩ := Prod.mk.inj (Option.some.inj otherKey)
    exact absent other member account actor

private theorem Followed.other_rows (followed : Followed db move row following)
    {account : AccountId} (different : account ≠ row.localAccountId) :
    (deactivated move row following).filter (·.localAccountId == account) =
      db.inbox.relations.following.filter (·.localAccountId == account) := by
  have outside : ∀ other, selects row other = true →
      (other.localAccountId == account) = false ∧
        ((({ other with deactivatedAt := some move.now } : RemoteFollowing)).localAccountId ==
          account) = false := by
    intro other chosen
    have unselected : (other.localAccountId == account) = false := by
      rw [(selects_pair chosen).1]
      simpa using different.symm
    exact ⟨unselected, unselected⟩
  unfold deactivated
  rw [Table.filter_updateWhere outside]
  rcases followed.rows with same | ⟨added, _⟩
  · rw [same]
  · have dropped : [newFollow move row].filter (fun other => other.localAccountId == account) =
        [] := by simp [newFollow, different.symm]
    rw [added, List.filter_append, dropped, List.append_nil]

private theorem activeWith_single (unique : UniquePairs db) {account actor : AccountId}
    (followed : activeWith db account actor ≠ []) :
    ∃ existing, activeWith db account actor = [existing] := by
  cases rows : activeWith db account actor with
  | nil => exact absurd rows followed
  | cons first others =>
      cases others with
      | nil => exact ⟨first, rfl⟩
      | cons second others =>
          have keyed : ∀ other ∈ activeWith db account actor,
              (other.localAccountId, other.remoteActorId) = (account, actor) := by
            intro other member
            have both := (List.mem_filter.mp member).2
            simp only [Bool.and_eq_true, beq_iff_eq] at both
            rw [both.1, both.2.1]
          have nodup : ((activeWith db account actor).filterMap fun row : RemoteFollowing =>
              some (row.localAccountId, row.remoteActorId)).Nodup :=
            List.Nodup.sublist (List.Sublist.filterMap _ List.filter_sublist) unique
          rw [rows] at keyed nodup
          have firstKey := keyed first List.mem_cons_self
          have secondKey := keyed second (List.mem_cons_of_mem _ List.mem_cons_self)
          simp [firstKey, secondKey] at nodup

private theorem Ready.joined (ready : Ready move db (row :: rest))
    (followed : Followed db move row following) (different : move.target ≠ move.source)
    (allowed : targetAllowed db move row.localAccountId = true) :
    ∃ follow, (deactivated move row following).filter (fun other =>
        other.localAccountId == row.localAccountId &&
          (other.remoteActorId == move.target && isActive other)) = [follow] ∧
      (follow.showReblogs, follow.notify) = settings db move row := by
  have outside : ∀ other, selects row other = true →
      (other.localAccountId == row.localAccountId &&
          (other.remoteActorId == move.target && isActive other)) = false ∧
        (other.localAccountId == row.localAccountId &&
          (other.remoteActorId == move.target &&
            isActive ({ other with deactivatedAt := some move.now } : RemoteFollowing))) = false := by
    intro other chosen
    have actor : other.remoteActorId ≠ move.target := by
      rw [(selects_pair chosen).2, ready.head.2.1]
      exact different.symm
    simp [actor]
  unfold deactivated
  rw [Table.filter_updateWhere outside]
  unfold settings
  by_cases none : activeWith db row.localAccountId move.target = []
  · rw [followed.target allowed none, List.filter_append]
    refine ⟨newFollow move row, ?_, ?_⟩
    · have old : db.inbox.relations.following.filter (fun other =>
          other.localAccountId == row.localAccountId &&
            (other.remoteActorId == move.target && isActive other)) = [] := none
      rw [old]
      simp [newFollow, isActive]
    · rw [none]
      rfl
  · obtain ⟨existing, only⟩ := activeWith_single ready.unique none
    have rows : following = db.inbox.relations.following := by
      rcases followed.rows with same | ⟨_, empty, _⟩
      · exact same
      · exact absurd empty none
    rw [rows]
    refine ⟨existing, only, ?_⟩
    rw [only]

/-!
### List members
-/

private theorem owner_unique {one two : AccountId} {list : Nat} (first : ownedBy db one list = true)
    (second : ownedBy db two list = true) : one = two := by
  unfold ownedBy at first second
  rw [beq_iff_eq] at first second
  rw [first] at second
  exact Option.some.inj second

private theorem mem_movedMembers {member : RemoteMember} :
    member ∈ movedMembers db move row ↔
      (member ∈ db.members ∨ targetAllowed db move row.localAccountId = true ∧
        member.remoteActorId = move.target ∧
        ownedBy db row.localAccountId member.listId = true ∧
        ⟨member.listId, row.remoteActorId⟩ ∈ db.members) ∧
      ¬(member.remoteActorId = row.remoteActorId ∧
        ownedBy db row.localAccountId member.listId = true) := by
  unfold movedMembers removeRemoteAccountFromOwnedLists
  dsimp only
  rw [Table.mem_deleteWhere]
  have removed : ((member.remoteActorId == row.remoteActorId && ownedBy
      { db with members := if targetAllowed db move row.localAccountId then
          copyMemberships db row.localAccountId row.remoteActorId move.target else db.members }
      row.localAccountId member.listId) = false) ↔
      ¬(member.remoteActorId = row.remoteActorId ∧
        ownedBy db row.localAccountId member.listId = true) := by
    rw [← Bool.not_eq_true, Bool.and_eq_true, beq_iff_eq]
    rfl
  rw [removed]
  refine and_congr_left fun _ => ?_
  cases targetAllowed db move row.localAccountId with
  | false => simp
  | true =>
      simp only [if_true, true_and]
      unfold copyMemberships
      simp only [List.mem_append, List.mem_filter, List.mem_map, Bool.and_eq_true, beq_iff_eq,
        Bool.not_eq_true', List.contains_eq_mem, decide_eq_false_iff_not]
      constructor
      · intro present
        rcases present with old | ⟨⟨source, ⟨stored, actor, owned⟩, rfl⟩, _⟩
        · exact .inl old
        · refine .inr ⟨rfl, owned, ?_⟩
          rw [← actor]
          exact stored
      · intro present
        by_cases old : member ∈ db.members
        · exact .inl old
        · rcases present with old | ⟨actor, owned, stored⟩
          · exact .inl old
          · exact .inr ⟨⟨_, ⟨stored, rfl, owned⟩, by rw [← actor]⟩, old⟩

private theorem movedMembers_other {account : AccountId} (different : account ≠ row.localAccountId)
    {member : RemoteMember} (owned : ownedBy db account member.listId = true) :
    member ∈ movedMembers db move row ↔ member ∈ db.members := by
  have foreign : ¬ownedBy db row.localAccountId member.listId = true := fun own =>
    different (owner_unique owned own)
  rw [mem_movedMembers]
  constructor
  · intro present
    rcases present.1 with old | ⟨_, _, own, _⟩
    · exact old
    · exact absurd own foreign
  · intro old
    exact ⟨.inl old, fun both => foreign both.2⟩

structure Advanced (move : Move) (db next : Db) (row : RemoteFollowing)
    (rest : List RemoteFollowing) : Prop where
  passes : Passes db move row
  ready : Ready move next rest
  frame : Frame db next
  others : ∀ account, account ≠ row.localAccountId → Same db next account
  left : activeWith next row.localAccountId move.source = []
  moved : move.target ≠ move.source → Moved db next move row

private theorem Ready.advanced (ready : Ready move db (row :: rest)) (passes : Passes db move row)
    (followed : Followed db move row following) :
    Advanced move db (withFollowing { db with members := movedMembers db move row }
      (deactivated move row following)) row rest where
  passes := passes
  ready := {
    unique := followed.pairs ready.unique
    recorded := ready.recorded
    injective := ready.injective
    fresh := by
      intro other member later laterMember
      obtain ⟨before, stored, _, _, activity, _⟩ := mem_deactivated member
      rw [activity]
      rcases followed.mem stored with old | ⟨rfl, _⟩
      · exact ready.fresh before old later (List.mem_cons_of_mem _ laterMember)
      · intro same
        exact ready.distinct later laterMember (ready.injective same).symm
    pending := ready.pending_next followed }
  frame := ⟨rfl, rfl, rfl, rfl⟩
  others _ different :=
    ⟨followed.other_rows different, fun _ owned => movedMembers_other different owned⟩
  left := ready.left followed
  moved different := {
    left := ready.left followed
    joined := ready.joined followed different
    listed := by
      intro allowed member present owned isSource
      refine mem_movedMembers.mpr ⟨.inr ⟨allowed, rfl, owned, ?_⟩, ?_⟩
      · rw [ready.head.2.1, ← isSource]
        exact present
      · intro both
        exact different (both.1.trans ready.head.2.1) }

private theorem Ready.step (ready : Ready move db (row :: rest)) :
    (¬Passes db move row ∧ migrateRemoteFollowingForActorMove db row move.target
      (move.policy.allowsTarget move.profile) (move.followId row.localAccountId) move.now = none) ∨
    ∃ next, migrateRemoteFollowingForActorMove db row move.target
        (move.policy.allowsTarget move.profile) (move.followId row.localAccountId) move.now =
          some next ∧ Advanced move db next row rest := by
  rw [ready.migrate]
  rcases ready.follow_cases with ⟨passes, present, rows⟩ | ⟨passes, allowed, none, rows⟩ |
    ⟨refused, rows⟩
  · rw [rows]
    exact .inr ⟨_, rfl, ready.advanced passes
      ⟨.inl rfl, fun allowed none => absurd none (present allowed)⟩⟩
  · rw [rows]
    exact .inr ⟨_, rfl, ready.advanced passes
      ⟨.inr ⟨rfl, none, passes allowed none⟩, fun _ _ => rfl⟩⟩
  · rw [rows]
    exact .inl ⟨refused, rfl⟩

/-!
## All follows
-/

structure Drained (move : Move) (db next : Db) (batch rest : List RemoteFollowing) : Prop where
  passes : ∀ row ∈ batch, Passes db move row
  ready : Ready move next rest
  frame : Frame db next
  others : ∀ account, (∀ row ∈ batch, row.localAccountId ≠ account) → Same db next account
  left : ∀ row ∈ batch, activeWith next row.localAccountId move.source = []
  moved : move.target ≠ move.source → ∀ row ∈ batch, Moved db next move row

private theorem migrateBatch_cons (move : Move) (db : Db) (row : RemoteFollowing)
    (batch : List RemoteFollowing) :
    migrateBatch move db (row :: batch) =
      match migrateRemoteFollowingForActorMove db row move.target
          (move.policy.allowsTarget move.profile) (move.followId row.localAccountId) move.now with
      | none => (db, false)
      | some next => migrateBatch move next batch := rfl

private theorem Ready.moves {batch : List RemoteFollowing}
    (ready : Ready move db (batch ++ rest)) :
    ((migrateBatch move db batch).2 = false ∧ ∃ row ∈ batch, ¬Passes db move row) ∨
      (migrateBatch move db batch).2 = true ∧
        Drained move db (migrateBatch move db batch).1 batch rest := by
  induction batch generalizing db with
  | nil =>
      exact .inr ⟨rfl, fun _ member => (List.not_mem_nil member).elim, ready, Frame.refl db,
        fun account _ => Same.refl db account, fun _ member => (List.not_mem_nil member).elim,
        fun _ _ member => (List.not_mem_nil member).elim⟩
  | cons row batch ih =>
      rw [migrateBatch_cons]
      rcases ready.step with ⟨refused, failed⟩ | ⟨next, success, advanced⟩
      · rw [failed]
        exact .inl ⟨rfl, row, List.mem_cons_self, refused⟩
      · rw [success]
        dsimp only
        have distinct := ready.distinct
        have same : ∀ other ∈ batch, Same db next other.localAccountId := fun other member =>
          advanced.others _ (distinct other (List.mem_append_left _ member))
        rcases ih advanced.ready with ⟨failed, other, member, refused⟩ | ⟨success, drained⟩
        · refine .inl ⟨failed, other, List.mem_cons_of_mem _ member, ?_⟩
          rwa [← (same other member).passes advanced.frame]
        · have kept : Same next (migrateBatch move next batch).1 row.localAccountId :=
            drained.others _ fun other member => distinct other (List.mem_append_left _ member)
          refine .inr ⟨success, ?_, drained.ready, advanced.frame.trans drained.frame, ?_, ?_, ?_⟩
          · intro other member
            rcases List.mem_cons.mp member with rfl | later
            · exact advanced.passes
            · exact ((same other later).passes advanced.frame).mp (drained.passes other later)
          · intro account absent
            exact (advanced.others account (absent row List.mem_cons_self).symm).trans
              advanced.frame (drained.others account fun other member =>
                absent other (List.mem_cons_of_mem _ member))
          · intro other member
            rcases List.mem_cons.mp member with rfl | later
            · rw [kept.activeWith]
              exact advanced.left
            · exact drained.left other later
          · intro different other member
            rcases List.mem_cons.mp member with rfl | later
            · exact (advanced.moved different).of_after advanced.frame kept
            · exact (drained.moved different other later).of_before advanced.frame
                (same other later)

private theorem migrateBatch_append (move : Move) (db : Db) (first second : List RemoteFollowing) :
    migrateBatch move db (first ++ second) =
      if (migrateBatch move db first).2 then
        migrateBatch move (migrateBatch move db first).1 second
      else migrateBatch move db first := by
  induction first generalizing db with
  | nil => rfl
  | cons row first ih =>
      rw [List.cons_append, migrateBatch_cons, migrateBatch_cons]
      split
      · rfl
      · exact ih _

private theorem Ready.drains (ready : Ready move db rest)
    (cached : ∃ target, (db.remoteActors.find? fun actor => actor.id == move.target) = some target)
    {jobs : Nat} (enough : rest.length < jobs) :
    drain move jobs db = migrateBatch move db rest := by
  induction jobs generalizing db rest with
  | zero => cases enough
  | succ jobs ih =>
      obtain ⟨target, targetFound⟩ := cached
      have targetId : target.id = move.target := by simpa using List.find?_some targetFound
      cases sourceFound : db.remoteActors.find? fun actor => actor.id == move.source with
      | none =>
          have recorded := ready.recorded
          rw [sourceFound] at recorded
          cases recorded
      | some source =>
          have recorded := ready.recorded
          rw [sourceFound] at recorded
          have sourceId : source.id = move.source := by simpa using List.find?_some sourceFound
          have moved : ¬(source.movedTo ≠ some target.id) := by
            rw [targetId, not_not]
            exact recorded
          have batch : remoteActorMoveFollowingBatch db source.id remoteActorMigrationBatchSize =
              rest.take remoteActorMigrationBatchSize := by
            unfold remoteActorMoveFollowingBatch
            rw [sourceId, ready.pending]
          have split : rest.take remoteActorMigrationBatchSize ++
              rest.drop remoteActorMigrationBatchSize = rest := List.take_append_drop _ _
          have parts := migrateBatch_append move db (rest.take remoteActorMigrationBatchSize)
            (rest.drop remoteActorMigrationBatchSize)
          rw [split] at parts
          unfold drain migrateRemoteActorRelationships
          dsimp only
          rw [sourceFound, targetFound]
          dsimp only
          rw [if_neg moved, batch, parts]
          rw [← split] at ready
          rcases ready.moves with ⟨failed, _⟩ | ⟨success, drained⟩
          · simp only [failed, Bool.not_false, if_true, Bool.false_eq_true, if_false]
            rw [← failed]
          · simp only [success, Bool.not_true, Bool.false_eq_true, if_false, if_true]
            by_cases full : (rest.take remoteActorMigrationBatchSize).length =
                remoteActorMigrationBatchSize
            · rw [if_pos full]
              refine ih drained.ready ?_ ?_
              · rw [drained.frame.actors]
                exact ⟨target, targetFound⟩
              · rw [List.length_take] at full
                rw [List.length_drop]
                have positive : 0 < remoteActorMigrationBatchSize := by decide
                omega
            · have last : rest.drop remoteActorMigrationBatchSize = [] := by
                rw [List.length_take] at full
                rw [List.drop_eq_nil_iff]
                omega
              rw [if_neg full, last]
              rfl

end

/-- The Move succeeds, and every follower of the old actor follows the new one. -/
def Migrates (db : Db) (move : Move) : Prop :=
  (moveRemoteActor db move).2 = true ∧
    ∀ row ∈ db.inbox.relations.following, followsActor move.source row = true →
      Moved db (moveRemoteActor db move).1 move row

/-- The new actor is another one, and no follower of the old actor who may follow it has
only a deactivated relationship with it. -/
def Movable (db : Db) (move : Move) : Prop :=
  ∀ row ∈ db.inbox.relations.following, followsActor move.source row = true →
    targetAllowed db move row.localAccountId = true →
      move.target ≠ move.source ∧ (activeWith db row.localAccountId move.target = [] →
        ∀ other ∈ db.inbox.relations.following, other.localAccountId = row.localAccountId →
          other.remoteActorId ≠ move.target)

/-- Both actors are cached, and the identifiers of the prepared Follows are new. -/
structure Prepared (db : Db) (move : Move) : Prop where
  source : ∃ actor ∈ db.remoteActors, actor.id = move.source
  target : ∃ actor ∈ db.remoteActors, actor.id = move.target
  injective : Function.Injective move.followId
  fresh : ∀ row ∈ db.inbox.relations.following, ∀ account, row.activityId ≠ move.followId account

section

variable {db next : Db} {move : Move}

private theorem find_recorded {actor source target : AccountId}
    (cached : ∃ other ∈ db.remoteActors, other.id = actor) :
    ∃ found, ((processRemoteActorMove db source target).remoteActors.find? fun other =>
      other.id == actor) = some found ∧ (actor = source → found.movedTo = some target) := by
  have seen : (processRemoteActorMove db source target).remoteActors.find? (fun other =>
      other.id == actor) = (db.remoteActors.find? fun other => other.id == actor).map fun other =>
        if other.id == source then { other with movedTo := some target } else other :=
    Table.find?_updateWhere fun _ _ _ => rfl
  rw [seen]
  cases found : db.remoteActors.find? fun other => other.id == actor with
  | none =>
      obtain ⟨other, member, same⟩ := cached
      exact absurd (beq_iff_eq.mpr same) (List.find?_eq_none.mp found other member)
  | some other =>
      refine ⟨_, rfl, ?_⟩
      intro same
      have isActor : other.id = actor := by simpa using List.find?_some found
      simp [isActor, same]

private theorem Prepared.ready (prepared : Prepared db move) (unique : UniquePairs db) :
    Ready move (processRemoteActorMove db move.source move.target)
      (db.inbox.relations.following.filter (followsActor move.source)) where
  unique := unique
  recorded := by
    obtain ⟨found, isFound, recorded⟩ := find_recorded prepared.source
    rw [isFound]
    exact recorded rfl
  injective := prepared.injective
  fresh row member other _ := prepared.fresh row member other.localAccountId
  pending := rfl

private theorem Prepared.moves (prepared : Prepared db move) (unique : UniquePairs db) :
    moveRemoteActor db move = migrateBatch move (processRemoteActorMove db move.source move.target)
      (db.inbox.relations.following.filter (followsActor move.source)) := by
  refine (prepared.ready unique).drains ?_ ?_
  · obtain ⟨found, isFound, _⟩ := find_recorded prepared.target
    exact ⟨found, isFound⟩
  · exact Nat.lt_succ_of_le (List.length_filter_le _ _)

private theorem Prepared.migrates_iff (prepared : Prepared db move) (unique : UniquePairs db) :
    Migrates db move ↔ Movable db move := by
  have ready := prepared.ready unique
  rw [← List.append_nil (List.filter _ _)] at ready
  unfold Migrates
  rw [prepared.moves unique]
  rcases ready.moves with ⟨failed, row, member, refused⟩ | ⟨success, drained⟩
  · constructor
    · intro migrates
      rw [failed] at migrates
      cases migrates.1
    · intro movable
      obtain ⟨stored, follows⟩ := List.mem_filter.mp member
      exact absurd (fun allowed => (movable row stored follows allowed).2) refused
  · constructor
    · intro migrates row stored follows allowed
      have member := List.mem_filter.mpr ⟨stored, follows⟩
      refine ⟨?_, drained.passes row member allowed⟩
      intro same
      obtain ⟨follow, only, _⟩ := (migrates.2 row stored follows).joined allowed
      have self := (congrArg (activeWith _ row.localAccountId) same).symm.trans only
      rw [drained.left row member] at self
      cases self
    · intro movable
      refine ⟨success, ?_⟩
      intro row stored follows
      have member := List.mem_filter.mpr ⟨stored, follows⟩
      by_cases different : move.target ≠ move.source
      · have moved := drained.moved different row member
        exact ⟨moved.left, moved.joined, moved.listed⟩
      · have refused : ¬targetAllowed db move row.localAccountId = true := fun allowed =>
          different (movable row stored follows allowed).1
        exact ⟨drained.left row member, fun allowed => absurd allowed refused,
          fun allowed => absurd allowed refused⟩

/-!
## Runs
-/

private theorem insertRemoteFollowing_unique {row : RemoteFollowing}
    {following : List RemoteFollowing} (unique : UniquePairs db)
    (inserted : insertRemoteFollowing db row = some following) :
    UniquePairs (withFollowing db following) := by
  unfold insertRemoteFollowing at inserted
  dsimp only at inserted
  split at inserted
  · cases inserted
  rename_i free
  cases inserted
  refine Table.UniqueOn.insert unique ?_
  intro value isValue other member otherKey
  cases isValue
  obtain ⟨account, actor⟩ := Prod.mk.inj (Option.some.inj otherKey)
  exact free (List.any_eq_true.mpr ⟨other, member, by simp [account, actor]⟩)

/-- The row of the old actor that the migration of a follow deactivates. -/
def migrated (moved row : RemoteFollowing) : Bool :=
  row.localAccountId == moved.localAccountId && row.remoteActorId == moved.remoteActorId &&
    row.activityId == moved.activityId && row.state == .accepted && isActive row

/-- The follow of a replacement and the copied list members, where it is allowed. -/
structure Joined (db : Db) (moved : RemoteFollowing) (target : AccountId) (followId : String)
    (following : List RemoteFollowing) (members : List RemoteMember) : Prop where
  following : followTarget db moved target followId = some following
  members : members = copyMemberships db moved.localAccountId moved.remoteActorId target

theorem migrate_cases {moved : RemoteFollowing} {target : AccountId} {policyAllows : Bool}
    {followId : String} {now : Int}
    (performed : migrateRemoteFollowingForActorMove db moved target policyAllows followId now =
      some next) :
    next = db ∨ ∃ following members,
      (Joined db moved target followId following members ∨
        (following = db.inbox.relations.following ∧ members = db.members)) ∧
      next = withFollowing
        { db with
          members := removeRemoteAccountFromOwnedLists { db with members := members }
            moved.localAccountId moved.remoteActorId }
        (Table.updateWhere (migrated moved) (fun row => { row with deactivatedAt := some now })
          following) := by
  unfold migrateRemoteFollowingForActorMove at performed
  dsimp only at performed
  split at performed
  · exact .inl (Option.some.inj performed).symm
  split at performed
  · exact .inl (Option.some.inj performed).symm
  obtain ⟨following, followed, rfl⟩ := Option.map_eq_some_iff.mp performed
  split at followed
  · rename_i allowed
    rw [if_pos allowed]
    exact .inr ⟨following, _, .inl ⟨followed, rfl⟩, rfl⟩
  · rename_i refused
    rw [if_neg refused]
    exact .inr ⟨following, _, .inr ⟨(Option.some.inj followed).symm, rfl⟩, rfl⟩

theorem followTarget_cases {moved : RemoteFollowing} {target : AccountId} {followId : String}
    {following : List RemoteFollowing}
    (followed : followTarget db moved target followId = some following) :
    (following = db.inbox.relations.following ∧
      ∃ row ∈ following, row.localAccountId = moved.localAccountId ∧
        row.remoteActorId = target ∧ isActive row = true) ∨
    insertRemoteFollowing db ⟨moved.localAccountId, target, followId, .pending,
      moved.showReblogs, moved.notify, none⟩ = some following := by
  unfold followTarget at followed
  split at followed
  · rename_i exists_
    cases followed
    obtain ⟨row, member, found⟩ := List.any_eq_true.mp exists_
    simp only [Bool.and_eq_true, beq_iff_eq] at found
    exact .inl ⟨rfl, row, member, found.1.1, found.1.2, found.2⟩
  · exact .inr followed

private theorem migrate_unique {moved : RemoteFollowing} {target : AccountId}
    {policyAllows : Bool} {followId : String} {now : Int} (unique : UniquePairs db)
    (performed : migrateRemoteFollowingForActorMove db moved target policyAllows followId now =
      some next) : UniquePairs next := by
  obtain rfl | ⟨following, members, joined, rfl⟩ := migrate_cases performed
  · exact unique
  have pairs : UniquePairs (withFollowing db following) := by
    obtain joined | ⟨rfl, _⟩ := joined
    · obtain ⟨rfl, _⟩ | inserted := followTarget_cases joined.following
      · exact unique
      · exact insertRemoteFollowing_unique unique inserted
    · exact unique
  exact Table.UniqueOn.updateWhere pairs fun _ _ _ => .inl rfl

section

variable {invariant : Db → Prop} (keeps : ∀ db row next, invariant db →
  migrateRemoteFollowingForActorMove db row move.target (move.policy.allowsTarget move.profile)
    (move.followId row.localAccountId) move.now = some next → invariant next)

include keeps

private theorem migrateBatch_invariant (start : invariant db) (batch : List RemoteFollowing) :
    invariant (migrateBatch move db batch).1 := by
  induction batch generalizing db with
  | nil => exact start
  | cons row batch ih =>
      rw [migrateBatch_cons]
      split
      · exact start
      · rename_i moved
        exact ih (keeps _ _ _ start moved)

private theorem job_invariant (start : invariant db) :
    invariant (migrateRemoteActorRelationships move db).1 := by
  unfold migrateRemoteActorRelationships
  dsimp only
  split
  · split
    · exact start
    · split
      · exact migrateBatch_invariant keeps start _
      · split
        · exact migrateBatch_invariant keeps start _
        · exact migrateBatch_invariant keeps start _
  · exact start

private theorem drain_invariant (start : invariant db) (jobs : Nat) :
    invariant (drain move jobs db).1 := by
  induction jobs generalizing db with
  | zero => exact start
  | succ jobs ih =>
      have after : invariant (migrateRemoteActorRelationships move db).1 :=
        job_invariant keeps start
      unfold drain
      split
      · rename_i job
        rw [job] at after
        exact after
      · rename_i job
        rw [job] at after
        exact ih after
      · rename_i job
        rw [job] at after
        exact after

theorem moveRemoteActor_invariant
    (recorded : invariant (processRemoteActorMove db move.source move.target)) :
    invariant (moveRemoteActor db move).1 :=
  drain_invariant keeps recorded _

end

private theorem createRemoteFollowing_unique {account actor : AccountId} {activityId : String}
    {showReblogs notify : Bool} (unique : UniquePairs db)
    (performed : createRemoteFollowing db account actor activityId showReblogs notify = some next) :
    UniquePairs next := by
  unfold createRemoteFollowing at performed
  dsimp only at performed
  split at performed
  · cases performed
  split at performed
  · split at performed
    · cases performed
      exact Table.UniqueOn.updateWhere unique fun _ _ _ => .inl rfl
    · split at performed
      · cases performed
      · cases performed
        exact Table.UniqueOn.updateWhere unique fun _ _ _ => .inl rfl
  · obtain ⟨following, inserted, rfl⟩ := Option.map_eq_some_iff.mp performed
    exact insertRemoteFollowing_unique unique inserted

private theorem perform_unique {transaction : Transaction} (unique : UniquePairs db)
    (performed : perform db transaction = some next) : UniquePairs next := by
  cases transaction with
  | blockRemoteAccount account actor =>
      simp only [perform, blockRemoteAccount] at performed
      split at performed
      · cases performed
        exact Table.UniqueOn.deleteWhere unique _
      · cases performed
  | unblockRemoteAccount account actor =>
      cases performed
      exact unique
  | processRemoteBlock actor account activityId =>
      cases performed
      exact Table.UniqueOn.deleteWhere unique _
  | processRemoteUndoBlock actor account activityId =>
      cases performed
      exact unique
  | createRemoteFollowing account actor activityId showReblogs notify =>
      exact createRemoteFollowing_unique unique performed
  | upsertRemoteFollow actor account activityId activity state =>
      obtain ⟨relations, upserted, rfl⟩ := Option.map_eq_some_iff.mp performed
      unfold upsertProcessedRemoteFollow at upserted
      dsimp only at upserted
      split at upserted
      · cases upserted
        exact unique
      · split at upserted
        · cases upserted
        · cases upserted
          exact unique
  | acceptRemoteFollow account actor activityId =>
      cases performed
      exact unique
  | migrateRemoteFollowing moved target policyAllows followId now =>
      exact migrate_unique unique performed

theorem UniquePairs.step (unique : UniquePairs db) (action : MoveAction) :
    UniquePairs (migrations.step db action).1 := by
  cases action with
  | move move =>
      have recorded : UniquePairs (processRemoteActorMove db move.source move.target) := unique
      exact moveRemoteActor_invariant (fun _ _ _ => migrate_unique) recorded
  | accept actor activityId => exact Table.UniqueOn.updateWhere unique fun _ _ _ => .inl rfl
  | reject actor activityId => exact Table.UniqueOn.deleteWhere unique _
  | unfollow account actor =>
      dsimp only [migrations]
      unfold deleteRemoteFollowing
      dsimp only
      split
      · exact Table.UniqueOn.deleteWhere unique _
      · exact unique
  | perform transaction =>
      dsimp only [migrations]
      split
      · exact unique
      · rename_i performed
        exact perform_unique unique performed

/-- After every run, a Move migrates the followers of the old actor exactly when the new
actor is another one and no follower who may follow it has only a deactivated
relationship with it. -/
theorem move_migrates_iff {start : Db} (unique : UniquePairs start) {actions : List MoveAction}
    {move : Move} (prepared : Prepared (migrations.run start actions) move) :
    Migrates (migrations.run start actions) move ↔ Movable (migrations.run start actions) move :=
  prepared.migrates_iff
    (migrations.run_invariant UniquePairs (fun _ action unique => unique.step action)
      unique actions)

end

/-!
## There and back
-/

namespace Migration

def bob : AccountId := ⟨1⟩

def alice : AccountId := ⟨7⟩

def alice2 : AccountId := ⟨8⟩

def alice3 : AccountId := ⟨9⟩

def aliceFollow : String := "https://local.example/users/bob#follow-1"

def start : Db where
  inbox :=
    { markers := []
      relations :=
        { follows := [], favourites := [], reblogs := [], blocks := [], trends := [], quotes := []
          following := [⟨bob, alice, aliceFollow, .accepted, false, true, none⟩] }
      localAccounts := [], localStatuses := [], remoteStatuses := [], localBlocks := []
      remoteMentions := [] }
  remoteActors := [⟨alice, none⟩, ⟨alice2, none⟩, ⟨alice3, none⟩]
  lists := [⟨1, bob⟩]
  members := [⟨1, alice⟩]

/-- Every account prepares its own Follow, numbered by the Move. -/
def followId (number : Nat) (account : AccountId) : String :=
  String.ofList (List.replicate number '#' ++ List.replicate account.value '-')

def move (number : Nat) (source target : AccountId) : Move where
  source := source
  target := target
  policy := ⟨fun _ => true, fun _ => false⟩
  profile := ⟨"remote.example", none, none⟩
  followId := followId number
  now := number

/-- Alice has moved, and her new account accepted the Follow. -/
def accepted : List MoveAction :=
  [.move (move 1 alice alice2), .accept alice2 (followId 1 bob)]

private theorem start_unique : UniquePairs start := by
  unfold UniquePairs
  decide +kernel

theorem followId_injective (number : Nat) : Function.Injective (followId number) := by
  intro one two same
  have lists := List.append_cancel_left (String.ofList_injective same)
  have lengths := congrArg List.length lists
  rw [List.length_replicate, List.length_replicate] at lengths
  cases one
  cases two
  exact congrArg AccountId.mk lengths

private theorem prepared {target : AccountId}
    (cached : ∃ actor ∈ (migrations.run start accepted).remoteActors, actor.id = target) :
    Prepared (migrations.run start accepted) (move 2 alice2 target) where
  source := by
    change ∃ actor ∈ (migrations.run start accepted).remoteActors, actor.id = alice2
    decide +kernel
  target := cached
  injective := followId_injective 2
  fresh := by
    have ids : ((migrations.run start accepted).inbox.relations.following.map
        RemoteFollowing.activityId) = [aliceFollow, followId 1 bob] := by decide +kernel
    intro row member account same
    have listed : row.activityId ∈ [aliceFollow, followId 1 bob] := by
      rw [← ids]
      exact List.mem_map_of_mem member
    rw [same] at listed
    simp only [List.mem_cons, List.not_mem_nil, or_false] at listed
    rcases listed with first | second
    · have chars := congrArg String.toList first
      simp [Migration.move, followId, aliceFollow] at chars
    · have chars := congrArg String.toList second
      simp [Migration.move, followId, bob] at chars

end Migration

open Migration in
theorem move_migrates_onward :
    Migrates (migrations.run start accepted) (Migration.move 2 alice2 alice3) := by
  refine (move_migrates_iff Migration.start_unique (Migration.prepared (by decide +kernel))).mpr ?_
  unfold Movable
  decide +kernel

open Migration in
/-- Alice's old account has a deactivated row, so moving back to it is refused. -/
theorem move_back_fails :
    ¬Migrates (migrations.run start accepted) (Migration.move 2 alice2 alice) := by
  intro migrates
  exact absurd migrates.1 (by decide +kernel)

end Roosty.Account
