import Roosty.Account.Relationship

/-!
# Blocks and relationships exclude each other

A block severs follows and list memberships in both directions. Among local
accounts this holds as long as no follow is between its check for blocks and its
end while a block has already removed the follows of the pair.
-/

set_option autoImplicit false

namespace Roosty.Account

open Library Library.ReadCommitted

/-!
## Local accounts
-/

structure Unrelated (rows : Rows Key Row) (first second : AccountId) : Prop where
  outgoing : rows (.follow first second) = none
  incoming : rows (.follow second first) = none
  listed : ∀ list, rows (.list list) = some (.list first) → rows (.member list second) = none
  listing : ∀ list, rows (.list list) = some (.list second) → rows (.member list first) = none

def Severed (rows : Rows Key Row) : Prop :=
  ∀ account target, rows (.block account target) ≠ none → Unrelated rows account target

/-- A follow that has found no block. -/
def FollowStage.checked : FollowStage → Bool
  | .find | .insert | .update | .done => true
  | .target | .blocked | .failed => false

def BlockStage.outgoingDeleted : BlockStage → Bool
  | .deleteIncoming | .removeTarget | .removeAccount | .done => true
  | .target | .find | .insert | .deleteOutgoing | .failed => false

def BlockStage.incomingDeleted : BlockStage → Bool
  | .removeTarget | .removeAccount | .done => true
  | .target | .find | .insert | .deleteOutgoing | .deleteIncoming | .failed => false

namespace Position

/-- The follow of `follower` is based on the absence of blocks. -/
def Relies (follower followed : AccountId) : Position → Prop
  | .follow account target _ _ stage => account = follower ∧ target = followed ∧ stage.checked
  | .unfollow _ _ _ | .block _ _ _ | .unblock _ _ _ => False

/-- A block that has removed the follow of `follower`. -/
def Severs (follower followed : AccountId) : Position → Prop
  | .block account target stage =>
      (account = follower ∧ target = followed ∧ stage.outgoingDeleted) ∨
        (target = follower ∧ account = followed ∧ stage.incomingDeleted)
  | .follow _ _ _ _ _ | .unfollow _ _ _ | .unblock _ _ _ => False

/-- A block that has removed `member` from the lists of `owner`. -/
def Removes (owner member : AccountId) : Position → Prop
  | .block account target stage =>
      (account = owner ∧ target = member ∧ (stage = .removeAccount ∨ stage = .done)) ∨
        (target = owner ∧ account = member ∧ stage = .done)
  | .follow _ _ _ _ _ | .unfollow _ _ _ | .unblock _ _ _ => False

/-- A follow of the own account goes no further than its first check. -/
def Proper : Position → Prop
  | .follow follower followed _ _ stage => stage = .target ∨ follower ≠ followed
  | .unfollow _ _ _ | .block _ _ _ | .unblock _ _ _ => True

/-- The rows that a call writes. Only follows and blocks add one. -/
def Writes : Position → Key → Option Row → Prop
  | .follow follower followed _ _ _, key, _ => key = .follow follower followed
  | .block account target _, .block first second, _ => account = first ∧ target = second
  | .block _ _ _, .follow _ _, row | .block _ _ _, .member _ _, row => row = none
  | .unfollow _ _ _, .follow _ _, row | .unfollow _ _ _, .member _ _, row => row = none
  | .unblock _ _ _, .block _ _, row => row = none
  | _, _, _ => False

end Position

/-- No follow of a pair is past its check while a block has removed it. -/
def Ordered (state : State Key Row Position) : Prop :=
  ∀ one two first second, state.sessions one = some first → state.sessions two = some second →
    ∀ follower followed, first.position.Relies follower followed →
      ¬second.position.Severs follower followed

structure Sound (rows : Rows Key Row) (session : Session Key Row Position) : Prop where
  proper : session.position.Proper
  writes : ∀ key row, session.writes key = some row → session.position.Writes key row
  unblocked : ∀ follower followed, session.position.Relies follower followed →
    rows (.block follower followed) = none ∧ rows (.block followed follower) = none
  severed : ∀ follower followed, session.position.Severs follower followed →
    overlay session.writes rows (.follow follower followed) = none
  removed : ∀ owner member, session.position.Removes owner member →
    ∀ list, rows (.list list) = some (.list owner) →
      overlay session.writes rows (.member list member) = none

def Consistent (state : State Key Row Position) : Prop :=
  Severed state.rows ∧ ∀ number session, state.sessions number = some session →
    Sound state.rows session

/-!
### One statement
-/

variable {position : Position} {now : Int} {writes : Rows Key Row → Writes Key Row}
  {next : Rows Key Row → Position}

private theorem deleted_some {rows : Rows Key Row} {key other : Key} {row : Option Row}
    (written : deleted rows key other = some row) : other = key ∧ row = none := by
  unfold deleted at written
  split at written
  next chosen => exact ⟨chosen.1, (Option.some.inj written).symm⟩
  next => cases written

private theorem inserted_some {rows : Rows Key Row} {key other : Key} {added : Row}
    {row : Option Row} (written : inserted rows key added other = some row) : other = key := by
  unfold inserted at written
  split at written
  next chosen => exact chosen.1
  next => cases written

private theorem updated_some {rows : Rows Key Row} {key other : Key} {added : Row}
    {row : Option Row} (written : updated rows key added other = some row) : other = key := by
  unfold updated at written
  split at written
  next chosen => exact chosen.1
  next => cases written

private theorem removed_some {rows : Rows Key Row} {owner member : AccountId} {other : Key}
    {row : Option Row}
    (written : removeLocalAccountFromOwnedLists rows owner member other = some row) :
    (∃ list, other = .member list member) ∧ row = none := by
  cases other with
  | member list account =>
      dsimp only [removeLocalAccountFromOwnedLists] at written
      split at written
      next chosen => exact ⟨⟨list, congrArg _ chosen.1⟩, (Option.some.inj written).symm⟩
      next => cases written
  | account | follow | block | list => cases written

/-- What a statement writes, and what it makes true of its call. -/
structure Moves (rows : Rows Key Row) (position : Position) (changes : Writes Key Row)
    (after : Position) : Prop where
  writes : ∀ key row, changes key = some row → position.Writes key row
  same : after.Writes = position.Writes
  proper : position.Proper → after.Proper
  /-- A follow relies on the absence of blocks once it has checked it. -/
  relies : ∀ follower followed, after.Relies follower followed →
    position.Relies follower followed ∨
      (∃ showReblogs notify, position = .follow follower followed showReblogs notify .blocked) ∧
        localAccountsAreBlocked rows follower followed = false
  /-- A block severs a follow by deleting it. -/
  severs : ∀ follower followed, after.Severs follower followed →
    position.Severs follower followed ∨ changes = deleted rows (.follow follower followed)
  /-- A block removes members from lists by deleting them. -/
  removes : ∀ owner member, after.Removes owner member →
    position.Removes owner member ∨
      changes = removeLocalAccountFromOwnedLists rows owner member

section

variable {rows : Rows Key Row} {changes : Writes Key Row}

private theorem Moves.of_follow {follower followed : AccountId} {showReblogs notify : Bool}
    {stage after : FollowStage}
    (writes : ∀ key row, changes key = some row → key = .follow follower followed)
    (proper : stage = .target → follower ≠ followed)
    (checked : after.checked → stage.checked ∨
      stage = .blocked ∧ localAccountsAreBlocked rows follower followed = false) :
    Moves rows (.follow follower followed showReblogs notify stage) changes
      (.follow follower followed showReblogs notify after) where
  writes := writes
  same := rfl
  proper before := by
    rcases before with first | different
    · exact .inr (proper first)
    · exact .inr different
  relies := by
    rintro _ _ ⟨rfl, rfl, later⟩
    rcases checked later with before | ⟨rfl, free⟩
    · exact .inl ⟨rfl, rfl, before⟩
    · exact .inr ⟨⟨showReblogs, notify, rfl⟩, free⟩
  severs _ _ severs := severs.elim
  removes _ _ removes := removes.elim

private theorem Moves.of_block {account target : AccountId} {stage after : BlockStage}
    (writes : ∀ key row, changes key = some row →
      Position.Writes (.block account target stage) key row)
    (outgoing : after.outgoingDeleted → stage.outgoingDeleted ∨
      changes = deleted rows (.follow account target))
    (incoming : after.incomingDeleted → stage.incomingDeleted ∨
      changes = deleted rows (.follow target account))
    (listed : after = .removeAccount ∨ after = .done →
      (stage = .removeAccount ∨ stage = .done) ∨
        changes = removeLocalAccountFromOwnedLists rows account target)
    (listing : after = .done → stage = .done ∨
      changes = removeLocalAccountFromOwnedLists rows target account) :
    Moves rows (.block account target stage) changes (.block account target after) where
  writes := writes
  same := by
    funext key row
    cases key <;> rfl
  proper _ := trivial
  relies _ _ relies := relies.elim
  severs := by
    rintro _ _ (⟨rfl, rfl, later⟩ | ⟨rfl, rfl, later⟩)
    · exact (outgoing later).imp_left fun before => .inl ⟨rfl, rfl, before⟩
    · exact (incoming later).imp_left fun before => .inr ⟨rfl, rfl, before⟩
  removes := by
    rintro _ _ (⟨rfl, rfl, later⟩ | ⟨rfl, rfl, later⟩)
    · exact (listed later).imp_left fun before => .inl ⟨rfl, rfl, before⟩
    · exact (listing later).imp_left fun before => .inr ⟨rfl, rfl, before⟩

private theorem Moves.of_unfollow {follower followed : AccountId} {stage after : DeleteStage}
    (writes : ∀ key row, changes key = some row →
      Position.Writes (.unfollow follower followed stage) key row) :
    Moves rows (.unfollow follower followed stage) changes (.unfollow follower followed after) where
  writes := writes
  same := by
    funext key row
    cases key <;> rfl
  proper _ := trivial
  relies _ _ relies := relies.elim
  severs _ _ severs := severs.elim
  removes _ _ removes := removes.elim

private theorem Moves.of_unblock {account target : AccountId} {stage after : DeleteStage}
    (writes : ∀ key row, changes key = some row →
      Position.Writes (.unblock account target stage) key row) :
    Moves rows (.unblock account target stage) changes (.unblock account target after) where
  writes := writes
  same := by
    funext key row
    cases key <;> rfl
  proper _ := trivial
  relies _ _ relies := relies.elim
  severs _ _ severs := severs.elim
  removes _ _ removes := removes.elim

end

private theorem follow_moves {follower followed : AccountId} {showReblogs notify : Bool}
    {stage : FollowStage} (rows : Rows Key Row)
    (instruction : followLocalAccount follower followed showReblogs notify stage =
      .statement writes next) :
    Moves rows (.follow follower followed showReblogs notify stage) (writes rows) (next rows) := by
  cases stage with
  | target =>
      dsimp only [followLocalAccount] at instruction
      split at instruction
      next => cases instruction
      next different =>
        cases instruction
        refine .of_follow nofun (fun _ => different) ?_
        intro checked
        split at checked <;> cases checked
  | blocked =>
      cases instruction
      refine .of_follow nofun nofun ?_
      intro checked
      split at checked
      next => cases checked
      next free => exact .inr ⟨rfl, Bool.eq_false_iff.mpr free⟩
  | find =>
      cases instruction
      exact .of_follow nofun nofun fun _ => .inl rfl
  | insert =>
      cases instruction
      exact .of_follow (fun _ _ => inserted_some) nofun fun _ => .inl rfl
  | update =>
      cases instruction
      exact .of_follow (fun _ _ => updated_some) nofun fun _ => .inl rfl
  | done | failed => cases instruction

private theorem unfollow_moves {follower followed : AccountId} {stage : DeleteStage}
    (rows : Rows Key Row)
    (instruction : unfollowLocalAccount follower followed stage = .statement writes next) :
    Moves rows (.unfollow follower followed stage) (writes rows) (next rows) := by
  cases stage with
  | remove =>
      cases instruction
      refine .of_unfollow ?_
      intro key row written
      obtain ⟨⟨list, rfl⟩, rfl⟩ := removed_some written
      exact rfl
  | find =>
      cases instruction
      exact .of_unfollow nofun
  | delete =>
      cases instruction
      refine .of_unfollow ?_
      intro key row written
      obtain ⟨rfl, rfl⟩ := deleted_some written
      exact rfl
  | done => cases instruction

private theorem block_moves {account target : AccountId} {stage : BlockStage}
    (rows : Rows Key Row)
    (instruction : blockLocalAccount account target stage = .statement writes next) :
    Moves rows (.block account target stage) (writes rows) (next rows) := by
  cases stage with
  | target =>
      dsimp only [blockLocalAccount] at instruction
      split at instruction <;> cases instruction
      dsimp only
      split <;> exact .of_block nofun nofun nofun nofun nofun
  | find =>
      cases instruction
      dsimp only
      split <;> exact .of_block nofun nofun nofun nofun nofun
  | insert =>
      cases instruction
      have writes : ∀ key row, inserted rows (.block account target) .block key = some row →
          Position.Writes (.block account target .insert) key row := by
        intro key row written
        rw [inserted_some written]
        exact ⟨rfl, rfl⟩
      dsimp only
      split <;> exact .of_block writes nofun nofun nofun nofun
  | deleteOutgoing =>
      cases instruction
      refine .of_block ?_ (fun _ => .inr rfl) nofun nofun nofun
      intro key row written
      obtain ⟨rfl, rfl⟩ := deleted_some written
      exact rfl
  | deleteIncoming =>
      cases instruction
      refine .of_block ?_ (fun _ => .inl rfl) (fun _ => .inr rfl) nofun nofun
      intro key row written
      obtain ⟨rfl, rfl⟩ := deleted_some written
      exact rfl
  | removeTarget =>
      cases instruction
      refine .of_block ?_ (fun _ => .inl rfl) (fun _ => .inl rfl) (fun _ => .inr rfl) nofun
      intro key row written
      obtain ⟨⟨list, rfl⟩, rfl⟩ := removed_some written
      exact rfl
  | removeAccount =>
      cases instruction
      refine .of_block ?_ (fun _ => .inl rfl) (fun _ => .inl rfl) (fun _ => .inl (.inl rfl))
        (fun _ => .inr rfl)
      intro key row written
      obtain ⟨⟨list, rfl⟩, rfl⟩ := removed_some written
      exact rfl
  | done | failed => cases instruction

private theorem unblock_moves {account target : AccountId} {stage : DeleteStage}
    (rows : Rows Key Row)
    (instruction : unblockLocalAccount account target stage = .statement writes next) :
    Moves rows (.unblock account target stage) (writes rows) (next rows) := by
  cases stage with
  | remove | find =>
      cases instruction
      exact .of_unblock nofun
  | delete =>
      cases instruction
      refine .of_unblock ?_
      intro key row written
      obtain ⟨rfl, rfl⟩ := deleted_some written
      exact rfl
  | done => cases instruction

private theorem statement_moves (rows : Rows Key Row)
    (instruction : code.instruction now position = .statement writes next) :
    Moves rows position (writes rows) (next rows) := by
  cases position with
  | follow => exact follow_moves rows instruction
  | unfollow => exact unfollow_moves rows instruction
  | block => exact block_moves rows instruction
  | unblock => exact unblock_moves rows instruction

/-!
### Open transactions
-/

variable {rows after : Rows Key Row} {session : Session Key Row Position}

private theorem Sound.begins (starts : code.starts position) : Sound rows ⟨.none, position⟩ where
  proper := by
    cases position with
    | follow => exact .inl starts
    | unfollow | block | unblock => exact trivial
  writes _ _ written := by cases written
  unblocked follower followed relies := by
    cases position with
    | follow account target showReblogs notify stage =>
        cases starts
        cases relies.2.2
    | unfollow | block | unblock => cases relies
  severed follower followed severs := by
    cases position with
    | block account target stage =>
        cases starts
        rcases severs with ⟨_, _, deleted⟩ | ⟨_, _, deleted⟩ <;> cases deleted
    | follow | unfollow | unblock => cases severs
  removed owner member removes := by
    cases position with
    | block account target stage =>
        cases starts
        rcases removes with ⟨_, _, removed | removed⟩ | ⟨_, _, removed⟩ <;> cases removed
    | follow | unfollow | unblock => cases removes

private theorem Position.Severs.follow_none {follower followed : AccountId}
    (severs : position.Severs follower followed) {first second : AccountId} {row : Option Row}
    (written : position.Writes (.follow first second) row) : row = none := by
  cases position with
  | block => exact written
  | follow | unfollow | unblock => cases severs

private theorem Position.Writes.member {list : Nat} {member : AccountId} {row : Option Row}
    (written : position.Writes (.member list member) row) : row = none := by
  cases position with
  | follow => cases written
  | unfollow | block => exact written
  | unblock => cases written

private theorem Position.Writes.list {list : Nat} {row : Option Row}
    (written : position.Writes (.list list) row) : False := by
  cases position <;> cases written

private theorem Sound.list_eq (sound : Sound rows session) (list : Nat) :
    overlay session.writes rows (.list list) = rows (.list list) := by
  cases written : session.writes (.list list) with
  | none => exact overlay_of_none written rows
  | some row => exact (Position.Writes.list (sound.writes _ _ written)).elim

private theorem missing_of_deletes {changes : Writes Key Row} {key : Key}
    (deletes : ∀ row, changes key = some row → row = none) (missing : rows key = none) :
    overlay changes rows key = none := by
  cases written : changes key with
  | none => rw [overlay_of_none written, missing]
  | some row => rw [overlay_of_some written, deletes row written]

private theorem overlay_deleted (rows : Rows Key Row) (key : Key) :
    overlay (deleted rows key) rows key = none := by
  unfold overlay deleted
  cases found : rows key with
  | none => simp
  | some row => simp

private theorem overlay_removed {owner member : AccountId} {list : Nat}
    (owned : rows (.list list) = some (.list owner)) :
    overlay (removeLocalAccountFromOwnedLists rows owner member) rows (.member list member) =
      none := by
  dsimp only [overlay, removeLocalAccountFromOwnedLists]
  cases found : rows (.member list member) with
  | none => simp
  | some row => simp [owned]

private theorem Sound.executes (sound : Sound rows session)
    (instruction : code.instruction now session.position = .statement writes next) :
    Sound rows ⟨session.writes.andThen (writes (overlay session.writes rows)),
      next (overlay session.writes rows)⟩ := by
  have moves := statement_moves (overlay session.writes rows) instruction
  refine ⟨moves.proper sound.proper, ?_, ?_, ?_, ?_⟩
  · intro key row written
    rw [moves.same]
    rcases andThen_eq_some written with written | written
    · exact moves.writes key row written
    · exact sound.writes key row written
  · intro follower followed relies
    rcases moves.relies follower followed relies with relies | ⟨⟨showReblogs, notify, at_⟩, free⟩
    · exact sound.unblocked follower followed relies
    · -- A follow has written nothing but follows, so it has seen the committed blocks.
      have plain : ∀ first second, overlay session.writes rows (.block first second) =
          rows (.block first second) := by
        intro first second
        cases written : session.writes (.block first second) with
        | none => exact overlay_of_none written rows
        | some row =>
            have own := sound.writes _ _ written
            rw [at_] at own
            cases own
      unfold localAccountsAreBlocked at free
      split at free
      next same =>
        have proper := sound.proper
        rw [at_] at proper
        exact absurd same (proper.resolve_left nofun)
      next =>
        rw [plain, plain, Bool.or_eq_false_iff] at free
        exact ⟨Option.isNone_iff_eq_none.mp (by simpa using free.1),
          Option.isNone_iff_eq_none.mp (by simpa using free.2)⟩
  · intro follower followed severs
    rw [overlay_andThen]
    rcases moves.severs follower followed severs with severs | deletes
    · refine missing_of_deletes ?_ (sound.severed follower followed severs)
      intro row written
      exact Position.Severs.follow_none severs (moves.writes _ _ written)
    · rw [deletes]
      exact overlay_deleted _ _
  · intro owner member removes list owned
    rw [overlay_andThen]
    rcases moves.removes owner member removes with removes | removing
    · refine missing_of_deletes ?_ (sound.removed owner member removes list owned)
      intro row written
      exact Position.Writes.member (moves.writes _ _ written)
    · rw [removing]
      refine overlay_removed ?_
      rw [sound.list_eq]
      exact owned

/-!
### Runs
-/

private theorem commits_follow {follower followed : AccountId} {showReblogs notify : Bool}
    {stage : FollowStage}
    (instruction : code.instruction now (.follow follower followed showReblogs notify stage) =
      .commit) : stage = .done := by
  cases stage with
  | target =>
      simp only [code, followLocalAccount] at instruction
      split at instruction <;> cases instruction
  | blocked | find | insert | update | failed => cases instruction
  | done => rfl

private theorem commits_block {account target : AccountId} {stage : BlockStage}
    (instruction : code.instruction now (.block account target stage) = .commit) :
    stage = .done := by
  cases stage with
  | target =>
      simp only [code, blockLocalAccount] at instruction
      split at instruction <;> cases instruction
  | find | insert | deleteOutgoing | deleteIncoming | removeTarget | removeAccount | failed =>
      cases instruction
  | done => rfl

private theorem Sound.commits_follow (sound : Sound rows session)
    (instruction : code.instruction now session.position = .commit) {first second : AccountId}
    (missing : rows (.follow first second) = none)
    (unfollowed : ¬session.position.Relies first second) :
    overlay session.writes rows (.follow first second) = none := by
  refine missing_of_deletes ?_ missing
  intro row written
  have own := sound.writes _ _ written
  cases position : session.position with
  | follow account target showReblogs notify stage =>
      rw [position] at own instruction unfollowed
      cases own
      exact absurd ⟨rfl, rfl, by rw [Account.commits_follow instruction]; rfl⟩ unfollowed
  | unfollow | block =>
      rw [position] at own
      exact own
  | unblock =>
      rw [position] at own
      cases own

private theorem Sound.commits_block (sound : Sound rows session)
    (instruction : code.instruction now session.position = .commit) {account target : AccountId}
    (missing : rows (.block account target) = none)
    (blocked : overlay session.writes rows (.block account target) ≠ none) :
    session.position = .block account target .done := by
  cases written : session.writes (.block account target) with
  | none =>
      rw [overlay_of_none written] at blocked
      exact absurd missing blocked
  | some row =>
      rw [overlay_of_some written] at blocked
      have own := sound.writes _ _ written
      cases position : session.position with
      | follow =>
          rw [position] at own
          cases own
      | unfollow =>
          rw [position] at own
          cases own
      | block first second stage =>
          rw [position] at own instruction
          obtain ⟨rfl, rfl⟩ := own
          rw [Account.commits_block instruction]
      | unblock =>
          rw [position] at own
          exact absurd own blocked

private theorem Sound.member_none (sound : Sound rows session) {list : Nat} {member : AccountId}
    (missing : rows (.member list member) = none) :
    overlay session.writes rows (.member list member) = none := by
  refine missing_of_deletes ?_ missing
  intro row written
  exact Position.Writes.member (sound.writes _ _ written)

private theorem Sound.severed_commit (sound : Sound rows session)
    (instruction : code.instruction now session.position = .commit) (severed : Severed rows) :
    Severed (overlay session.writes rows) := by
  intro account target blocked
  by_cases missing : rows (.block account target) = none
  · have position := sound.commits_block instruction missing blocked
    exact {
      outgoing := sound.severed _ _ (by rw [position]; exact .inl ⟨rfl, rfl, rfl⟩)
      incoming := sound.severed _ _ (by rw [position]; exact .inr ⟨rfl, rfl, rfl⟩)
      listed := by
        intro list owned
        rw [sound.list_eq] at owned
        exact sound.removed _ _ (by rw [position]; exact .inl ⟨rfl, rfl, .inr rfl⟩) list owned
      listing := by
        intro list owned
        rw [sound.list_eq] at owned
        exact sound.removed _ _ (by rw [position]; exact .inr ⟨rfl, rfl, rfl⟩) list owned }
  · have before := severed account target missing
    exact {
      outgoing := sound.commits_follow instruction before.outgoing fun relies =>
        missing (sound.unblocked _ _ relies).1
      incoming := sound.commits_follow instruction before.incoming fun relies =>
        missing (sound.unblocked _ _ relies).2
      listed := by
        intro list owned
        rw [sound.list_eq] at owned
        exact sound.member_none (before.listed list owned)
      listing := by
        intro list owned
        rw [sound.list_eq] at owned
        exact sound.member_none (before.listing list owned) }

private theorem Sound.other_commit {other : Session Key Row Position} (sound : Sound rows session)
    (instruction : code.instruction now session.position = .commit) (open_ : Sound rows other)
    (severing : ∀ follower followed, other.position.Relies follower followed →
      ¬session.position.Severs follower followed)
    (relying : ∀ follower followed, session.position.Relies follower followed →
      ¬other.position.Severs follower followed) :
    Sound (overlay session.writes rows) other where
  proper := open_.proper
  writes := open_.writes
  unblocked follower followed relies := by
    obtain ⟨outgoing, incoming⟩ := open_.unblocked follower followed relies
    constructor
    · by_contra blocked
      have position := sound.commits_block instruction outgoing blocked
      refine severing follower followed relies ?_
      rw [position]
      exact .inl ⟨rfl, rfl, rfl⟩
    · by_contra blocked
      have position := sound.commits_block instruction incoming blocked
      refine severing follower followed relies ?_
      rw [position]
      exact .inr ⟨rfl, rfl, rfl⟩
  severed follower followed severs := by
    refine overlay_eq_none ?_ (open_.severed follower followed severs)
    intro missing
    exact sound.commits_follow instruction missing fun relies =>
      relying follower followed relies severs
  removed owner member removes list owned := by
    rw [sound.list_eq] at owned
    exact overlay_eq_none sound.member_none (open_.removed owner member removes list owned)

private theorem Consistent.step {state following : State Key Row Position} {event : Event Position}
    (consistent : Consistent state) (ordered : Ordered state)
    (step : ReadCommitted.Step code state event following) : Consistent following := by
  obtain ⟨severed, sound⟩ := consistent
  cases step with
  | clock => exact ⟨severed, sound⟩
  | begins free starts =>
      refine ⟨severed, ?_⟩
      intro other session found
      rcases State.setSession_cases found with ⟨_, begun⟩ | ⟨_, found⟩
      · cases begun
        exact .begins starts
      · exact sound other session found
  | executes found instruction =>
      refine ⟨severed, ?_⟩
      intro other session foundAgain
      rcases State.setSession_cases foundAgain with ⟨_, executed⟩ | ⟨_, foundAgain⟩
      · cases executed
        exact (sound _ _ found).executes instruction
      · exact sound other session foundAgain
  | @commits number session found instruction =>
      refine ⟨(sound _ _ found).severed_commit instruction severed, ?_⟩
      intro other session' foundAgain
      rcases State.setSession_cases foundAgain with ⟨_, ended⟩ | ⟨_, foundAgain⟩
      · cases ended
      · exact (sound _ _ found).other_commit instruction (sound _ _ foundAgain)
          (fun follower followed relies =>
            ordered other number session' session foundAgain found follower followed relies)
          (fun follower followed relies =>
            ordered number other session session' found foundAgain follower followed relies)
  | aborts found =>
      refine ⟨severed, ?_⟩
      intro other session foundAgain
      rcases State.setSession_cases foundAgain with ⟨_, ended⟩ | ⟨_, foundAgain⟩
      · cases ended
      · exact sound other session foundAgain

/-!
## Remote actors
-/

open Federation Inbox

/-- A follow in either direction, accepted or not, or a list membership. -/
def Related (db : Db) (account actor : AccountId) : Prop :=
  (∃ row ∈ db.inbox.relations.follows, row.localAccountId = account ∧ row.remoteActorId = actor) ∨
    (∃ row ∈ db.inbox.relations.following,
      row.localAccountId = account ∧ row.remoteActorId = actor) ∨
    ∃ member ∈ db.members, ownedBy db account member.listId ∧ member.remoteActorId = actor

def RemoteSevered (db : Db) : Prop :=
  ∀ account actor, localRemoteAccountsAreBlocked db.inbox account actor → ¬Related db account actor

variable {db result : Db}

private theorem RemoteSevered.of_related (severed : RemoteSevered db)
    (blocked : ∀ {account actor}, localRemoteAccountsAreBlocked result.inbox account actor →
      localRemoteAccountsAreBlocked db.inbox account actor)
    (related : ∀ {account actor}, Related result account actor → Related db account actor ∨
      localRemoteAccountsAreBlocked db.inbox account actor = false) : RemoteSevered result := by
  intro account actor isBlocked isRelated
  rcases related isRelated with isRelated | free
  · exact severed account actor (blocked isBlocked) isRelated
  · rw [blocked isBlocked] at free
    cases free

private theorem RemoteSevered.of_blocked (severed : RemoteSevered db) {first second : AccountId}
    (blocked : ∀ {account actor}, localRemoteAccountsAreBlocked result.inbox account actor →
      localRemoteAccountsAreBlocked db.inbox account actor ∨ (account = first ∧ actor = second))
    (related : ∀ {account actor}, Related result account actor → Related db account actor ∧
      ¬(account = first ∧ actor = second)) : RemoteSevered result := by
  intro account actor isBlocked isRelated
  obtain ⟨isRelated, different⟩ := related isRelated
  rcases blocked isBlocked with isBlocked | same
  · exact severed account actor isBlocked isRelated
  · exact different same

private theorem blocked_iff {inbox : Inbox.Db} {account actor : AccountId} :
    localRemoteAccountsAreBlocked inbox account actor ↔ (account, actor) ∈ inbox.localBlocks ∨
      ∃ row ∈ inbox.relations.blocks, row.remoteActorId = actor ∧ row.localAccountId = account := by
  unfold localRemoteAccountsAreBlocked
  simp

private theorem mem_removed {owner actor : AccountId} {member : RemoteMember} :
    member ∈ removeRemoteAccountFromOwnedLists db owner actor ↔ member ∈ db.members ∧
      ¬(member.remoteActorId = actor ∧ ownedBy db owner member.listId) := by
  unfold removeRemoteAccountFromOwnedLists
  simp

private theorem related_of_removed {first second account actor : AccountId}
    (related : Related result account actor)
    (follows : ∀ row ∈ result.inbox.relations.follows, row ∈ db.inbox.relations.follows ∧
      ¬(row.localAccountId = first ∧ row.remoteActorId = second))
    (following : ∀ row ∈ result.inbox.relations.following, row ∈ db.inbox.relations.following ∧
      ¬(row.localAccountId = first ∧ row.remoteActorId = second))
    (members : result.members = removeRemoteAccountFromOwnedLists db first second)
    (lists : result.lists = db.lists) :
    Related db account actor ∧ ¬(account = first ∧ actor = second) := by
  rcases related with ⟨row, member, rfl, rfl⟩ | ⟨row, member, rfl, rfl⟩ |
      ⟨row, member, owned, rfl⟩
  · obtain ⟨member, different⟩ := follows row member
    exact ⟨.inl ⟨row, member, rfl, rfl⟩, different⟩
  · obtain ⟨member, different⟩ := following row member
    exact ⟨.inr (.inl ⟨row, member, rfl, rfl⟩), different⟩
  · rw [members, mem_removed] at member
    unfold ownedBy at owned
    rw [lists] at owned
    refine ⟨.inr (.inr ⟨row, member.1, owned, rfl⟩), ?_⟩
    rintro ⟨rfl, rfl⟩
    exact member.2 ⟨rfl, owned⟩

private theorem blockRemoteAccount_severed {account actor : AccountId}
    (performed : blockRemoteAccount db account actor = some result) (severed : RemoteSevered db) :
    RemoteSevered result := by
  unfold blockRemoteAccount at performed
  split at performed
  next =>
    cases performed
    refine severed.of_blocked ?_ fun related => related_of_removed related ?_ ?_ rfl rfl
    · intro other second blocked
      rw [blocked_iff] at blocked ⊢
      rcases blocked with blocked | blocked
      · dsimp only at blocked
        split at blocked
        next => exact .inl (.inl blocked)
        next =>
          rcases List.mem_append.mp blocked with blocked | blocked
          · exact .inl (.inl blocked)
          · cases List.mem_singleton.mp blocked
            exact .inr ⟨rfl, rfl⟩
      · exact .inl (.inr blocked)
    · intro row member
      simpa using member
    · intro row member
      simpa using member
  next => cases performed

private theorem processRemoteBlock_severed {actor account : AccountId} {activityId : String}
    (severed : RemoteSevered db) :
    RemoteSevered (processRemoteBlock db actor account activityId) := by
  refine severed.of_blocked ?_ fun related => related_of_removed related ?_ ?_ rfl rfl
  · intro other second blocked
    rw [blocked_iff] at blocked ⊢
    rcases blocked with blocked | ⟨row, member, same⟩
    · exact .inl (.inl blocked)
    · dsimp only [processRemoteBlock, Inbox.processRemoteBlock] at member
      split at member
      next => exact .inl (.inr ⟨row, member, same⟩)
      next =>
        rcases List.mem_append.mp member with member | member
        · exact .inl (.inr ⟨row, member, same⟩)
        · cases List.mem_singleton.mp member
          exact .inr ⟨same.2.symm, same.1.symm⟩
  · intro row member
    obtain ⟨listed, different⟩ := Table.mem_deleteWhere.mp member
    refine ⟨listed, ?_⟩
    rintro ⟨rfl, rfl⟩
    simp at different
  · intro row member
    obtain ⟨listed, different⟩ := Table.mem_deleteWhere.mp member
    refine ⟨listed, ?_⟩
    rintro ⟨rfl, rfl⟩
    simp at different

private theorem unblockRemoteAccount_severed {account actor : AccountId}
    (severed : RemoteSevered db) : RemoteSevered (unblockRemoteAccount db account actor) := by
  refine severed.of_related ?_ fun related => .inl related
  intro other second blocked
  rw [blocked_iff] at blocked ⊢
  rcases blocked with blocked | blocked
  · exact .inl (Table.mem_deleteWhere.mp blocked).1
  · exact .inr blocked

private theorem processRemoteUndoBlock_severed {actor account : AccountId} {activityId : String}
    (severed : RemoteSevered db) :
    RemoteSevered (processRemoteUndoBlock db actor account activityId) := by
  refine severed.of_related ?_ fun related => .inl related
  intro other second blocked
  rw [blocked_iff] at blocked ⊢
  rcases blocked with blocked | ⟨row, member, same⟩
  · exact .inl blocked
  · exact .inr ⟨row, (Table.mem_deleteWhere.mp member).1, same⟩

private theorem related_of_following {following : List RemoteFollowing}
    (allowed : ∀ row ∈ following,
      (∃ before ∈ db.inbox.relations.following, before.localAccountId = row.localAccountId ∧
        before.remoteActorId = row.remoteActorId) ∨
      localRemoteAccountsAreBlocked db.inbox row.localAccountId row.remoteActorId = false)
    {account actor : AccountId} (related : Related (withFollowing db following) account actor) :
    Related db account actor ∨ localRemoteAccountsAreBlocked db.inbox account actor = false := by
  rcases related with related | ⟨row, member, rfl, rfl⟩ | related
  · exact .inl (.inl related)
  · rcases allowed row member with ⟨before, member, accounts, actors⟩ | free
    · exact .inl (.inr (.inl ⟨before, member, accounts, actors⟩))
    · exact .inr free
  · exact .inl (.inr (.inr related))

private theorem exists_before {Row : Type} {rows : List Row} {selected : Row → Bool}
    {change : Row → Row} {row : Row} (member : row ∈ Table.updateWhere selected change rows) :
    ∃ before ∈ rows, row = before ∨ row = change before := by
  rcases Table.mem_updateWhere.mp member with ⟨listed, _⟩ | ⟨before, listed, _, changed⟩
  · exact ⟨row, listed, .inl rfl⟩
  · exact ⟨before, listed, .inr changed.symm⟩

private theorem insertRemoteFollowing_rows {row : RemoteFollowing}
    {following : List RemoteFollowing}
    (inserted : insertRemoteFollowing db row = some following) :
    following = db.inbox.relations.following ++ [row] := by
  dsimp only [insertRemoteFollowing] at inserted
  split at inserted
  · cases inserted
  · exact (Option.some.inj inserted).symm

private theorem createRemoteFollowing_severed {account actor : AccountId} {activityId : String}
    {showReblogs notify : Bool}
    (performed : createRemoteFollowing db account actor activityId showReblogs notify = some result)
    (severed : RemoteSevered db) : RemoteSevered result := by
  dsimp only [createRemoteFollowing] at performed
  split at performed
  next => cases performed
  next free =>
    split at performed
    next existing found =>
      split at performed
      next =>
        cases performed
        refine severed.of_related id fun related => related_of_following ?_ related
        intro row member
        obtain ⟨before, listed, rfl | rfl⟩ := exists_before member <;>
          exact .inl ⟨_, listed, rfl, rfl⟩
      next =>
        split at performed
        next => cases performed
        next =>
          cases performed
          refine severed.of_related id fun related => related_of_following ?_ related
          intro row member
          obtain ⟨before, listed, rfl | rfl⟩ := exists_before member <;>
          exact .inl ⟨_, listed, rfl, rfl⟩
    next =>
      obtain ⟨following, inserted, rfl⟩ := Option.map_eq_some_iff.mp performed
      refine severed.of_related id fun related => related_of_following ?_ related
      intro row member
      rw [insertRemoteFollowing_rows inserted] at member
      rcases List.mem_append.mp member with member | member
      · exact .inl ⟨row, member, rfl, rfl⟩
      · cases List.mem_singleton.mp member
        exact .inr (Bool.eq_false_iff.mpr free)

private theorem RemoteSevered.of_follows {relations : Relations} (severed : RemoteSevered db)
    (blocks : relations.blocks = db.inbox.relations.blocks)
    (following : relations.following = db.inbox.relations.following)
    (allowed : ∀ row ∈ relations.follows,
      (∃ before ∈ db.inbox.relations.follows, before.localAccountId = row.localAccountId ∧
        before.remoteActorId = row.remoteActorId) ∨
      localRemoteAccountsAreBlocked db.inbox row.localAccountId row.remoteActorId = false) :
    RemoteSevered { db with inbox := { db.inbox with relations := relations } } := by
  refine severed.of_related ?_ ?_
  · intro account actor blocked
    rw [blocked_iff] at blocked ⊢
    rw [← blocks]
    exact blocked
  · rintro account actor (⟨row, member, rfl, rfl⟩ | related | related)
    · rcases allowed row member with ⟨before, member, accounts, actors⟩ | free
      · exact .inl (.inl ⟨before, member, accounts, actors⟩)
      · exact .inr free
    · rw [following] at related
      exact .inl (.inr (.inl related))
    · exact .inl (.inr (.inr related))

private theorem upsertRemoteFollow_severed {actor account : AccountId} {activityId : String}
    {activity : Json} {state : RemoteFollowState}
    (performed : upsertRemoteFollow db actor account activityId activity state = some result)
    (severed : RemoteSevered db) : RemoteSevered result := by
  obtain ⟨relations, upserted, rfl⟩ := Option.map_eq_some_iff.mp performed
  dsimp only [upsertProcessedRemoteFollow] at upserted
  split at upserted
  next =>
    cases upserted
    exact severed
  next free =>
    split at upserted
    next => cases upserted
    next =>
      cases upserted
      refine severed.of_follows rfl rfl ?_
      intro row member
      dsimp only at member
      split at member
      next =>
        obtain ⟨before, listed, rfl | rfl⟩ := exists_before member <;>
          exact .inl ⟨_, listed, rfl, rfl⟩
      next =>
        rcases List.mem_append.mp member with member | member
        · exact .inl ⟨row, member, rfl, rfl⟩
        · cases List.mem_singleton.mp member
          exact .inr (Bool.eq_false_iff.mpr free)

private theorem acceptRemoteFollow_severed {account actor : AccountId} {activityId : String}
    (severed : RemoteSevered db) :
    RemoteSevered (acceptRemoteFollow db account actor activityId) := by
  refine severed.of_follows rfl rfl ?_
  intro row member
  obtain ⟨before, listed, rfl | rfl⟩ := exists_before member <;>
    exact .inl ⟨_, listed, rfl, rfl⟩

private theorem followTarget_rows {moved : RemoteFollowing} {target : AccountId}
    {followId : String} {following : List RemoteFollowing}
    (followed : followTarget db moved target followId = some following) :
    ∀ row ∈ following, row ∈ db.inbox.relations.following ∨
      (row.localAccountId = moved.localAccountId ∧ row.remoteActorId = target) := by
  intro row member
  unfold followTarget at followed
  split at followed
  · cases followed
    exact .inl member
  · rw [insertRemoteFollowing_rows followed] at member
    rcases List.mem_append.mp member with listed | added
    · exact .inl listed
    · cases List.mem_singleton.mp added
      exact .inr ⟨rfl, rfl⟩

private theorem mem_copyMemberships {owner actor target : AccountId} {member : RemoteMember}
    (copied : member ∈ copyMemberships db owner actor target) :
    member ∈ db.members ∨ (member.remoteActorId = target ∧ ownedBy db owner member.listId) := by
  rcases List.mem_append.mp copied with listed | added
  · exact .inl listed
  · obtain ⟨source, chosen, rfl⟩ := List.mem_map.mp (List.mem_filter.mp added).1
    have owned := (List.mem_filter.mp chosen).2
    rw [Bool.and_eq_true] at owned
    exact .inr ⟨rfl, owned.2⟩

private theorem ownedBy_unique {one two : AccountId} {list : Nat} (first : ownedBy db one list)
    (second : ownedBy db two list) : one = two := by
  unfold ownedBy at first second
  rw [beq_iff_eq] at first second
  rw [first] at second
  exact Option.some.inj second

private theorem migrateRemoteFollowing_severed {moved : RemoteFollowing} {target : AccountId}
    {policyAllows : Bool} {followId : String} {time : Int}
    (performed : migrateRemoteFollowingForActorMove db moved target policyAllows followId time =
      some result) (severed : RemoteSevered db) : RemoteSevered result := by
  dsimp only [migrateRemoteFollowingForActorMove] at performed
  split at performed
  next =>
    cases performed
    exact severed
  next =>
    split at performed
    next =>
      cases performed
      exact severed
    next =>
      obtain ⟨following, followed, rfl⟩ := Option.map_eq_some_iff.mp performed
      have free : (policyAllows &&
            !localRemoteAccountsAreBlocked db.inbox moved.localAccountId target) = true →
          localRemoteAccountsAreBlocked db.inbox moved.localAccountId target = false := by
        intro allowed
        simpa using (Bool.and_eq_true_iff.mp allowed).2
      have follows : ∀ row ∈ following, row ∈ db.inbox.relations.following ∨
          localRemoteAccountsAreBlocked db.inbox row.localAccountId row.remoteActorId = false := by
        intro row member
        split at followed
        next allowed =>
          rcases followTarget_rows followed row member with listed | ⟨accounts, actors⟩
          · exact .inl listed
          · rw [accounts, actors]
            exact .inr (free allowed)
        next =>
          cases followed
          exact .inl member
      refine severed.of_related id ?_
      rintro account actor (related | ⟨row, member, rfl, rfl⟩ | ⟨row, member, owned, rfl⟩)
      · exact .inl (.inl related)
      · obtain ⟨before, listed, same⟩ := exists_before member
        have pair : row.localAccountId = before.localAccountId ∧
            row.remoteActorId = before.remoteActorId := by
          rcases same with rfl | rfl <;> exact ⟨rfl, rfl⟩
        rw [pair.1, pair.2]
        rcases follows before listed with kept | added
        · exact .inl (.inr (.inl ⟨before, kept, rfl, rfl⟩))
        · exact .inr added
      · have kept := (mem_removed.mp member).1
        dsimp only at kept
        split at kept
        next allowed =>
          rcases mem_copyMemberships kept with listed | ⟨same, own⟩
          · exact .inl (.inr (.inr ⟨row, listed, owned, rfl⟩))
          · rw [same, ownedBy_unique owned own]
            exact .inr (free allowed)
        next => exact .inl (.inr (.inr ⟨row, kept, owned, rfl⟩))

private theorem perform_severed {transaction : Transaction}
    (performed : perform db transaction = some result) (severed : RemoteSevered db) :
    RemoteSevered result := by
  cases transaction with
  | blockRemoteAccount => exact blockRemoteAccount_severed performed severed
  | unblockRemoteAccount =>
      cases performed
      exact unblockRemoteAccount_severed severed
  | processRemoteBlock =>
      cases performed
      exact processRemoteBlock_severed severed
  | processRemoteUndoBlock =>
      cases performed
      exact processRemoteUndoBlock_severed severed
  | createRemoteFollowing => exact createRemoteFollowing_severed performed severed
  | upsertRemoteFollow => exact upsertRemoteFollow_severed performed severed
  | acceptRemoteFollow =>
      cases performed
      exact acceptRemoteFollow_severed severed
  | migrateRemoteFollowing => exact migrateRemoteFollowing_severed performed severed

/-!
## Both together
-/

def System.Severed (system : System) : Prop :=
  Account.Severed system.localAccounts.rows ∧ RemoteSevered system.remoteActors

/-- A step in a state in which local follows and blocks are ordered. -/
def System.OrderedStep (system next : System) : Prop :=
  Ordered system.localAccounts ∧ System.Step system next

/-- A block excludes relationships in every state of a run whose local follows and
blocks are ordered. -/
theorem blocked_unrelated {start system : System}
    (idle : ∀ number, start.localAccounts.sessions number = none) (severed : start.Severed)
    (run : Relation.ReflTransGen System.OrderedStep start system) : system.Severed := by
  suffices Consistent system.localAccounts ∧ RemoteSevered system.remoteActors from
    ⟨this.1.1, this.2⟩
  induction run with
  | refl =>
      refine ⟨⟨severed.1, ?_⟩, severed.2⟩
      intro number session found
      rw [idle number] at found
      cases found
  | tail _ step inductive_hypothesis =>
      obtain ⟨consistent, remote⟩ := inductive_hypothesis
      obtain ⟨ordered, step⟩ := step
      cases step with
      | statement step => exact ⟨consistent.step ordered step, remote⟩
      | transaction performed => exact ⟨consistent, perform_severed performed remote⟩

/-!
## Two accounts
-/

namespace Neighbours

def alice : AccountId := ⟨1⟩

def bob : AccountId := ⟨2⟩

def accounts : Rows Key Row := fun key =>
  if key = .account alice ∨ key = .account bob then some .account else none

def remote : Db where
  inbox :=
    { markers := [], localAccounts := [], localStatuses := [], remoteStatuses := []
      localBlocks := [], remoteMentions := []
      relations := ⟨[], [], [], [], [], [], []⟩ }
  remoteActors := []
  lists := []
  members := []

def start : System := ⟨⟨0, accounts, fun _ => none⟩, remote⟩

def follow : Position := .follow alice bob true false .target

/-- Bob blocks Alice. -/
def block : Position := .block bob alice .target

/-- The follow has checked for blocks when the block is placed. -/
def checked : State Key Row Position := (start.localAccounts.opened 0 follow).advanced code 0 2

def placed : State Key Row Position := (checked.opened 1 block).advanced code 1 8

def raced : State Key Row Position := placed.advanced code 0 3

/-- The follow is over when the block is placed. -/
def followed : State Key Row Position := (start.localAccounts.opened 0 follow).advanced code 0 5

def blocked : State Key Row Position := (followed.opened 1 block).advanced code 1 8

private theorem start_severed : start.Severed := by
  constructor
  · intro account target blocked
    exact absurd rfl blocked
  · intro account actor blocked
    cases blocked

private theorem ordered_of_only {state : State Key Row Position} {number : Nat}
    (only : state.Only number) : Ordered state := by
  have single : ∀ other session, state.sessions other = some session → other = number := by
    intro other session found
    by_contra different
    rw [only other different] at found
    cases found
  intro one two first second foundOne foundTwo follower followed relies severs
  rw [single one first foundOne] at foundOne
  rw [single two second foundTwo, foundOne] at foundTwo
  cases foundTwo
  cases position : first.position with
  | follow =>
      rw [position] at severs
      cases severs
  | unfollow | block | unblock =>
      rw [position] at relies
      cases relies

private theorem reaches_only {system : System} {number : Nat} {position : Position} (count : Nat)
    (idle : ∀ other, system.localAccounts.sessions other = none) (starts : code.starts position) :
    Relation.ReflTransGen System.OrderedStep system
      ⟨(system.localAccounts.opened number position).advanced code number count,
        system.remoteActors⟩ := by
  have only : (system.localAccounts.opened number position).Only number :=
    State.opened_only idle
  have before : Ordered system.localAccounts :=
    ordered_of_only (fun other _ => idle other : system.localAccounts.Only number)
  have begins : System.OrderedStep system
      ⟨system.localAccounts.opened number position, system.remoteActors⟩ :=
    ⟨before, .statement (.begins (idle number) starts)⟩
  have steps : ∀ {state next : State Key Row Position} {event : Event Position},
      state.Only number → ReadCommitted.Step code state event next →
        System.OrderedStep ⟨state, system.remoteActors⟩ ⟨next, system.remoteActors⟩ :=
    fun only step => ⟨ordered_of_only only, .statement step⟩
  have advances := reaches_iterate State.Only.alone State.Only.advance steps only count
  exact .head begins
    (Relation.ReflTransGen.lift (System.mk · system.remoteActors) (fun _ _ => id) _ _ advances)

private theorem continues_alone {state : State Key Row Position} {number : Nat} (count : Nat)
    (alone : state.Alone number) :
    Relation.ReflTransGen System.Step ⟨state, remote⟩ ⟨state.advanced code number count, remote⟩ := by
  have steps : ∀ {state next : State Key Row Position} {event : Event Position},
      state.Alone number → ReadCommitted.Step code state event next →
        System.Step ⟨state, remote⟩ ⟨next, remote⟩ := fun _ step => .statement step
  have advances := reaches_iterate id State.Alone.advance steps alone count
  exact Relation.ReflTransGen.lift (System.mk · remote) (fun _ _ => id) _ _ advances

private theorem reaches_alone {state : State Key Row Position} {number : Nat} {position : Position}
    (count : Nat) (free : state.sessions number = none) (starts : code.starts position)
    (alone : (state.opened number position).Alone number) :
    Relation.ReflTransGen System.Step ⟨state, remote⟩
      ⟨(state.opened number position).advanced code number count, remote⟩ := by
  have begins : System.Step ⟨state, remote⟩ ⟨state.opened number position, remote⟩ :=
    .statement (.begins free starts)
  exact .head begins (continues_alone count alone)

private theorem idle_of_only {state : State Key Row Position} {number : Nat}
    (only : state.Only number) (ended : state.sessions number = none) :
    ∀ other, state.sessions other = none := by
  intro other
  by_cases same : other = number
  · rw [same]
    exact ended
  · exact only other same

end Neighbours

open Neighbours in
theorem blocked_unrelated_after_follow :
    start.Severed ∧ followed.rows (.follow alice bob) ≠ none ∧
      blocked.rows (.block bob alice) ≠ none ∧ System.Severed ⟨blocked, remote⟩ := by
  have idle : ∀ other, start.localAccounts.sessions other = none := fun _ => rfl
  have follows : Relation.ReflTransGen System.OrderedStep start ⟨followed, remote⟩ :=
    reaches_only 5 idle rfl
  have ended : ∀ other, followed.sessions other = none :=
    idle_of_only ((State.opened_only idle).advanced 5) rfl
  have blocks : Relation.ReflTransGen System.OrderedStep ⟨followed, remote⟩ ⟨blocked, remote⟩ :=
    reaches_only 8 ended rfl
  exact ⟨start_severed, nofun, nofun,
    blocked_unrelated idle start_severed (follows.trans blocks)⟩

open Neighbours in
/-- A follow that checked for blocks before one was placed is committed after it. -/
theorem follow_survives_block :
    (∀ number, start.localAccounts.sessions number = none) ∧ start.Severed ∧
      Relation.ReflTransGen System.Step start ⟨raced, remote⟩ ∧
      raced.rows (.block bob alice) = some .block ∧
      raced.rows (.follow alice bob) = some (.follow true false) ∧
      ¬System.Severed ⟨raced, remote⟩ := by
  have idle : ∀ other, start.localAccounts.sessions other = none := fun _ => rfl
  have blocks : raced.rows (.block bob alice) = some .block := rfl
  have follows : raced.rows (.follow alice bob) = some (.follow true false) := rfl
  refine ⟨idle, start_severed, ?_, blocks, follows, ?_⟩
  · have first : Relation.ReflTransGen System.Step start ⟨checked, remote⟩ :=
      reaches_alone 2 rfl rfl (State.opened_only idle).alone
    have quiet : checked.Only 0 := (State.opened_only idle).advanced 2
    have second : Relation.ReflTransGen System.Step ⟨checked, remote⟩ ⟨placed, remote⟩ := by
      refine reaches_alone 8 rfl rfl ?_
      intro other session different found
      rcases State.setSession_cases found with ⟨same, _⟩ | ⟨_, found⟩
      · exact absurd same different
      · by_cases zero : other = 0
        · subst zero
          cases found
          rfl
        · rw [quiet other zero] at found
          cases found
    have third : Relation.ReflTransGen System.Step ⟨placed, remote⟩ ⟨raced, remote⟩ := by
      refine continues_alone 3 (State.Only.alone ?_)
      intro other different
      by_cases one : other = 1
      · rw [one]
        rfl
      · exact (State.advanced_sessions 8 one).trans
          ((State.setSession_of_ne one _).trans (quiet other different))
    exact (first.trans second).trans third
  · intro severed
    have unrelated := severed.1 bob alice (by rw [blocks]; nofun)
    rw [unrelated.incoming] at follows
    cases follows

end Roosty.Account
