import Roosty.Status.Idempotency

/-!
# One status for each idempotency key

Within an hour, requests of one account with one key commit at most one status,
as long as a request whose status is committed gets to the commit of its guard.
-/

set_option autoImplicit false

namespace Roosty.Status

open Library

def Request.uses (accountId : AccountId) (key : String) (request : Request) : Bool :=
  request.accountId == accountId && request.idempotencyKey == some key

def State.creationsFor (accountId : AccountId) (key : String) (state : State) : List Creation :=
  state.creations.filter fun creation => creation.request.uses accountId key

/-- A request with the key commits its status while its guard is open, and nothing
ends it between that commit and the commit of the guard. -/
def Kept (accountId : AccountId) (key : String) (state : State) : Action → Prop
  | .commit number => ∀ attempt ∈ state.attempts number,
      attempt.request.uses accountId key → attempt.stage = .creating → attempt.guard.isSome
  | .respond number false | .complete number false | .fail number | .disconnect number =>
      ∀ attempt ∈ state.attempts number,
        attempt.request.uses accountId key → attempt.stage.between = false
  | _ => True

/-- Every action of a run is kept in the state in which it happens. -/
def KeptRun (hashes : Hashes) (accountId : AccountId) (key : String) (state : State)
    (actions : List Action) : Prop :=
  ∀ before action after, actions = before ++ action :: after →
    Kept accountId key ((machine hashes).run state before) action

section

variable {hashes : Hashes} {state next : State} {number : Nat}

/-!
## Mutual exclusion
-/

/-- An open guard holds the lock of its request, and sees no row once it has reserved. -/
structure Guarded (hashes : Hashes) (state : State) (number : Nat) (attempt : Attempt)
    (guard : StatusCreationGuard) : Prop where
  held : state.locks (hashes.lock guard.accountId guard.keyHash) = some number
  own : ∃ key, attempt.request.idempotencyKey = some key ∧
    guard.accountId = attempt.request.accountId ∧ guard.keyHash = hashes.keyHash key
  absent : attempt.stage ≠ .locked →
    guard.deleted = true ∨ state.rows (guard.accountId, guard.keyHash) = none

def Exclusive (hashes : Hashes) (state : State) : Prop :=
  ∀ number attempt guard, state.attempts number = some attempt → attempt.guard = some guard →
    Guarded hashes state number attempt guard

theorem Exclusive.unique (exclusive : Exclusive hashes state) {first second : Nat}
    {left right : Attempt} {leftGuard rightGuard : StatusCreationGuard}
    (leftFound : state.attempts first = some left) (leftOpen : left.guard = some leftGuard)
    (rightFound : state.attempts second = some right) (rightOpen : right.guard = some rightGuard)
    (sameAccount : leftGuard.accountId = rightGuard.accountId)
    (sameHash : leftGuard.keyHash = rightGuard.keyHash) : first = second := by
  have leftHeld := (exclusive first left leftGuard leftFound leftOpen).held
  have rightHeld := (exclusive second right rightGuard rightFound rightOpen).held
  rw [sameAccount, sameHash, rightHeld] at leftHeld
  exact (Option.some.inj leftHeld).symm

theorem Request.uses_iff {accountId : AccountId} {key : String} {request : Request} :
    request.uses accountId key = true ↔
      request.accountId = accountId ∧ request.idempotencyKey = some key := by
  simp [Request.uses]

theorem Guarded.of_uses {attempt : Attempt} {guard : StatusCreationGuard} {accountId : AccountId}
    {key : String} (guarded : Guarded hashes state number attempt guard)
    (uses : attempt.request.uses accountId key = true) :
    guard.accountId = accountId ∧ guard.keyHash = hashes.keyHash key := by
  obtain ⟨other, hasKey, sameAccount, sameHash⟩ := guarded.own
  obtain ⟨isAccount, isKey⟩ := Request.uses_iff.mp uses
  rw [isKey] at hasKey
  cases hasKey
  exact ⟨sameAccount.trans isAccount, sameHash⟩

private theorem updated_cases {attempts : Nat → Option Attempt} {attempt found : Attempt}
    {other : Nat} (isFound : Function.update attempts number (some attempt) other = some found) :
    (other = number ∧ found = attempt) ∨ (other ≠ number ∧ attempts other = some found) := by
  rw [Function.update_apply] at isFound
  split at isFound
  · rename_i same
    exact Or.inl ⟨same, (Option.some.inj isFound).symm⟩
  · rename_i different
    exact Or.inr ⟨different, isFound⟩

private theorem Exclusive.set {attempt : Attempt} (exclusive : Exclusive hashes state)
    (attempts : next.attempts = Function.update state.attempts number (some attempt))
    (locks : ∀ lock other, other ≠ number → state.locks lock = some other →
      next.locks lock = some other)
    (rows : ∀ other held guard, other ≠ number → state.attempts other = some held →
      held.guard = some guard → next.rows (guard.accountId, guard.keyHash) =
        state.rows (guard.accountId, guard.keyHash))
    (guarded : ∀ guard, attempt.guard = some guard → Guarded hashes next number attempt guard) :
    Exclusive hashes next := by
  intro other held guard found isOpen
  rw [attempts] at found
  rcases updated_cases found with ⟨rfl, rfl⟩ | ⟨different, found⟩
  · exact guarded guard isOpen
  · have before := exclusive other held guard found isOpen
    refine ⟨locks _ _ different before.held, before.own, ?_⟩
    rw [rows other held guard different found isOpen]
    exact before.absent

@[simp] theorem setAttempt_now (state : State) (number : Nat) (attempt : Attempt) :
    (state.setAttempt number attempt).now = state.now := rfl

section

variable (hashes : Hashes) (state : State) (number : Nat) (attempt : Attempt) (stage : Stage)

theorem unguard_attempts : (state.unguard hashes number attempt stage).attempts =
    Function.update state.attempts number (some ⟨attempt.request, stage, none⟩) := by
  dsimp only [State.unguard, State.setAttempt]
  cases attempt.guard <;> rfl

@[simp] theorem unguard_now :
    (state.unguard hashes number attempt stage).now = state.now := by
  dsimp only [State.unguard, State.setAttempt]
  cases attempt.guard <;> rfl

theorem unguard_rows : (state.unguard hashes number attempt stage).rows = state.rows := by
  dsimp only [State.unguard, State.setAttempt]
  cases attempt.guard <;> rfl

theorem unguard_creations :
    (state.unguard hashes number attempt stage).creations = state.creations := by
  dsimp only [State.unguard, State.setAttempt]
  cases attempt.guard <;> rfl

end

private theorem Exclusive.unguard_locks {attempt : Attempt} (exclusive : Exclusive hashes state)
    (found : state.attempts number = some attempt) (stage : Stage) :
    ∀ lock other, other ≠ number → state.locks lock = some other →
      (state.unguard hashes number attempt stage).locks lock = some other := by
  intro lock other different held
  dsimp only [State.unguard, State.setAttempt]
  cases isOpen : attempt.guard with
  | none => exact held
  | some guard =>
      have mine := (exclusive number attempt guard found isOpen).held
      have elsewhere : lock ≠ hashes.lock guard.accountId guard.keyHash := by
        rintro rfl
        rw [mine] at held
        exact different (Option.some.inj held).symm
      exact (Function.update_of_ne elsewhere _ _).trans held

/-!
## What has been committed is recorded
-/

variable {start : Int} {accountId : AccountId} {key : String}

def Recorded (hashes : Hashes) (start : Int) (accountId : AccountId) (key : String)
    (state : State) : Prop :=
  ∃ row, state.rows (accountId, hashes.keyHash key) = some row ∧ start + hour ≤ row.expiresAt

structure Once (hashes : Hashes) (start : Int) (accountId : AccountId) (key : String)
    (state : State) : Prop where
  exclusive : Exclusive hashes state
  clock : start ≤ state.now
  guarded : ∀ number attempt, state.attempts number = some attempt →
    attempt.request.uses accountId key = true → attempt.stage.between = true →
    attempt.guard.isSome = true
  unmade : ∀ number attempt, state.attempts number = some attempt →
    attempt.request.uses accountId key = true → attempt.stage = .creating →
    attempt.guard.isSome = true → state.creationsFor accountId key = []
  once : (state.creationsFor accountId key).length ≤ 1
  recorded : state.creationsFor accountId key ≠ [] →
    Recorded hashes start accountId key state ∨
    ∃ number attempt, state.attempts number = some attempt ∧
      attempt.request.uses accountId key = true ∧ attempt.stage.between = true

private theorem Once.set {attempt : Attempt} (once : Once hashes start accountId key state)
    (attempts : next.attempts = Function.update state.attempts number (some attempt))
    (now : next.now = state.now) (creations : next.creations = state.creations)
    (locks : ∀ lock other, other ≠ number → state.locks lock = some other →
      next.locks lock = some other)
    (rows : ∀ other held guard, other ≠ number → state.attempts other = some held →
      held.guard = some guard → next.rows (guard.accountId, guard.keyHash) =
        state.rows (guard.accountId, guard.keyHash))
    (lasting : Recorded hashes start accountId key state →
      Recorded hashes start accountId key next)
    (guards : ∀ guard, attempt.guard = some guard → Guarded hashes next number attempt guard)
    (guarded : attempt.request.uses accountId key = true → attempt.stage.between = true →
      attempt.guard.isSome = true)
    (unmade : attempt.request.uses accountId key = true → attempt.stage = .creating →
      attempt.guard.isSome = true → state.creationsFor accountId key = [])
    (stays : ∀ before, state.attempts number = some before →
      before.request.uses accountId key = true → before.stage.between = true →
      Recorded hashes start accountId key next ∨
        attempt.request.uses accountId key = true ∧ attempt.stage.between = true) :
    Once hashes start accountId key next := by
  have sameCreations : next.creationsFor accountId key = state.creationsFor accountId key := by
    rw [State.creationsFor, creations, State.creationsFor]
  have found_cases : ∀ other found, next.attempts other = some found →
      (other = number ∧ found = attempt) ∨ (other ≠ number ∧ state.attempts other = some found) := by
    intro other found isFound
    rw [attempts] at isFound
    exact updated_cases isFound
  refine ⟨once.exclusive.set attempts locks rows guards, now ▸ once.clock, ?_, ?_, ?_, ?_⟩
  · intro other found isFound
    rcases found_cases other found isFound with ⟨_, rfl⟩ | ⟨_, earlier⟩
    · exact guarded
    · exact once.guarded other found earlier
  · intro other found isFound
    rw [sameCreations]
    rcases found_cases other found isFound with ⟨_, rfl⟩ | ⟨_, earlier⟩
    · exact unmade
    · exact once.unmade other found earlier
  · rw [sameCreations]
    exact once.once
  · rw [sameCreations]
    intro made
    rcases once.recorded made with row | ⟨other, found, earlier, uses, between⟩
    · exact Or.inl (lasting row)
    · by_cases same : other = number
      · subst same
        refine (stays found earlier uses between).imp_right fun after => ?_
        exact ⟨other, attempt, by rw [attempts, Function.update_self], after⟩
      · refine Or.inr ⟨other, found, ?_, uses, between⟩
        rw [attempts, Function.update_of_ne same]
        exact earlier

private theorem Once.advance {attempt : Attempt} {stage : Stage}
    (once : Once hashes start accountId key state)
    (found : state.attempts number = some attempt)
    (reserved : stage ≠ .locked → attempt.guard.isSome = true → attempt.stage ≠ .locked)
    (guarded : attempt.request.uses accountId key = true → stage.between = true →
      attempt.guard.isSome = true)
    (unmade : attempt.request.uses accountId key = true → stage = .creating →
      attempt.guard.isSome = true → state.creationsFor accountId key = [])
    (stays : attempt.request.uses accountId key = true → attempt.stage.between = true →
      stage.between = true) :
    Once hashes start accountId key (state.setAttempt number { attempt with stage := stage }) := by
  refine once.set rfl rfl rfl (fun _ _ _ held => held) (fun _ _ _ _ _ _ => rfl) id ?_ guarded unmade ?_
  · intro guard isOpen
    have before := once.exclusive number attempt guard found isOpen
    refine ⟨before.held, before.own, ?_⟩
    intro later
    exact before.absent (reserved later (Option.isSome_of_eq_some isOpen))
  · intro earlier isEarlier uses between
    rw [found] at isEarlier
    cases isEarlier
    exact Or.inr ⟨uses, stays uses between⟩

private theorem Once.unguard {attempt : Attempt} {stage : Stage}
    (once : Once hashes start accountId key state)
    (found : state.attempts number = some attempt)
    (apart : attempt.request.uses accountId key = true → attempt.stage.between = false)
    (after : attempt.request.uses accountId key = true → stage.between = false) :
    Once hashes start accountId key (state.unguard hashes number attempt stage) := by
  have rows := unguard_rows hashes state number attempt stage
  refine once.set (unguard_attempts ..) (unguard_now ..) (unguard_creations ..)
    (once.exclusive.unguard_locks found stage) (fun _ _ _ _ _ _ => by rw [rows]) ?_ ?_ ?_ ?_ ?_
  · intro recorded
    rw [Recorded, rows]
    exact recorded
  · intro guard isOpen
    cases isOpen
  · intro uses between
    rw [after uses] at between
    cases between
  · intro _ _ isOpen
    cases isOpen
  · intro earlier isEarlier uses between
    rw [found] at isEarlier
    cases isEarlier
    rw [apart uses] at between
    cases between

/-!
## The steps of a request
-/

private theorem Once.tick (once : Once hashes start accountId key state) (duration : Nat) :
    Once hashes start accountId key { state with now := state.now + duration } where
  exclusive number attempt guard found isOpen :=
    have before := once.exclusive number attempt guard found isOpen
    ⟨before.held, before.own, before.absent⟩
  clock := Int.le_trans once.clock (Int.le_add_of_nonneg_right (Int.natCast_nonneg duration))
  guarded := once.guarded
  unmade := once.unmade
  once := once.once
  recorded := once.recorded

private theorem Once.receive (once : Once hashes start accountId key state) (request : Request)
    (fresh : state.attempts number = none) :
    Once hashes start accountId key (state.setAttempt number ⟨request, .received, none⟩) := by
  refine once.set rfl rfl rfl (fun _ _ _ held => held) (fun _ _ _ _ _ _ => rfl) id ?_ ?_ ?_ ?_
  · intro guard isOpen
    cases isOpen
  · intro _ between
    cases between
  · intro _ creating
    cases creating
  · intro before isBefore
    rw [fresh] at isBefore
    cases isBefore

private theorem Once.lock {attempt : Attempt} (once : Once hashes start accountId key state)
    (found : state.attempts number = some attempt) (received : attempt.stage = .received)
    (result : lockStep hashes state number attempt = some next) :
    Once hashes start accountId key next := by
  have reserved : ∀ stage : Stage, stage ≠ .locked → attempt.guard.isSome = true →
      attempt.stage ≠ .locked := by
    intro _ _ _ locked
    rw [received] at locked
    cases locked
  have apart : attempt.stage.between = true → False := by
    rw [received]
    intro between
    cases between
  dsimp only [lockStep] at result
  cases hasKey : attempt.request.idempotencyKey with
  | none =>
      rw [hasKey] at result
      cases result
      have other : attempt.request.uses accountId key = true → False := by
        intro uses
        rw [(Request.uses_iff.mp uses).2] at hasKey
        cases hasKey
      exact once.advance found (reserved _) (fun uses _ => (other uses).elim)
        (fun uses _ _ => (other uses).elim) (fun uses _ => (other uses).elim)
  | some word =>
      rw [hasKey] at result
      dsimp only at result
      split at result
      · cases result
        refine once.advance found (reserved _) ?_ ?_ (fun _ between => (apart between).elim)
        · intro _ between
          cases between
        · intro _ creating
          cases creating
      · split at result
        · cases result
        · rename_i free
          cases result
          refine once.set rfl rfl rfl ?_ (fun _ _ _ _ _ _ => rfl) id ?_ ?_ ?_ ?_
          · intro lock other different held
            have elsewhere : lock ≠ hashes.lock attempt.request.accountId
                (hashes.keyHash word) := by
              rintro rfl
              rw [free] at held
              cases held
            exact (Function.update_of_ne elsewhere _ _).trans held
          · rintro guard isOpen
            cases isOpen
            exact ⟨Function.update_self _ _ _, ⟨word, hasKey, rfl, rfl⟩,
              fun later => (later rfl).elim⟩
          · intro _ between
            cases between
          · intro _ creating
            cases creating
          · intro before isBefore uses between
            rw [found] at isBefore
            cases isBefore
            exact (apart between).elim

private theorem Once.first {attempt : Attempt} {guard : StatusCreationGuard}
    (once : Once hashes start accountId key state)
    (found : state.attempts number = some attempt) (locked : attempt.stage = .locked)
    (isOpen : attempt.guard = some guard) (uses : attempt.request.uses accountId key = true)
    (unexpired : ∀ row, state.rows (guard.accountId, guard.keyHash) = some row →
      row.expiresAt < start + hour) :
    state.creationsFor accountId key = [] := by
  by_contra made
  have mine := (once.exclusive number attempt guard found isOpen).of_uses uses
  rcases once.recorded made with ⟨row, isRow, lasting⟩ | ⟨other, held, isHeld, also, between⟩
  · have expired := unexpired row (by rw [mine.1, mine.2]; exact isRow)
    omega
  · obtain ⟨second, isSecond⟩ := Option.isSome_iff_exists.mp
      (once.guarded other held isHeld also between)
    have theirs := (once.exclusive other held second isHeld isSecond).of_uses also
    have same := once.exclusive.unique isHeld isSecond found isOpen
      (theirs.1.trans mine.1.symm) (theirs.2.trans mine.2.symm)
    subst same
    rw [isHeld] at found
    cases found
    rw [locked] at between
    cases between

private theorem Once.reserve {attempt : Attempt} (once : Once hashes start accountId key state)
    (within : state.now ≤ start + hour)
    (found : state.attempts number = some attempt) (locked : attempt.stage = .locked) :
    Once hashes start accountId key (reserveStep hashes state number attempt) := by
  have apart : attempt.stage.between = false := by
    rw [locked]
    rfl
  dsimp only [reserveStep]
  cases isOpen : attempt.guard with
  | none => exact once.unguard found (fun _ => apart) (fun _ => rfl)
  | some guard =>
      have before := once.exclusive number attempt guard found isOpen
      dsimp only
      cases isRow : state.rows (guard.accountId, guard.keyHash) with
      | none =>
          refine once.set rfl rfl rfl (fun _ _ _ held => held) (fun _ _ _ _ _ _ => rfl) id ?_ ?_ ?_ ?_
          · intro other isOther
            cases isOther
            exact ⟨before.held, before.own, fun _ => Or.inr isRow⟩
          · intro _ between
            cases between
          · intro uses _ _
            refine once.first found locked isOpen uses ?_
            intro row isOther
            rw [isRow] at isOther
            cases isOther
          · intro earlier isEarlier _ between
            cases found.symm.trans isEarlier
            rw [apart] at between
            cases between
      | some row =>
          dsimp only
          split
          · rename_i expired
            refine once.set rfl rfl rfl (fun _ _ _ held => held) (fun _ _ _ _ _ _ => rfl) id ?_ ?_ ?_ ?_
            · intro other isOther
              cases isOther
              exact ⟨before.held, before.own, fun _ => Or.inl rfl⟩
            · intro _ between
              cases between
            · intro uses _ _
              refine once.first found locked isOpen uses ?_
              intro other isOther
              cases isRow.symm.trans isOther
              omega
            · intro earlier isEarlier _ between
              cases found.symm.trans isEarlier
              rw [apart] at between
              cases between
          · exact once.unguard found (fun _ => apart) (fun _ => rfl)

private theorem creationsFor_commitStep (attempt : Attempt) :
    (commitStep state number attempt).creationsFor accountId key =
      state.creationsFor accountId key ++ if attempt.request.uses accountId key = true then
        [⟨attempt.request, attempt.request.result state.nextId⟩] else [] := by
  change List.filter _ (state.creations ++ [_]) = _
  rw [List.filter_append]
  split <;> rename_i uses <;> simp [State.creationsFor, uses]

private theorem Once.commit {attempt : Attempt} (once : Once hashes start accountId key state)
    (found : state.attempts number = some attempt) (creating : attempt.stage = .creating)
    (kept : attempt.request.uses accountId key = true → attempt.guard.isSome = true) :
    Once hashes start accountId key (commitStep state number attempt) := by
  have exclusive : Exclusive hashes (commitStep state number attempt) := by
    refine once.exclusive.set rfl (fun _ _ _ held => held) (fun _ _ _ _ _ _ => rfl) ?_
    intro guard isOpen
    have before := once.exclusive number attempt guard found isOpen
    refine ⟨before.held, before.own, fun _ => before.absent ?_⟩
    rw [creating]
    intro locked
    cases locked
  have found_cases : ∀ other held, (commitStep state number attempt).attempts other = some held →
      (other = number ∧ held.request = attempt.request ∧ held.guard = attempt.guard ∧
        held.stage = .committed (attempt.request.result state.nextId)) ∨
      (other ≠ number ∧ state.attempts other = some held) := by
    intro other held isHeld
    rcases updated_cases isHeld with ⟨same, rfl⟩ | elsewhere
    · exact Or.inl ⟨same, rfl, rfl, rfl⟩
    · exact Or.inr elsewhere
  have guarded : ∀ other held, (commitStep state number attempt).attempts other = some held →
      held.request.uses accountId key = true → held.stage.between = true →
      held.guard.isSome = true := by
    intro other held isHeld uses between
    rcases found_cases other held isHeld with ⟨_, sameRequest, sameGuard, _⟩ | ⟨_, earlier⟩
    · rw [sameGuard]
      exact kept (sameRequest ▸ uses)
    · exact once.guarded other held earlier uses between
  by_cases uses : attempt.request.uses accountId key = true
  · -- The first creation for the key: no other attempt is between reservation and commit.
    have made : (commitStep state number attempt).creationsFor accountId key =
        [⟨attempt.request, attempt.request.result state.nextId⟩] := by
      have none_before := once.unmade number attempt found uses creating (kept uses)
      rw [creationsFor_commitStep, none_before, if_pos uses]
      rfl
    refine ⟨exclusive, once.clock, guarded, ?_, ?_, ?_⟩
    · intro other held isHeld also isCreating isSome
      rcases found_cases other held isHeld with ⟨_, _, _, isStage⟩ | ⟨different, earlier⟩
      · rw [isStage] at isCreating
        cases isCreating
      · obtain ⟨first, isFirst⟩ := Option.isSome_iff_exists.mp isSome
        obtain ⟨second, isSecond⟩ := Option.isSome_iff_exists.mp (kept uses)
        have theirs := (once.exclusive other held first earlier isFirst).of_uses also
        have mine := (once.exclusive number attempt second found isSecond).of_uses uses
        exact (different (once.exclusive.unique earlier isFirst found isSecond
          (theirs.1.trans mine.1.symm) (theirs.2.trans mine.2.symm))).elim
    · rw [made]
      exact le_refl 1
    · intro _
      exact Or.inr ⟨number, _, Function.update_self _ _ _, uses, rfl⟩
  · have made : (commitStep state number attempt).creationsFor accountId key =
        state.creationsFor accountId key := by
      rw [creationsFor_commitStep, if_neg uses, List.append_nil]
    refine ⟨exclusive, once.clock, guarded, ?_, ?_, ?_⟩
    · intro other held isHeld also isCreating isSome
      rw [made]
      rcases found_cases other held isHeld with ⟨_, sameRequest, _⟩ | ⟨_, earlier⟩
      · exact (uses (sameRequest ▸ also)).elim
      · exact once.unmade other held earlier also isCreating isSome
    · rw [made]
      exact once.once
    · rw [made]
      intro some_made
      rcases once.recorded some_made with row | ⟨other, held, earlier, also, between⟩
      · exact Or.inl row
      · refine Or.inr ⟨other, held, ?_, also, between⟩
        have different : other ≠ number := by
          rintro rfl
          rw [found] at earlier
          cases earlier
          exact uses also
        exact (Function.update_of_ne different _ _).trans earlier

private theorem Once.respond {attempt : Attempt} {result : ExistingStatusCreation}
    (once : Once hashes start accountId key state)
    (found : state.attempts number = some attempt) (committed : attempt.stage = .committed result)
    (succeeds : Bool) (kept : succeeds = false → attempt.request.uses accountId key = true →
      attempt.stage.between = false) :
    Once hashes start accountId key
      (respondStep hashes state number attempt result succeeds) := by
  dsimp only [respondStep]
  cases succeeds with
  | false => exact once.unguard found (kept rfl) (fun _ => rfl)
  | true =>
      have between : attempt.stage.between = true := by
        rw [committed]
        rfl
      have reserved : attempt.stage ≠ .locked := by
        rw [committed]
        intro locked
        cases locked
      cases hasKey : attempt.request.idempotencyKey with
      | none =>
          have other : attempt.request.uses accountId key = true → False := by
            intro uses
            rw [(Request.uses_iff.mp uses).2] at hasKey
            cases hasKey
          exact once.advance found (fun _ _ => reserved) (fun uses _ => (other uses).elim)
            (fun uses _ _ => (other uses).elim) (fun uses _ => (other uses).elim)
      | some word =>
          refine once.advance found (fun _ _ => reserved) ?_ ?_ (fun _ _ => rfl)
          · intro uses _
            exact once.guarded number attempt found uses between
          · intro _ creating
            cases creating

private theorem Once.record {attempt : Attempt} {guard : StatusCreationGuard}
    {row : StatusCreationIdempotency} {stage : Stage}
    (once : Once hashes start accountId key state)
    (found : state.attempts number = some attempt) (isOpen : attempt.guard = some guard)
    (lasts : start + hour ≤ row.expiresAt) (apart : stage.between = false) :
    Once hashes start accountId key
      ({ state with
          rows := Function.update state.rows (guard.accountId, guard.keyHash)
            (some row) }.unguard hashes number attempt stage) := by
  have guarded := once.exclusive number attempt guard found isOpen
  have locks := once.exclusive.unguard_locks found stage
  dsimp only [State.unguard, State.setAttempt] at locks ⊢
  rw [isOpen] at locks ⊢
  refine once.set rfl rfl rfl locks ?_ ?_ ?_ ?_ ?_ ?_
  · intro other held second different isHeld isSecond
    refine Function.update_of_ne ?_ _ _
    intro same
    cases second
    cases same
    exact different (once.exclusive.unique isHeld isSecond found isOpen rfl rfl)
  · rintro ⟨before, isBefore, lasting⟩
    by_cases same : (accountId, hashes.keyHash key) = (guard.accountId, guard.keyHash)
    · exact ⟨row, by rw [same]; exact Function.update_self _ _ _, lasts⟩
    · exact ⟨before, (Function.update_of_ne same _ _).trans isBefore, lasting⟩
  · intro second isSecond
    cases isSecond
  · intro _ between
    rw [apart] at between
    cases between
  · intro _ _ isSome
    cases isSome
  · intro before isBefore uses _
    cases found.symm.trans isBefore
    obtain ⟨sameAccount, sameHash⟩ := guarded.of_uses uses
    refine Or.inl ⟨row, ?_, lasts⟩
    rw [← sameAccount, ← sameHash]
    exact Function.update_self _ _ _

private theorem Once.complete {attempt : Attempt} {result : ExistingStatusCreation}
    (once : Once hashes start accountId key state)
    (found : state.attempts number = some attempt) (rendered : attempt.stage = .rendered result)
    (succeeds : Bool) (kept : succeeds = false → attempt.request.uses accountId key = true →
      attempt.stage.between = false) :
    Once hashes start accountId key
      (completeStep hashes state number attempt result succeeds) := by
  have between : attempt.stage.between = true := by
    rw [rendered]
    rfl
  dsimp only [completeStep]
  cases isOpen : attempt.guard with
  | none =>
      refine once.unguard found ?_ (fun _ => rfl)
      intro uses
      have isSome := once.guarded number attempt found uses between
      rw [isOpen] at isSome
      cases isSome
  | some guard =>
      dsimp only [StatusCreationGuard.complete]
      split
      · refine once.record found isOpen ?_ rfl
        exact Int.add_le_add_right once.clock hour
      · rename_i refused
        refine once.unguard found (kept ?_) (fun _ => rfl)
        -- The primary key is free, so that the insertion has failed by itself.
        have guarded := once.exclusive number attempt guard found isOpen
        have absent := guarded.absent (by rw [rendered]; intro locked; cases locked)
        cases succeeds with
        | false => rfl
        | true =>
            refine (refused ?_).elim
            rcases absent with deleted | absent
            · rw [deleted]
              rfl
            · rw [absent, Bool.true_and]
              exact Bool.or_true _

/-!
## Runs
-/

private theorem Once.step {action : Action} (once : Once hashes start accountId key state)
    (within : state.now ≤ start + hour) (kept : Kept accountId key state action)
    (result : step hashes state action = some next) : Once hashes start accountId key next := by
  cases action with
  | tick duration =>
      cases result
      exact once.tick duration
  | receive number request =>
      dsimp only [Status.step] at result
      split at result
      · rename_i fresh
        cases result
        exact once.receive request fresh
      · cases result
  | lock number =>
      obtain ⟨attempt, found, result⟩ := Option.bind_eq_some_iff.mp result
      split at result
      · rename_i received
        exact once.lock found received result
      · cases result
  | reserve number =>
      obtain ⟨attempt, found, result⟩ := Option.bind_eq_some_iff.mp result
      split at result
      · rename_i locked
        cases result
        exact once.reserve within found locked
      · cases result
  | commit number =>
      obtain ⟨attempt, found, result⟩ := Option.bind_eq_some_iff.mp result
      split at result
      · rename_i creating
        cases result
        exact once.commit found creating fun uses => kept attempt found uses creating
      · cases result
  | respond number succeeds =>
      obtain ⟨attempt, found, result⟩ := Option.bind_eq_some_iff.mp result
      split at result
      · rename_i isExisting
        cases result
        have outside : ∀ stage : Stage, stage ≠ .locked → attempt.guard.isSome = true →
            attempt.stage ≠ .locked := by
          intro _ _ _ locked
          rw [isExisting] at locked
          cases locked
        refine once.advance found (outside _) ?_ ?_ ?_
        · intro _ between
          cases between
        · intro _ creating
          cases creating
        · intro _ between
          rw [isExisting] at between
          cases between
      · rename_i committed
        cases result
        refine once.respond found committed succeeds ?_
        rintro rfl
        exact kept attempt found
      · cases result
  | complete number succeeds =>
      obtain ⟨attempt, found, result⟩ := Option.bind_eq_some_iff.mp result
      split at result
      · rename_i rendered
        cases result
        refine once.complete found rendered succeeds ?_
        rintro rfl
        exact kept attempt found
      · cases result
  | fail number =>
      obtain ⟨attempt, found, result⟩ := Option.bind_eq_some_iff.mp result
      split at result
      · cases result
      · cases result
        exact once.unguard found (kept attempt found) (fun _ => rfl)
  | disconnect number =>
      obtain ⟨attempt, found, result⟩ := Option.bind_eq_some_iff.mp result
      split at result
      · cases result
      · cases result
        exact once.unguard found (kept attempt found) (kept attempt found)

private theorem step_now {action : Action} (result : step hashes state action = some next) :
    state.now ≤ next.now := by
  cases action with
  | tick duration =>
      cases result
      exact Int.le_add_of_nonneg_right (Int.natCast_nonneg duration)
  | receive number request =>
      dsimp only [Status.step] at result
      split at result <;> cases result
      exact Int.le_refl _
  | lock number =>
      obtain ⟨attempt, found, result⟩ := Option.bind_eq_some_iff.mp result
      dsimp only [lockStep] at result
      repeat' split at result
      all_goals cases result
      all_goals exact Int.le_refl _
  | reserve number =>
      obtain ⟨attempt, found, result⟩ := Option.bind_eq_some_iff.mp result
      dsimp only [reserveStep] at result
      repeat' split at result
      all_goals cases result
      all_goals simp
  | commit number =>
      obtain ⟨attempt, found, result⟩ := Option.bind_eq_some_iff.mp result
      split at result <;> cases result
      exact Int.le_refl _
  | respond number succeeds =>
      obtain ⟨attempt, found, result⟩ := Option.bind_eq_some_iff.mp result
      dsimp only [respondStep] at result
      repeat' split at result
      all_goals cases result
      all_goals simp
  | complete number succeeds =>
      obtain ⟨attempt, found, result⟩ := Option.bind_eq_some_iff.mp result
      dsimp only [completeStep, StatusCreationGuard.complete] at result
      repeat' split at result
      all_goals cases result
      all_goals simp
  | fail number | disconnect number =>
      obtain ⟨attempt, found, result⟩ := Option.bind_eq_some_iff.mp result
      repeat' split at result
      all_goals cases result
      all_goals simp

private theorem machine_now (action : Action) :
    state.now ≤ ((machine hashes).step state action).1.now := by
  dsimp only [machine]
  split
  · rename_i next result
    exact step_now result
  · exact Int.le_refl _

private theorem initial_once (rows : AccountId × String → Option StatusCreationIdempotency) :
    Once hashes start accountId key (initial start rows) where
  exclusive number attempt guard found := by cases found
  clock := Int.le_refl _
  guarded number attempt found := by cases found
  unmade number attempt found := by cases found
  once := Nat.zero_le 1
  recorded made := (made rfl).elim

end

/-- Within an hour of the start, the requests of an account with one key commit at
most one status or scheduled status, in every run in which a request that has
committed its status completes its guard. -/
theorem created_at_most_once {hashes : Hashes} {start : Int}
    {rows : AccountId × String → Option StatusCreationIdempotency} {accountId : AccountId}
    {key : String} {actions : List Action}
    (kept : KeptRun hashes accountId key (initial start rows) actions)
    (within : ((machine hashes).run (initial start rows) actions).now ≤ start + hour) :
    (((machine hashes).run (initial start rows) actions).creationsFor accountId key).length ≤ 1 := by
  have once := (machine hashes).history_invariant (initial start rows)
    (fun actions => KeptRun hashes accountId key (initial start rows) actions ∧
      ((machine hashes).run (initial start rows) actions).now ≤ start + hour)
    ?_ (fun _ => Once hashes start accountId key) (initial_once rows) ?_ ⟨kept, within⟩
  · exact once.once
  · rintro actions action ⟨kept, within⟩
    rw [Machine.run_snoc] at within
    refine ⟨?_, Int.le_trans (machine_now action) within⟩
    intro before next after same
    exact kept before next (after ++ [action]) (by rw [same]; simp)
  · rintro actions action ⟨kept, within⟩ once
    rw [Machine.run_snoc] at within
    have early := Int.le_trans (machine_now action) within
    have allowed := kept actions action [] rfl
    dsimp only [machine] at early allowed once ⊢
    split
    · rename_i next result
      exact once.step early allowed result
    · exact once

/-!
## A request and its retry
-/

instance (accountId : AccountId) (key : String) (state : State) (action : Action) :
    Decidable (Kept accountId key state action) :=
  match action with
  | .commit number => inferInstanceAs (Decidable (∀ attempt ∈ state.attempts number, _ → _ → _))
  | .respond number false | .complete number false | .fail number | .disconnect number =>
      inferInstanceAs (Decidable (∀ attempt ∈ state.attempts number, _ → _))
  | .tick _ | .receive _ _ | .lock _ | .reserve _ | .respond _ true | .complete _ true =>
      inferInstanceAs (Decidable True)

namespace Retry

def account : AccountId := ⟨1⟩

def request : Request := ⟨account, some "hello-1", false⟩

/-- The hashes of the key `hello-1` and of the account `1`. -/
def hashes : Hashes where
  keyHash _ := "k70H8HMAt4ePkQ1kss9j1IZK6u3jQ8KSmM44r_6SC8A"
  lock _ _ := 271230956558982659

def start : State := initial 0 fun _ => none

/-- The second request waits for the first, and answers with its status. -/
def waiting : List Action :=
  [.receive 1 request, .receive 2 request, .lock 1, .lock 2, .reserve 1, .commit 1,
    .respond 1 true, .tick 1000000, .complete 1 true, .lock 2, .reserve 2, .respond 2 true]

/-- The status of the first request is committed, and its rendering fails. -/
def unrendered : List Action :=
  [.receive 1 request, .lock 1, .reserve 1, .commit 1, .respond 1 false, .tick 1000000,
    .receive 2 request, .lock 2, .reserve 2, .commit 2, .respond 2 true, .complete 2 true]

private theorem keptRun_of_get {actions : List Action}
    (checked : ∀ index : Fin actions.length,
      Kept account "hello-1" ((machine hashes).run start (actions.take index))
        (actions.get index)) : KeptRun hashes account "hello-1" start actions := by
  rintro before action after rfl
  have at_ := checked ⟨before.length, by simp⟩
  simpa using at_

end Retry

open Retry in
theorem created_at_most_once_waiting :
    (((machine hashes).run start waiting).creationsFor account "hello-1").length ≤ 1 ∧
      (((machine hashes).run start waiting).attempts 2).map Attempt.stage =
        some (.answered (.ok (.status ⟨0⟩))) := by
  have kept := keptRun_of_get (by decide : ∀ index : Fin waiting.length,
    Kept account "hello-1" ((machine hashes).run start (waiting.take index)) (waiting.get index))
  exact ⟨created_at_most_once kept (by decide), by decide⟩

open Retry in
/-- A request that fails after the commit of its status leaves its retry to create another. -/
theorem created_twice :
    ((machine hashes).run start unrendered).now ≤ start.now + hour ∧
      ¬(((machine hashes).run start unrendered).creationsFor account "hello-1").length ≤ 1 := by
  decide

end Roosty.Status
