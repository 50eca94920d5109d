import Mathlib.Algebra.Group.Nat.Defs
import Roosty.Account.Suspension

/-!
# Purges after uninterrupted suspension

An active purge job belongs to the suspension that queued it, as the end of a suspension
completes the jobs of the account. A worker that still holds such a job is not told.
-/

set_option autoImplicit false

namespace Roosty.Suspension

open Library Job

/-!
## Histories
-/

/-- The start of the current suspension of an account, after one more call. -/
def since (account : AccountId) (began : Option Int) : Call × Reply → Option Int
  | (.setAccountSuspended now _ id suspended, .account (.ok (some _))) =>
      if id = account then if suspended then began.or (some now) else none else began
  | _ => began

/-- When an account was suspended, if it has been so without interruption. -/
def suspendedSince (account : AccountId) (history : List (Call × Reply)) : Option Int :=
  history.foldl (since account) none

@[simp] theorem suspendedSince_snoc (account : AccountId) (history : List (Call × Reply))
    (entry : Call × Reply) : suspendedSince account (history ++ [entry]) =
      since account (suspendedSince account history) entry := by
  rw [suspendedSince, List.foldl_append, List.foldl_cons, List.foldl_nil, ← suspendedSince]

def Call.readings : Call → List Int
  | .setAccountSuspended now _ _ _ => [now]
  | .deleteSuspendedAccount now _ => [now]
  | .runAccountPurge now _ => [now]
  | .queue call => [call.clocks.database, call.clocks.process]

def Call.jobId? : Call → Option JobId
  | .setAccountSuspended _ jobId _ _ => some jobId
  | .queue (.enqueue jobId _ _) => some jobId
  | _ => none

def Call.job? : Call → Option ClaimedJob
  | .runAccountPurge _ job => some job
  | .queue call => call.handle?
  | _ => none

/-- Clocks do not go back, job identifiers are new, workers use the jobs they were handed, and
only suspensions queue purges. -/
structure Legal (state : State) (call : Call) : Prop where
  clock : ∀ now ∈ call.readings, state.clock ≤ now
  fresh : ∀ jobId, call.jobId? = some jobId → ∀ job ∈ state.claimed, job.id ≠ jobId
  held : ∀ job, call.job? = some job → job ∈ state.claimed
  purge : ∀ now job, call = .runAccountPurge now job → job.kind = .accountPurge
  queued : ∀ jobId clocks job, call = .queue (.enqueue jobId clocks job) →
    job.kind ≠ .accountPurge

/-- A worker purges for a job that has not been completed meanwhile. -/
def Uncancelled (state : State) (call : Call) : Prop :=
  ∀ now job, call = .runAccountPurge now job →
    ∃ row ∈ state.db.jobs, row.id = job.id ∧ row.completedAt = none

structure Begins (state : State) : Prop where
  accounts : (state.db.accounts.map LocalAccount.id).Nodup
  bounded : ∀ id ∈ state.db.accounts.map LocalAccount.id, id.value < 2 ^ 128
  unsuspended : ∀ account ∈ state.db.accounts, account.suspendedAt = none
  jobs : TableKeyed state.db.jobs
  unqueued : ∀ row ∈ state.db.jobs, row.kind = .accountPurge → row.completedAt.isSome = true
  unclaimed : state.claimed = []

def Destroys (db next : Db) (account : LocalAccount) : Prop :=
  (∃ status ∈ db.statuses, status.accountId = account.id ∧ status ∉ next.statuses) ∨
    (∃ attachment ∈ db.attachments, attachment.accountId = account.id ∧
      attachment ∉ next.attachments) ∨ account ∉ next.accounts

/-- A purge job destroys the data of an account only when it has been suspended without
interruption for thirty days. -/
def PurgedInTime (start : State) (calls : List Call) : Prop :=
  ∀ before now job after, calls = before ++ .runAccountPurge now job :: after →
    let state := moderation.run start before
    ∀ account ∈ state.db.accounts,
      Destroys state.db (moderation.step state (.runAccountPurge now job)).1.db account →
        account.suspendedAt.isSome = true ∧
          ∃ began, suspendedSince account.id (moderation.trace start before) = some began ∧
            began + thirtyDays ≤ now

/-!
## The invariant
-/

/-- An active purge job belongs to the current suspension of its account and is put off for
thirty days; a worker that holds it was handed it after that. -/
structure Timed (history : List (Call × Reply)) (state : State) : Prop where
  accounts : (state.db.accounts.map LocalAccount.id).Nodup
  bounded : ∀ id ∈ state.db.accounts.map LocalAccount.id, id.value < 2 ^ 128
  unsuspended : ∀ account ∈ state.db.accounts, account.suspendedAt = none →
    suspendedSince account.id history = none
  jobs : TableKeyed state.db.jobs
  pending : ∀ row ∈ state.db.jobs, row.kind = .accountPurge → row.completedAt = none →
    ∃ id ∈ state.db.accounts.map LocalAccount.id, row.payload = purgePayload id ∧
      row.deduplicationKey = some (purgeKey id) ∧
      ∃ began, suspendedSince id history = some began ∧ began + thirtyDays ≤ row.runAfter
  held : ∀ job ∈ state.claimed, ∀ row ∈ state.db.jobs, row.id = job.id →
    row.kind = job.kind ∧ row.payload = job.payload ∧
      (row.kind = .accountPurge → row.completedAt = none →
        ∃ id ∈ state.db.accounts.map LocalAccount.id, row.payload = purgePayload id ∧
          ∃ began, suspendedSince id history = some began ∧ began + thirtyDays ≤ state.clock)

theorem Begins.timed {state : State} (begins : Begins state) : Timed [] state where
  accounts := begins.accounts
  bounded := begins.bounded
  unsuspended := fun _ _ _ => rfl
  jobs := begins.jobs
  pending := by
    intro row member kind active
    have done := begins.unqueued row member kind
    rw [active] at done
    cases done
  held := by
    rw [begins.unclaimed]
    intro job member
    cases member

private theorem purgePayload_injective {left right : AccountId} (leftBounded : left.value < 2 ^ 128)
    (rightBounded : right.value < 2 ^ 128) (same : purgePayload left = purgePayload right) :
    left = right := by
  simp only [purgePayload, Json.object.injEq, List.cons.injEq, Prod.mk.injEq, Json.string.injEq,
    and_true, true_and] at same
  have values := Text.uuidText_injective leftBounded rightBounded same
  cases left
  cases right
  exact congrArg AccountId.mk values

/-- Changes that leave the jobs, the accounts and their suspensions. -/
structure SameAccounts (db next : Db) : Prop where
  jobs : next.jobs = db.jobs
  ids : next.accounts.map LocalAccount.id = db.accounts.map LocalAccount.id
  suspended : ∀ account ∈ next.accounts, ∃ old ∈ db.accounts, old.id = account.id ∧
    old.suspendedAt = account.suspendedAt

theorem SameAccounts.refl (db : Db) : SameAccounts db db :=
  ⟨rfl, rfl, fun account member => ⟨account, member, rfl, rfl⟩⟩

private theorem Timed.of_same {history next : List (Call × Reply)} {state after : State}
    (timed : Timed history state) (same : SameAccounts state.db after.db)
    (claimed : after.claimed = state.claimed) (clock : state.clock ≤ after.clock)
    (unchanged : ∀ id ∈ state.db.accounts.map LocalAccount.id,
      suspendedSince id next = suspendedSince id history) : Timed next after where
  accounts := same.ids ▸ timed.accounts
  bounded := same.ids ▸ timed.bounded
  unsuspended := by
    intro account member free
    obtain ⟨old, known, sameId, sameSuspension⟩ := same.suspended account member
    rw [← sameId, unchanged old.id (List.mem_map_of_mem known)]
    exact timed.unsuspended old known (sameSuspension.trans free)
  jobs := same.jobs ▸ timed.jobs
  pending := by
    rw [same.jobs, same.ids]
    intro row member kind active
    obtain ⟨id, account, own, named, began, suspended, late⟩ :=
      timed.pending row member kind active
    exact ⟨id, account, own, named, began, (unchanged id account).trans suspended, late⟩
  held := by
    rw [claimed, same.jobs, same.ids]
    intro job known row member sameId
    obtain ⟨kind, payload, elapsed⟩ := timed.held job known row member sameId
    refine ⟨kind, payload, fun purge active => ?_⟩
    obtain ⟨id, account, own, began, suspended, late⟩ := elapsed purge active
    exact ⟨id, account, own, began, (unchanged id account).trans suspended, late.trans clock⟩

/-!
## Purges
-/

section

variable (db : Db) (now : Int) (accountId : AccountId)

private theorem purge_cases : (purgeSuspendedLocalAccount db now accountId).1 = db ∨
    ∃ account ∈ db.accounts, account.id = accountId ∧ account.suspendedAt.isSome = true ∧
      (purgeSuspendedLocalAccount db now accountId).1 =
        { db with
          statuses := Table.deleteWhere (fun status => status.accountId == accountId) db.statuses
          attachments := Table.deleteWhere (fun row => row.accountId == accountId) db.attachments
          accounts := Table.updateWhere (fun other => other.id == account.id)
            (purgedAccount now) db.accounts } := by
  unfold purgeSuspendedLocalAccount
  cases found : db.accounts.find? fun account => account.id == accountId with
  | none => exact .inl rfl
  | some account =>
      dsimp only
      split
      · exact .inl rfl
      next open_ =>
        simp only [Bool.or_eq_true, not_or, Option.isNone_iff_eq_none] at open_
        exact .inr ⟨account, List.mem_of_find?_eq_some found,
          by simpa using List.find?_some found, Option.isSome_iff_ne_none.mpr open_.1, rfl⟩

private theorem purge_same : SameAccounts db (purgeSuspendedLocalAccount db now accountId).1 := by
  rcases purge_cases db now accountId with same | ⟨account, _, _, _, purged⟩
  · rw [same]
    exact .refl db
  · rw [purged]
    refine ⟨rfl, Table.map_updateWhere fun _ _ _ => rfl, ?_⟩
    intro changed member
    rcases Table.mem_updateWhere.mp member with ⟨old, _⟩ | ⟨old, known, _, rfl⟩
    · exact ⟨changed, old, rfl, rfl⟩
    · exact ⟨old, known, rfl, rfl⟩

variable {db now accountId} in
private theorem purge_destroys (unique : (db.accounts.map LocalAccount.id).Nodup)
    {account : LocalAccount} (member : account ∈ db.accounts)
    (destroys : Destroys db (purgeSuspendedLocalAccount db now accountId).1 account) :
    account.id = accountId ∧ account.suspendedAt.isSome = true := by
  rcases purge_cases db now accountId with
    same | ⟨found, known, named, suspended, purged⟩
  · rw [same] at destroys
    rcases destroys with ⟨status, stored, _, gone⟩ | ⟨attachment, stored, _, gone⟩ | gone
    · exact absurd stored gone
    · exact absurd stored gone
    · exact absurd member gone
  · have own : account.id = accountId := by
      rw [purged] at destroys
      rcases destroys with ⟨status, stored, owner, gone⟩ | ⟨attachment, stored, owner, gone⟩ | gone
      · by_contra other
        exact gone (Table.mem_deleteWhere.mpr ⟨stored, by simpa [owner] using other⟩)
      · by_contra other
        exact gone (Table.mem_deleteWhere.mpr ⟨stored, by simpa [owner] using other⟩)
      · by_contra other
        refine gone (Table.mem_updateWhere.mpr (.inl ⟨member, ?_⟩))
        simpa [named] using other
    have same : account = found := List.inj_on_of_nodup_map unique member known (own.trans named.symm)
    exact ⟨own, same ▸ suspended⟩

end

/-!
## Steps
-/

section

variable {history : List (Call × Reply)} {state : State}

private theorem Timed.commit {next : List (Call × Reply)} {Error : Type} {now : Int}
    {result : Except Error (Db × List String)} (timed : Timed history state)
    (clock : state.clock ≤ now)
    (same : ∀ purged, result = .ok purged → SameAccounts state.db purged.1)
    (unchanged : ∀ id, suspendedSince id next = suspendedSince id history) :
    Timed next (state.commit now result).1 := by
  cases answer : result with
  | error error => exact timed.of_same (.refl state.db) rfl clock fun id _ => unchanged id
  | ok purged => exact timed.of_same (same purged answer) rfl clock fun id _ => unchanged id

private theorem accountPurge_same {db : Db} {now : Int} {payload : Json}
    {purged : Db × List String} (success : accountPurge db now payload = .ok purged) :
    SameAccounts db purged.1 := by
  obtain ⟨text, _, success⟩ := bind_ok success
  obtain ⟨id, _, success⟩ := bind_ok success
  cases success
  exact purge_same db now ⟨id⟩

private theorem deleteSuspendedAccount_same {db : Db} {now : Int} {accountId : AccountId}
    {purged : Db × List String} (success : deleteSuspendedAccount db now accountId = .ok purged) :
    SameAccounts db purged.1 := by
  obtain ⟨account, _, success⟩ := bind_ok success
  obtain ⟨_, _, success⟩ := bind_ok success
  split at success
  · cases success
    exact purge_same db now accountId
  · cases success
    exact .refl db

private theorem Timed.pending_queue {call : Job.Call} (timed : Timed history state)
    (legal : Legal state (.queue call)) {row : JobRow}
    (member : row ∈ (Job.queue.step state.db.jobs call).1) (kind : row.kind = .accountPurge)
    (active : row.completedAt = none) :
    ∃ id ∈ state.db.accounts.map LocalAccount.id, row.payload = purgePayload id ∧
      row.deduplicationKey = some (purgeKey id) ∧
      ∃ began, suspendedSince id history = some began ∧ began + thirtyDays ≤ row.runAfter := by
  cases (step_transition timed.jobs call).carried member timed.jobs with
  | added enqueue same =>
      rw [same] at kind
      exact absurd kind (legal.queued _ _ _ (congrArg Call.queue enqueue))
  | @kept before known id_ sameKind payload key open_ runAfter =>
      obtain ⟨id, account, own, named, began, suspended, late⟩ :=
        timed.pending before known (sameKind ▸ kind) (open_ active)
      refine ⟨id, account, payload.trans own, key.trans named, began, suspended, ?_⟩
      rcases runAfter with same | ⟨job, handle, leased, postponed⟩
      · rw [same]
        exact late
      · -- Only the worker that holds the job puts it off, and the time has come for it.
        have sameId : before.id = job.id := by
          simp only [leasedBy, Bool.and_eq_true, beq_iff_eq] at leased
          exact leased.1
        obtain ⟨_, _, elapsed⟩ := timed.held job (legal.held job handle) before known sameId
        obtain ⟨other, otherAccount, otherOwn, start, otherSuspended, passed⟩ :=
          elapsed (sameKind ▸ kind) (open_ active)
        have same : other = id := purgePayload_injective (timed.bounded other otherAccount)
          (timed.bounded id account) (otherOwn.symm.trans own)
        subst same
        have sameStart : start = began := Option.some.inj (otherSuspended.symm.trans suspended)
        have reading : state.clock ≤ call.clocks.process :=
          legal.clock _ (List.mem_cons_of_mem _ List.mem_cons_self)
        omega

private theorem Timed.held_queue {call : Job.Call} (timed : Timed history state)
    (legal : Legal state (.queue call)) {job : ClaimedJob}
    (claimed : job ∈ (Job.queue.step state.db.jobs call).2.claimed?.toList ++ state.claimed)
    {row : JobRow} (member : row ∈ (Job.queue.step state.db.jobs call).1) (sameId : row.id = job.id) :
    row.kind = job.kind ∧ row.payload = job.payload ∧
      (row.kind = .accountPurge → row.completedAt = none →
        ∃ id ∈ state.db.accounts.map LocalAccount.id, row.payload = purgePayload id ∧
          ∃ began, suspendedSince id history = some began ∧
            began + thirtyDays ≤ max call.clocks.database call.clocks.process) := by
  have reading : state.clock ≤ call.clocks.database := legal.clock _ List.mem_cons_self
  have carried := (step_transition timed.jobs call).carried member timed.jobs
  rcases List.mem_append.mp claimed with handed | earlier
  · have granted : (Job.queue.step state.db.jobs call).2.claimed? = some job := by
      simpa using handed
    obtain ⟨due, known, dueId, dueKind, duePayload, dueActive, dueTime⟩ := claimed_due granted
    cases carried with
    | added enqueue same =>
        subst enqueue
        cases granted
    | @kept before beforeKnown id_ kind payload key open_ runAfter =>
        have same : before = due := timed.jobs.eq_of_id beforeKnown known
          ((id_.symm.trans sameId).trans dueId)
        subst same
        refine ⟨kind.trans dueKind.symm, payload.trans duePayload.symm, fun purge active => ?_⟩
        obtain ⟨id, account, own, _, began, suspended, late⟩ :=
          timed.pending before known (kind ▸ purge) dueActive
        exact ⟨id, account, payload.trans own, began, suspended,
          (late.trans dueTime).trans (le_max_left _ _)⟩
  · cases carried with
    | added enqueue same =>
        subst enqueue
        have own : row.id = _ := congrArg JobRow.id same
        exact absurd (sameId.symm.trans own) (legal.fresh _ rfl job earlier)
    | @kept before known id_ kind payload key open_ runAfter =>
        obtain ⟨jobKind, jobPayload, elapsed⟩ :=
          timed.held job earlier before known (id_.symm.trans sameId)
        refine ⟨kind.trans jobKind, payload.trans jobPayload, fun purge active => ?_⟩
        obtain ⟨id, account, own, began, suspended, passed⟩ :=
          elapsed (kind ▸ purge) (open_ active)
        exact ⟨id, account, payload.trans own, began, suspended,
          (passed.trans reading).trans (le_max_left _ _)⟩

private theorem Timed.queue {next : List (Call × Reply)} {call : Job.Call}
    (timed : Timed history state) (legal : Legal state (.queue call))
    (unchanged : ∀ id, suspendedSince id next = suspendedSince id history) :
    Timed next (moderation.step state (.queue call)).1 where
  accounts := timed.accounts
  bounded := timed.bounded
  unsuspended := by
    simp only [unchanged]
    exact timed.unsuspended
  jobs := (step_transition timed.jobs call).tableKeyed timed.jobs
  pending := by
    simp only [unchanged]
    exact fun row member => timed.pending_queue legal member
  held := by
    simp only [unchanged]
    exact fun job claimed row member => timed.held_queue legal claimed member

inductive AfterSet (jobs : List JobRow) (now : Int) (jobId : JobId) (account : LocalAccount)
    (suspended : Bool) (row : JobRow) : Prop
  | kept {before : JobRow} (member : before ∈ jobs) (id : row.id = before.id)
      (kind : row.kind = before.kind) (payload : row.payload = before.payload)
      (key : row.deduplicationKey = before.deduplicationKey)
      (runAfter : row.runAfter = before.runAfter)
      (active : row.completedAt = none → before.completedAt = none ∧
        (suspended = false → row.kind = .accountPurge → row.payload ≠ purgePayload account.id))
  | added (suspends : suspended = true) (begins : account.suspendedAt = none)
      (same : row = newJobRow jobId now (purgeJob account.id now))

private theorem cancels_purge {account : AccountId} {row : JobRow} (kind : row.kind = .accountPurge)
    (active : row.completedAt = none) (own : row.payload = purgePayload account) :
    cancels account row = true := by
  simp [cancels, kind, active, own, purgePayload, Json.get?, Json.asStr?]

private theorem purgeJobs_ok {jobs next : List JobRow} {now : Int} {jobId : JobId}
    {account : LocalAccount} {suspended : Bool} (keyed : TableKeyed jobs)
    (success : purgeJobs jobs now jobId account suspended = .ok next) :
    TableKeyed next ∧ ∀ row ∈ next, AfterSet jobs now jobId account suspended row := by
  have old (lasting : suspended = true) {row : JobRow} (member : row ∈ jobs) :
      AfterSet jobs now jobId account suspended row :=
    .kept member rfl rfl rfl rfl rfl fun active =>
      ⟨active, fun ends => absurd (ends.symm.trans lasting) Bool.false_ne_true⟩
  unfold purgeJobs at success
  split at success
  next begins =>
    simp only [Bool.and_eq_true, Option.isNone_iff_eq_none] at begins
    obtain ⟨result, enqueued, success⟩ := bind_ok success
    cases success
    refine ⟨(step_transition keyed (.enqueue jobId ⟨now, now⟩ (purgeJob account.id now))).tableKeyed
      keyed, fun row member => ?_⟩
    change row ∈ (enqueueJobOnConnection jobs jobId ⟨now, now⟩ (purgeJob account.id now)).1
      at member
    rcases enqueue_ok keyed enqueued with ⟨same, _⟩ | ⟨same, _⟩
    · rw [same] at member
      exact old begins.1 member
    · rw [same] at member
      rcases List.mem_append.mp member with earlier | new
      · exact old begins.1 earlier
      · exact .added begins.1 begins.2 (List.mem_singleton.mp new)
  next =>
    split at success
    next ends =>
      cases success
      have ends : suspended = false := by simpa using ends
      refine ⟨⟨keyed.primaryKey.updateWhere fun _ _ _ => .inl rfl,
        keyed.activeKeys.updateWhere fun _ _ _ => .inr (by simp [activeKey]), ?_⟩, ?_⟩
      · intro row member
        rcases Table.mem_updateWhere.mp member with ⟨earlier, _⟩ | ⟨before, earlier, _, rfl⟩
        · exact keyed.attempts row earlier
        · exact keyed.attempts before earlier
      · intro row member
        rcases Table.mem_updateWhere.mp member with ⟨earlier, kept⟩ | ⟨before, earlier, _, rfl⟩
        · refine .kept earlier rfl rfl rfl rfl rfl fun active => ⟨active, fun _ kind own => ?_⟩
          rw [cancels_purge kind active own] at kept
          cases kept
        · exact .kept earlier rfl rfl rfl rfl rfl fun active =>
            absurd active (Option.some_ne_none now)
    next lasts =>
      cases success
      exact ⟨keyed, fun row member => old (by simpa using lasts) member⟩

private theorem Timed.set {after : State} {entry : Call × Reply} {account : LocalAccount}
    {now : Int} {jobId : JobId} {suspended : Bool} (timed : Timed history state)
    (known : account ∈ state.db.accounts) (clock : state.clock ≤ now)
    (fresh : ∀ job ∈ state.claimed, job.id ≠ jobId)
    (effect : ∀ id, suspendedSince id (history ++ [entry]) =
      if account.id = id then
        if suspended then (suspendedSince id history).or (some now) else none
      else suspendedSince id history)
    (accounts : after.db.accounts = Table.updateWhere (fun other => other.id == account.id)
      (fun other => { other with suspendedAt := if suspended then some now else none })
      state.db.accounts)
    (success : purgeJobs state.db.jobs now jobId account suspended = .ok after.db.jobs)
    (claimed : after.claimed = state.claimed) (reading : after.clock = now) :
    Timed (history ++ [entry]) after := by
  obtain ⟨keyed, rows⟩ := purgeJobs_ok timed.jobs success
  have ids : after.db.accounts.map LocalAccount.id = state.db.accounts.map LocalAccount.id := by
    rw [accounts]
    exact Table.map_updateWhere fun _ _ _ => rfl
  -- A suspension that lasts keeps its start.
  have lasting {id : AccountId} {began : Int} (suspendedId : suspendedSince id history = some began)
      (open_ : suspended = false → id ≠ account.id) :
      suspendedSince id (history ++ [entry]) = some began := by
    rw [effect]
    split
    next own =>
      cases suspended with
      | true => simp [suspendedId]
      | false => exact absurd own.symm (open_ rfl)
    next => exact suspendedId
  refine ⟨ids ▸ timed.accounts, ids ▸ timed.bounded, ?_, keyed, ?_, ?_⟩
  · intro other member free
    rw [accounts] at member
    rw [effect]
    rcases Table.mem_updateWhere.mp member with ⟨old, different⟩ | ⟨old, oldKnown, same, rfl⟩
    · rw [if_neg fun own => by simp [own] at different]
      exact timed.unsuspended other old free
    · have same : old.id = account.id := by simpa using same
      rw [if_pos same.symm]
      cases suspended with
      | true => cases free
      | false => rfl
  · rw [ids]
    intro row member kind active
    cases rows row member with
    | @kept before earlier id_ sameKind payload key runAfter open_ =>
        obtain ⟨stillActive, others⟩ := open_ active
        obtain ⟨id, accountId, own, named, began, suspendedId, late⟩ :=
          timed.pending before earlier (sameKind ▸ kind) stillActive
        refine ⟨id, accountId, payload.trans own, key.trans named, began,
          lasting suspendedId fun ends same => others ends kind ?_, runAfter ▸ late⟩
        rw [payload, own, same]
    | added suspends begins same =>
        subst same
        refine ⟨account.id, List.mem_map_of_mem known, rfl, rfl, now, ?_, le_refl _⟩
        rw [effect, if_pos rfl, if_pos suspends, timed.unsuspended account known begins]
        rfl
  · rw [claimed, ids, reading]
    intro job handed row member sameId
    cases rows row member with
    | @kept before earlier id_ sameKind payload key runAfter open_ =>
        obtain ⟨jobKind, jobPayload, elapsed⟩ :=
          timed.held job handed before earlier (id_.symm.trans sameId)
        refine ⟨sameKind.trans jobKind, payload.trans jobPayload, fun purge active => ?_⟩
        obtain ⟨stillActive, others⟩ := open_ active
        obtain ⟨id, accountId, own, began, suspendedId, passed⟩ :=
          elapsed (sameKind ▸ purge) stillActive
        refine ⟨id, accountId, payload.trans own, began,
          lasting suspendedId fun ends same => others ends purge ?_, passed.trans clock⟩
        rw [payload, own, same]
    | added suspends begins same =>
        subst same
        exact absurd sameId.symm (fresh job handed)

private theorem Timed.setAccountSuspended {now : Int} {jobId : JobId} {accountId : AccountId}
    {suspended : Bool} (timed : Timed history state)
    (legal : Legal state (.setAccountSuspended now jobId accountId suspended)) :
    let call := Call.setAccountSuspended now jobId accountId suspended
    Timed (history ++ [(call, (moderation.step state call).2)]) (moderation.step state call).1 := by
  have clock : state.clock ≤ now := legal.clock now List.mem_cons_self
  simp only [moderation]
  cases result : setAccountSuspendedById state.db now jobId accountId suspended with
  | error error =>
      exact timed.of_same (.refl state.db) rfl clock fun id _ => suspendedSince_snoc ..
  | ok changed =>
      unfold setAccountSuspendedById at result
      dsimp only at result
      split at result
      next account found =>
        obtain ⟨jobs, queued, result⟩ := bind_ok result
        cases result
        have named : account.id = accountId := by simpa using List.find?_some found
        refine timed.set (List.mem_of_find?_eq_some found) clock (legal.fresh jobId rfl)
          (fun id => ?_) rfl queued rfl rfl
        rw [suspendedSince_snoc, named]
        rfl
      next missing =>
        -- A remote actor is not one of the local accounts.
        have other : ∀ id ∈ state.db.accounts.map LocalAccount.id, accountId ≠ id := by
          intro id member same
          obtain ⟨account, known, named⟩ := List.mem_map.mp member
          have absent := List.find?_eq_none.mp missing account known
          simp [named, same] at absent
        split at result
        next actor found =>
          cases result
          refine timed.of_same ?_ rfl clock fun id known => ?_
          · cases suspended <;> exact ⟨rfl, rfl, fun account member => ⟨account, member, rfl, rfl⟩⟩
          · rw [suspendedSince_snoc]
            exact if_neg (other id known)
        next =>
          cases result
          exact timed.of_same (.refl state.db) rfl clock fun id _ => suspendedSince_snoc ..

theorem Timed.step {call : Call} (timed : Timed history state) (legal : Legal state call) :
    Timed (history ++ [(call, (moderation.step state call).2)]) (moderation.step state call).1 := by
  cases call with
  | setAccountSuspended now jobId account suspended => exact timed.setAccountSuspended legal
  | deleteSuspendedAccount now account =>
      exact timed.commit (legal.clock now List.mem_cons_self)
        (fun _ success => deleteSuspendedAccount_same success) fun _ => suspendedSince_snoc ..
  | runAccountPurge now job =>
      exact timed.commit (legal.clock now List.mem_cons_self)
        (fun _ success => accountPurge_same success) fun _ => suspendedSince_snoc ..
  | queue call => exact timed.queue legal fun _ => suspendedSince_snoc ..

end

theorem run_timed {start : State} (begins : Begins start) {calls : List Call}
    (guarded : moderation.Guarded Legal start calls) :
    Timed (moderation.trace start calls) (moderation.run start calls) :=
  moderation.history_invariant start (moderation.Guarded Legal start)
    (fun _ _ guarded => guarded.of_append) Timed begins.timed
    (fun calls call guarded timed => timed.step (guarded calls call [] rfl)) guarded

/-- Purge jobs destroy data in time, in every run where no job that was completed meanwhile is
still purged for. -/
theorem purged_in_time {start : State} (begins : Begins start) {calls : List Call}
    (legal : moderation.Guarded Legal start calls)
    (uncancelled : moderation.Guarded Uncancelled start calls) : PurgedInTime start calls := by
  intro before now job after same state account member destroys
  subst same
  have timed := run_timed begins legal.of_append
  have allowed := legal before _ after rfl
  obtain ⟨row, known, sameId, active⟩ := uncancelled before _ after rfl now job rfl
  obtain ⟨kind, payload, elapsed⟩ := timed.held job (allowed.held job rfl) row known sameId
  obtain ⟨id, owner, own, began, suspended, passed⟩ :=
    elapsed (kind.trans (allowed.purge now job rfl)) active
  have purge : accountPurge state.db now job.payload =
      .ok (purgeSuspendedLocalAccount state.db now id) := by
    have parsed := Text.parseUuid_uuidText (timed.bounded id owner)
    simp [accountPurge, ← payload, own, purgePayload, Json.get?, Json.asStr?, parsed, pure,
      Except.pure]
  have result : (moderation.step state (.runAccountPurge now job)).1.db =
      (purgeSuspendedLocalAccount state.db now id).1 := by
    simp only [moderation, purge]
    rfl
  rw [result] at destroys
  obtain ⟨named, isSuspended⟩ := purge_destroys timed.accounts member destroys
  refine ⟨isSuspended, began, named ▸ suspended, ?_⟩
  have reading : state.clock ≤ now := allowed.clock now List.mem_cons_self
  exact passed.trans reading

namespace Sample

def account : AccountId := ⟨1⟩

def start : State where
  db := {
    accounts := [{
      id := account
      username := "alice"
      email := "alice@roosty.test"
      displayName := "Alice"
      note := ""
      profileFields := .array []
      avatarFilePath := none
      headerFilePath := none
      isAdmin := false
      limitedAt := none
      suspendedAt := none
      dataPurgedAt := none
      createdAt := 0 }]
    remoteActors := []
    statuses := [⟨⟨2⟩, account⟩]
    remoteStatuses := []
    attachments := []
    jobs := [] }
  claimed := []
  clock := 0

def claim : Call :=
  .queue (.claimDue "worker" 300000000 ⟨5⟩ ⟨thirtyDays, thirtyDays⟩ fun _ => false)

/-- The job of the first suspension, as a worker is handed it. -/
def handle : ClaimedJob := ⟨⟨3⟩, ⟨5⟩, .accountPurge, purgePayload account, 0, 0⟩

def lasting : List Call :=
  [.setAccountSuspended 0 ⟨3⟩ account true, claim, .runAccountPurge thirtyDays handle]

/-- The worker runs its job after the account has been unsuspended and suspended again. -/
def renewed : List Call :=
  [.setAccountSuspended 0 ⟨3⟩ account true, claim,
    .setAccountSuspended (thirtyDays + 1) ⟨6⟩ account false,
    .setAccountSuspended (thirtyDays + 2) ⟨7⟩ account true,
    .runAccountPurge (thirtyDays + 3) handle]

theorem begins : Begins start where
  accounts := by decide
  bounded := by decide
  unsuspended := by decide
  jobs := tableValid_nil.keyed
  unqueued := by
    intro row member
    cases member
  unclaimed := rfl

private theorem legal_set {state : State} {now : Int} {jobId : JobId} {suspended : Bool}
    (clock : state.clock ≤ now) (fresh : ∀ job ∈ state.claimed, job.id ≠ jobId) :
    Legal state (.setAccountSuspended now jobId account suspended) where
  clock := by simpa [Call.readings] using clock
  fresh := by
    intro _ same
    cases same
    exact fresh
  held := nofun
  purge := nofun
  queued := nofun

private theorem legal_claim {state : State} (clock : state.clock ≤ thirtyDays) :
    Legal state claim where
  clock := by simpa [Call.readings, claim, Job.Call.clocks] using clock
  fresh := nofun
  held := nofun
  purge := nofun
  queued := nofun

private theorem legal_purge {state : State} {now : Int} (clock : state.clock ≤ now)
    (held : handle ∈ state.claimed) : Legal state (.runAccountPurge now handle) where
  clock := by simpa [Call.readings] using clock
  fresh := nofun
  held := by
    intro _ same
    cases same
    exact held
  purge := by
    intro _ _ same
    cases same
    rfl
  queued := nofun

theorem lasting_legal : moderation.Guarded Legal start lasting :=
  Machine.guarded_cons (legal_set (by decide) (by decide)) <|
    Machine.guarded_cons (legal_claim (by decide +kernel)) <|
    Machine.guarded_cons (legal_purge (by decide +kernel) (by decide +kernel)) <| Machine.guarded_nil

theorem renewed_legal : moderation.Guarded Legal start renewed :=
  Machine.guarded_cons (legal_set (by decide) (by decide)) <|
    Machine.guarded_cons (legal_claim (by decide +kernel)) <|
    Machine.guarded_cons (legal_set (by decide +kernel) (by decide +kernel)) <|
    Machine.guarded_cons (legal_set (by decide +kernel) (by decide +kernel)) <|
    Machine.guarded_cons (legal_purge (by decide +kernel) (by decide +kernel)) <| Machine.guarded_nil

theorem lasting_uncancelled : moderation.Guarded Uncancelled start lasting := by
  refine Machine.guarded_cons nofun <| Machine.guarded_cons nofun <|
    Machine.guarded_cons ?_ Machine.guarded_nil
  intro now job same
  cases same
  decide +kernel

end Sample

open Sample in
theorem purged_in_time_lasting : PurgedInTime start lasting ∧
    (moderation.run start lasting).db.statuses = [] := by
  exact ⟨purged_in_time begins lasting_legal lasting_uncancelled, by decide +kernel⟩

open Sample in
/-- The job of an earlier suspension purges an account one tick into a new suspension. -/
theorem purged_too_soon : Begins start ∧ moderation.Guarded Legal start renewed ∧
    ¬PurgedInTime start renewed := by
  refine ⟨begins, renewed_legal, fun inTime => ?_⟩
  have stored : ∃ found ∈ (moderation.run start (renewed.take 4)).db.accounts,
      found.id = account := by decide +kernel
  obtain ⟨found, member, named⟩ := stored
  have gone : Destroys (moderation.run start (renewed.take 4)).db
      (moderation.step (moderation.run start (renewed.take 4))
        (.runAccountPurge (thirtyDays + 3) handle)).1.db found := by
    refine .inl ⟨⟨⟨2⟩, account⟩, ?_, named.symm, ?_⟩ <;> decide +kernel
  obtain ⟨_, began, suspended, elapsed⟩ :=
    inTime (renewed.take 4) (thirtyDays + 3) handle [] rfl found member gone
  have restarted : suspendedSince account (moderation.trace start (renewed.take 4)) =
      some (thirtyDays + 2) := by decide +kernel
  rw [named, restarted] at suspended
  cases suspended
  revert elapsed
  decide

end Roosty.Suspension
