import Roosty.Job.Queue

/-!
# Lease protocol of the job queue

What one statement can do to the table, the invariants that every run keeps,
and what a stale worker, a completed row and the cleanup can observe.
-/

set_option autoImplicit false

namespace Roosty.Job

open Library

/-!
## One statement
-/

structure RowValid (row : JobRow) : Prop where
  lockedBy : row.lockedBy.isSome = row.claimId.isSome
  lockedAt : row.lockedAt.isSome = row.claimId.isSome
  released : row.completedAt.isSome = true → row.claimId = none
  failedAt : ∀ at_, row.permanentlyFailedAt = some at_ → row.completedAt = some at_
  attempts : 0 ≤ row.attempts

/-- The invariants of the table: valid rows, the primary key and the partial
unique index on active deduplication keys. -/
structure TableValid (rows : List JobRow) : Prop where
  valid : ∀ row ∈ rows, RowValid row
  primaryKey : Table.UniqueOn (fun row : JobRow => some row.id) rows
  activeKeys : Table.UniqueOn activeKey rows

/-- What also holds of a table that other statements complete rows of. -/
structure TableKeyed (rows : List JobRow) : Prop where
  primaryKey : Table.UniqueOn (fun row : JobRow => some row.id) rows
  activeKeys : Table.UniqueOn activeKey rows
  attempts : ∀ row ∈ rows, 0 ≤ row.attempts

theorem TableValid.keyed {rows : List JobRow} (valid : TableValid rows) : TableKeyed rows :=
  ⟨valid.primaryKey, valid.activeKeys, fun row member => (valid.valid row member).attempts⟩

theorem TableKeyed.eq_of_id {rows : List JobRow} (keyed : TableKeyed rows)
    {left right : JobRow} (leftMember : left ∈ rows) (rightMember : right ∈ rows)
    (same : left.id = right.id) : left = right :=
  keyed.primaryKey.eq_of_key leftMember rightMember rfl (congrArg some same.symm)

theorem TableValid.eq_of_id {rows : List JobRow} (valid : TableValid rows)
    {left right : JobRow} (leftMember : left ∈ rows) (rightMember : right ∈ rows)
    (same : left.id = right.id) : left = right :=
  valid.keyed.eq_of_id leftMember rightMember same

def leaseRow (now : Int) (workerId : String) (claimId : JobClaimId) (row : JobRow) : JobRow :=
  { row with lockedAt := some now, lockedBy := some workerId, claimId := some claimId }

def Call.claimId? : Call → Option JobClaimId
  | .claimDue _ _ claimId _ _ => some claimId
  | .claimDueByKey _ _ _ _ claimId _ _ => some claimId
  | _ => none

def Call.handle? : Call → Option ClaimedJob
  | .completed _ job => some job
  | .failed _ job _ => some job
  | .permanentlyFailed _ job _ => some job
  | _ => none

def Reply.claimed? : Reply → Option ClaimedJob
  | .claimed (.ok result) => result
  | _ => none

/-- Whether a failure was accepted and rescheduled. -/
def Reply.rescheduled? : Reply → Bool
  | .rescheduled (.ok (some _)) => true
  | _ => false

/-- How a finishing statement changes the row that its lease owns. -/
inductive Finish : Call → Reply → (JobRow → JobRow) → Prop where
  | completed {clocks job} :
      Finish (.completed clocks job) (.finished true)
        (fun row => { release row with completedAt := some clocks.database })
  | failed {clocks job error} :
      Finish (.failed clocks job error)
        (.rescheduled (.ok (some (nextRetryAt job.attempts clocks.process))))
        (fun row => { release row with
          attempts := row.attempts + 1, lastError := some error,
          runAfter := nextRetryAt job.attempts clocks.process })
  | permanentlyFailed {clocks job error} :
      Finish (.permanentlyFailed clocks job error) (.finished true)
        (fun row => { release row with
          lastError := some error
          completedAt := some clocks.database
          permanentlyFailedAt := some clocks.database })

inductive Transition (rows : List JobRow) : Call → Reply → List JobRow → Prop where
  | idle {call reply} (unclaimed : reply.claimed? = none)
      (refused : reply.rescheduled? = false) : Transition rows call reply rows
  | insert {jobId clocks job} (absent : ∀ row ∈ rows, row.id ≠ jobId)
      (inactive : ∀ row ∈ rows, conflicting job row = false) :
      Transition rows (.enqueue jobId clocks job) (.enqueued (.ok jobId))
        (rows ++ [newJobRow jobId clocks.database job])
  | lease {call reply now workerId claimId row handle} (generated : call.claimId? = some claimId)
      (answer : reply = .claimed (.ok (some handle))) (handleId : handle.id = row.id)
      (handleClaim : handle.claimId = claimId) (member : row ∈ rows)
      (pending : row.completedAt = none) :
      Transition rows call reply
        (Table.updateWhere (fun other => other.id == row.id) (leaseRow now workerId claimId) rows)
  | finish {call reply change job row} (finishing : Finish call reply change)
      (handle : call.handle? = some job) (member : row ∈ rows) (leased : leasedBy job row = true) :
      Transition rows call reply
        (Table.updateWhere (fun other => other.id == row.id) change rows)
  | sweep {clocks successful permanent batchSize skipLocked deleted outcome}
      (old : ∀ row ∈ rows, deleted row = true →
        expired (clocks.process - successful) (clocks.process - permanent) row = true) :
      Transition rows (.cleanup clocks successful permanent batchSize skipLocked)
        (.cleaned (.ok outcome)) (Table.deleteWhere deleted rows)

private theorem reuse_unchanged {rows : List JobRow} (keyed : TableKeyed rows) {job : NewJob}
    {existing : JobRow} (found : rows.find? (conflicting job) = some existing) :
    Table.updateWhere (fun row => row.id == existing.id)
      (fun row => { row with deduplicationKey := job.deduplicationKey }) rows = rows := by
  have member := List.mem_of_find?_eq_some found
  have sameKey : existing.deduplicationKey = job.deduplicationKey := by
    have conflict := List.find?_some found
    simp only [conflicting, activeKey, Bool.and_eq_true, beq_iff_eq] at conflict
    obtain ⟨present, equal⟩ := conflict
    obtain ⟨key, jobKey⟩ := Option.isSome_iff_exists.mp present
    split at equal <;> simp_all
  apply Table.updateWhere_eq_self
  intro row rowMember selected
  have same : row = existing := keyed.eq_of_id rowMember member (by simpa using selected)
  subst same
  rw [← sameKey]

private theorem enqueue_transition {rows : List JobRow} (keyed : TableKeyed rows)
    (jobId : JobId) (clocks : Clocks) (job : NewJob) :
    Transition rows (.enqueue jobId clocks job) (queue.step rows (.enqueue jobId clocks job)).2
      (queue.step rows (.enqueue jobId clocks job)).1 := by
  simp only [queue, enqueueJobOnConnection]
  cases found : rows.find? (conflicting job) with
  | some existing =>
      simp only [reuse_unchanged keyed found]
      exact .idle rfl rfl
  | none =>
      have inactive : ∀ row ∈ rows, conflicting job row = false := by
        intro row member
        simpa using List.find?_eq_none.mp found row member
      by_cases taken : (rows.any fun row => row.id == jobId) = true
      · simp only [taken, if_true]
        exact .idle rfl rfl
      · simp only [taken]
        refine .insert ?_ inactive
        intro row member same
        exact taken (List.any_eq_true.mpr ⟨row, member, by simp [same]⟩)

private theorem lease_transition {rows : List JobRow} (keyed : TableKeyed rows) {call : Call}
    {selected : Option JobRow} (member : ∀ row, selected = some row → row ∈ rows)
    (pending : ∀ row, selected = some row → row.completedAt = none) (now : Int)
    (workerId : String) (claimId : JobClaimId) (generated : call.claimId? = some claimId) :
    Transition rows call (.claimed (leaseSelected rows selected now workerId claimId).2)
      (leaseSelected rows selected now workerId claimId).1 := by
  cases selected with
  | none => exact .idle rfl rfl
  | some row =>
      have rowMember := member row rfl
      have nonnegative : ¬ row.attempts < 0 := by
        have bound := keyed.attempts row rowMember
        omega
      simp only [leaseSelected, nonnegative, if_false]
      exact .lease generated rfl rfl rfl rowMember (pending row rfl)

private theorem claimable_pending {now expiredBefore : Int} {row : JobRow}
    (due : claimable now expiredBefore row = true) : row.completedAt = none := by
  simp only [claimable, Bool.and_eq_true, Option.isNone_iff_eq_none] at due
  exact due.1.1

private theorem finish_unique {rows : List JobRow} (keyed : TableKeyed rows) (job : ClaimedJob)
    (change : JobRow → JobRow) {row : JobRow} (member : row ∈ rows)
    (leased : leasedBy job row = true) :
    Table.updateWhere (leasedBy job) change rows =
      Table.updateWhere (fun other => other.id == row.id) change rows := by
  apply Table.updateWhere_congr
  intro other otherMember
  by_cases same : other.id = row.id
  · rw [keyed.eq_of_id otherMember member same, leased]
    simp
  · have rowId : row.id = job.id := by simp_all [leasedBy]
    have different : leasedBy job other = false := by
      simp [leasedBy, ← rowId, same]
    simp [different, same]

private theorem finish_affected {rows : List JobRow} (keyed : TableKeyed rows) (job : ClaimedJob)
    {row : JobRow} (member : row ∈ rows) (leased : leasedBy job row = true) :
    Table.affected (leasedBy job) rows = 1 := by
  apply keyed.primaryKey.affected_eq_one job.id ?_ member leased
  intro other _ otherLeased
  simp_all [leasedBy]

private theorem finish_idle {rows : List JobRow} (job : ClaimedJob) (change : JobRow → JobRow)
    (unleased : ∀ row ∈ rows, leasedBy job row = false) :
    Table.updateWhere (leasedBy job) change rows = rows ∧
      Table.affected (leasedBy job) rows = 0 := by
  refine ⟨Table.updateWhere_eq_self ?_, Table.affected_eq_zero.mpr unleased⟩
  intro row member leased
  rw [unleased row member] at leased
  cases leased

private theorem finish_cases (rows : List JobRow) (job : ClaimedJob) :
    (∃ row ∈ rows, leasedBy job row = true) ∨ ∀ row ∈ rows, leasedBy job row = false := by
  by_cases leased : ∃ row ∈ rows, leasedBy job row = true
  · exact .inl leased
  · refine .inr fun row member => ?_
    by_contra owned
    exact leased ⟨row, member, by simpa using owned⟩

theorem step_transition {rows : List JobRow} (keyed : TableKeyed rows) (call : Call) :
    Transition rows call (queue.step rows call).2 (queue.step rows call).1 := by
  cases call with
  | enqueue jobId clocks job => exact enqueue_transition keyed jobId clocks job
  | claimDue workerId claimTtl claimId clocks skipLocked =>
      simp only [queue, claimDueJob]
      apply lease_transition keyed ?_ ?_ _ _ _ rfl
      all_goals
        intro row selected
        have member := List.mem_insertionSort RunsBefore |>.mp (List.mem_of_head? selected)
        simp only [List.mem_filter, Bool.and_eq_true] at member
      · exact member.1
      · exact claimable_pending member.2.1.1
  | claimDueByKey workerId kind key claimTtl claimId clocks skipLocked =>
      simp only [queue, claimDueJobByKey]
      apply lease_transition keyed ?_ ?_ _ _ _ rfl
      all_goals
        intro row selected
        have member := List.mem_of_head? selected
        simp only [List.mem_filter, Bool.and_eq_true] at member
      · exact member.1
      · exact claimable_pending member.2.1.1.1
  | completed clocks job =>
      simp only [queue, markJobCompleted]
      rcases finish_cases rows job with ⟨row, member, leased⟩ | unleased
      · rw [finish_unique keyed job _ member leased, finish_affected keyed job member leased]
        exact .finish .completed rfl member leased
      · rw [(finish_idle job _ unleased).1, (finish_idle job id unleased).2]
        exact .idle rfl rfl
  | failed clocks job error =>
      simp only [queue, markJobFailed]
      split
      · exact .idle rfl rfl
      · rcases finish_cases rows job with ⟨row, member, leased⟩ | unleased
        · rw [finish_unique keyed job _ member leased, finish_affected keyed job member leased]
          exact .finish .failed rfl member leased
        · rw [(finish_idle job _ unleased).1, (finish_idle job id unleased).2]
          exact .idle rfl rfl
  | permanentlyFailed clocks job error =>
      simp only [queue, markJobPermanentlyFailed]
      rcases finish_cases rows job with ⟨row, member, leased⟩ | unleased
      · rw [finish_unique keyed job _ member leased, finish_affected keyed job member leased]
        exact .finish .permanentlyFailed rfl member leased
      · rw [(finish_idle job _ unleased).1, (finish_idle job id unleased).2]
        exact .idle rfl rfl
  | cleanup clocks successful permanent batchSize skipLocked =>
      simp only [queue, cleanupExpiredJobs]
      split
      · exact .idle rfl rfl
      · split
        · exact .idle rfl rfl
        · refine .sweep fun row member deleted => ?_
          obtain ⟨other, candidate, same⟩ := List.any_eq_true.mp deleted
          have sorted := List.mem_insertionSort CleanedBefore |>.mp (List.mem_of_mem_take candidate)
          simp only [List.mem_filter, Bool.and_eq_true] at sorted
          have sameId : other.id = row.id := by simpa using same
          rw [← keyed.eq_of_id sorted.1 member sameId]
          exact sorted.2.1

/-!
## Table invariants
-/

theorem tableValid_nil : TableValid [] :=
  ⟨by simp, Table.UniqueOn.nil _, Table.UniqueOn.nil _⟩

private theorem newJobRow_valid (jobId : JobId) (now : Int) (job : NewJob) :
    RowValid (newJobRow jobId now job) := by
  constructor <;> simp [newJobRow]

private theorem leaseRow_valid {row : JobRow} (valid : RowValid row)
    (pending : row.completedAt = none) (now : Int) (workerId : String) (claimId : JobClaimId) :
    RowValid (leaseRow now workerId claimId row) := by
  refine ⟨rfl, rfl, ?_, valid.failedAt, valid.attempts⟩
  simp [leaseRow, pending]

private theorem finish_valid {call : Call} {reply : Reply} {change : JobRow → JobRow}
    (finishing : Finish call reply change) {row : JobRow} (valid : RowValid row)
    (leased : row.claimId.isSome = true) : RowValid (change row) := by
  have open_ : row.completedAt = none := by
    cases done : row.completedAt with
    | none => rfl
    | some at_ =>
        have released := valid.released (by simp [done])
        simp [released] at leased
  have unfailed : row.permanentlyFailedAt = none := by
    cases failed : row.permanentlyFailedAt with
    | none => rfl
    | some at_ =>
        have completed := valid.failedAt at_ failed
        simp [open_] at completed
  have attempts := valid.attempts
  cases finishing with
  | completed => constructor <;> simp_all [release]
  | failed =>
      constructor <;> simp_all [release]
      omega
  | permanentlyFailed => constructor <;> simp_all [release]

private theorem finish_id {call : Call} {reply : Reply} {change : JobRow → JobRow}
    (finishing : Finish call reply change) (row : JobRow) : (change row).id = row.id := by
  cases finishing <;> rfl

private theorem finish_activeKey {call : Call} {reply : Reply} {change : JobRow → JobRow}
    (finishing : Finish call reply change) (row : JobRow) :
    activeKey (change row) = activeKey row ∨ activeKey (change row) = none := by
  cases finishing with
  | completed => exact .inr (by simp [activeKey])
  | failed => exact .inl rfl
  | permanentlyFailed => exact .inr (by simp [activeKey])

private theorem activeKey_newJobRow {jobId : JobId} {now : Int} {job : NewJob}
    {row : JobRow} (inactive : conflicting job row = false) {key : JobKind × String}
    (newKey : activeKey (newJobRow jobId now job) = some key) : activeKey row ≠ some key := by
  intro rowKey
  have jobKey : job.deduplicationKey.map (job.kind, ·) = some key := by
    simpa [activeKey, newJobRow] using newKey
  have present : job.deduplicationKey.isSome = true := by
    cases found : job.deduplicationKey with
    | none => simp [found] at jobKey
    | some _ => rfl
  simp [conflicting, present, rowKey, jobKey] at inactive

private theorem updateRow_valid {rows : List JobRow} (valid : TableValid rows) {row : JobRow}
    (member : row ∈ rows) {change : JobRow → JobRow}
    (keepsId : ∀ other, (change other).id = other.id)
    (keepsKey : ∀ other, activeKey (change other) = activeKey other ∨
      activeKey (change other) = none)
    (changed : RowValid (change row)) :
    TableValid (Table.updateWhere (fun other => other.id == row.id) change rows) := by
  refine ⟨?_, ?_, ?_⟩
  · intro other otherMember
    rcases Table.mem_updateWhere.mp otherMember with ⟨kept, _⟩ | ⟨before, beforeMember, chosen, rfl⟩
    · exact valid.valid other kept
    · rw [valid.eq_of_id beforeMember member (by simpa using chosen)]
      exact changed
  · exact valid.primaryKey.updateWhere fun other _ _ => .inl (by rw [keepsId other])
  · exact valid.activeKeys.updateWhere fun other _ _ => keepsKey other

theorem Transition.tableValid {rows next : List JobRow} {call : Call} {reply : Reply}
    (transition : Transition rows call reply next) (valid : TableValid rows) :
    TableValid next := by
  cases transition with
  | idle => exact valid
  | insert absent inactive =>
      refine ⟨?_, ?_, ?_⟩
      · intro row member
        rcases List.mem_append.mp member with old | new
        · exact valid.valid row old
        · rw [List.mem_singleton.mp new]
          exact newJobRow_valid _ _ _
      · refine valid.primaryKey.insert ?_
        intro id newId row member rowId
        exact absent row member (Option.some.inj (rowId.trans newId.symm))
      · exact valid.activeKeys.insert fun key newKey row member =>
          activeKey_newJobRow (inactive row member) newKey
  | lease _ _ _ _ member pending =>
      exact updateRow_valid valid member (fun _ => rfl) (fun _ => .inl rfl)
        (leaseRow_valid (valid.valid _ member) pending _ _ _)
  | finish finishing handle member leased =>
      refine updateRow_valid valid member (finish_id finishing) (finish_activeKey finishing)
        (finish_valid finishing (valid.valid _ member) ?_)
      simp only [leasedBy, Bool.and_eq_true, beq_iff_eq] at leased
      simp [leased.2]
  | sweep =>
      exact ⟨fun row member => valid.valid row (Table.mem_deleteWhere.mp member).1,
        valid.primaryKey.deleteWhere _, valid.activeKeys.deleteWhere _⟩

theorem step_tableValid (rows : List JobRow) (call : Call) (valid : TableValid rows) :
    TableValid (queue.step rows call).1 :=
  (step_transition valid.keyed call).tableValid valid

theorem Transition.tableKeyed {rows next : List JobRow} {call : Call} {reply : Reply}
    (transition : Transition rows call reply next) (keyed : TableKeyed rows) :
    TableKeyed next := by
  cases transition with
  | idle => exact keyed
  | insert absent inactive =>
      refine ⟨keyed.primaryKey.insert ?_, keyed.activeKeys.insert ?_, ?_⟩
      · intro id newId row member rowId
        exact absent row member (Option.some.inj (rowId.trans newId.symm))
      · exact fun key newKey row member => activeKey_newJobRow (inactive row member) newKey
      · intro row member
        rcases List.mem_append.mp member with old | new
        · exact keyed.attempts row old
        · rw [List.mem_singleton.mp new]
          exact le_refl 0
  | lease =>
      refine ⟨keyed.primaryKey.updateWhere fun _ _ _ => .inl rfl,
        keyed.activeKeys.updateWhere fun _ _ _ => .inl rfl, ?_⟩
      intro row member
      rcases Table.mem_updateWhere.mp member with ⟨old, _⟩ | ⟨before, old, _, rfl⟩
      · exact keyed.attempts row old
      · exact keyed.attempts before old
  | finish finishing =>
      refine ⟨keyed.primaryKey.updateWhere fun other _ _ => .inl (by rw [finish_id finishing]),
        keyed.activeKeys.updateWhere fun other _ _ => finish_activeKey finishing other, ?_⟩
      intro row member
      rcases Table.mem_updateWhere.mp member with ⟨old, _⟩ | ⟨before, old, _, rfl⟩
      · exact keyed.attempts row old
      · have bound := keyed.attempts before old
        cases finishing with
        | completed => exact bound
        | failed =>
            change 0 ≤ before.attempts + 1
            omega
        | permanentlyFailed => exact bound
  | sweep =>
      exact ⟨keyed.primaryKey.deleteWhere _, keyed.activeKeys.deleteWhere _,
        fun row member => keyed.attempts row (Table.mem_deleteWhere.mp member).1⟩

/-- The clock readings of a call. -/
def Call.clocks : Call → Clocks
  | .enqueue _ clocks _ => clocks
  | .claimDue _ _ _ clocks _ => clocks
  | .claimDueByKey _ _ _ _ _ clocks _ => clocks
  | .completed clocks _ => clocks
  | .failed clocks _ _ => clocks
  | .permanentlyFailed clocks _ _ => clocks
  | .cleanup clocks _ _ _ _ => clocks

/-- Where a row comes from: a new job, or an earlier row that is the same job, is not
reopened, and runs at the same time unless its lease has put it off. -/
inductive Carried (rows : List JobRow) (call : Call) (row : JobRow) : Prop
  | kept {before : JobRow} (member : before ∈ rows) (id : row.id = before.id)
      (kind : row.kind = before.kind) (payload : row.payload = before.payload)
      (key : row.deduplicationKey = before.deduplicationKey)
      (active : row.completedAt = none → before.completedAt = none)
      (runAfter : row.runAfter = before.runAfter ∨ ∃ job, call.handle? = some job ∧
        leasedBy job before = true ∧ call.clocks.process ≤ row.runAfter) : Carried rows call row
  | added {jobId : JobId} {clocks : Clocks} {job : NewJob} (enqueue : call = .enqueue jobId clocks job)
      (same : row = newJobRow jobId clocks.database job) : Carried rows call row

theorem Carried.old {rows : List JobRow} {call : Call} {row : JobRow} (member : row ∈ rows) :
    Carried rows call row :=
  .kept member rfl rfl rfl rfl id (.inl rfl)

theorem Transition.carried {rows next : List JobRow} {call : Call} {reply : Reply}
    (transition : Transition rows call reply next) {row : JobRow} (member : row ∈ next)
    (keyed : TableKeyed rows) : Carried rows call row := by
  cases transition with
  | idle => exact .old member
  | insert =>
      rcases List.mem_append.mp member with old | new
      · exact .old old
      · exact .added rfl (List.mem_singleton.mp new)
  | lease =>
      rcases Table.mem_updateWhere.mp member with ⟨old, _⟩ | ⟨before, old, _, rfl⟩
      · exact .old old
      · exact .kept old rfl rfl rfl rfl id (.inl rfl)
  | @finish _ _ change job owned finishing handle ownedMember leased =>
      rcases Table.mem_updateWhere.mp member with ⟨old, _⟩ | ⟨before, old, chosen, rfl⟩
      · exact .old old
      · have same : before = owned := keyed.eq_of_id old ownedMember (by simpa using chosen)
        subst same
        cases finishing with
        | completed => exact .kept old rfl rfl rfl rfl (fun open_ => nomatch open_) (.inl rfl)
        | failed =>
            refine .kept old rfl rfl rfl rfl id (.inr ⟨job, handle, leased, ?_⟩)
            cases handle
            exact Int.le_add_of_nonneg_right (Int.mul_nonneg (Int.natCast_nonneg _) (by decide))
        | permanentlyFailed =>
            exact .kept old rfl rfl rfl rfl (fun open_ => nomatch open_) (.inl rfl)
  | sweep => exact .old (Table.mem_deleteWhere.mp member).1

/-- The handle with which a call completes a job, successfully or not. -/
def Call.completes? : Call → Option ClaimedJob
  | .completed _ job => some job
  | .permanentlyFailed _ job _ => some job
  | _ => none

theorem Transition.persists {rows next : List JobRow} {call : Call} {reply : Reply}
    (transition : Transition rows call reply next) (valid : TableValid rows) {row : JobRow}
    (member : row ∈ rows) (active : row.completedAt = none) :
    (∃ job, call.completes? = some job ∧ leasedBy job row = true) ∨
      ∃ after ∈ next, after.id = row.id ∧ after.kind = row.kind ∧ after.payload = row.payload ∧
        after.completedAt = none := by
  cases transition with
  | idle => exact .inr ⟨row, member, rfl, rfl, rfl, active⟩
  | insert => exact .inr ⟨row, List.mem_append_left _ member, rfl, rfl, rfl, active⟩
  | @lease _ _ _ _ _ leased =>
      by_cases same : row.id = leased.id
      · exact .inr ⟨_, Table.mem_updateWhere.mpr (.inr ⟨row, member, by simp [same], rfl⟩),
          rfl, rfl, rfl, active⟩
      · exact .inr ⟨row, Table.mem_updateWhere.mpr (.inl ⟨member, by simp [same]⟩),
          rfl, rfl, rfl, active⟩
  | @finish _ _ _ job owned finishing handle ownedMember leased =>
      by_cases same : row.id = owned.id
      · have equal : row = owned := valid.eq_of_id member ownedMember same
        subst equal
        cases finishing with
        | completed => exact .inl ⟨job, handle, leased⟩
        | permanentlyFailed => exact .inl ⟨job, handle, leased⟩
        | failed =>
            exact .inr ⟨_, Table.mem_updateWhere.mpr (.inr ⟨row, member, by simp, rfl⟩),
              rfl, rfl, rfl, active⟩
      · exact .inr ⟨row, Table.mem_updateWhere.mpr (.inl ⟨member, by simp [same]⟩),
          rfl, rfl, rfl, active⟩
  | @sweep _ _ _ _ _ deleted _ old =>
      have kept : deleted row = false := by
        by_contra gone
        have unfailed : row.permanentlyFailedAt = none := by
          cases failed : row.permanentlyFailedAt with
          | none => rfl
          | some at_ =>
              have completed := (valid.valid row member).failedAt at_ failed
              rw [active] at completed
              cases completed
        have expires := old row member (by simpa using gone)
        simp [expired, active, unfailed] at expires
      exact .inr ⟨row, Table.mem_deleteWhere.mpr ⟨member, kept⟩, rfl, rfl, rfl, active⟩

theorem claimed_due {rows : List JobRow} {call : Call} {handle : ClaimedJob}
    (claimed : (queue.step rows call).2.claimed? = some handle) :
    ∃ row ∈ rows, handle.id = row.id ∧ handle.kind = row.kind ∧ handle.payload = row.payload ∧
      row.completedAt = none ∧ row.runAfter ≤ call.clocks.database := by
  have leased {selected : Option JobRow} {now : Int} {workerId : String} {claimId : JobClaimId}
      (granted : (Reply.claimed (leaseSelected rows selected now workerId claimId).2).claimed? =
        some handle) : ∃ row, selected = some row ∧ handle.id = row.id ∧ handle.kind = row.kind ∧
          handle.payload = row.payload := by
    cases selected with
    | none => cases granted
    | some row =>
        simp only [leaseSelected] at granted
        split at granted
        · cases granted
        · cases granted
          exact ⟨row, rfl, rfl, rfl, rfl⟩
  have due {now expiredBefore : Int} {row : JobRow} (free : claimable now expiredBefore row = true) :
      row.completedAt = none ∧ row.runAfter ≤ now := by
    simp only [claimable, Bool.and_eq_true, Option.isNone_iff_eq_none, decide_eq_true_eq] at free
    exact free.1
  cases call with
  | claimDue workerId claimTtl claimId clocks skipLocked =>
      obtain ⟨row, selected, same⟩ := leased claimed
      have member := (List.mem_insertionSort RunsBefore).mp (List.mem_of_head? selected)
      simp only [List.mem_filter, Bool.and_eq_true] at member
      exact ⟨row, member.1, same.1, same.2.1, same.2.2, due member.2.1.1⟩
  | claimDueByKey workerId kind key claimTtl claimId clocks skipLocked =>
      obtain ⟨row, selected, same⟩ := leased claimed
      have member := List.mem_of_head? selected
      simp only [List.mem_filter, Bool.and_eq_true] at member
      exact ⟨row, member.1, same.1, same.2.1, same.2.2, due member.2.1.1.1⟩
  | enqueue | completed | failed | permanentlyFailed | cleanup => cases claimed

theorem enqueue_ok {rows : List JobRow} (keyed : TableKeyed rows) {jobId result : JobId}
    {clocks : Clocks} {job : NewJob}
    (success : (enqueueJobOnConnection rows jobId clocks job).2 = .ok result) :
    ((enqueueJobOnConnection rows jobId clocks job).1 = rows ∧
        ∃ row ∈ rows, conflicting job row = true) ∨
      ((enqueueJobOnConnection rows jobId clocks job).1 =
          rows ++ [newJobRow jobId clocks.database job] ∧
        ∀ row ∈ rows, conflicting job row = false) := by
  dsimp only [enqueueJobOnConnection] at success ⊢
  cases found : rows.find? (conflicting job) with
  | some existing =>
      exact .inl ⟨reuse_unchanged keyed found, existing, List.mem_of_find?_eq_some found,
        List.find?_some found⟩
  | none =>
      rw [found] at success
      dsimp only at success ⊢
      split at success
      · cases success
      · rename_i free
        rw [if_neg free]
        refine .inr ⟨rfl, fun row member => ?_⟩
        simpa using List.find?_eq_none.mp found row member

theorem run_tableValid (calls : List Call) : TableValid (queue.run [] calls) :=
  queue.run_invariant TableValid step_tableValid tableValid_nil calls

/-!
## History
-/

/-- The UUID that a call generates with `Uuid::now_v7`. -/
def Call.generated? : Call → Option Nat
  | .enqueue jobId _ _ => some jobId.value
  | .claimDue _ _ claimId _ _ => some claimId.value
  | .claimDueByKey _ _ _ _ claimId _ _ => some claimId.value
  | _ => none

/-- Generated UUIDs never repeat within a run. -/
def FreshIds (calls : List Call) : Prop := (calls.filterMap Call.generated?).Nodup

instance (calls : List Call) : Decidable (FreshIds calls) :=
  inferInstanceAs (Decidable (List.Nodup _))

/-- The number of accepted `mark_job_failed` calls for a job. -/
def failuresOf (id : JobId) (trace : List (Call × Reply)) : Nat :=
  trace.countP fun entry => entry.2.rescheduled? && entry.1.handle?.any (·.id == id)

def claimsOf (id : JobId) (trace : List (Call × Reply)) : List JobClaimId :=
  trace.filterMap fun entry =>
    entry.2.claimed?.bind fun handle => if handle.id = id then some handle.claimId else none

structure Ledger (trace : List (Call × Reply)) (rows : List JobRow) : Prop where
  known : ∀ row ∈ rows, row.id.value ∈ (trace.map Prod.fst).filterMap Call.generated?
  silent : ∀ id : JobId, id.value ∉ (trace.map Prod.fst).filterMap Call.generated? →
    failuresOf id trace = 0
  attempts : ∀ row ∈ rows, row.attempts = failuresOf row.id trace
  owner : ∀ row ∈ rows, ∀ claimId, row.claimId = some claimId →
    (claimsOf row.id trace).getLast? = some claimId

theorem FreshIds.of_append {first second : List Call} (fresh : FreshIds (first ++ second)) :
    FreshIds first := by
  unfold FreshIds at fresh ⊢
  rw [List.filterMap_append] at fresh
  exact (List.nodup_append.mp fresh).1

theorem FreshIds.disjoint {first second : List Call} (fresh : FreshIds (first ++ second))
    {left right : Call} (leftMember : left ∈ first) (rightMember : right ∈ second) {id : Nat}
    (leftId : left.generated? = some id) : right.generated? ≠ some id := by
  intro rightId
  unfold FreshIds at fresh
  rw [List.filterMap_append] at fresh
  exact (List.nodup_append.mp fresh).2.2 id (List.mem_filterMap.mpr ⟨left, leftMember, leftId⟩)
    id (List.mem_filterMap.mpr ⟨right, rightMember, rightId⟩) rfl

private theorem failuresOf_snoc (id : JobId) (trace : List (Call × Reply)) (call : Call)
    (reply : Reply) :
    failuresOf id (trace ++ [(call, reply)]) = failuresOf id trace +
      if reply.rescheduled? && call.handle?.any (·.id == id) then 1 else 0 := by
  simp only [failuresOf, List.countP_append, List.countP_cons, List.countP_nil, Nat.zero_add]

private theorem failuresOf_refused (id : JobId) (trace : List (Call × Reply)) (call : Call)
    {reply : Reply} (refused : reply.rescheduled? = false) :
    failuresOf id (trace ++ [(call, reply)]) = failuresOf id trace := by
  simp [failuresOf_snoc, refused]

private theorem claimsOf_unclaimed (id : JobId) (trace : List (Call × Reply)) (call : Call)
    {reply : Reply} (unclaimed : reply.claimed? = none) :
    claimsOf id (trace ++ [(call, reply)]) = claimsOf id trace := by
  simp [claimsOf, unclaimed]

private theorem claimsOf_claimed {id : JobId} (trace : List (Call × Reply)) (call : Call)
    {handle : ClaimedJob} (same : handle.id = id) :
    (claimsOf id (trace ++ [(call, .claimed (.ok (some handle)))])).getLast? =
      some handle.claimId := by
  simp [claimsOf, Reply.claimed?, same]

private theorem claimsOf_other {id : JobId} (trace : List (Call × Reply)) (call : Call)
    {handle : ClaimedJob} (different : handle.id ≠ id) :
    claimsOf id (trace ++ [(call, .claimed (.ok (some handle)))]) = claimsOf id trace := by
  simp [claimsOf, Reply.claimed?, different]

private theorem finish_unclaimed {call : Call} {reply : Reply} {change : JobRow → JobRow}
    (finishing : Finish call reply change) : reply.claimed? = none := by
  cases finishing <;> rfl

private theorem finish_claimId {call : Call} {reply : Reply} {change : JobRow → JobRow}
    (finishing : Finish call reply change) (row : JobRow) : (change row).claimId = none := by
  cases finishing <;> rfl

private theorem finish_attempts {call : Call} {reply : Reply} {change : JobRow → JobRow}
    (finishing : Finish call reply change) (row : JobRow) :
    (change row).attempts = row.attempts + if reply.rescheduled? then 1 else 0 := by
  cases finishing with
  | completed => simp [release, Reply.rescheduled?]
  | failed => rfl
  | permanentlyFailed => simp [release, Reply.rescheduled?]

theorem ledger_nil : Ledger [] [] :=
  ⟨by simp, by simp [failuresOf], by simp, by simp⟩

theorem Transition.ledger {trace : List (Call × Reply)} {rows next : List JobRow} {call : Call}
    {reply : Reply} (transition : Transition rows call reply next)
    (fresh : ∀ id, call.generated? = some id →
      id ∉ (trace.map Prod.fst).filterMap Call.generated?)
    (ledger : Ledger trace rows) : Ledger (trace ++ [(call, reply)]) next := by
  have widen : ∀ {id}, id ∈ (trace.map Prod.fst).filterMap Call.generated? →
      id ∈ ((trace ++ [(call, reply)]).map Prod.fst).filterMap Call.generated? := by
    intro id member
    rw [List.map_append, List.filterMap_append]
    exact List.mem_append_left _ member
  have earlier : ∀ {id : JobId},
      id.value ∉ ((trace ++ [(call, reply)]).map Prod.fst).filterMap Call.generated? →
      failuresOf id trace = 0 :=
    fun absent => ledger.silent _ fun member => absent (widen member)
  cases transition with
  | idle unclaimed refused =>
      refine ⟨fun row member => widen (ledger.known row member), ?_, ?_, ?_⟩
      · intro id absent
        rw [failuresOf_refused id trace call refused, earlier absent]
      · intro row member
        rw [failuresOf_refused _ trace call refused]
        exact ledger.attempts row member
      · intro row member claimId owned
        rw [claimsOf_unclaimed _ trace call unclaimed]
        exact ledger.owner row member claimId owned
  | @insert jobId clocks job absent inactive =>
      refine ⟨?_, ?_, ?_, ?_⟩
      · intro row member
        rcases List.mem_append.mp member with old | new
        · exact widen (ledger.known row old)
        · rw [List.mem_singleton.mp new, List.map_append, List.filterMap_append]
          exact List.mem_append_right _ (by simp [Call.generated?, newJobRow])
      · intro id unknown
        rw [failuresOf_refused id trace _ rfl, earlier unknown]
      · intro row member
        rw [failuresOf_refused _ trace _ rfl]
        rcases List.mem_append.mp member with old | new
        · exact ledger.attempts row old
        · rw [List.mem_singleton.mp new]
          have unseen := ledger.silent jobId (fresh jobId.value rfl)
          simp [newJobRow, unseen]
      · intro row member claimId owned
        rw [claimsOf_unclaimed _ trace _ rfl]
        rcases List.mem_append.mp member with old | new
        · exact ledger.owner row old claimId owned
        · rw [List.mem_singleton.mp new] at owned
          simp [newJobRow] at owned
  | @lease _ _ now workerId claimId row handle generated answer handleId handleClaim member =>
      subst answer
      refine ⟨?_, ?_, ?_, ?_⟩
      · intro other otherMember
        rcases Table.mem_updateWhere.mp otherMember with ⟨kept, _⟩ | ⟨before, old, _, rfl⟩
        · exact widen (ledger.known other kept)
        · exact widen (ledger.known before old)
      · intro id unknown
        rw [failuresOf_refused id trace _ rfl, earlier unknown]
      · intro other otherMember
        rw [failuresOf_refused _ trace _ rfl]
        rcases Table.mem_updateWhere.mp otherMember with ⟨kept, _⟩ | ⟨before, old, _, rfl⟩
        · exact ledger.attempts other kept
        · exact ledger.attempts before old
      · intro other otherMember owner owned
        rcases Table.mem_updateWhere.mp otherMember with ⟨kept, unselected⟩ | ⟨before, _, chosen, rfl⟩
        · have different : handle.id ≠ other.id := by
            intro same
            simp [← same, handleId] at unselected
          rw [claimsOf_other trace call different]
          exact ledger.owner other kept owner owned
        · have same : handle.id = (leaseRow now workerId claimId before).id := by
            rw [handleId]
            exact (by simpa using chosen : before.id = row.id).symm
          rw [claimsOf_claimed trace call same, handleClaim]
          exact owned
  | @finish _ _ change job row finishing handle member leased =>
      have jobId : job.id = row.id := by
        simp only [leasedBy, Bool.and_eq_true, beq_iff_eq] at leased
        exact leased.1.symm
      have counted : ∀ id : JobId, failuresOf id (trace ++ [(call, reply)]) =
          failuresOf id trace + if reply.rescheduled? && row.id == id then 1 else 0 := by
        intro id
        rw [failuresOf_snoc, handle, Option.any_some, jobId]
      refine ⟨?_, ?_, ?_, ?_⟩
      · intro other otherMember
        rcases Table.mem_updateWhere.mp otherMember with ⟨kept, _⟩ | ⟨before, old, _, rfl⟩
        · exact widen (ledger.known other kept)
        · rw [finish_id finishing]
          exact widen (ledger.known before old)
      · intro id unknown
        have different : (row.id == id) = false := by
          refine beq_eq_false_iff_ne.mpr fun same => unknown ?_
          rw [← same]
          exact widen (ledger.known row member)
        rw [counted, earlier unknown, different]
        simp
      · intro other otherMember
        rcases Table.mem_updateWhere.mp otherMember with ⟨kept, unselected⟩ | ⟨before, old, chosen, rfl⟩
        · have different : (row.id == other.id) = false := by
            rw [beq_eq_false_iff_ne] at unselected ⊢
            exact fun same => unselected same.symm
          rw [counted, different]
          simpa using ledger.attempts other kept
        · have same : row.id = before.id := (by simpa using chosen : before.id = row.id).symm
          rw [finish_attempts finishing, finish_id finishing, counted, same,
            ledger.attempts before old]
          cases reply.rescheduled? <;> simp
      · intro other otherMember owner owned
        rw [claimsOf_unclaimed _ trace call (finish_unclaimed finishing)]
        rcases Table.mem_updateWhere.mp otherMember with ⟨kept, _⟩ | ⟨before, _, _, rfl⟩
        · exact ledger.owner other kept owner owned
        · rw [finish_claimId finishing] at owned
          cases owned
  | sweep =>
      refine ⟨?_, ?_, ?_, ?_⟩
      · intro row member
        exact widen (ledger.known row (Table.mem_deleteWhere.mp member).1)
      · intro id unknown
        rw [failuresOf_refused id trace _ rfl, earlier unknown]
      · intro row member
        rw [failuresOf_refused _ trace _ rfl]
        exact ledger.attempts row (Table.mem_deleteWhere.mp member).1
      · intro row member claimId owned
        rw [claimsOf_unclaimed _ trace _ rfl]
        exact ledger.owner row (Table.mem_deleteWhere.mp member).1 claimId owned

theorem run_ledger {calls : List Call} (fresh : FreshIds calls) :
    Ledger (queue.trace [] calls) (queue.run [] calls) := by
  refine queue.history_invariant [] FreshIds (fun _ _ => FreshIds.of_append) Ledger ledger_nil ?_
    fresh
  intro past call allowed ledger
  refine (step_transition (run_tableValid past).keyed call).ledger ?_ ledger
  intro id generated member
  rw [queue.trace_map_fst] at member
  obtain ⟨earlier, earlierMember, earlierId⟩ := List.mem_filterMap.mp member
  exact allowed.disjoint earlierMember (List.mem_singleton_self call) earlierId generated

/-!
## Completed rows, stale workers and cleanup
-/

def Call.isCleanup : Call → Bool
  | .cleanup .. => true
  | _ => false

/-- A completed row is still there unchanged, or its identifier is gone. -/
def Settled (row : JobRow) (rows : List JobRow) : Prop :=
  row ∈ rows ∨ ∀ other ∈ rows, other.id ≠ row.id

private theorem updateRow_keeps {rows : List JobRow} (valid : TableValid rows)
    {row changed : JobRow} (rowMember : row ∈ rows) (changedMember : changed ∈ rows)
    (different : changed ≠ row) (change : JobRow → JobRow) :
    row ∈ Table.updateWhere (fun other => other.id == changed.id) change rows := by
  refine Table.mem_updateWhere.mpr (.inl ⟨rowMember, beq_eq_false_iff_ne.mpr fun same => ?_⟩)
  exact different (valid.eq_of_id changedMember rowMember same.symm)

private theorem completed_ne_leased {row leased : JobRow} {job : ClaimedJob}
    (valid : RowValid row) (completed : row.completedAt.isSome = true)
    (owned : leasedBy job leased = true) : leased ≠ row := by
  rintro rfl
  simp [leasedBy, valid.released completed] at owned

theorem Transition.keeps_completed {rows next : List JobRow} {call : Call} {reply : Reply}
    (transition : Transition rows call reply next) (valid : TableValid rows) {row : JobRow}
    (member : row ∈ rows) (completed : row.completedAt.isSome = true) :
    row ∈ next ∨ (call.isCleanup = true ∧ ∀ other ∈ next, other ∈ rows) := by
  cases transition with
  | idle => exact .inl member
  | insert => exact .inl (List.mem_append_left _ member)
  | lease _ _ _ _ leasedMember pending =>
      refine .inl (updateRow_keeps valid member leasedMember ?_ _)
      rintro rfl
      simp [pending] at completed
  | finish _ _ leasedMember leased =>
      exact .inl (updateRow_keeps valid member leasedMember
        (completed_ne_leased (valid.valid row member) completed leased) _)
  | sweep => exact .inr ⟨rfl, fun other kept => (Table.mem_deleteWhere.mp kept).1⟩

private theorem Transition.keeps_absent {rows next : List JobRow} {call : Call} {reply : Reply}
    (transition : Transition rows call reply next) {id : JobId}
    (absent : ∀ other ∈ rows, other.id ≠ id) (unused : call.generated? ≠ some id.value) :
    ∀ other ∈ next, other.id ≠ id := by
  intro other otherMember same
  cases transition with
  | idle => exact absent other otherMember same
  | @insert jobId clocks job =>
      rcases List.mem_append.mp otherMember with old | new
      · exact absent other old same
      · rw [List.mem_singleton.mp new] at same
        exact unused (by rw [← same]; rfl)
  | lease =>
      rcases Table.mem_updateWhere.mp otherMember with ⟨kept, _⟩ | ⟨before, old, _, rfl⟩
      · exact absent other kept same
      · exact absent before old same
  | finish finishing =>
      rcases Table.mem_updateWhere.mp otherMember with ⟨kept, _⟩ | ⟨before, old, _, rfl⟩
      · exact absent other kept same
      · rw [finish_id finishing] at same
        exact absent before old same
  | sweep => exact absent other (Table.mem_deleteWhere.mp otherMember).1 same

theorem Transition.settled {rows next : List JobRow} {call : Call} {reply : Reply}
    (transition : Transition rows call reply next) (valid : TableValid rows) {row : JobRow}
    (completed : row.completedAt.isSome = true) (unused : call.generated? ≠ some row.id.value)
    (settled : Settled row rows) : Settled row next := by
  rcases settled with member | absent
  · rcases transition.keeps_completed valid member completed with kept | ⟨_, subset⟩
    · exact .inl kept
    · by_cases kept : row ∈ next
      · exact .inl kept
      · refine .inr fun other otherMember same => kept ?_
        rw [← valid.eq_of_id (subset other otherMember) member same]
        exact otherMember
  · exact .inr (transition.keeps_absent absent unused)

theorem Transition.claims_other {rows next : List JobRow} {call : Call} {reply : Reply}
    (transition : Transition rows call reply next) (valid : TableValid rows) {row : JobRow}
    (completed : row.completedAt.isSome = true) (settled : Settled row rows)
    {handle : ClaimedJob} (claimed : reply.claimed? = some handle) : handle.id ≠ row.id := by
  intro same
  cases transition with
  | idle unclaimed => rw [unclaimed] at claimed; cases claimed
  | insert => cases claimed
  | lease _ answer handleId _ member pending =>
      subst answer
      cases Option.some.inj claimed
      rcases settled with rowMember | absent
      · rw [← valid.eq_of_id member rowMember (handleId.symm.trans same), pending] at completed
        cases completed
      · exact absent _ member (handleId.symm.trans same)
  | finish finishing => rw [finish_unclaimed finishing] at claimed; cases claimed
  | sweep => cases claimed

private theorem settled_run {rows : List JobRow} (valid : TableValid rows) {row : JobRow}
    (completed : row.completedAt.isSome = true) {calls : List Call}
    (unused : ∀ call ∈ calls, call.generated? ≠ some row.id.value) (settled : Settled row rows) :
    Settled row (queue.run rows calls) ∧
      ∀ entry ∈ queue.trace rows calls, ∀ handle, entry.2.claimed? = some handle →
        handle.id ≠ row.id := by
  induction calls generalizing rows with
  | nil => exact ⟨settled, by simp⟩
  | cons call calls ih =>
      have transition := step_transition valid.keyed call
      have rest := ih (transition.tableValid valid)
        (fun other member => unused other (List.mem_cons_of_mem _ member))
        (transition.settled valid completed (unused call List.mem_cons_self) settled)
      refine ⟨rest.1, ?_⟩
      intro entry member handle claimed
      rcases List.mem_cons.mp member with rfl | later
      · exact transition.claims_other valid completed settled claimed
      · exact rest.2 entry later handle claimed

private theorem completed_run {rows : List JobRow} (valid : TableValid rows) {row : JobRow}
    (completed : row.completedAt.isSome = true) {calls : List Call}
    (quiet : ∀ call ∈ calls, call.isCleanup = false) (member : row ∈ rows) :
    row ∈ queue.run rows calls := by
  induction calls generalizing rows with
  | nil => exact member
  | cons call calls ih =>
      have transition := step_transition valid.keyed call
      refine ih (transition.tableValid valid)
        (fun other later => quiet other (List.mem_cons_of_mem _ later)) ?_
      rcases transition.keeps_completed valid member completed with kept | ⟨cleanup, _⟩
      · exact kept
      · rw [quiet call List.mem_cons_self] at cleanup
        cases cleanup

private theorem Transition.claim_generated {rows next : List JobRow} {call : Call} {reply : Reply}
    (transition : Transition rows call reply next) {handle : ClaimedJob}
    (claimed : reply.claimed? = some handle) : call.generated? = some handle.claimId.value := by
  cases transition with
  | idle unclaimed => rw [unclaimed] at claimed; cases claimed
  | insert => cases claimed
  | lease generated answer _ handleClaim =>
      subst answer
      cases Option.some.inj claimed
      rw [handleClaim]
      cases call <;> simp_all [Call.claimId?, Call.generated?]
  | finish finishing => rw [finish_unclaimed finishing] at claimed; cases claimed
  | sweep => cases claimed

private theorem claimed_generated {calls : List Call} {rows : List JobRow}
    (valid : TableValid rows) {entry : Call × Reply} (member : entry ∈ queue.trace rows calls)
    {handle : ClaimedJob} (claimed : entry.2.claimed? = some handle) :
    entry.1 ∈ calls ∧ entry.1.generated? = some handle.claimId.value := by
  induction calls generalizing rows with
  | nil => cases member
  | cons call calls ih =>
      have transition := step_transition valid.keyed call
      rcases List.mem_cons.mp member with rfl | later
      · exact ⟨List.mem_cons_self, transition.claim_generated claimed⟩
      · obtain ⟨callMember, generated⟩ := ih (transition.tableValid valid) later
        exact ⟨List.mem_cons_of_mem _ callMember, generated⟩

theorem mem_claimsOf {id : JobId} {trace : List (Call × Reply)} {claimId : JobClaimId} :
    claimId ∈ claimsOf id trace ↔ ∃ entry ∈ trace, ∃ handle, entry.2.claimed? = some handle ∧
      handle.id = id ∧ handle.claimId = claimId := by
  simp [claimsOf, Option.bind_eq_some_iff]

theorem stale_unleased {past later : List Call} (fresh : FreshIds (past ++ later))
    {first second : Call × Reply} (firstMember : first ∈ queue.trace [] past)
    (secondMember : second ∈ queue.trace (queue.run [] past) later)
    {stale current : ClaimedJob} (staleClaim : first.2.claimed? = some stale)
    (currentClaim : second.2.claimed? = some current) (sameJob : current.id = stale.id) :
    ∀ row ∈ queue.run [] (past ++ later), leasedBy stale row = false := by
  intro row member
  by_contra owned
  simp only [leasedBy, Bool.not_eq_false, Bool.and_eq_true, beq_iff_eq] at owned
  have last := (run_ledger fresh).owner row member stale.claimId owned.2
  have reclaimed : claimsOf row.id (queue.trace (queue.run [] past) later) ≠ [] := by
    apply List.ne_nil_of_mem (a := current.claimId)
    exact mem_claimsOf.mpr ⟨second, secondMember, current, currentClaim,
      sameJob.trans owned.1.symm, rfl⟩
  have lastLater : stale.claimId ∈ claimsOf row.id (queue.trace (queue.run [] past) later) := by
    rw [queue.trace_append, claimsOf, List.filterMap_append, ← claimsOf, ← claimsOf,
      List.getLast?_append_of_ne_nil _ reclaimed] at last
    exact List.mem_of_getLast? last
  obtain ⟨entry, entryMember, handle, claimed, _, sameClaim⟩ := mem_claimsOf.mp lastLater
  obtain ⟨firstCall, firstId⟩ := claimed_generated tableValid_nil firstMember staleClaim
  obtain ⟨laterCall, laterId⟩ := claimed_generated (run_tableValid past) entryMember claimed
  rw [sameClaim] at laterId
  exact fresh.disjoint firstCall laterCall firstId laterId

/-- The replies with which a finishing statement reports that it found no row. -/
def Reply.noRow : Reply → Prop
  | .finished accepted => accepted = false
  | .rescheduled result => result = .ok none
  | _ => False

theorem finish_without_lease {rows : List JobRow} {call : Call} {job : ClaimedJob}
    (handle : call.handle? = some job) (unleased : ∀ row ∈ rows, leasedBy job row = false) :
    (queue.step rows call).2.noRow ∧ (queue.step rows call).1 = rows := by
  have noneAffected : Table.affected (leasedBy job) rows = 0 := Table.affected_eq_zero.mpr unleased
  cases call with
  | completed clocks finished =>
      cases Option.some.inj handle
      simp only [queue, markJobCompleted, noneAffected]
      exact ⟨rfl, (finish_idle _ _ unleased).1⟩
  | failed clocks finished error =>
      cases Option.some.inj handle
      have bounded : (rows.any fun row => leasedBy job row &&
          decide (maxAttempts ≤ row.attempts)) = false := by
        rw [List.any_eq_false]
        intro row member
        simp [unleased row member]
      simp only [queue, markJobFailed, noneAffected, bounded]
      exact ⟨rfl, (finish_idle _ _ unleased).1⟩
  | permanentlyFailed clocks finished error =>
      cases Option.some.inj handle
      simp only [queue, markJobPermanentlyFailed, noneAffected]
      exact ⟨rfl, (finish_idle _ _ unleased).1⟩
  | enqueue => cases handle
  | claimDue => cases handle
  | claimDueByKey => cases handle
  | cleanup => cases handle

def matchingRetention (successful permanent : Int) (row : JobRow) : Int :=
  if row.permanentlyFailedAt.isSome then permanent else successful

private theorem expired_elapsed {row : JobRow} (valid : RowValid row) {now successful permanent : Int}
    (old : expired (now - successful) (now - permanent) row = true) :
    ∃ at_, row.completedAt = some at_ ∧ at_ + matchingRetention successful permanent row ≤ now := by
  simp only [expired, Bool.or_eq_true, Bool.and_eq_true, Option.isNone_iff_eq_none,
    Option.any_eq_true, decide_eq_true_eq] at old
  rcases old with ⟨kept, at_, completed, elapsed⟩ | ⟨at_, failed, elapsed⟩
  · refine ⟨at_, completed, ?_⟩
    simp only [matchingRetention, kept, Option.isSome_none, Bool.false_eq_true, if_false]
    omega
  · refine ⟨at_, valid.failedAt at_ failed, ?_⟩
    simp only [matchingRetention, failed, Option.isSome_some, if_true]
    omega

theorem cleanup_removes {rows : List JobRow} (valid : TableValid rows) {clocks : Clocks}
    {successful permanent : Int} {batchSize : Nat} {skipLocked : JobId → Bool} {row : JobRow}
    (member : row ∈ rows)
    (removed : row ∉
      (queue.step rows (.cleanup clocks successful permanent batchSize skipLocked)).1) :
    ∃ at_, row.completedAt = some at_ ∧
      at_ + matchingRetention successful permanent row ≤ clocks.process := by
  have transition := step_transition valid.keyed
    (.cleanup clocks successful permanent batchSize skipLocked)
  revert removed transition
  generalize (queue.step rows (.cleanup clocks successful permanent batchSize skipLocked)).1 = next
  generalize (queue.step rows (.cleanup clocks successful permanent batchSize skipLocked)).2 = reply
  intro removed transition
  cases transition with
  | idle => exact absurd member removed
  | lease generated => cases generated
  | finish finishing => cases finishing
  | @sweep _ _ _ _ _ deleted _ old =>
      apply expired_elapsed (valid.valid row member)
      refine old row member ?_
      by_contra kept
      exact removed (Table.mem_deleteWhere.mpr ⟨member, by simpa using kept⟩)

/-- The guarantees of the lease protocol over one run from the empty table. -/
structure LeaseProtocol (calls : List Call) : Prop where
  leases : ∀ row ∈ queue.run [] calls,
    (row.claimId = none ∧ row.lockedBy = none ∧ row.lockedAt = none) ∨
      (row.claimId.isSome = true ∧ row.lockedBy.isSome = true ∧ row.lockedAt.isSome = true)
  deduplicated : ∀ left ∈ queue.run [] calls, ∀ right ∈ queue.run [] calls,
    left.completedAt = none → right.completedAt = none → left.kind = right.kind →
    left.deduplicationKey.isSome = true → left.deduplicationKey = right.deduplicationKey →
    left = right
  attempts : ∀ row ∈ queue.run [] calls,
    row.attempts = failuresOf row.id (queue.trace [] calls)
  /-- From the moment a row is completed it never changes, no claim returns
  it, and only a cleanup takes it away. -/
  completed : ∀ past later, calls = past ++ later → ∀ row ∈ queue.run [] past,
    row.completedAt.isSome = true →
      (∀ other ∈ queue.run [] calls, other.id = row.id → other = row) ∧
      (row ∈ queue.run [] calls ∨ ∃ call ∈ later, call.isCleanup = true) ∧
      ∀ entry ∈ queue.trace (queue.run [] past) later, ∀ handle,
        entry.2.claimed? = some handle → handle.id ≠ row.id
  /-- A worker whose job was claimed again finds no row and changes nothing. -/
  stale : ∀ past later final, calls = past ++ later ++ [final] →
    ∀ first ∈ queue.trace [] past, ∀ second ∈ queue.trace (queue.run [] past) later,
    ∀ old new, first.2.claimed? = some old → second.2.claimed? = some new → new.id = old.id →
    final.handle? = some old →
      (queue.step (queue.run [] (past ++ later)) final).2.noRow ∧
        queue.run [] calls = queue.run [] (past ++ later)
  cleanup : ∀ past clocks successful permanent batchSize skipLocked,
    calls = past ++ [.cleanup clocks successful permanent batchSize skipLocked] →
    ∀ row ∈ queue.run [] past, row ∉ queue.run [] calls →
      ∃ at_, row.completedAt = some at_ ∧
        at_ + matchingRetention successful permanent row ≤ clocks.process

private theorem leases_together {row : JobRow} (valid : RowValid row) :
    (row.claimId = none ∧ row.lockedBy = none ∧ row.lockedAt = none) ∨
      (row.claimId.isSome = true ∧ row.lockedBy.isSome = true ∧ row.lockedAt.isSome = true) := by
  have by_ := valid.lockedBy
  have at_ := valid.lockedAt
  cases claim : row.claimId with
  | none => exact .inl (by simp_all)
  | some claimId => exact .inr (by simp_all)

private theorem completed_unused {past later : List Call} (fresh : FreshIds (past ++ later))
    {row : JobRow} (member : row ∈ queue.run [] past) :
    ∀ call ∈ later, call.generated? ≠ some row.id.value := by
  intro call callMember
  have known := (run_ledger fresh.of_append).known row member
  rw [queue.trace_map_fst] at known
  obtain ⟨earlier, earlierMember, earlierId⟩ := List.mem_filterMap.mp known
  exact fresh.disjoint earlierMember callMember earlierId

/-- Every run of the queue keeps the lease protocol, whatever the clocks read,
whichever rows are locked elsewhere and whoever finishes late. -/
theorem run_leaseProtocol (calls : List Call) (fresh : FreshIds calls) : LeaseProtocol calls := by
  have valid := run_tableValid calls
  refine ⟨fun row member => leases_together (valid.valid row member), ?_,
    (run_ledger fresh).attempts, ?_, ?_, ?_⟩
  · intro left leftMember right rightMember leftOpen rightOpen sameKind keyed sameKey
    obtain ⟨key, leftKey⟩ := Option.isSome_iff_exists.mp keyed
    have leftActive : activeKey left = some (left.kind, key) := by
      simp [activeKey, leftOpen, leftKey]
    have rightActive : activeKey right = some (left.kind, key) := by
      simp [activeKey, rightOpen, ← sameKey, leftKey, sameKind]
    exact valid.activeKeys.eq_of_key leftMember rightMember leftActive rightActive
  · rintro past later rfl row member completed
    have unused := completed_unused fresh member
    obtain ⟨settled, unclaimed⟩ :=
      settled_run (run_tableValid past) completed unused (.inl member)
    rw [← queue.run_append] at settled
    refine ⟨?_, ?_, unclaimed⟩
    · intro other otherMember same
      rcases settled with kept | absent
      · exact valid.eq_of_id otherMember kept same
      · exact absurd same (absent other otherMember)
    · by_cases cleaned : ∃ call ∈ later, call.isCleanup = true
      · exact .inr cleaned
      · refine .inl ?_
        rw [queue.run_append]
        refine completed_run (run_tableValid past) completed (fun call callMember => ?_) member
        by_contra cleanup
        exact cleaned ⟨call, callMember, by simpa using cleanup⟩
  · rintro past later final rfl first firstMember second secondMember old new oldClaim newClaim
      sameJob handle
    have unleased := stale_unleased fresh.of_append firstMember secondMember oldClaim newClaim sameJob
    obtain ⟨noRow, unchanged⟩ := finish_without_lease handle unleased
    exact ⟨noRow, by rw [queue.run_snoc, unchanged]⟩
  · rintro past clocks successful permanent batchSize skipLocked rfl row member removed
    rw [queue.run_snoc] at removed
    exact cleanup_removes (run_tableValid past) member removed

/-- One job: a first worker's lease expires, a second worker takes it over, the
first reports a failure too late, the second completes, and cleanup runs. -/
def takeoverRun : List Call :=
  let job : NewJob := ⟨.pollUpdate, .null, some "poll", 0⟩
  let handle (claimId : Nat) : ClaimedJob := ⟨⟨1⟩, ⟨claimId⟩, .pollUpdate, .null, 0, 0⟩
  [.enqueue ⟨1⟩ ⟨0, 0⟩ job,
    .claimDue "first" 10 ⟨2⟩ ⟨5, 5⟩ (fun _ => false),
    .claimDueByKey "second" .pollUpdate "poll" 10 ⟨3⟩ ⟨30, 30⟩ (fun _ => false),
    .failed ⟨31, 31⟩ (handle 2) "late",
    .completed ⟨32, 32⟩ (handle 3),
    .cleanup ⟨100, 100⟩ 50 60 10 (fun _ => false)]

theorem run_leaseProtocol_takeover : FreshIds takeoverRun ∧ LeaseProtocol takeoverRun :=
  ⟨by decide, run_leaseProtocol takeoverRun (by decide)⟩

end Roosty.Job
