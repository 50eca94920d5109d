import Roosty.Job.QueueProperties
import Roosty.Poll.TallyProperties
import Roosty.Poll.Updates

/-!
# No vote is left without an update

A committed vote in a local poll with visible totals is followed by an execution
of the poll-update job that reads the poll, or the job is pending. This needs that
no vote comes between the reading of the poll and the completion of the job.
-/

set_option autoImplicit false

namespace Roosty.Poll

open Library Job

/-!
## Pending jobs
-/

def Pending (jobs : List JobRow) (poll : String) : Prop :=
  ∃ row ∈ jobs, row.kind = .pollUpdate ∧ row.deduplicationKey = some poll ∧
    row.completedAt = none

/-- The payload of a poll-update job names the poll of its deduplication key. -/
def Addressed (row : JobRow) : Prop :=
  row.kind = .pollUpdate → row.deduplicationKey.isSome = true ∧
    pollJobPayload row.payload = row.deduplicationKey

/-- Every row is an earlier one, which it may have released, or a new one. -/
structure Derived (before after : List JobRow) : Prop where
  valid : TableValid after
  rows : ∀ row ∈ after,
    (∃ earlier ∈ before, row.kind = earlier.kind ∧ row.payload = earlier.payload ∧
      row.deduplicationKey = earlier.deduplicationKey ∧
      (row.claimId = none ∨ row.claimId = earlier.claimId)) ∨
    (Addressed row ∧ row.claimId = none)

theorem Derived.refl {jobs : List JobRow} (valid : TableValid jobs) : Derived jobs jobs :=
  ⟨valid, fun row member => .inl ⟨row, member, rfl, rfl, rfl, .inr rfl⟩⟩

theorem Derived.trans {first second third : List JobRow} (left : Derived first second)
    (right : Derived second third) : Derived first third := by
  refine ⟨right.valid, fun row member => ?_⟩
  rcases right.rows row member with ⟨middle, middleMember, kind, payload, key, claim⟩ | fresh
  · rcases left.rows middle middleMember with
      ⟨earlier, earlierMember, kind', payload', key', claim'⟩ | ⟨addressed, unclaimed⟩
    · refine .inl ⟨earlier, earlierMember, kind.trans kind', payload.trans payload',
        key.trans key', ?_⟩
      rcases claim with none | same
      · exact .inl none
      · rw [same]
        exact claim'
    · refine .inr ⟨?_, ?_⟩
      · unfold Addressed
        rw [kind, payload, key]
        exact addressed
      · rcases claim with none | same
        · exact none
        · exact same.trans unclaimed
  · exact .inr fresh

section

variable {jobs next : List JobRow} {call : Job.Call} {reply : Reply}

private theorem derived_of_transition (valid : TableValid jobs)
    (transition : Transition jobs call reply next) (unclaimed : call.claimId? = none)
    (addressed : ∀ jobId clocks job, call = .enqueue jobId clocks job →
      Addressed (newJobRow jobId clocks.database job)) : Derived jobs next := by
  refine ⟨transition.tableValid valid, ?_⟩
  cases transition with
  | idle => exact (Derived.refl valid).rows
  | @insert jobId clocks job absent inactive =>
      intro row member
      rcases List.mem_append.mp member with old | new
      · exact (Derived.refl valid).rows row old
      · rw [List.mem_singleton.mp new]
        exact .inr ⟨addressed jobId clocks job rfl, rfl⟩
  | lease generated =>
      rw [unclaimed] at generated
      cases generated
  | finish finishing handle member leased =>
      intro row rowMember
      rcases Table.mem_updateWhere.mp rowMember with ⟨old, _⟩ | ⟨earlier, old, _, rfl⟩
      · exact (Derived.refl valid).rows row old
      · refine .inl ⟨earlier, old, ?_⟩
        cases finishing <;> exact ⟨rfl, rfl, rfl, .inl rfl⟩
  | sweep old =>
      intro row member
      exact (Derived.refl valid).rows row (Table.mem_deleteWhere.mp member).1

private theorem pending_of_transition (valid : TableValid jobs)
    (transition : Transition jobs call reply next) {poll : String} (pending : Pending jobs poll) :
    Pending next poll ∨ ∃ job, ∃ row ∈ jobs, call.handle? = some job ∧ leasedBy job row = true ∧
      row.kind = .pollUpdate ∧ row.deduplicationKey = some poll ∧
      ∀ clocks error, call ≠ .failed clocks job error := by
  obtain ⟨row, member, kind, key, active⟩ := pending
  cases transition with
  | idle => exact .inl ⟨row, member, kind, key, active⟩
  | insert => exact .inl ⟨row, List.mem_append_left _ member, kind, key, active⟩
  | @lease _ _ now workerId claimId leased =>
      refine .inl ?_
      by_cases chosen : (row.id == leased.id) = true
      · exact ⟨leaseRow now workerId claimId row,
          Table.mem_updateWhere.mpr (.inr ⟨row, member, chosen, rfl⟩), kind, key, active⟩
      · exact ⟨row, Table.mem_updateWhere.mpr (.inl ⟨member, by simpa using chosen⟩),
          kind, key, active⟩
  | @finish _ _ change job owned finishing handle ownedMember leased =>
      by_cases chosen : (row.id == owned.id) = true
      · have same : row = owned :=
          valid.eq_of_id member ownedMember (by simpa using chosen)
        subst same
        cases finishing with
        | failed =>
            exact .inl ⟨_, Table.mem_updateWhere.mpr (.inr ⟨row, member, chosen, rfl⟩),
              kind, key, active⟩
        | completed =>
            refine .inr ⟨job, row, member, handle, leased, kind, key, ?_⟩
            intro _ _ other
            cases other
        | permanentlyFailed =>
            refine .inr ⟨job, row, member, handle, leased, kind, key, ?_⟩
            intro _ _ other
            cases other
      · exact .inl ⟨row, Table.mem_updateWhere.mpr (.inl ⟨member, by simpa using chosen⟩),
          kind, key, active⟩
  | sweep old =>
      refine .inl ⟨row, Table.mem_deleteWhere.mpr ⟨member, ?_⟩, kind, key, active⟩
      refine Bool.eq_false_iff.mpr fun isDeleted => ?_
      have isExpired := old row member isDeleted
      have failedAt := (valid.valid row member).failedAt
      rw [active] at failedAt
      cases failed : row.permanentlyFailedAt with
      | none => simp [expired, active, failed] at isExpired
      | some time => cases failedAt time failed

end

structure Keeps (before after : List JobRow) : Prop extends Derived before after where
  pending : ∀ poll, Pending before poll → Pending after poll

theorem Keeps.refl {jobs : List JobRow} (valid : TableValid jobs) : Keeps jobs jobs :=
  ⟨Derived.refl valid, fun _ => id⟩

theorem Keeps.trans {first second third : List JobRow} (left : Keeps first second)
    (right : Keeps second third) : Keeps first third :=
  ⟨left.toDerived.trans right.toDerived, fun poll => right.pending poll ∘ left.pending poll⟩

private theorem enqueue_keeps {jobs : List JobRow} (valid : TableValid jobs) (jobId : JobId)
    (clocks : Clocks) (job : NewJob) (addressed : Addressed (newJobRow jobId clocks.database job)) :
    Keeps jobs (enqueueJobOnConnection jobs jobId clocks job).1 := by
  have transition := step_transition valid.keyed (.enqueue jobId clocks job)
  refine ⟨derived_of_transition valid transition rfl ?_, fun poll pending => ?_⟩
  · intro _ _ _ same
    cases same
    exact addressed
  · rcases pending_of_transition valid transition pending with kept | ⟨_, _, _, handle, _⟩
    · exact kept
    · cases handle

private theorem enqueue_pending {jobs : List JobRow} {jobId : JobId} {clocks : Clocks}
    {job : NewJob} {poll : String} (kind : job.kind = .pollUpdate)
    (key : job.deduplicationKey = some poll) {result : JobId}
    (success : (enqueueJobOnConnection jobs jobId clocks job).2 = .ok result) :
    Pending (enqueueJobOnConnection jobs jobId clocks job).1 poll := by
  dsimp only [enqueueJobOnConnection] at success ⊢
  cases found : jobs.find? (conflicting job) with
  | some existing =>
      have member := List.mem_of_find?_eq_some found
      have conflict := List.find?_some found
      simp only [conflicting, activeKey, key, kind, Bool.and_eq_true, beq_iff_eq] at conflict
      dsimp only
      split at conflict
      · rename_i active
        obtain ⟨_, same⟩ := conflict
        obtain ⟨other, otherKey, sameKey⟩ := Option.map_eq_some_iff.mp same
        refine ⟨_, Table.mem_updateWhere.mpr (.inr ⟨existing, member, beq_self_eq_true _, rfl⟩),
          (Prod.mk.inj sameKey).1, key, ?_⟩
        exact Option.isNone_iff_eq_none.mp active
      · cases conflict.2
  | none =>
      rw [found] at success
      dsimp only at success ⊢
      split at success
      · cases success
      · rename_i absent
        rw [if_neg absent]
        exact ⟨_, List.mem_append_right _ List.mem_cons_self, kind, key, rfl⟩

private theorem reschedule_keeps {jobs : List JobRow} (valid : TableValid jobs)
    (selected : JobRow → Bool) (runAfter : Int) :
    Keeps jobs (Table.updateWhere selected
      (fun row => { row with runAfter := min row.runAfter runAfter }) jobs) := by
  refine ⟨⟨⟨?_, valid.primaryKey.updateWhere fun _ _ _ => .inl rfl,
    valid.activeKeys.updateWhere fun _ _ _ => .inl rfl⟩, ?_⟩, ?_⟩
  · intro row member
    rcases Table.mem_updateWhere.mp member with ⟨old, _⟩ | ⟨earlier, old, _, rfl⟩
    · exact valid.valid row old
    · have before := valid.valid earlier old
      exact ⟨before.lockedBy, before.lockedAt, before.released, before.failedAt, before.attempts⟩
  · intro row member
    rcases Table.mem_updateWhere.mp member with ⟨old, _⟩ | ⟨earlier, old, _, rfl⟩
    · exact (Derived.refl valid).rows row old
    · exact .inl ⟨earlier, old, rfl, rfl, rfl, .inr rfl⟩
  · rintro poll ⟨row, member, kind, key, active⟩
    by_cases chosen : selected row = true
    · exact ⟨_, Table.mem_updateWhere.mpr (.inr ⟨row, member, chosen, rfl⟩), kind, key, active⟩
    · exact ⟨row, Table.mem_updateWhere.mpr (.inl ⟨member, by simpa using chosen⟩), kind, key,
        active⟩

/-!
## The jobs of poll operations
-/

section

variable {db next : PollDb} {context : Context} {pollId : Nat}

private theorem enqueuePollUpdate_keeps {runAfter : Int} (valid : TableValid db.jobs)
    (success : enqueuePollUpdate db context pollId runAfter = .ok next) :
    Keeps db.jobs next.jobs ∧ Pending next.jobs (Text.uuidText pollId) := by
  obtain ⟨result, enqueued, success⟩ := bind_ok success
  cases success
  have kept := enqueue_keeps valid context.jobId ⟨context.now, context.now⟩
    ⟨.pollUpdate, .object [("poll_id", .string (Text.uuidText pollId))],
      some (Text.uuidText pollId), runAfter⟩ (fun _ => ⟨rfl, rfl⟩)
  have scheduled := reschedule_keeps kept.valid (fun row => row.kind == .pollUpdate &&
    row.deduplicationKey == some (Text.uuidText pollId) && row.completedAt.isNone) runAfter
  refine ⟨kept.trans scheduled, scheduled.pending _ ?_⟩
  exact enqueue_pending rfl rfl enqueued

private theorem enqueuePollExpiration_keeps {runAfter : Int} (valid : TableValid db.jobs)
    (success : enqueuePollExpiration db context pollId runAfter = .ok next) :
    Keeps db.jobs next.jobs := by
  obtain ⟨result, enqueued, success⟩ := bind_ok success
  cases success
  exact enqueue_keeps valid _ _ _ fun other => by cases other

private theorem replaceOptions_jobs {options : List (String × Nat)}
    (success : replaceOptions db pollId options = .ok next) : next.jobs = db.jobs := by
  obtain ⟨added, rfl, _⟩ := replaceOptions_ok success
  rfl

private theorem insertPoll_jobs {row : PollRow} (success : insertPoll db row = .ok next) :
    next.jobs = db.jobs := by
  rw [(insertPoll_ok success).2]

private theorem createLocalPoll_keeps {segmentation : Segmentation} {statusId : StatusId}
    {input : NewStatusPoll} {poll : StatusPoll} (valid : TableValid db.jobs)
    (success : createLocalPoll segmentation db context statusId input = .ok (next, poll)) :
    Keeps db.jobs next.jobs := by
  obtain ⟨_, _, success⟩ := bind_ok success
  obtain ⟨inserted, insertion, success⟩ := bind_ok success
  obtain ⟨replaced, replacement, success⟩ := bind_ok success
  obtain ⟨queued, enqueued, success⟩ := bind_ok success
  have same := (replaceOptions_jobs replacement).trans (insertPoll_jobs insertion)
  rw [reloadPoll_ok success, ← same]
  exact enqueuePollExpiration_keeps (same ▸ valid) enqueued

private theorem resetChoices_jobs {changed : Bool} {options : List String}
    (success : resetChoices db pollId changed options = .ok next) : next.jobs = db.jobs := by
  unfold resetChoices at success
  split at success
  · have kept := replaceOptions_jobs success
    exact kept
  · cases success
    rfl

private theorem replaceLocalPoll_keeps {segmentation : Segmentation} {statusId : StatusId}
    {input : Option NewStatusPoll} {poll : Option StatusPoll} (valid : TableValid db.jobs)
    (success : replaceLocalPoll segmentation db context statusId input = .ok (next, poll)) :
    Keeps db.jobs next.jobs := by
  dsimp only [replaceLocalPoll] at success
  split at success
  · cases success
    exact Keeps.refl valid
  · cases success
    exact Keeps.refl valid
  · obtain ⟨_, _, success⟩ := bind_ok success
    obtain ⟨created, creation, success⟩ := bind_ok success
    cases success
    exact createLocalPoll_keeps valid creation
  · obtain ⟨_, _, success⟩ := bind_ok success
    obtain ⟨reset, resetting, success⟩ := bind_ok success
    obtain ⟨queued, enqueued, success⟩ := bind_ok success
    cases success
    have same := resetChoices_jobs resetting
    have kept := enqueuePollExpiration_keeps (by exact same ▸ valid) enqueued
    rw [← same]
    exact kept

private theorem storeRemotePoll_jobs {statusId : StatusId} {input : RemoteStatusPoll}
    (success : storeRemotePoll db context statusId input = .ok (pollId, next)) :
    next.jobs = db.jobs := by
  dsimp only [storeRemotePoll] at success
  split at success
  · obtain ⟨replaced, replacement, success⟩ := bind_ok success
    obtain ⟨_, success⟩ := guard_ok success
    cases success
    refine (replaceOptions_jobs replacement).trans ?_
    split <;> rfl
  · obtain ⟨inserted, insertion, success⟩ := bind_ok success
    obtain ⟨replaced, replacement, success⟩ := bind_ok success
    cases success
    exact (replaceOptions_jobs replacement).trans (insertPoll_jobs insertion)

private theorem upsertRemotePoll_keeps {statusId : StatusId} {input : RemoteStatusPoll}
    {poll : StatusPoll} (valid : TableValid db.jobs)
    (success : upsertRemotePoll db context statusId input = .ok (next, poll)) :
    Keeps db.jobs next.jobs := by
  obtain ⟨_, success⟩ := guard_ok success
  obtain ⟨⟨storedId, stored⟩, storing, success⟩ := bind_ok success
  obtain ⟨queued, enqueued, success⟩ := bind_ok success
  have same := storeRemotePoll_jobs storing
  rw [reloadPoll_ok success, ← same]
  cases due : input.closedAt.or input.expiresAt with
  | some expiresAt =>
      rw [due] at enqueued
      exact enqueuePollExpiration_keeps (same ▸ valid) enqueued
  | none =>
      rw [due] at enqueued
      cases enqueued
      exact Keeps.refl (same ▸ valid)

private theorem expirePoll_jobs {expiration : Option PollExpiration}
    (success : expirePoll db context pollId = .ok (next, expiration)) : next.jobs = db.jobs := by
  dsimp only [expirePoll] at success
  repeat' split at success
  all_goals cases success
  all_goals rfl

private theorem expirePollJob_keeps {expiration : Option PollExpiration}
    (valid : TableValid db.jobs)
    (success : expirePollJob db context pollId = .ok (next, expiration)) :
    Keeps db.jobs next.jobs := by
  obtain ⟨⟨closed, found⟩, expired, success⟩ := bind_ok success
  have same := expirePoll_jobs expired
  rw [← same] at valid ⊢
  dsimp only at success
  repeat' split at success
  · cases success
    exact Keeps.refl valid
  · cases success
  · rename_i queued enqueued
    cases success
    exact (enqueuePollUpdate_keeps valid enqueued).1
  · cases success
    exact Keeps.refl valid

/-!
## Votes
-/

private theorem castChoices_keeps {voter : Voter} {activitypubId : Option String}
    {choices : List UInt32}
    (success : castChoices context pollId voter activitypubId db choices = .ok next) :
    next.jobs = db.jobs ∧ next.polls = db.polls := by
  induction choices generalizing db with
  | nil =>
      cases success
      exact ⟨rfl, rfl⟩
  | cons choice choices ih =>
      obtain ⟨middle, casting, success⟩ := bind_ok success
      obtain ⟨row, inserted, _, _, _, insertion, _, rfl⟩ := castChoice_ok casting
      obtain ⟨rfl, _⟩ := insertVote_ok insertion
      have kept := ih success
      exact kept

private theorem vote_keeps {localAccountId remoteActorId : Option AccountId}
    {choices : List UInt32} {activitypubId : Option String} {poll : StatusPoll}
    (success : vote db context pollId localAccountId remoteActorId choices activitypubId =
      .ok (next, poll)) :
    next.jobs = db.jobs ∧ poll.id = pollId ∧
      ∃ row ∈ db.polls, row.id = pollId ∧ poll.hideTotals = row.hideTotals := by
  obtain ⟨ballot, _, success⟩ := bind_ok success
  obtain ⟨stored, casting, success⟩ := bind_ok success
  obtain ⟨_, success⟩ := guard_ok success
  obtain ⟨sameJobs, samePolls⟩ := castChoices_keeps casting
  unfold reloadPoll at success
  split at success
  · rename_i found reloaded
    cases success
    obtain ⟨row, isRow, rfl⟩ := Option.map_eq_some_iff.mp reloaded
    have member := List.mem_of_find?_eq_some isRow
    have sameId : row.id = pollId := by simpa using List.find?_some isRow
    refine ⟨sameJobs, sameId, ?_⟩
    rw [← samePolls]
    rcases Table.mem_updateWhere.mp member with ⟨old, _⟩ | ⟨earlier, old, chosen, rfl⟩
    · exact ⟨row, old, sameId, rfl⟩
    · exact ⟨earlier, old, by simpa using chosen, rfl⟩
  · cases success

private theorem votePoll_keeps {accountId : AccountId} {choices : List UInt32}
    {delivery : NewJob} {poll : StatusPoll} (valid : TableValid db.jobs)
    (success : votePoll db context pollId accountId choices delivery = .ok (next, poll)) :
    Keeps db.jobs next.jobs ∧ ((isLocal poll.status && !poll.hideTotals) = true →
      Pending next.jobs (Text.uuidText poll.id)) := by
  obtain ⟨⟨voted, found⟩, voting, success⟩ := bind_ok success
  have same := (vote_keeps voting).1
  rw [← same] at valid ⊢
  dsimp only at success
  cases status : found.status with
  | remoteStatus id =>
      rw [status] at success
      dsimp only at success
      split at success
      · cases success
      · rename_i jobs result enqueued
        cases success
        have kept := enqueue_keeps valid context.jobId ⟨context.now, context.now⟩
          { delivery with kind := .federationPollVoteDelivery } (fun other => by cases other)
        rw [enqueued] at kept
        refine ⟨kept, ?_⟩
        rw [status]
        intro visible
        cases visible
  | localStatus id =>
      rw [status] at success
      dsimp only at success
      split at success
      · rename_i hidden
        cases success
        refine ⟨Keeps.refl valid, ?_⟩
        rw [hidden, Bool.not_true, Bool.and_false]
        intro visible
        cases visible
      · split at success
        · cases success
        · rename_i queued enqueued
          cases success
          obtain ⟨kept, pending⟩ := enqueuePollUpdate_keeps valid enqueued
          exact ⟨kept, fun _ => pending⟩

private theorem inboundPollVote_keeps {found poll : StatusPoll} {actorId : AccountId}
    {choice : UInt32} {activitypubId : String} (valid : TableValid db.jobs)
    (hidden : found.hideTotals = true → ∀ row ∈ db.polls, row.id = found.id →
      row.hideTotals = true)
    (success : inboundPollVote db context found actorId choice activitypubId = .ok (next, poll)) :
    Keeps db.jobs next.jobs ∧ ((isLocal poll.status && !poll.hideTotals) = true →
      Pending next.jobs (Text.uuidText poll.id)) := by
  obtain ⟨⟨voted, reloaded⟩, voting, success⟩ := bind_ok success
  obtain ⟨same, sameId, row, member, rowId, sameHidden⟩ := vote_keeps voting
  rw [← same] at valid ⊢
  dsimp only at success
  split at success
  · rename_i isHidden
    cases success
    refine ⟨Keeps.refl valid, ?_⟩
    rw [sameHidden, hidden isHidden row member rowId, Bool.not_true, Bool.and_false]
    intro visible
    cases visible
  · split at success
    · cases success
    · rename_i queued enqueued
      cases success
      obtain ⟨kept, pending⟩ := enqueuePollUpdate_keeps valid enqueued
      rw [sameId]
      exact ⟨kept, fun _ => pending⟩

end

/-!
## Claims
-/

private theorem claimDueJob_leases {jobs : List JobRow} (valid : TableValid jobs)
    (workerId : String) (ttl : Int) (claimId : JobClaimId) (clocks : Clocks)
    (skipLocked : JobId → Bool) :
    (claimDueJob jobs workerId ttl claimId clocks skipLocked = (jobs, .ok none)) ∨
    ∃ row ∈ jobs, ∃ job, job.claimId = claimId ∧ job.kind = row.kind ∧ job.payload = row.payload ∧
      claimDueJob jobs workerId ttl claimId clocks skipLocked =
        (Table.updateWhere (fun other => other.id == row.id)
          (leaseRow clocks.database workerId claimId) jobs, .ok (some job)) := by
  dsimp only [claimDueJob, leaseSelected]
  split
  · exact .inl rfl
  · rename_i row selected
    have sorted := List.mem_insertionSort RunsBefore |>.mp (List.mem_of_head? selected)
    have member := (List.mem_filter.mp sorted).1
    have nonnegative : ¬row.attempts < 0 := by
      have bound := (valid.valid row member).attempts
      omega
    refine .inr ⟨row, member, ⟨row.id, claimId, row.kind, row.payload, row.attempts.toNat,
      row.createdAt⟩, rfl, rfl, rfl, ?_⟩
    rw [if_neg nonnegative]
    rfl

/-- What workers hold: leases under fresh identities, of rows that agree with them. -/
structure Tracked (state : State) : Prop where
  valid : TableValid state.db.jobs
  addressed : ∀ row ∈ state.db.jobs, Addressed row
  agrees : ∀ row ∈ state.db.jobs, ∀ number execution, state.executions number = some execution →
    row.claimId = some execution.job.claimId →
    row.kind = execution.job.kind ∧ row.payload = execution.job.payload
  rowClaims : ∀ row ∈ state.db.jobs, ∀ claimId, row.claimId = some claimId →
    claimId.value < state.nextClaim
  claims : ∀ number execution, state.executions number = some execution →
    execution.job.claimId.value < state.nextClaim

section

variable {state : State}

private theorem Tracked.derived (tracked : Tracked state) {db : PollDb} {log : List Event}
    (derived : Derived state.db.jobs db.jobs) :
    Tracked { state with db := db, log := log } where
  valid := derived.valid
  addressed row member := by
    rcases derived.rows row member with ⟨earlier, old, kind, payload, key, _⟩ | ⟨addressed, _⟩
    · have before := tracked.addressed earlier old
      unfold Addressed at before ⊢
      rw [kind, payload, key]
      exact before
    · exact addressed
  agrees row member number execution found claimed := by
    rcases derived.rows row member with ⟨earlier, old, kind, payload, _, claim⟩ | ⟨_, unclaimed⟩
    · rcases claim with none | same
      · rw [none] at claimed
        cases claimed
      · rw [kind, payload]
        exact tracked.agrees earlier old number execution found (same ▸ claimed)
    · rw [unclaimed] at claimed
      cases claimed
  rowClaims row member claimId claimed := by
    rcases derived.rows row member with ⟨earlier, old, _, _, _, claim⟩ | ⟨_, unclaimed⟩
    · rcases claim with none | same
      · rw [none] at claimed
        cases claimed
      · exact tracked.rowClaims earlier old claimId (same ▸ claimed)
    · rw [unclaimed] at claimed
      cases claimed
  claims := tracked.claims

private theorem Tracked.proceed (tracked : Tracked state) {number : Nat} {execution : Execution}
    (found : state.executions number = some execution) (progress : Progress) :
    Tracked (state.setExecution number { execution with progress := progress }) := by
  have same : ∀ other held, (state.setExecution number
      { execution with progress := progress }).executions other = some held →
      ∃ before, state.executions other = some before ∧ held.job = before.job := by
    intro other held isHeld
    dsimp only [State.setExecution] at isHeld
    rw [Function.update_apply] at isHeld
    split at isHeld
    · rename_i sameNumber
      cases isHeld
      exact ⟨execution, sameNumber ▸ found, rfl⟩
    · exact ⟨held, isHeld, rfl⟩
  refine ⟨tracked.valid, tracked.addressed, ?_, tracked.rowClaims, ?_⟩
  · intro row member other held isHeld claimed
    obtain ⟨before, isBefore, sameJob⟩ := same other held isHeld
    rw [sameJob] at claimed ⊢
    exact tracked.agrees row member other before isBefore claimed
  · intro other held isHeld
    obtain ⟨before, isBefore, sameJob⟩ := same other held isHeld
    rw [sameJob]
    exact tracked.claims other before isBefore

private theorem Tracked.claim (tracked : Tracked state) {number : Nat} {row : JobRow}
    (member : row ∈ state.db.jobs) {job : ClaimedJob} (claimId : job.claimId = ⟨state.nextClaim⟩)
    (kind : job.kind = row.kind) (payload : job.payload = row.payload) {now : Int}
    {workerId : String} {jobs : List JobRow}
    (leases : jobs = Table.updateWhere (fun other => other.id == row.id)
      (leaseRow now workerId ⟨state.nextClaim⟩) state.db.jobs) (valid : TableValid jobs) :
    Tracked ({ state.withJobs jobs with nextClaim := state.nextClaim + 1 }.setExecution number
      ⟨job, .claimed⟩) := by
  have row_cases : ∀ other ∈ jobs, other ∈ state.db.jobs ∨
      other = leaseRow now workerId ⟨state.nextClaim⟩ row := by
    intro other otherMember
    rw [leases] at otherMember
    rcases Table.mem_updateWhere.mp otherMember with ⟨old, _⟩ | ⟨earlier, old, chosen, rfl⟩
    · exact .inl old
    · rw [tracked.valid.eq_of_id old member (by simpa using chosen)]
      exact .inr rfl
  have execution_cases : ∀ other held,
      Function.update state.executions number (some ⟨job, .claimed⟩) other = some held →
      held.job = job ∨ state.executions other = some held := by
    intro other held isHeld
    rw [Function.update_apply] at isHeld
    split at isHeld
    · cases isHeld
      exact .inl rfl
    · exact .inr isHeld
  refine ⟨valid, ?_, ?_, ?_, ?_⟩
  · intro other otherMember
    rcases row_cases other otherMember with old | rfl
    · exact tracked.addressed other old
    · have addressed := tracked.addressed row member
      exact addressed
  · intro other otherMember third held isHeld claimed
    rcases row_cases other otherMember with old | rfl
    · rcases execution_cases third held isHeld with new | old'
      · have bound := tracked.rowClaims other old _ claimed
        rw [new, claimId] at bound
        exact (Nat.lt_irrefl _ bound).elim
      · exact tracked.agrees other old third held old' claimed
    · rcases execution_cases third held isHeld with new | old'
      · rw [new, kind, payload]
        exact ⟨rfl, rfl⟩
      · have bound := tracked.claims third held old'
        have same : (⟨state.nextClaim⟩ : JobClaimId) = held.job.claimId := Option.some.inj claimed
        rw [← same] at bound
        exact (Nat.lt_irrefl _ bound).elim
  · intro other otherMember claim claimed
    rcases row_cases other otherMember with old | rfl
    · exact Nat.lt_succ_of_lt (tracked.rowClaims other old claim claimed)
    · have same : (⟨state.nextClaim⟩ : JobClaimId) = claim := Option.some.inj claimed
      rw [← same]
      exact Nat.lt_succ_self _
  · intro other held isHeld
    rcases execution_cases other held isHeld with new | old
    · rw [new, claimId]
      exact Nat.lt_succ_self _
    · exact Nat.lt_succ_of_lt (tracked.claims other held old)

end

/-!
## Updates
-/

def ReadIn (state : State) (events : List Event) (poll : String) : Prop :=
  ∃ number execution, .read poll number ∈ events ∧ state.executions number = some execution ∧
    execution.progress = .completed

/-- Every vote is followed by a reading of its poll, or the job of the poll is pending. -/
def Updated (state : State) : Prop :=
  ∀ later pollId earlier, state.log = later ++ .voted pollId :: earlier →
    ReadIn state later (Text.uuidText pollId) ∨ Pending state.db.jobs (Text.uuidText pollId)

/-- A vote in the poll has been committed since an execution has last read it. -/
def votedSince (number : Nat) (poll : String) : List Event → Bool
  | [] => false
  | .read other execution :: rest =>
      if execution = number ∧ other = poll then false else votedSince number poll rest
  | .voted pollId :: rest => Text.uuidText pollId == poll || votedSince number poll rest

/-- A worker that still owns its lease completes the job of a poll only if no vote has
been committed since it has read the poll. A remote vote has found the totals hidden
only if they are. -/
def InTime (state : State) : Action → Prop
  | .remoteVote _ found _ _ _ => found.hideTotals = true →
      ∀ row ∈ state.db.polls, row.id = found.id → row.hideTotals = true
  | .complete number _ => ∀ execution ∈ state.executions number,
      execution.job.kind = .pollUpdate → state.db.jobs.any (leasedBy execution.job) = true →
      ∀ poll ∈ pollJobPayload execution.job.payload, votedSince number poll state.log = false
  | _ => True

theorem read_of_not_votedSince {number : Nat} {poll : String} {later earlier : List Event}
    {pollId : Nat} (samePoll : Text.uuidText pollId = poll)
    (unvoted : votedSince number poll (later ++ .voted pollId :: earlier) = false) :
    .read poll number ∈ later := by
  induction later with
  | nil => simp [votedSince, samePoll] at unvoted
  | cons event later ih =>
      cases event with
      | voted other =>
          simp only [List.cons_append, votedSince, Bool.or_eq_false_iff] at unvoted
          exact List.mem_cons_of_mem _ (ih unvoted.2)
      | read other execution =>
          simp only [List.cons_append, votedSince] at unvoted
          split at unvoted
          · rename_i same
            rw [same.1, same.2]
            exact List.mem_cons_self
          · exact List.mem_cons_of_mem _ (ih unvoted)

section

variable {state next : State}

private theorem ReadIn.mono {events more : List Event} {poll : String}
    (read : ReadIn state events poll) (included : events ⊆ more)
    (completed : ∀ number execution, state.executions number = some execution →
      execution.progress = .completed → next.executions number = some execution) :
    ReadIn next more poll := by
  obtain ⟨number, execution, member, found, done⟩ := read
  exact ⟨number, execution, included member, completed number execution found done, done⟩

private theorem Updated.keeps (updated : Updated state) (events : List Event)
    (log : next.log = events ++ state.log) (unvoted : ∀ pollId, .voted pollId ∉ events)
    (pending : ∀ poll, Pending state.db.jobs poll → Pending next.db.jobs poll)
    (completed : ∀ number execution, state.executions number = some execution →
      execution.progress = .completed → next.executions number = some execution) :
    Updated next := by
  intro later pollId earlier split
  rw [log] at split
  rcases List.append_eq_append_iff.mp split with ⟨rest, isLater, isLog⟩ | ⟨rest, isEvents, isLog⟩
  · refine (updated rest pollId earlier isLog).imp (fun read => ?_) (pending _)
    rw [isLater]
    exact read.mono (List.subset_append_right events rest) completed
  · cases rest with
    | nil =>
        rw [List.append_nil] at isEvents
        rw [List.nil_append] at isLog
        refine (updated [] pollId earlier isLog.symm).imp (fun read => ?_) (pending _)
        exact read.mono (List.nil_subset later) completed
    | cons event rest =>
        cases isLog
        refine (unvoted pollId ?_).elim
        rw [isEvents]
        exact List.mem_append_right _ List.mem_cons_self

structure Sound (state : State) : Prop where
  tracked : Tracked state
  updated : Updated state

private theorem Sound.keeps (sound : Sound state) {db : PollDb}
    (kept : Keeps state.db.jobs db.jobs) : Sound { state with db := db } where
  tracked := sound.tracked.derived kept.toDerived
  updated := sound.updated.keeps [] (List.nil_append _).symm (fun _ => List.not_mem_nil)
    kept.pending (fun _ _ found _ => found)

private theorem Sound.commits {ε α : Type} (sound : Sound state)
    {result : Except ε (PollDb × α)}
    (kept : ∀ db value, result = .ok (db, value) → Keeps state.db.jobs db.jobs)
    (success : state.commits result = some next) : Sound next := by
  cases result with
  | error error => cases success
  | ok value =>
      cases success
      exact sound.keeps (kept value.1 value.2 rfl)

private theorem Sound.commitsVote (sound : Sound state)
    {result : Except PollVoteError (PollDb × StatusPoll)}
    (kept : ∀ db poll, result = .ok (db, poll) → Keeps state.db.jobs db.jobs ∧
      ((isLocal poll.status && !poll.hideTotals) = true →
        Pending db.jobs (Text.uuidText poll.id)))
    (success : state.commitsVote result = some next) : Sound next := by
  cases result with
  | error error => cases success
  | ok value =>
      obtain ⟨db, poll⟩ := value
      obtain ⟨keeps, pending⟩ := kept db poll rfl
      cases success
      refine ⟨sound.tracked.derived keeps.toDerived, ?_⟩
      intro later pollId earlier isLog
      dsimp only at isLog ⊢
      split at isLog
      · rename_i visible
        cases later with
        | nil =>
            cases isLog
            exact .inr (pending visible)
        | cons event later =>
            obtain ⟨rfl, rest⟩ := List.cons.inj isLog
            refine (sound.updated later pollId earlier rest).imp (fun read => ?_)
              (keeps.pending _)
            exact read.mono (List.subset_cons_self _ _) (fun _ _ found _ => found)
      · refine (sound.updated later pollId earlier isLog).imp (fun read => ?_) (keeps.pending _)
        exact read.mono (fun _ => id) (fun _ _ found _ => found)

private theorem completed_setExecution {number : Nat} {execution after : Execution}
    (found : state.executions number = some execution)
    (unfinished : execution.progress ≠ .completed) (other : Nat) (held : Execution)
    (isHeld : state.executions other = some held) (done : held.progress = .completed) :
    (state.setExecution number after).executions other = some held := by
  have different : other ≠ number := by
    rintro rfl
    cases found.symm.trans isHeld
    exact unfinished done
  exact (Function.update_of_ne different _ _).trans isHeld

private theorem Sound.claim (sound : Sound state) {number : Nat} {workerId : String}
    {clocks : Clocks} {skipLocked : JobId → Bool} (fresh : state.executions number = none)
    (success : claimStep state number workerId clocks skipLocked = some next) : Sound next := by
  have tracked := sound.tracked
  have transition := step_transition tracked.valid.keyed
    (.claimDue workerId claimTtl ⟨state.nextClaim⟩ clocks skipLocked)
  have pending : ∀ poll, Pending state.db.jobs poll → Pending (claimDueJob state.db.jobs workerId
      claimTtl ⟨state.nextClaim⟩ clocks skipLocked).1 poll := by
    intro poll isPending
    rcases pending_of_transition tracked.valid transition isPending with kept | ⟨_, _, _, handle, _⟩
    · exact kept
    · cases handle
  have valid := transition.tableValid tracked.valid
  dsimp only [queue] at valid
  unfold claimStep at success
  rcases claimDueJob_leases tracked.valid workerId claimTtl ⟨state.nextClaim⟩ clocks skipLocked with
    idle | ⟨row, member, job, claimId, kind, payload, leases⟩
  · rw [idle] at success pending
    cases success
    refine ⟨⟨tracked.valid, tracked.addressed, tracked.agrees, ?_, ?_⟩, ?_⟩
    · intro row member claimId claimed
      exact Nat.lt_succ_of_lt (tracked.rowClaims row member claimId claimed)
    · intro other held isHeld
      exact Nat.lt_succ_of_lt (tracked.claims other held isHeld)
    · exact sound.updated.keeps [] (List.nil_append _).symm (fun _ => List.not_mem_nil) pending
        (fun _ _ found _ => found)
  · rw [leases] at success pending valid
    cases success
    refine ⟨tracked.claim member claimId kind payload rfl valid, ?_⟩
    refine sound.updated.keeps [] (List.nil_append _).symm (fun _ => List.not_mem_nil) pending ?_
    intro other held isHeld _
    have different : other ≠ number := by
      rintro rfl
      cases fresh.symm.trans isHeld
    exact (Function.update_of_ne different _ _).trans isHeld

private theorem Sound.read (sound : Sound state) {number : Nat} {execution : Execution}
    (found : state.executions number = some execution)
    (success : readStep state number execution = some next) : Sound next := by
  have reading : ∀ poll, execution.progress ≠ .completed →
      Sound ({ state with log := .read poll number :: state.log }.setExecution number
        { execution with progress := .read }) := by
    intro poll unfinished
    have logged : Tracked { state with log := .read poll number :: state.log } :=
      sound.tracked.derived (Derived.refl sound.tracked.valid)
    refine ⟨logged.proceed found .read, ?_⟩
    refine sound.updated.keeps [.read poll number] rfl ?_ (fun _ => id) ?_
    · intro pollId member
      cases List.mem_singleton.mp member
    · exact completed_setExecution found unfinished
  unfold readStep at success
  split at success
  · rename_i poll _ claimed _
    cases success
    exact reading poll (by rw [claimed]; intro done; cases done)
  · rename_i poll _ read _
    cases success
    exact reading poll (by rw [read]; intro done; cases done)
  · cases success

private theorem Sound.finish (sound : Sound state) {number : Nat} {execution : Execution}
    {call : Job.Call} {reply : Reply} {jobs : List JobRow} {progress : Progress}
    (found : state.executions number = some execution)
    (unfinished : execution.progress ≠ .completed)
    (transition : Transition state.db.jobs call reply jobs)
    (handle : call.handle? = some execution.job)
    (ended : execution.job.kind = .pollUpdate →
      (∀ clocks error, call ≠ .failed clocks execution.job error) →
      state.db.jobs.any (leasedBy execution.job) = true →
      progress = .completed ∧
        ∀ poll, pollJobPayload execution.job.payload = some poll →
          votedSince number poll state.log = false) :
    Sound ((state.withJobs jobs).setExecution number { execution with progress := progress }) := by
  have tracked := sound.tracked
  have unclaimed : call.claimId? = none := by
    cases call with
    | claimDue | claimDueByKey => cases handle
    | _ => rfl
  have derived : Derived state.db.jobs jobs := by
    refine derived_of_transition tracked.valid transition unclaimed ?_
    rintro jobId clocks job rfl
    cases handle
  have moved : Tracked (state.withJobs jobs) := tracked.derived derived
  refine ⟨moved.proceed found progress, ?_⟩
  intro later pollId earlier isLog
  rcases sound.updated later pollId earlier isLog with read | pending
  · exact .inl (read.mono (fun _ => id) (completed_setExecution found unfinished))
  · rcases pending_of_transition tracked.valid transition pending with
      kept | ⟨job, row, member, isHandle, leased, kind, key, untried⟩
    · exact .inr kept
    · -- The job of the poll ends with this statement: its execution has read the poll.
      cases handle.symm.trans isHandle
      have claimed : row.claimId = some execution.job.claimId := by
        simp only [leasedBy, Bool.and_eq_true, beq_iff_eq] at leased
        exact leased.2
      obtain ⟨sameKind, samePayload⟩ := tracked.agrees row member number execution found claimed
      obtain ⟨_, address⟩ := tracked.addressed row member kind
      obtain ⟨done, unvoted⟩ := ended (sameKind.symm.trans kind) untried
        (List.any_eq_true.mpr ⟨row, member, leased⟩)
      have named : pollJobPayload execution.job.payload = some (Text.uuidText pollId) := by
        rw [← samePayload, address, key]
      have unvotedSince := unvoted _ named
      change state.log = _ at isLog
      rw [isLog] at unvotedSince
      refine .inl ⟨number, _, read_of_not_votedSince rfl unvotedSince,
        Function.update_self _ _ _, done⟩

private theorem Sound.complete (sound : Sound state) {number : Nat} {execution : Execution}
    {clocks : Clocks} (found : state.executions number = some execution)
    (inTime : InTime state (.complete number clocks))
    (success : completeStep state number execution clocks = some next) : Sound next := by
  unfold completeStep at success
  split at success
  · rename_i running
    cases success
    have transition := step_transition sound.tracked.valid.keyed (.completed clocks execution.job)
    refine sound.finish found ?_ transition rfl ?_
    · intro done
      rw [done] at running
      rcases running with read | ⟨claimed, _⟩
      · cases read
      · cases claimed
    · intro kind _ owned
      refine ⟨?_, fun poll named => inTime execution found kind owned poll named⟩
      -- One row has the lease, so that the completion is accepted.
      obtain ⟨row, member, leased⟩ := List.any_eq_true.mp owned
      have one := sound.tracked.valid.primaryKey.affected_eq_one execution.job.id
        (fun other _ otherLeased => by simp_all [leasedBy]) member leased
      rw [markJobCompleted, one]
      rfl
  · cases success

private theorem Sound.fail (sound : Sound state) {number : Nat} {execution : Execution}
    {clocks : Clocks} {error : String} {permanent : Bool}
    (found : state.executions number = some execution)
    (success : failStep state number execution clocks error permanent = some next) :
    Sound next := by
  unfold failStep at success
  split at success
  · rename_i running
    cases success
    have unfinished : execution.progress ≠ .completed := by
      intro done
      rw [done] at running
      rcases running with read | claimed
      · cases read
      · cases claimed
    split
    · rename_i federation
      have transition := step_transition sound.tracked.valid.keyed
        (.permanentlyFailed clocks execution.job error)
      refine sound.finish found unfinished transition rfl ?_
      intro kind
      rw [kind] at federation
      cases federation
    · have transition := step_transition sound.tracked.valid.keyed (.failed clocks execution.job error)
      refine sound.finish found unfinished transition rfl ?_
      intro _ untried
      exact (untried clocks error rfl).elim
  · cases success

private theorem Sound.step {segmentation : Segmentation} {action : Action} (sound : Sound state)
    (inTime : InTime state action)
    (success : updateStep segmentation state action = some next) : Sound next := by
  have valid := sound.tracked.valid
  cases action with
  | create context statusId input =>
      exact sound.commits (fun _ _ created => createLocalPoll_keeps valid created) success
  | replace context statusId input =>
      exact sound.commits (fun _ _ replaced => replaceLocalPoll_keeps valid replaced) success
  | upsertRemote context statusId input =>
      exact sound.commits (fun _ _ stored => upsertRemotePoll_keeps valid stored) success
  | vote context pollId accountId choices delivery =>
      exact sound.commitsVote (fun _ _ voted => votePoll_keeps valid voted) success
  | remoteVote context poll actorId choice activitypubId =>
      exact sound.commitsVote (fun _ _ voted => inboundPollVote_keeps valid inTime voted) success
  | expire context pollId =>
      exact sound.commits (fun _ _ expired => expirePollJob_keeps valid expired) success
  | enqueue jobId clocks job =>
      dsimp only [updateStep] at success
      split at success
      · cases success
      · rename_i other
        cases success
        exact sound.keeps (enqueue_keeps valid jobId clocks job fun kind => (other kind).elim)
  | claim number workerId clocks skipLocked =>
      dsimp only [updateStep] at success
      split at success
      · cases success
      · rename_i fresh
        exact sound.claim fresh success
  | read number =>
      obtain ⟨execution, found, success⟩ := Option.bind_eq_some_iff.mp success
      exact sound.read found success
  | complete number clocks =>
      obtain ⟨execution, found, success⟩ := Option.bind_eq_some_iff.mp success
      exact sound.complete found inTime success
  | fail number clocks error permanent =>
      obtain ⟨execution, found, success⟩ := Option.bind_eq_some_iff.mp success
      exact sound.fail found success
  | cleanup clocks successful permanent batchSize skipLocked =>
      cases success
      have transition := step_transition valid.keyed
        (.cleanup clocks successful permanent batchSize skipLocked)
      refine sound.keeps ⟨derived_of_transition valid transition rfl ?_, fun poll pending => ?_⟩
      · intro _ _ _ same
        cases same
      · rcases pending_of_transition valid transition pending with kept | ⟨_, _, _, handle, _⟩
        · exact kept
        · cases handle

end

/-!
## Runs
-/

private theorem initial_sound (localStatuses remoteStatuses : List (StatusId × AccountId)) :
    Sound (initial localStatuses remoteStatuses) where
  tracked := {
    valid := tableValid_nil
    addressed := fun _ member => by cases member
    agrees := fun _ member => by cases member
    rowClaims := fun _ member => by cases member
    claims := fun _ _ found => by cases found }
  updated later pollId earlier isLog := by
    cases later <;> cases isLog

/-- After every run, each committed vote in a local poll with visible totals has been
followed by a completed poll-update job that has read the poll after it, or the job is
pending, if no vote comes between the reading and the completion of the job. -/
theorem vote_updated {segmentation : Segmentation}
    {localStatuses remoteStatuses : List (StatusId × AccountId)} {actions : List Action}
    (inTime : ∀ before action after, actions = before ++ action :: after →
      InTime ((updates segmentation).run (initial localStatuses remoteStatuses) before) action) :
    Updated ((updates segmentation).run (initial localStatuses remoteStatuses) actions) := by
  have sound := (updates segmentation).history_invariant (initial localStatuses remoteStatuses)
    (fun actions => ∀ before action after, actions = before ++ action :: after →
      InTime ((updates segmentation).run (initial localStatuses remoteStatuses) before) action)
    ?_ (fun _ => Sound) (initial_sound localStatuses remoteStatuses) ?_ inTime
  · exact sound.updated
  · intro actions action inTime before next after same
    exact inTime before next (after ++ [action]) (by rw [same]; simp)
  · intro actions action inTime sound
    have allowed := inTime actions action [] rfl
    dsimp only [updates] at allowed sound ⊢
    split
    · rename_i next success
      exact sound.step allowed success
    · exact sound

/-!
## A poll with two votes
-/

instance (state : State) (action : Action) : Decidable (InTime state action) :=
  match action with
  | .remoteVote _ _ _ _ _ => inferInstanceAs (Decidable (_ → ∀ row ∈ state.db.polls, _ → _))
  | .complete number _ =>
      inferInstanceAs (Decidable (∀ execution ∈ state.executions number, _ → _ →
        ∀ poll ∈ pollJobPayload execution.job.payload, _))
  | .create _ _ _ | .replace _ _ _ | .upsertRemote _ _ _ | .vote _ _ _ _ _ | .expire _ _
  | .enqueue _ _ _ | .claim _ _ _ _ | .read _ | .fail _ _ _ _ | .cleanup _ _ _ _ _ =>
      inferInstanceAs (Decidable True)

namespace TwoVotes

def segmentation : Segmentation := ⟨String.length⟩

def start : State := initial [(⟨1⟩, ⟨1⟩)] []

/-- The clock is in microseconds; each operation generates its own identifiers. -/
def context (now : Int) (id : Nat) : Context := ⟨now, 1, ⟨id⟩, fun _ => id⟩

def delivery : NewJob := ⟨.federationPollVoteDelivery, .null, none, 0⟩

def found : StatusPoll :=
  ⟨1, .localStatus ⟨1⟩, false, false, some 300000000, none, some 1,
    [⟨0, "yes", 1⟩, ⟨1, "no", 0⟩], 1000⟩

def opened : List Action :=
  [.create (context 0 1) ⟨1⟩ ⟨["yes", "no"], 300, false, false⟩,
    .vote (context 1000 2) 1 ⟨7⟩ [0] delivery,
    .claim 0 "worker" ⟨200000000, 200000000⟩ fun _ => false]

def remoteVote : Action :=
  .remoteVote (context 200000001 3) found ⟨8⟩ 1 "https://remote.example/votes/1"

/-- The second vote is committed before the poll is read. -/
def inTime : List Action :=
  opened ++ [remoteVote, .read 0, .complete 0 ⟨200000003, 200000003⟩]

/-- The second vote is committed after the poll is read, and before the job is completed. -/
def late : List Action :=
  opened ++ [.read 0, remoteVote, .complete 0 ⟨200000003, 200000003⟩]

private theorem inTime_of_get {actions : List Action}
    (checked : ∀ index : Fin actions.length,
      InTime ((updates segmentation).run start (actions.take index)) (actions.get index)) :
    ∀ before action after, actions = before ++ action :: after →
      InTime ((updates segmentation).run start before) action := by
  rintro before action after rfl
  have at_ := checked ⟨before.length, by simp⟩
  simpa using at_

end TwoVotes

open TwoVotes in
theorem vote_updated_in_time :
    Updated ((updates segmentation).run start inTime) ∧
      ((updates segmentation).run start inTime).log =
        [.read (Text.uuidText 1) 0, .voted 1, .voted 1] := by
  have checked := inTime_of_get (by decide +kernel : ∀ index : Fin inTime.length,
    InTime ((updates segmentation).run start (inTime.take index)) (inTime.get index))
  exact ⟨vote_updated checked, by decide +kernel⟩

open TwoVotes in
/-- The vote finds the job that is running, which completes with the tally before it. -/
theorem vote_not_updated : ¬Updated ((updates segmentation).run start late) := by
  intro updated
  have isLog : ((updates segmentation).run start late).log =
      [.voted 1, .read (Text.uuidText 1) 0, .voted 1] := by decide +kernel
  have noJob : ¬∃ row ∈ ((updates segmentation).run start late).db.jobs,
      row.kind = .pollUpdate ∧ row.completedAt = none := by decide +kernel
  rcases updated [] 1 _ isLog with ⟨_, _, member, _⟩ | ⟨row, member, kind, _, active⟩
  · cases member
  · exact noJob ⟨row, member, kind, active⟩

end Roosty.Poll
