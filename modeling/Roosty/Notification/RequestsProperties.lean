import Mathlib.Algebra.Group.Nat.Defs
import Roosty.Notification.Requests

/-!
# Accepted requests and their merge jobs

Accepting a request queues the merge job of the account, or reuses the one that is already
active. An active job that has executed its merge is reused as well, and completes without
the request. Apart from that, every accepted request waits for a job.
-/

set_option autoImplicit false

namespace Roosty.Notification

open Library Job

/-!
## Legal runs
-/

def Call.jobId? : Call → Option JobId
  | .accept _ jobId _ _ => some jobId
  | .dismiss _ jobId _ _ => some jobId
  | .queue (.enqueue jobId _ _) => some jobId
  | _ => none

def Call.job? : Call → Option ClaimedJob
  | .runMerge job => some job
  | .runCleanup job => some job
  | .queue call => call.handle?
  | _ => none

/-- Job identifiers are new, workers use the jobs they were handed, only accepted requests
queue merges, and a worker completes a merge job after executing it. -/
structure Legal (state : State) (call : Call) : Prop where
  bounded : ∀ now jobId account requestIds, call = .accept now jobId account requestIds →
    account.value < 2 ^ 128
  fresh : ∀ jobId, call.jobId? = some jobId → ∀ job ∈ state.claimed, job.id ≠ jobId
  held : ∀ job, call.job? = some job → job ∈ state.claimed
  merge : ∀ job, call = .runMerge job → job.kind = .notificationRequestMerge
  queued : ∀ jobId clocks job, call = .queue (.enqueue jobId clocks job) →
    job.kind ≠ .notificationRequestMerge
  executed : ∀ queueCall job, call = .queue queueCall → queueCall.completes? = some job →
    job.kind = .notificationRequestMerge → job.id ∈ state.executed

/-- Nothing has been accepted and no merge is queued. -/
structure Begins (state : State) : Prop where
  requests : (state.db.requests.map NotificationRequest.id).Nodup
  senders : Table.UniqueOn activeSender state.db.requests
  notifications : (state.db.notifications.map LocalNotification.id).Nodup
  unaccepted : ∀ request ∈ state.db.requests, request.state ≠ .merging
  jobs : TableValid state.db.jobs
  unqueued : ∀ row ∈ state.db.jobs, row.kind = .notificationRequestMerge →
    row.completedAt.isSome = true
  unclaimed : state.claimed = []
  unexecuted : state.executed = []

def MergeJob (account : AccountId) (row : JobRow) : Prop :=
  row.kind = .notificationRequestMerge ∧ row.payload = mergePayload account ∧
    row.completedAt = none

def Awaits (state : State) (account : AccountId) : Prop :=
  ∃ row ∈ state.db.jobs, MergeJob account row ∧ row.id ∉ state.executed

def NoneStranded (state : State) : Prop :=
  ∀ request ∈ state.db.requests, request.state = .merging → Awaits state request.accountId

def Idle (state : State) (account : AccountId) : Prop :=
  ∀ row ∈ state.db.jobs, ¬MergeJob account row

/-- In every state of the run, each accepted request waits for a merge job; when the jobs of
an account have run, nothing is left to merge, and the notifications of the requests that it
accepted are visible. -/
structure Served (start : State) (calls : List Call) : Prop where
  stranded : ∀ before after, calls = before ++ after → NoneStranded (lifecycle.run start before)
  visible : ∀ before after, calls = before ++ after →
    ∀ request ∈ (lifecycle.run start before).db.requests, request.state = .merging →
    ∀ row ∈ (lifecycle.run start before).db.notifications,
      row.notificationRequestId = some request.id →
      Idle (lifecycle.run start calls) request.accountId →
        notificationRequestsMerged (lifecycle.run start calls).db request.accountId = true ∧
          ∃ shown ∈ (lifecycle.run start calls).db.notifications, shown.id = row.id ∧
            shown.filtered = false

/-- No request is accepted between the merge of a running job and its completion. -/
def Separated (state : State) (call : Call) : Prop :=
  ∀ now jobId account requestIds, call = .accept now jobId account requestIds →
    (pendingRequests state.db.requests account requestIds).isSome = true →
    ∀ row ∈ state.db.jobs, MergeJob account row → row.id ∉ state.executed

/-!
## Notifications
-/

structure Extends (db next : Db) : Prop where
  jobs : next.jobs = db.jobs
  requestIds : (db.requests.map NotificationRequest.id).Nodup →
    (next.requests.map NotificationRequest.id).Nodup
  senders : Table.UniqueOn activeSender db.requests → Table.UniqueOn activeSender next.requests
  notificationIds : (db.notifications.map LocalNotification.id).Nodup →
    (next.notifications.map LocalNotification.id).Nodup
  merging : ∀ request ∈ next.requests, request.state = .merging →
    ∃ old ∈ db.requests, old.accountId = request.accountId ∧ old.state = .merging
  requests : ∀ old ∈ db.requests, ∃ request ∈ next.requests,
    request.id = old.id ∧ request.accountId = old.accountId ∧ request.state = old.state
  notifications : ∀ row ∈ db.notifications,
    (row.filtered = true → row.notificationRequestId.isSome = true) → row ∈ next.notifications

theorem Extends.refl (db : Db) : Extends db db where
  jobs := rfl
  requestIds := id
  senders := id
  notificationIds := id
  merging := fun request member merging => ⟨request, member, rfl, merging⟩
  requests := fun old member => ⟨old, member, rfl, rfl, rfl⟩
  notifications := fun _ member _ => member

theorem Extends.trans {db middle next : Db} (first : Extends db middle)
    (second : Extends middle next) : Extends db next where
  jobs := second.jobs.trans first.jobs
  requestIds := second.requestIds ∘ first.requestIds
  senders := second.senders ∘ first.senders
  notificationIds := second.notificationIds ∘ first.notificationIds
  merging := by
    intro request member merging
    obtain ⟨between, known, account, state⟩ := second.merging request member merging
    obtain ⟨old, earlier, same, oldState⟩ := first.merging between known state
    exact ⟨old, earlier, same.trans account, oldState⟩
  requests := by
    intro old member
    obtain ⟨between, known, id_, account, state⟩ := first.requests old member
    obtain ⟨request, later, sameId, sameAccount, sameState⟩ := second.requests between known
    exact ⟨request, later, sameId.trans id_, sameAccount.trans account, sameState.trans state⟩
  notifications := fun row member kept =>
    second.notifications row (first.notifications row member kept) kept

theorem insertNotification_extends {db next : Db} {row : LocalNotification}
    (success : insertNotification db row = .ok next) : Extends db next := by
  obtain ⟨free, success⟩ := guard_ok success
  cases success
  refine { Extends.refl db with notificationIds := fun unique => ?_, notifications := ?_ }
  · rw [List.map_append, List.map_singleton]
    refine List.nodup_append.mpr ⟨unique, List.nodup_singleton _, ?_⟩
    intro first firstMember second secondMember same
    obtain ⟨other, known, rfl⟩ := List.mem_map.mp firstMember
    refine free (List.any_eq_true.mpr ⟨other, known, ?_⟩)
    rw [same, List.mem_singleton.mp secondMember]
    exact beq_self_eq_true _
  · exact fun _ member _ => List.mem_append_left _ member

private theorem saveRequest_extends {db : Db} {setting : Setting} {accountId : AccountId}
    {actor : NotificationActor} {statusId : StatusId}
    {saved : List NotificationRequest × RequestId}
    (success : saveRequest db.requests setting accountId actor statusId = .ok saved) :
    Extends db { db with requests := saved.1 } := by
  unfold saveRequest at success
  split at success
  next active found =>
    cases success
    refine { Extends.refl db with
      requestIds := fun unique => ?_, senders := fun unique => ?_, merging := ?_, requests := ?_ }
    · rwa [Table.map_updateWhere (by intros; rfl)]
    · exact unique.updateWhere fun _ _ _ => .inl rfl
    · intro request member merging
      rcases Table.mem_updateWhere.mp member with ⟨old, _⟩ | ⟨before, old, _, rfl⟩
      · exact ⟨request, old, rfl, merging⟩
      · exact ⟨before, old, rfl, merging⟩
    · intro old member
      by_cases same : old.id = active.id
      · exact ⟨_, Table.mem_updateWhere.mpr (.inr ⟨old, member, by simp [same], rfl⟩), rfl, rfl, rfl⟩
      · exact ⟨old, Table.mem_updateWhere.mpr (.inl ⟨member, by simp [same]⟩), rfl, rfl, rfl⟩
  next inactive =>
    obtain ⟨free, success⟩ := guard_ok success
    cases success
    refine { Extends.refl db with
      requestIds := fun unique => ?_, senders := fun unique => ?_, merging := ?_, requests := ?_ }
    · rw [List.map_append, List.map_singleton]
      refine List.nodup_append.mpr ⟨unique, List.nodup_singleton _, ?_⟩
      intro first firstMember second secondMember same
      obtain ⟨other, known, rfl⟩ := List.mem_map.mp firstMember
      refine free (List.any_eq_true.mpr ⟨other, known, ?_⟩)
      rw [same, List.mem_singleton.mp secondMember]
      exact beq_self_eq_true _
    · refine unique.insert fun sender own other member same => ?_
      have sender_ : (accountId, actor) = sender := Option.some.inj own
      have absent := List.find?_eq_none.mp inactive other member
      simp [activeFor, same, sender_] at absent
    · intro request member merging
      rcases List.mem_append.mp member with old | new
      · exact ⟨request, old, rfl, merging⟩
      · rw [List.mem_singleton.mp new] at merging
        cases merging
    · exact fun old member => ⟨old, List.mem_append_left _ member, rfl, rfl, rfl⟩

theorem upsertNotificationRequest_extends {db : Db} {setting : Setting} {accountId : AccountId}
    {actor : NotificationActor} {statusId : StatusId} {saved : Db × RequestId}
    (success : upsertNotificationRequest db setting accountId actor statusId = .ok saved) :
    Extends db saved.1 := by
  obtain ⟨stored, ran, success⟩ := bind_ok success
  cases success
  refine (saveRequest_extends ran).trans { Extends.refl _ with
    notificationIds := fun unique => ?_, notifications := ?_ }
  · rwa [Table.map_updateWhere (by intros; rfl)]
  · intro row member kept
    refine Table.mem_updateWhere.mpr (.inl ⟨member, ?_⟩)
    -- A filtered notification that has a request does not change it.
    cases filtered : row.filtered with
    | false => simp [unattached, filtered]
    | true =>
        have attached : row.notificationRequestId.isNone = false := by simpa using kept filtered
        simp [unattached, attached]

private theorem openRequest_extends {db : Db} {setting : Setting} {accountId : AccountId}
    {actor : NotificationActor} {action : NotificationPolicyAction} {statusId : StatusId}
    {opened : Db × Option RequestId}
    (success : openRequest db setting accountId actor action statusId = .ok opened) :
    Extends db opened.1 := by
  unfold openRequest at success
  split at success
  · cases upserted : upsertNotificationRequest db setting accountId actor statusId with
    | error error =>
        rw [upserted] at success
        cases success
    | ok result =>
        rw [upserted] at success
        cases success
        exact upsertNotificationRequest_extends upserted
  · cases success
    exact .refl db

private theorem policyRequest_extends {db : Db} {setting : Setting} {accountId : AccountId}
    {notificationType : LocalNotificationType} {actor : NotificationActor}
    {action : NotificationPolicyAction} {statusId : Option StatusId}
    {opened : Db × Option RequestId}
    (success : policyRequest db setting accountId notificationType actor action statusId =
      .ok opened) : Extends db opened.1 := by
  unfold policyRequest at success
  split at success
  · split at success
    · exact openRequest_extends success
    · cases success
      exact .refl db
  · cases success
    exact .refl db

private theorem notifyStatus_extends {db : Db} {setting : Setting} {accountId : AccountId}
    {notificationType : LocalNotificationType} {actor : NotificationActor} {statusId : StatusId}
    {made : Db × Option LocalNotification}
    (success : notifyStatus db setting accountId notificationType actor statusId = .ok made) :
    Extends db made.1 := by
  unfold notifyStatus at success
  dsimp only at success
  split at success
  · cases success
    exact .refl db
  split at success
  · cases success
    exact .refl db
  obtain ⟨opened, ran, success⟩ := bind_ok success
  obtain ⟨stored, inserted, success⟩ := bind_ok success
  cases success
  exact (openRequest_extends ran).trans (insertNotification_extends inserted)

private theorem notifyActive_extends {db : Db} {setting : Setting} {accountId : AccountId}
    {notificationType : LocalNotificationType} {actor : NotificationActor}
    {statusId : Option StatusId} {made : Db × Option LocalNotification}
    (success : notifyActive db setting accountId notificationType actor statusId = .ok made) :
    Extends db made.1 := by
  unfold notifyActive at success
  dsimp only at success
  split at success
  · cases success
    exact .refl db
  · obtain ⟨stored, inserted, success⟩ := bind_ok success
    cases success
    exact insertNotification_extends inserted

private theorem notifyLocalAccountWithPolicy_extends {db : Db} {setting : Setting}
    {accountId actorAccountId : AccountId} {notificationType : LocalNotificationType}
    {statusId : Option StatusId} {made : Db × Option LocalNotification}
    (success : notifyLocalAccountWithPolicy db setting accountId notificationType actorAccountId
      statusId = .ok made) : Extends db made.1 := by
  unfold notifyLocalAccountWithPolicy at success
  dsimp only at success
  split at success
  · cases success
    exact .refl db
  split at success
  · cases ran : notifyLocalAccount db setting accountId notificationType actorAccountId statusId with
    | error error =>
        rw [ran] at success
        cases success
    | ok result =>
        rw [ran] at success
        cases success
        unfold notifyLocalAccount at ran
        dsimp only at ran
        obtain ⟨_, ran⟩ := guard_ok ran
        split at ran
        · cases ran
          exact .refl db
        · obtain ⟨stored, inserted, ran⟩ := bind_ok ran
          cases ran
          exact insertNotification_extends inserted
  split at success
  · cases success
    exact .refl db
  split at success
  · cases success
    exact .refl db
  obtain ⟨opened, ran, success⟩ := bind_ok success
  obtain ⟨stored, inserted, success⟩ := bind_ok success
  cases success
  exact (policyRequest_extends ran).trans (insertNotification_extends inserted)

theorem notify_extends {db : Db} {setting : Setting} {event : Event}
    {made : Db × Option LocalNotification} (success : notify db setting event = .ok made) :
    Extends db made.1 := by
  cases event with
  | localStatusMention | localStatusQuote | remoteStatusMention | remoteActorQuote =>
      simp only [notify, notifyLocalStatusMention, notifyLocalStatusQuote,
        notifyRemoteStatusMention, notifyRemoteActorQuote] at success
      split at success
      · cases success
        exact .refl db
      · exact notifyStatus_extends success
  | remoteActorFollow account actor notificationType =>
      simp only [notify, notifyRemoteActorFollow] at success
      split at success
      · cases success
        exact .refl db
      obtain ⟨_, success⟩ := guard_ok success
      split at success
      · cases success
        exact .refl db
      · exact notifyActive_extends success
  | remoteActorFavourite account actor status =>
      simp only [notify, notifyRemoteActorFavourite] at success
      split at success
      · cases success
        exact .refl db
      split at success
      · cases success
        exact .refl db
      · exact notifyActive_extends success
  | remoteActorReblog account actor status =>
      simp only [notify, notifyRemoteActorReblog] at success
      split at success
      · cases success
        exact .refl db
      split at success
      · cases success
        exact .refl db
      · exact notifyActive_extends success
  | localAccount account notificationType actor status =>
      exact notifyLocalAccountWithPolicy_extends success

/-!
## Accepting and dismissing
-/

theorem pendingRequests_some {requests found : List NotificationRequest} {accountId : AccountId}
    {requestIds : List RequestId}
    (some_ : pendingRequests requests accountId requestIds = some found) :
    (∀ request ∈ found, request ∈ requests ∧ request.accountId = accountId ∧
      request.state = .pending) ∧ ∃ request, request ∈ found := by
  unfold pendingRequests at some_
  dsimp only at some_
  split at some_
  · cases some_
  next all =>
    cases some_
    constructor
    · intro request member
      simp only [List.mem_filter, Bool.and_eq_true, beq_iff_eq] at member
      exact ⟨member.1, member.2.1.1, member.2.1.2⟩
    · push Not at all
      exact List.exists_mem_of_ne_nil _ (by simpa using all.1)

section

variable {stored chosen : List NotificationRequest}

theorem mem_moveTo (unique : (stored.map NotificationRequest.id).Nodup)
    (pending : ∀ request ∈ chosen, request ∈ stored) {state : NotificationRequestState} {now : Int}
    {request : NotificationRequest} :
    request ∈ moveTo state chosen now stored ↔
      (request ∈ stored ∧ request ∉ chosen) ∨
        ∃ old ∈ chosen, { old with state := state, updatedAt := now } = request := by
  have selected : ∀ old ∈ stored,
      (chosen.map NotificationRequest.id).contains old.id = true ↔ old ∈ chosen := by
    intro old member
    rw [List.contains_iff_mem, List.mem_map]
    constructor
    · rintro ⟨other, otherMember, same⟩
      rwa [← List.inj_on_of_nodup_map unique (pending other otherMember) member same]
    · exact fun found => ⟨old, found, rfl⟩
  rw [moveTo, Table.mem_updateWhere]
  constructor
  · rintro (⟨member, kept⟩ | ⟨old, member, moved, rfl⟩)
    · refine .inl ⟨member, fun found => ?_⟩
      rw [(selected request member).mpr found] at kept
      cases kept
    · exact .inr ⟨old, (selected old member).mp moved, rfl⟩
  · rintro (⟨member, other⟩ | ⟨old, found, rfl⟩)
    · refine .inl ⟨member, ?_⟩
      by_contra moved
      exact other ((selected request member).mp (by simpa using moved))
    · exact .inr ⟨old, pending old found, (selected old (pending old found)).mpr found, rfl⟩

private theorem moveTo_ids {state : NotificationRequestState} {now : Int} :
    (moveTo state chosen now stored).map NotificationRequest.id =
      stored.map NotificationRequest.id :=
  Table.map_updateWhere (by intros; rfl)

private theorem moveTo_senders (unique : (stored.map NotificationRequest.id).Nodup)
    (pending : ∀ request ∈ chosen, request ∈ stored ∧ request.state = .pending)
    (senders : Table.UniqueOn activeSender stored) {state : NotificationRequestState} {now : Int} :
    Table.UniqueOn activeSender (moveTo state chosen now stored) := by
  refine senders.updateWhere fun request member moved => ?_
  rw [List.contains_iff_mem, List.mem_map] at moved
  obtain ⟨other, found, same⟩ := moved
  have equal := List.inj_on_of_nodup_map unique (pending other found).1 member same
  subst equal
  cases state with
  | pending | merging => exact .inl (by simp [activeSender, (pending other found).2])
  | dismissed => exact .inr (by simp [activeSender])

end

private theorem mergeKey_injective {left right : AccountId} (leftBounded : left.value < 2 ^ 128)
    (rightBounded : right.value < 2 ^ 128) (same : mergeKey left = mergeKey right) :
    left = right := by
  have values := Text.uuidText_injective leftBounded rightBounded ((String.append_right_inj _).mp same)
  cases left
  cases right
  exact congrArg AccountId.mk values

private theorem mergePayload_injective {left right : AccountId}
    (leftBounded : left.value < 2 ^ 128) (rightBounded : right.value < 2 ^ 128)
    (same : mergePayload left = mergePayload right) : left = right := by
  simp only [mergePayload, Json.object.injEq, List.cons.injEq, Prod.mk.injEq, Json.string.injEq,
    and_true, true_and] at same
  exact mergeKey_injective leftBounded rightBounded (congrArg ("notification-request-merge:" ++ ·) same)

private theorem jobAccount_mergePayload (name : String) {account : AccountId}
    (bounded : account.value < 2 ^ 128) :
    jobAccount name (mergePayload account) = .ok account := by
  have parsed := Text.parseUuid_uuidText bounded
  simp [jobAccount, mergePayload, Json.get?, Json.asStr?, parsed, pure, Except.pure]

/-!
## Jobs
-/

/-- The active merge jobs are those of accounts, and a worker's job is the stored one. -/
structure JobsStored (jobs : List JobRow) (claimed : List ClaimedJob) : Prop where
  valid : TableValid jobs
  queued : ∀ row ∈ jobs, row.kind = .notificationRequestMerge → row.completedAt = none →
    ∃ account : AccountId, account.value < 2 ^ 128 ∧ row.payload = mergePayload account ∧
      row.deduplicationKey = some (mergeKey account)
  held : ∀ job ∈ claimed, ∀ row ∈ jobs, row.id = job.id →
    row.kind = job.kind ∧ row.payload = job.payload

theorem JobsStored.step {jobs : List JobRow} {claimed : List ClaimedJob} {call : Job.Call}
    (stored : JobsStored jobs claimed)
    (queued : ∀ jobId clocks job, call = .enqueue jobId clocks job →
      (∀ handed ∈ claimed, handed.id ≠ jobId) ∧
        (job.kind = .notificationRequestMerge → ∃ account : AccountId, account.value < 2 ^ 128 ∧
          job.payload = mergePayload account ∧ job.deduplicationKey = some (mergeKey account))) :
    JobsStored (Job.queue.step jobs call).1
      ((Job.queue.step jobs call).2.claimed?.toList ++ claimed) where
  valid := step_tableValid jobs call stored.valid
  queued := by
    intro row member kind active
    cases (step_transition stored.valid.keyed call).carried member stored.valid.keyed with
    | @kept before known id_ sameKind payload key open_ _ =>
        obtain ⟨account, bounded, own, named⟩ :=
          stored.queued before known (sameKind ▸ kind) (open_ active)
        exact ⟨account, bounded, payload.trans own, key.trans named⟩
    | @added jobId clocks job enqueue same =>
        subst same
        exact (queued jobId clocks job enqueue).2 kind
  held := by
    intro job handed row member sameId
    have carried := (step_transition stored.valid.keyed call).carried member stored.valid.keyed
    rcases List.mem_append.mp handed with granted | earlier
    · have granted : (Job.queue.step jobs call).2.claimed? = some job := by simpa using granted
      obtain ⟨due, known, dueId, dueKind, duePayload, _⟩ := claimed_due granted
      cases carried with
      | @kept before beforeKnown id_ kind payload _ _ _ =>
          have same : before = due := stored.valid.eq_of_id beforeKnown known
            ((id_.symm.trans sameId).trans dueId)
          subst same
          exact ⟨kind.trans dueKind.symm, payload.trans duePayload.symm⟩
      | added enqueue same =>
          subst enqueue
          cases granted
    · cases carried with
      | @kept before known id_ kind payload _ _ _ =>
          obtain ⟨jobKind, jobPayload⟩ := stored.held job earlier before known (id_.symm.trans sameId)
          exact ⟨kind.trans jobKind, payload.trans jobPayload⟩
      | @added jobId clocks new enqueue same =>
          have own : row.id = jobId := congrArg JobRow.id same
          exact absurd (sameId.symm.trans own) ((queued jobId clocks new enqueue).1 job earlier)

private theorem JobsStored.conflict {jobs : List JobRow} {claimed : List ClaimedJob}
    (stored : JobsStored jobs claimed) {account : AccountId} (bounded : account.value < 2 ^ 128)
    (now : Int) {row : JobRow} (member : row ∈ jobs) :
    conflicting (mergeJob account now) row = true ↔ MergeJob account row := by
  simp only [conflicting, mergeJob, activeKey, Option.isSome_some, Bool.true_and, beq_iff_eq,
    Option.map_some]
  constructor
  · intro conflict
    split at conflict
    next active =>
      obtain ⟨key, named, pair⟩ := Option.map_eq_some_iff.mp conflict
      obtain ⟨kind, sameKey⟩ := Prod.mk.inj pair
      have active : row.completedAt = none := by simpa using active
      obtain ⟨owner, ownerBounded, payload, ownerKey⟩ := stored.queued row member kind active
      have same : owner = account := mergeKey_injective ownerBounded bounded
        (Option.some.inj (ownerKey.symm.trans (named.trans (congrArg some sameKey))))
      exact ⟨kind, same ▸ payload, active⟩
    next => cases conflict
  · rintro ⟨kind, payload, active⟩
    obtain ⟨owner, ownerBounded, own, ownerKey⟩ := stored.queued row member kind active
    have same : owner = account :=
      mergePayload_injective ownerBounded bounded (own.symm.trans payload)
    simp [active, ownerKey, kind, same]

/-!
## The invariant
-/

/-- Keys are unique, accepted requests belong to accounts, and executed jobs were handed to a
worker. -/
structure Stored (state : State) : Prop where
  requests : (state.db.requests.map NotificationRequest.id).Nodup
  senders : Table.UniqueOn activeSender state.db.requests
  notifications : (state.db.notifications.map LocalNotification.id).Nodup
  bounded : ∀ request ∈ state.db.requests, request.state = .merging →
    request.accountId.value < 2 ^ 128
  jobs : JobsStored state.db.jobs state.claimed
  executed : ∀ id ∈ state.executed, ∃ job ∈ state.claimed, job.id = id

theorem Begins.stored {state : State} (begins : Begins state) : Stored state where
  requests := begins.requests
  senders := begins.senders
  notifications := begins.notifications
  bounded := fun request member merging => absurd merging (begins.unaccepted request member)
  jobs := {
    valid := begins.jobs
    queued := by
      intro row member kind active
      have completed := begins.unqueued row member kind
      rw [active] at completed
      cases completed
    held := by
      rw [begins.unclaimed]
      nofun }
  executed := by
    rw [begins.unexecuted]
    nofun

private theorem commit_cases {Value : Type} (state : State)
    (result : Except RoostyError (Db × Value)) :
    (state.commit result).1 = state ∨
      ∃ made, result = .ok made ∧ (state.commit result).1 = { state with db := made.1 } := by
  cases result with
  | error error => exact .inl rfl
  | ok made => exact .inr ⟨made, rfl, rfl⟩

/-- What accepting or dismissing does: nothing, or the pending requests move and a job of the
account is queued. -/
inductive Moves (db : Db) (now : Int) (jobId : JobId) (accountId : AccountId)
    (requestIds : List RequestId) (state : NotificationRequestState) (job : NewJob) : Db → Prop
  | same : Moves db now jobId accountId requestIds state job db
  | moved {found : List NotificationRequest} {queued : JobId} {next : Db}
      (pending : pendingRequests db.requests accountId requestIds = some found)
      (requests : next.requests = moveTo state found now db.requests)
      (notifications : next.notifications = db.notifications)
      (success : (enqueueJobOnConnection db.jobs jobId ⟨now, now⟩ job).2 = .ok queued)
      (jobs : next.jobs = (enqueueJobOnConnection db.jobs jobId ⟨now, now⟩ job).1) :
      Moves db now jobId accountId requestIds state job next

section

variable {db : Db} {now : Int} {jobId : JobId} {accountId : AccountId}
  {requestIds : List RequestId} {made : Db × Bool}

theorem accept_moves
    (success : acceptNotificationRequests db now jobId accountId requestIds = .ok made) :
    Moves db now jobId accountId requestIds .merging (mergeJob accountId now) made.1 := by
  unfold acceptNotificationRequests at success
  split at success
  · cases success
    exact .same
  next found pending =>
    obtain ⟨queued, enqueued, success⟩ := bind_ok success
    cases success
    exact .moved pending rfl rfl enqueued rfl

theorem dismiss_moves
    (success : dismissNotificationRequests db now jobId accountId requestIds = .ok made) :
    Moves db now jobId accountId requestIds .dismissed (cleanupJob accountId now) made.1 := by
  unfold dismissNotificationRequests at success
  split at success
  · cases success
    exact .same
  next found pending =>
    obtain ⟨queued, enqueued, success⟩ := bind_ok success
    cases success
    exact .moved pending rfl rfl enqueued rfl

end

section

variable {state : State}

theorem Stored.extends {next : Db} (stored : Stored state) (extends_ : Extends state.db next) :
    Stored { state with db := next } where
  requests := extends_.requestIds stored.requests
  senders := extends_.senders stored.senders
  notifications := extends_.notificationIds stored.notifications
  bounded := by
    intro request member merging
    obtain ⟨old, known, same, oldMerging⟩ := extends_.merging request member merging
    exact same ▸ stored.bounded old known oldMerging
  jobs := by
    rw [show ({ state with db := next } : State).db.jobs = state.db.jobs from extends_.jobs]
    exact stored.jobs
  executed := stored.executed

private theorem Stored.moves {now : Int} {jobId : JobId} {accountId : AccountId}
    {requestIds : List RequestId} {target : NotificationRequestState} {job : NewJob} {next : Db}
    (stored : Stored state)
    (moves : Moves state.db now jobId accountId requestIds target job next)
    (fresh : ∀ handed ∈ state.claimed, handed.id ≠ jobId)
    (bounded : target = .merging → accountId.value < 2 ^ 128)
    (queued : job.kind = .notificationRequestMerge → ∃ account : AccountId,
      account.value < 2 ^ 128 ∧ job.payload = mergePayload account ∧
        job.deduplicationKey = some (mergeKey account)) :
    Stored { state with db := next } := by
  cases moves with
  | same => exact stored
  | @moved found _ _ pending requests notifications _ jobs =>
      have chosen := (pendingRequests_some pending).1
      refine ⟨?_, ?_, ?_, ?_, ?_, stored.executed⟩
      · rw [show ({ state with db := next } : State).db.requests = _ from requests, moveTo_ids]
        exact stored.requests
      · rw [show ({ state with db := next } : State).db.requests = _ from requests]
        exact moveTo_senders stored.requests
          (fun request member => ⟨(chosen request member).1, (chosen request member).2.2⟩)
          stored.senders
      · rw [show ({ state with db := next } : State).db.notifications = _ from notifications]
        exact stored.notifications
      · intro request member merging
        rw [show ({ state with db := next } : State).db.requests = _ from requests,
          mem_moveTo stored.requests fun request member => (chosen request member).1] at member
        rcases member with ⟨old, _⟩ | ⟨old, found, rfl⟩
        · exact stored.bounded request old merging
        · rw [(chosen old found).2.1]
          exact bounded merging
      · rw [show ({ state with db := next } : State).db.jobs = _ from jobs]
        refine @JobsStored.step _ _ (.enqueue jobId ⟨now, now⟩ job) stored.jobs ?_
        intro _ _ _ same
        cases same
        exact ⟨fresh, queued⟩

private theorem mem_removeRequests {stored : List NotificationRequest}
    (unique : (stored.map NotificationRequest.id).Nodup) {account : AccountId}
    {target : NotificationRequestState} {request : NotificationRequest} :
    request ∈ removeRequests (stored.filter (inState account target)) stored ↔
      request ∈ stored ∧ inState account target request = false := by
  rw [removeRequests, Table.mem_deleteWhere]
  refine and_congr_right fun member => ?_
  rw [← Bool.not_eq_true, ← Bool.not_eq_true, List.contains_iff_mem, List.mem_map]
  refine not_congr ⟨?_, fun selected => ⟨request, List.mem_filter.mpr ⟨member, selected⟩, rfl⟩⟩
  rintro ⟨other, removed, same⟩
  obtain ⟨otherMember, selected⟩ := List.mem_filter.mp removed
  rwa [← List.inj_on_of_nodup_map unique otherMember member same]

private theorem removeRequests_sublist (removed stored : List NotificationRequest) :
    (removeRequests removed stored).Sublist stored :=
  List.filter_sublist

private theorem Stored.remove {removed : List NotificationRequest} {next : Db}
    {executed : List JobId} (stored : Stored state)
    (requests : next.requests = removeRequests removed state.db.requests)
    (notifications : (next.notifications.map LocalNotification.id).Sublist
      (state.db.notifications.map LocalNotification.id))
    (jobs : next.jobs = state.db.jobs)
    (handed : ∀ id ∈ executed, ∃ job ∈ state.claimed, job.id = id) :
    Stored { state with db := next, executed := executed } where
  requests := by
    change (next.requests.map NotificationRequest.id).Nodup
    rw [requests]
    exact stored.requests.sublist ((removeRequests_sublist _ _).map _)
  senders := by
    change Table.UniqueOn activeSender next.requests
    rw [requests]
    exact stored.senders.deleteWhere _
  notifications := stored.notifications.sublist notifications
  bounded := by
    change ∀ request ∈ next.requests, _
    rw [requests]
    exact fun request member => stored.bounded request ((removeRequests_sublist _ _).subset member)
  jobs := by
    change JobsStored next.jobs state.claimed
    rw [jobs]
    exact stored.jobs
  executed := handed

private theorem merge_ok {db next : Db} {payload : Json}
    (success : notificationRequestMerge db payload = .ok next) :
    ∃ account, jobAccount "merge" payload = .ok account ∧
      next = mergeNotificationRequests db account := by
  obtain ⟨account, read, success⟩ := bind_ok success
  cases success
  exact ⟨account, read, rfl⟩

private theorem cleanup_ok {db : Db} {payload : Json} {made : Db × Unit}
    (success : (notificationRequestCleanup db payload).map (·, ()) = .ok made) :
    ∃ account, made.1 = cleanupNotificationRequests db account := by
  unfold notificationRequestCleanup at success
  cases read : jobAccount "cleanup" payload with
  | error error =>
      rw [read] at success
      cases success
  | ok account =>
      rw [read] at success
      cases success
      exact ⟨account, rfl⟩

theorem Stored.step {call : Call} (stored : Stored state) (legal : Legal state call) :
    Stored (lifecycle.step state call).1 := by
  cases call with
  | notify setting event =>
      simp only [lifecycle, Prod.map_fst, id_eq]
      rcases commit_cases state (notify state.db setting event) with same | ⟨made, success, same⟩
      · rwa [same]
      · rw [same]
        exact stored.extends (notify_extends success)
  | accept now jobId account requestIds =>
      simp only [lifecycle, Prod.map_fst, id_eq]
      rcases commit_cases state (acceptNotificationRequests state.db now jobId account requestIds)
        with same | ⟨made, success, same⟩
      · rwa [same]
      · rw [same]
        have bounded := legal.bounded now jobId account requestIds rfl
        exact stored.moves (accept_moves success) (legal.fresh jobId rfl) (fun _ => bounded)
          fun _ => ⟨account, bounded, rfl, rfl⟩
  | dismiss now jobId account requestIds =>
      simp only [lifecycle, Prod.map_fst, id_eq]
      rcases commit_cases state (dismissNotificationRequests state.db now jobId account requestIds)
        with same | ⟨made, success, same⟩
      · rwa [same]
      · rw [same]
        exact stored.moves (dismiss_moves success) (legal.fresh jobId rfl) nofun nofun
  | runMerge job =>
      simp only [lifecycle]
      split
      next next success =>
        obtain ⟨account, _, rfl⟩ := merge_ok success
        refine stored.remove rfl ?_ rfl ?_
        · rw [mergeNotificationRequests, Table.map_updateWhere (by intros; rfl)]
        · intro id member
          rcases List.mem_cons.mp member with rfl | earlier
          · exact ⟨job, legal.held job rfl, rfl⟩
          · exact stored.executed id earlier
      next => exact stored
  | runCleanup job =>
      simp only [lifecycle, Prod.map_fst, id_eq]
      rcases commit_cases state ((notificationRequestCleanup state.db job.payload).map (·, ()))
        with same | ⟨made, success, same⟩
      · rwa [same]
      · obtain ⟨account, cleaned⟩ := cleanup_ok success
        rw [same, cleaned]
        exact stored.remove rfl (List.filter_sublist.map _) rfl stored.executed
  | queue call =>
      refine ⟨stored.requests, stored.senders, stored.notifications, stored.bounded,
        stored.jobs.step ?_, ?_⟩
      · rintro jobId clocks job rfl
        exact ⟨legal.fresh jobId rfl, fun merge => absurd merge (legal.queued jobId clocks job rfl)⟩
      · intro id member
        obtain ⟨job, handed, same⟩ := stored.executed id member
        exact ⟨job, List.mem_append_right _ handed, same⟩

/-!
## Waiting for a job
-/

private theorem Awaits.of_jobs {next : State} {account : AccountId} (awaits : Awaits state account)
    (jobs : ∀ row ∈ state.db.jobs, row ∈ next.db.jobs) (executed : next.executed = state.executed) :
    Awaits next account := by
  obtain ⟨row, member, merge, unexecuted⟩ := awaits
  exact ⟨row, jobs row member, merge, executed ▸ unexecuted⟩

private theorem enqueue_keeps {jobs : List JobRow} (keyed : TableKeyed jobs) {jobId queued : JobId}
    {clocks : Clocks} {job : NewJob}
    (success : (enqueueJobOnConnection jobs jobId clocks job).2 = .ok queued) {row : JobRow}
    (member : row ∈ jobs) : row ∈ (enqueueJobOnConnection jobs jobId clocks job).1 := by
  rcases enqueue_ok keyed success with ⟨same, _⟩ | ⟨added, _⟩
  · rwa [same]
  · rw [added]
    exact List.mem_append_left _ member

private theorem NoneStranded.accept {now : Int} {jobId : JobId} {account : AccountId}
    {requestIds : List RequestId} {next : Db} (none : NoneStranded state) (stored : Stored state)
    (legal : Legal state (.accept now jobId account requestIds))
    (separated : Separated state (.accept now jobId account requestIds))
    (moves : Moves state.db now jobId account requestIds .merging (mergeJob account now) next) :
    NoneStranded { state with db := next } := by
  cases moves with
  | same => exact none
  | @moved found _ _ pending requests notifications success jobs =>
      have chosen := (pendingRequests_some pending).1
      have bounded := legal.bounded now jobId account requestIds rfl
      have unexecuted := separated now jobId account requestIds rfl (by rw [pending]; rfl)
      intro request member merging
      change request ∈ next.requests at member
      rw [requests, mem_moveTo stored.requests fun request member => (chosen request member).1]
        at member
      rcases member with ⟨old, _⟩ | ⟨old, accepted, rfl⟩
      · refine (none request old merging).of_jobs (fun row known => ?_) rfl
        rw [show ({ state with db := next } : State).db.jobs = _ from jobs]
        exact enqueue_keeps stored.jobs.valid.keyed success known
      · change Awaits _ old.accountId
        rw [(chosen old accepted).2.1]
        unfold Awaits
        rw [show ({ state with db := next } : State).db.jobs = _ from jobs]
        rcases enqueue_ok stored.jobs.valid.keyed success with
          ⟨same, row, known, conflict⟩ | ⟨added, _⟩
        · have merge := (stored.jobs.conflict bounded now known).mp conflict
          rw [same]
          exact ⟨row, known, merge, unexecuted row known merge⟩
        · rw [added]
          refine ⟨_, List.mem_append_right _ (List.mem_singleton_self _), ⟨rfl, rfl, rfl⟩, ?_⟩
          intro executed
          obtain ⟨job, handed, same⟩ := stored.executed _ executed
          exact legal.fresh jobId rfl job handed same

theorem NoneStranded.step {call : Call} (none : NoneStranded state) (stored : Stored state)
    (legal : Legal state call) (separated : Separated state call) :
    NoneStranded (lifecycle.step state call).1 := by
  cases call with
  | notify setting event =>
      simp only [lifecycle, Prod.map_fst, id_eq]
      rcases commit_cases state (notify state.db setting event) with same | ⟨made, success, same⟩
      · rwa [same]
      · rw [same]
        have extends_ := notify_extends success
        intro request member merging
        obtain ⟨old, known, account, oldMerging⟩ := extends_.merging request member merging
        refine (account ▸ none old known oldMerging).of_jobs (fun row member => ?_) rfl
        change row ∈ made.1.jobs
        rwa [extends_.jobs]
  | accept now jobId account requestIds =>
      simp only [lifecycle, Prod.map_fst, id_eq]
      rcases commit_cases state (acceptNotificationRequests state.db now jobId account requestIds)
        with same | ⟨made, success, same⟩
      · rwa [same]
      · rw [same]
        exact none.accept stored legal separated (accept_moves success)
  | dismiss now jobId account requestIds =>
      simp only [lifecycle, Prod.map_fst, id_eq]
      rcases commit_cases state (dismissNotificationRequests state.db now jobId account requestIds)
        with same | ⟨made, success, same⟩
      · rwa [same]
      · rw [same]
        have moves := dismiss_moves success
        generalize made.1 = next at moves ⊢
        cases moves with
        | same => exact none
        | @moved found _ _ pending requests notifications success jobs =>
            have chosen := (pendingRequests_some pending).1
            intro request member merging
            change request ∈ next.requests at member
            rw [requests, mem_moveTo stored.requests fun request member => (chosen request member).1]
              at member
            rcases member with ⟨old, _⟩ | ⟨old, _, rfl⟩
            · refine (none request old merging).of_jobs (fun row known => ?_) rfl
              rw [show ({ state with db := next } : State).db.jobs = _ from jobs]
              exact enqueue_keeps stored.jobs.valid.keyed success known
            · cases merging
  | runMerge job =>
      simp only [lifecycle]
      split
      next next success =>
        obtain ⟨account, read, rfl⟩ := merge_ok success
        intro request member merging
        obtain ⟨known, other⟩ := (mem_removeRequests stored.requests).mp member
        obtain ⟨row, queued, merge, unexecuted⟩ := none request known merging
        refine ⟨row, queued, merge, fun executed => ?_⟩
        rcases List.mem_cons.mp executed with same | earlier
        · -- The executed job is that of the request's account, which has no request left.
          have payload := (stored.jobs.held job (legal.held job rfl) row queued same).2
          have own := jobAccount_mergePayload "merge" (stored.bounded request known merging)
          rw [← merge.2.1, payload, read] at own
          cases own
          simp [inState, merging] at other
        · exact unexecuted earlier
      next => exact none
  | runCleanup job =>
      simp only [lifecycle, Prod.map_fst, id_eq]
      rcases commit_cases state ((notificationRequestCleanup state.db job.payload).map (·, ()))
        with same | ⟨made, success, same⟩
      · rwa [same]
      · obtain ⟨account, cleaned⟩ := cleanup_ok success
        rw [same, cleaned]
        intro request member merging
        obtain ⟨known, _⟩ := (mem_removeRequests stored.requests).mp member
        exact (none request known merging).of_jobs (fun row member => member) rfl
  | queue call =>
      intro request member merging
      obtain ⟨row, queued, merge, unexecuted⟩ := none request member merging
      rcases (step_transition stored.jobs.valid.keyed call).persists stored.jobs.valid queued
        merge.2.2 with ⟨job, completes, leased⟩ | ⟨after, later, id_, kind, payload, active⟩
      · -- The job would be completed after it has been executed.
        have handle : call.handle? = some job := by
          cases call <;> simp_all [Job.Call.completes?, Job.Call.handle?]
        have handed := legal.held job handle
        simp only [leasedBy, Bool.and_eq_true, beq_iff_eq] at leased
        have own := stored.jobs.held job handed row queued leased.1
        have executed := legal.executed call job rfl completes (own.1.symm.trans merge.1)
        rw [← leased.1] at executed
        exact absurd executed unexecuted
      · exact ⟨after, later, ⟨kind.trans merge.1, payload.trans merge.2.1, active⟩,
          id_.symm ▸ unexecuted⟩

theorem stranded_of_reuse {call : Call} (stored : Stored state) (legal : Legal state call)
    (none : NoneStranded (lifecycle.step state call).1) : Separated state call := by
  rintro now jobId account requestIds rfl asked row member merge executed
  have bounded := legal.bounded now jobId account requestIds rfl
  obtain ⟨found, pending⟩ := Option.isSome_iff_exists.mp asked
  obtain ⟨chosen, request, accepted⟩ := pendingRequests_some pending
  have conflict := (stored.jobs.conflict bounded now member).mpr merge
  have queued : ∃ queued,
      (enqueueJobOnConnection state.db.jobs jobId ⟨now, now⟩ (mergeJob account now)).2 =
        .ok queued := by
    unfold enqueueJobOnConnection
    cases reused : state.db.jobs.find? (conflicting (mergeJob account now)) with
    | none =>
        have absent := List.find?_eq_none.mp reused row member
        exact absurd conflict absent
    | some existing => exact ⟨existing.id, rfl⟩
  obtain ⟨queued, success⟩ := queued
  obtain ⟨requests, jobs, unchanged⟩ :
      let next := (lifecycle.step state (.accept now jobId account requestIds)).1
      next.db.requests = moveTo .merging found now state.db.requests ∧
        next.db.jobs = (enqueueJobOnConnection state.db.jobs jobId ⟨now, now⟩
          (mergeJob account now)).1 ∧ next.executed = state.executed := by
    simp only [lifecycle, acceptNotificationRequests, pending, success]
    exact ⟨rfl, rfl, rfl⟩
  have moved : { request with state := .merging, updatedAt := now } ∈
      moveTo .merging found now state.db.requests :=
    (mem_moveTo stored.requests fun request member => (chosen request member).1).mpr
      (.inr ⟨request, accepted, rfl⟩)
  rw [← requests] at moved
  obtain ⟨other, known, otherMerge, unexecuted⟩ := none _ moved rfl
  rw [jobs] at known
  rw [unchanged] at unexecuted
  rw [show ({ request with state := .merging, updatedAt := now } : NotificationRequest).accountId =
    account from (chosen request accepted).2.1] at otherMerge
  rcases enqueue_ok stored.jobs.valid.keyed success with ⟨same, _⟩ | ⟨_, inactive⟩
  · rw [same] at known
    have otherConflict := (stored.jobs.conflict bounded now known).mpr otherMerge
    have equal : other = row := by
      simp only [conflicting, Bool.and_eq_true, beq_iff_eq] at conflict otherConflict
      exact stored.jobs.valid.activeKeys.eq_of_key known member otherConflict.2 conflict.2
    exact unexecuted (equal ▸ executed)
  · rw [inactive row member] at conflict
    cases conflict

/-!
## Notifications of accepted requests
-/

/-- A notification of an accepted request is visible, or still in the request, which is
still to be merged. -/
def Kept (request : NotificationRequest) (id : NotificationId) (state : State) : Prop :=
  ∃ row ∈ state.db.notifications, row.id = id ∧
    ((row.filtered = false ∧ row.notificationRequestId = none) ∨
      (row.notificationRequestId = some request.id ∧
        ∃ stored ∈ state.db.requests, stored.id = request.id ∧
          stored.accountId = request.accountId ∧ stored.state = .merging))

variable {request : NotificationRequest} {id : NotificationId}

private theorem Kept.moves {now : Int} {jobId : JobId} {accountId : AccountId}
    {requestIds : List RequestId} {target : NotificationRequestState} {job : NewJob} {next : Db}
    (kept : Kept request id state) (stored : Stored state)
    (moves : Moves state.db now jobId accountId requestIds target job next) :
    Kept request id { state with db := next } := by
  cases moves with
  | same => exact kept
  | @moved found _ _ pending requests notifications _ _ =>
      have chosen := (pendingRequests_some pending).1
      obtain ⟨row, member, sameId, shown | ⟨attached, active, known, own, account, merging⟩⟩ := kept
      · exact ⟨row, notifications ▸ member, sameId, .inl shown⟩
      · refine ⟨row, notifications ▸ member, sameId,
          .inr ⟨attached, active, ?_, own, account, merging⟩⟩
        change active ∈ next.requests
        rw [requests, mem_moveTo stored.requests fun request member => (chosen request member).1]
        refine .inl ⟨known, fun moved => ?_⟩
        have waiting := (chosen active moved).2.2
        rw [merging] at waiting
        cases waiting

private theorem attachedTo_filter {stored : List NotificationRequest}
    (unique : (stored.map NotificationRequest.id).Nodup) (account : AccountId)
    (target : NotificationRequestState) {active : NotificationRequest} (known : active ∈ stored)
    {row : LocalNotification} (attached : row.notificationRequestId = some active.id) :
    attachedTo (stored.filter (inState account target)) row = inState account target active := by
  rw [attachedTo, attached, Option.any_some, Bool.eq_iff_iff, List.contains_iff_mem, List.mem_map]
  constructor
  · rintro ⟨other, removed, same⟩
    obtain ⟨otherMember, selected⟩ := List.mem_filter.mp removed
    rwa [← List.inj_on_of_nodup_map unique otherMember known same]
  · exact fun selected => ⟨active, List.mem_filter.mpr ⟨known, selected⟩, rfl⟩

private theorem Kept.merge {account : AccountId} {executed : List JobId}
    (kept : Kept request id state) (stored : Stored state) :
    Kept request id
      { state with db := mergeNotificationRequests state.db account, executed := executed } := by
  obtain ⟨row, member, sameId, shown | ⟨attached, active, known, own, sameAccount, merging⟩⟩ := kept
  · refine ⟨row, Table.mem_updateWhere.mpr (.inl ⟨member, ?_⟩), sameId, .inl shown⟩
    simp [attachedTo, shown.2]
  · have selected := attachedTo_filter stored.requests account .merging known
      (attached.trans (congrArg some own.symm))
    cases chosen : inState account .merging active with
    | true =>
        exact ⟨_, Table.mem_updateWhere.mpr (.inr ⟨row, member, selected.trans chosen, rfl⟩), sameId,
          .inl ⟨rfl, rfl⟩⟩
    | false =>
        refine ⟨row, Table.mem_updateWhere.mpr (.inl ⟨member, selected.trans chosen⟩), sameId,
          .inr ⟨attached, active, ?_, own, sameAccount, merging⟩⟩
        exact (mem_removeRequests stored.requests).mpr ⟨known, chosen⟩

private theorem Kept.cleanup {account : AccountId} (kept : Kept request id state)
    (stored : Stored state) :
    Kept request id { state with db := cleanupNotificationRequests state.db account } := by
  obtain ⟨row, member, sameId, shown | ⟨attached, active, known, own, sameAccount, merging⟩⟩ := kept
  · refine ⟨row, Table.mem_deleteWhere.mpr ⟨member, ?_⟩, sameId, .inl shown⟩
    simp [attachedTo, shown.2]
  · have selected := attachedTo_filter stored.requests account .dismissed known
      (attached.trans (congrArg some own.symm))
    have other : inState account .dismissed active = false := by simp [inState, merging]
    refine ⟨row, Table.mem_deleteWhere.mpr ⟨member, selected.trans other⟩, sameId,
      .inr ⟨attached, active, ?_, own, sameAccount, merging⟩⟩
    exact (mem_removeRequests stored.requests).mpr ⟨known, other⟩

theorem Kept.step (kept : Kept request id state) (stored : Stored state) (call : Call) :
    Kept request id (lifecycle.step state call).1 := by
  cases call with
  | notify setting event =>
      simp only [lifecycle, Prod.map_fst, id_eq]
      rcases commit_cases state (notify state.db setting event) with same | ⟨made, success, same⟩
      · rwa [same]
      · rw [same]
        have extends_ := notify_extends success
        obtain ⟨row, member, sameId, shown | ⟨attached, active, known, own, account, merging⟩⟩ := kept
        · refine ⟨row, extends_.notifications row member fun filtered => ?_, sameId, .inl shown⟩
          rw [shown.1] at filtered
          cases filtered
        · obtain ⟨later, laterKnown, laterId, laterAccount, laterState⟩ :=
            extends_.requests active known
          exact ⟨row, extends_.notifications row member fun _ => by rw [attached]; rfl, sameId,
            .inr ⟨attached, later, laterKnown, laterId.trans own, laterAccount.trans account,
              laterState.trans merging⟩⟩
  | accept now jobId account requestIds =>
      simp only [lifecycle, Prod.map_fst, id_eq]
      rcases commit_cases state (acceptNotificationRequests state.db now jobId account requestIds)
        with same | ⟨made, success, same⟩
      · rwa [same]
      · rw [same]
        exact kept.moves stored (accept_moves success)
  | dismiss now jobId account requestIds =>
      simp only [lifecycle, Prod.map_fst, id_eq]
      rcases commit_cases state (dismissNotificationRequests state.db now jobId account requestIds)
        with same | ⟨made, success, same⟩
      · rwa [same]
      · rw [same]
        exact kept.moves stored (dismiss_moves success)
  | runMerge job =>
      simp only [lifecycle]
      split
      next next success =>
        obtain ⟨account, _, rfl⟩ := merge_ok success
        exact kept.merge stored
      next => exact kept
  | runCleanup job =>
      simp only [lifecycle, Prod.map_fst, id_eq]
      rcases commit_cases state ((notificationRequestCleanup state.db job.payload).map (·, ()))
        with same | ⟨made, success, same⟩
      · rwa [same]
      · obtain ⟨account, cleaned⟩ := cleanup_ok success
        rw [same, cleaned]
        exact kept.cleanup stored
  | queue call => exact kept

end

/-!
## Runs
-/

section

variable {start : State} {calls : List Call}

theorem run_stored (begins : Stored start) (legal : lifecycle.Guarded Legal start calls) :
    Stored (lifecycle.run start calls) :=
  lifecycle.guarded_invariant Stored (fun _ _ legal stored => stored.step legal) begins legal

theorem run_noneStranded (begins : Begins start) (legal : lifecycle.Guarded Legal start calls)
    (separated : lifecycle.Guarded Separated start calls) :
    NoneStranded (lifecycle.run start calls) := by
  have both : lifecycle.Guarded (fun state call => Legal state call ∧ Separated state call)
      start calls :=
    fun before call after same => ⟨legal before call after same, separated before call after same⟩
  refine (lifecycle.guarded_invariant (fun state => Stored state ∧ NoneStranded state) ?_
    ⟨begins.stored, fun request member merging => ?_⟩ both).2
  · exact fun state call allowed holds =>
      ⟨holds.1.step allowed.1, holds.2.step holds.1 allowed.1 allowed.2⟩
  · exact absurd merging (begins.unaccepted request member)

theorem run_kept {request : NotificationRequest} {id : NotificationId} (stored : Stored start)
    (legal : lifecycle.Guarded Legal start calls) (kept : Kept request id start) :
    Kept request id (lifecycle.run start calls) :=
  (lifecycle.guarded_invariant (fun state => Stored state ∧ Kept request id state)
    (fun _ call allowed holds => ⟨holds.1.step allowed, holds.2.step holds.1 call⟩)
    ⟨stored, kept⟩ legal).2

end

/-- Accepted requests are served in exactly the runs where none is accepted between the merge
of a job of its account and the completion of that job. -/
theorem requests_served_iff {start : State} (begins : Begins start) {calls : List Call}
    (legal : lifecycle.Guarded Legal start calls) :
    Served start calls ↔ lifecycle.Guarded Separated start calls := by
  constructor
  · intro served before call after same
    subst same
    have stored := run_stored begins.stored legal.of_append
    refine stranded_of_reuse stored (legal before call after rfl) ?_
    have next := served.stranded (before ++ [call]) after (by simp)
    rwa [lifecycle.run_snoc] at next
  · intro separated
    refine ⟨?_, ?_⟩
    · rintro before after rfl
      exact run_noneStranded begins legal.of_append separated.of_append
    · rintro before after rfl request member merging row known attached idle
      have stored := run_stored begins.stored legal.of_append
      have none := run_noneStranded begins legal separated
      have gone : ∀ other ∈ (lifecycle.run start (before ++ after)).db.requests,
          other.accountId = request.accountId → other.state ≠ .merging := by
        intro other otherMember same otherMerging
        obtain ⟨job, queued, merge, _⟩ := none other otherMember otherMerging
        exact idle job queued (same ▸ merge)
      refine ⟨?_, ?_⟩
      · rw [notificationRequestsMerged, Bool.not_eq_true', List.any_eq_false]
        intro other otherMember found
        simp only [Bool.and_eq_true, beq_iff_eq] at found
        exact gone other otherMember found.1 found.2
      · have kept : Kept request row.id (lifecycle.run start before) :=
          ⟨row, known, rfl, .inr ⟨attached, request, member, rfl, rfl, merging⟩⟩
        have later : lifecycle.Guarded Legal (lifecycle.run start before) after := by
          intro first call rest same
          have here := legal (before ++ first) call rest (by rw [same, List.append_assoc])
          rwa [lifecycle.run_append] at here
        have last := run_kept stored later kept
        rw [← lifecycle.run_append] at last
        obtain ⟨shown, shownMember, sameId, visible | ⟨_, other, otherMember, _, same, still⟩⟩ := last
        · exact ⟨shown, shownMember, sameId, visible.1⟩
        · exact absurd still (gone other otherMember same)

namespace Sample

def account : AccountId := ⟨1⟩

def request (id sender : Nat) : NotificationRequest :=
  ⟨⟨id⟩, account, .remoteActor ⟨sender⟩, some (.remoteStatus ⟨sender + 10⟩), .pending, 0, 0⟩

def mention (id sender request : Nat) : LocalNotification :=
  ⟨⟨id⟩, account, .mention, none, some ⟨sender⟩, none, some ⟨sender + 10⟩, true, some ⟨request⟩, 0,
    none⟩

def start : State where
  db := {
    requests := [request 4 2, request 5 3]
    notifications := [mention 6 2 4, mention 7 3 5]
    permissions := []
    jobs := [] }
  claimed := []
  executed := []

def accept (jobId request : Nat) : Call := .accept 0 ⟨jobId⟩ account [⟨request⟩]

def claim (claimId : Nat) : Call :=
  .queue (.claimDue "worker" 300000000 ⟨claimId⟩ ⟨1, 1⟩ fun _ => false)

def handle (jobId claimId : Nat) : ClaimedJob :=
  ⟨⟨jobId⟩, ⟨claimId⟩, .notificationRequestMerge, mergePayload account, 0, 0⟩

def complete (jobId claimId : Nat) : Call := .queue (.completed ⟨2, 2⟩ (handle jobId claimId))

def oneByOne : List Call :=
  [accept 8 4, claim 9, .runMerge (handle 8 9), complete 8 9,
    accept 10 5, claim 11, .runMerge (handle 10 11), complete 10 11]

/-- The second request is accepted while the job of the first has only to be completed. -/
def overlapping : List Call :=
  [accept 8 4, claim 9, .runMerge (handle 8 9), accept 10 5, complete 8 9]

theorem begins : Begins start where
  requests := by decide
  senders := by decide
  notifications := by decide
  unaccepted := by decide
  jobs := tableValid_nil
  unqueued := by
    intro row member
    cases member
  unclaimed := rfl
  unexecuted := rfl

section

variable {state : State}

private theorem legal_accept {jobId request : Nat}
    (fresh : ∀ job ∈ state.claimed, job.id ≠ ⟨jobId⟩) : Legal state (accept jobId request) where
  bounded := by
    intro _ _ _ _ same
    cases same
    decide
  fresh := by
    intro _ same
    cases same
    exact fresh
  held := nofun
  merge := nofun
  queued := nofun
  executed := by
    intro _ _ same
    cases same

private theorem legal_claim {claimId : Nat} : Legal state (claim claimId) where
  bounded := nofun
  fresh := nofun
  held := nofun
  merge := nofun
  queued := nofun
  executed := by
    intro _ _ same completes
    cases same
    cases completes

private theorem legal_merge {jobId claimId : Nat} (held : handle jobId claimId ∈ state.claimed) :
    Legal state (.runMerge (handle jobId claimId)) where
  bounded := nofun
  fresh := nofun
  held := by
    intro _ same
    cases same
    exact held
  merge := by
    intro _ same
    cases same
    rfl
  queued := nofun
  executed := by
    intro _ _ same
    cases same

private theorem legal_complete {jobId claimId : Nat} (held : handle jobId claimId ∈ state.claimed)
    (executed : (⟨jobId⟩ : JobId) ∈ state.executed) : Legal state (complete jobId claimId) where
  bounded := nofun
  fresh := nofun
  held := by
    intro _ same
    cases same
    exact held
  merge := nofun
  queued := nofun
  executed := by
    intro _ _ same completes _
    cases same
    cases completes
    exact executed

private theorem separated_accept {jobId request : Nat}
    (free : ∀ row ∈ state.db.jobs, row.completedAt.isSome = true) :
    Separated state (accept jobId request) := by
  intro _ _ _ _ same _ row member merge
  have completed := free row member
  rw [merge.2.2] at completed
  cases completed

end

theorem oneByOne_legal : lifecycle.Guarded Legal start oneByOne :=
  Machine.guarded_cons (legal_accept (by decide)) <|
    Machine.guarded_cons legal_claim <|
    Machine.guarded_cons (legal_merge (by decide +kernel)) <|
    Machine.guarded_cons (legal_complete (by decide +kernel) (by decide +kernel)) <|
    Machine.guarded_cons (legal_accept (by decide +kernel)) <|
    Machine.guarded_cons legal_claim <|
    Machine.guarded_cons (legal_merge (by decide +kernel)) <|
    Machine.guarded_cons (legal_complete (by decide +kernel) (by decide +kernel)) Machine.guarded_nil

theorem oneByOne_separated : lifecycle.Guarded Separated start oneByOne :=
  Machine.guarded_cons (separated_accept (by decide)) <|
    Machine.guarded_cons nofun <| Machine.guarded_cons nofun <| Machine.guarded_cons nofun <|
    Machine.guarded_cons (separated_accept (by decide +kernel)) <|
    Machine.guarded_cons nofun <| Machine.guarded_cons nofun <| Machine.guarded_cons nofun
    Machine.guarded_nil

theorem overlapping_legal : lifecycle.Guarded Legal start overlapping :=
  Machine.guarded_cons (legal_accept (by decide)) <|
    Machine.guarded_cons legal_claim <|
    Machine.guarded_cons (legal_merge (by decide +kernel)) <|
    Machine.guarded_cons (legal_accept (by decide +kernel)) <|
    Machine.guarded_cons (legal_complete (by decide +kernel) (by decide +kernel)) Machine.guarded_nil

end Sample

open Sample in
theorem requests_served_one_by_one : Served start oneByOne ∧
    (lifecycle.run start oneByOne).db.notifications.all (fun row => !row.filtered) = true :=
  ⟨(requests_served_iff begins oneByOne_legal).mpr oneByOne_separated, by decide +kernel⟩

open Sample in
/-- The second request waits for no job, and its mention stays hidden. -/
theorem request_stranded : Begins start ∧ lifecycle.Guarded Legal start overlapping ∧
    ¬Served start overlapping := by
  refine ⟨begins, overlapping_legal, fun served => ?_⟩
  have none := served.stranded overlapping [] rfl
  have merging : ∃ request ∈ (lifecycle.run start overlapping).db.requests,
      request.state = .merging := by decide +kernel
  obtain ⟨request, member, state⟩ := merging
  obtain ⟨row, queued, ⟨_, _, active⟩, _⟩ := none request member state
  have completed : ∀ row ∈ (lifecycle.run start overlapping).db.jobs,
      row.completedAt.isSome = true := by decide +kernel
  have done := completed row queued
  rw [active] at done
  cases done

end Roosty.Notification
