import Roosty.Library.Locking
import Roosty.Status.Media

/-!
# Uploads have one owner, and schedules one publication

The owner check of the database refuses an edit that attaches a reserved upload. Every
publication of a schedule inserts the status that the schedule was stored with, so that a
second one fails where it inserts the status.
-/

set_option autoImplicit false

namespace Roosty.Status.Media

open Library Library.ReadCommitted

inductive Owner where
  | status (id : StatusId)
  | schedule (id : Nat)
deriving DecidableEq

/-- An upload is attached to a live status or to a scheduled status. -/
def Attached (rows : Rows Key Row) (media : Nat) : Owner → Prop
  | .status id => (liveStatus rows id).isSome ∧
      ∃ row, mediaAt rows media = some row ∧ row.statusId = some id
  | .schedule id => (scheduleAt rows id).isSome ∧
      ∃ row, mediaAt rows media = some row ∧ row.scheduledStatusId = some id

/-- The status that a committed transaction publishes a schedule as. -/
def publication (schedule : Nat) : Event Position → Option StatusId
  | .commits _ (.create input .done) =>
      if input.scheduledStatusId = some schedule then some input.id else none
  | _ => none

/-- The status for the publication of a schedule that a committed transaction stores. -/
def storage (schedule : Nat) : Event Position → Option StatusId
  | .commits _ (.schedule input .done) =>
      if input.id = schedule then some input.publicationStatusId else none
  | _ => none

/-- The statuses that schedules with an identifier were stored with, at the start and in a
run. -/
def storedStatuses (start : Rows Key Row) (schedule : Nat) (events : List (Event Position)) :
    List StatusId :=
  ((scheduleAt start schedule).map ScheduledStatus.publicationStatusId).toList ++
    events.filterMap (storage schedule)

/-!
## Statements
-/

/-- A position in a transaction that neither creates nor schedules a status. -/
def Other : Position → Prop
  | .create _ _ | .schedule _ _ | .failed => False
  | _ => True

def CreationStage.inserted : CreationStage → Bool
  | .check _ | .insert => false
  | .attach _ _ | .deleteSchedule | .done => true

inductive Changed (rows : Rows Key Row) : Position → Key → Option Row → Prop
  | locked {position : Position} {key : Key} {row : Row} (present : rows key = some row) :
      Changed rows position key (some row)
  | media {position : Position} {id : Nat} {media : MediaAttachment}
      (checked : ownerCheck media = true) : Changed rows position (.media id) (some (.media media))
  | created (input : Creation) (row : LocalStatus) :
      Changed rows (.create input .insert) (.status input.id) (some (.status row))
  | scheduled (input : NewScheduledStatus) (account : AccountId) (scheduledAt : Int) :
      Changed rows (.schedule input .insert) (.schedule input.id)
        (some (.schedule ⟨account, input.publicationStatusId, scheduledAt⟩))
  | rescheduled {position : Position} {id : Nat} {row : ScheduledStatus} (scheduledAt : Int)
      (present : rows (.schedule id) = some (.schedule row)) :
      Changed rows position (.schedule id)
        (some (.schedule { row with scheduledAt := scheduledAt }))
  | unscheduled {position : Position} {id : Nat} : Changed rows position (.schedule id) none

/-- Where a statement leads. Only a publication job begins to create a status. -/
inductive Goes (rows : Rows Key Row) (writes : Writes Key Row) : Position → Position → Prop
  | failed {position : Position} : Goes rows writes position .failed
  | create (input : Creation) {stage after : CreationStage}
      (later : after.inserted = true → stage.inserted = true) :
      Goes rows writes (.create input stage) (.create input after)
  | inserts (input : Creation) (absent : rows (.status input.id) = none)
      (written : (writes (.status input.id)).isSome) :
      Goes rows writes (.create input .insert) (.create input (.attach 0 input.mediaIds))
  | schedule (input : NewScheduledStatus) {stage after : ScheduleStage} :
      Goes rows writes (.schedule input stage) (.schedule input after)
  | other {position next : Position} (before : Other position) (after : Other next) :
      Goes rows writes position next
  | publish {id : Nat} {row : ScheduledStatus} (mediaIds : List Nat)
      (present : rows (.schedule id) = some (.schedule row)) :
      Goes rows writes (.publish id)
        (.create ⟨row.publicationStatusId, row.accountId, mediaIds, some id⟩ (.check mediaIds))

structure Effects (position : Position) (writes : Rows Key Row → Writes Key Row)
    (next : Rows Key Row → Position) : Prop where
  changed : ∀ rows key change, writes rows key = some change → Changed rows position key change
  goes : ∀ rows, Goes rows (writes rows) position (next rows)

def HasEffects (position : Position) : Instruction Key Row Position → Prop
  | .statement writes next => Effects position writes next
  | _ => True

section

variable {rows : Rows Key Row} {position next : Position} {key : Key} {change : Option Row}

private theorem write_eq {target : Key} {new : Row}
    (written : write target new key = some change) : key = target ∧ change = some new := by
  unfold write at written
  split at written
  · rename_i same
    exact ⟨same, (Option.some.inj written).symm⟩
  · cases written

private theorem insert_eq {target : Key} {new : Row} {writes : Writes Key Row}
    (inserted : insert rows target new = some writes) :
    rows target = none ∧ writes = write target new := by
  unfold insert at inserted
  split at inserted
  · cases inserted
  · rename_i missing
    exact ⟨by simpa using missing, (Option.some.inj inserted).symm⟩

private theorem changed_locked {target : Key} (written : locked rows target key = some change) :
    Changed rows position key change := by
  unfold locked at written
  split at written
  · rename_i same
    obtain ⟨row, present, rfl⟩ := Option.map_eq_some_iff.mp written
    exact .locked (same ▸ present)
  · cases written

private theorem changed_update {id : Nat} {update : MediaAttachment → MediaAttachment}
    {writes : Writes Key Row} (updated : updateMedia rows id update = some writes)
    (written : writes key = some change) : Changed rows position key change := by
  unfold updateMedia at updated
  split at updated
  · cases updated
  · split at updated
    · rename_i passes
      cases updated
      obtain ⟨rfl, rfl⟩ := write_eq written
      exact .media passes
    · cases updated

private theorem changed_delete {id : Nat} (written : deleteSchedule rows id key = some change) :
    Changed rows position key change := by
  unfold deleteSchedule at written
  split at written
  · split at written
    · cases written
      exact .unscheduled
    · cases written
  · split at written
    · cases written
    · split at written
      · cases written
        exact .media (by simp [ownerCheck])
      · cases written
  · cases written

private theorem effects_reading {next : Rows Key Row → Position}
    (goes : ∀ rows, Goes rows .none position (next rows)) : HasEffects position (reading next) :=
  ⟨nofun, goes⟩

private theorem effects_attempting {writes : Rows Key Row → Option (Writes Key Row)}
    (changed : ∀ rows changes, writes rows = some changes →
      ∀ key change, changes key = some change → Changed rows position key change)
    (goes : ∀ rows changes, writes rows = some changes → Goes rows changes position next) :
    HasEffects position (attempting writes next) := by
  refine ⟨?_, ?_⟩
  · intro rows key change written
    cases attempt : writes rows with
    | none =>
        rw [attempt] at written
        cases written
    | some changes =>
        rw [attempt] at written
        exact changed rows changes attempt key change written
  · intro rows
    cases attempt : writes rows with
    | none => exact .failed
    | some changes => exact goes rows changes attempt

private theorem effects_update {id : Nat} {update : MediaAttachment → MediaAttachment}
    (goes : ∀ rows changes, Goes rows changes position next) :
    HasEffects position (attempting (fun rows => updateMedia rows id update) next) :=
  effects_attempting (fun _ _ updated _ _ written => changed_update updated written)
    fun rows changes _ => goes rows changes

private theorem effects_lock {found : Rows Key Row → Bool} {target : Key}
    {next : Rows Key Row → Position}
    (goes : ∀ rows changes, Goes rows changes position (next rows)) :
    HasEffects position (.statement
      (fun rows => if found rows then locked rows target else .none) next) := by
  refine ⟨?_, fun rows => goes rows _⟩
  intro rows key change written
  split at written
  · exact changed_locked written
  · cases written

private theorem scheduleAt_eq_some {id : Nat} {row : ScheduledStatus}
    (found : scheduleAt rows id = some row) : rows (.schedule id) = some (.schedule row) := by
  unfold scheduleAt at found
  split at found
  · rename_i present
    cases found
    exact present
  · cases found

end

private theorem create_effects (input : Creation) (stage : CreationStage) :
    HasEffects (.create input stage) (createLocalStatusWithMedia input stage) := by
  cases stage with
  | check mediaIds =>
      cases mediaIds with
      | nil => exact effects_reading fun _ => .create input id
      | cons id mediaIds =>
          refine effects_reading fun rows => ?_
          split
          · exact .create input nofun
          · exact .failed
  | insert =>
      refine effects_attempting ?_ ?_
      · intro rows changes attempt key change written
        rw [(insert_eq attempt).2] at written
        obtain ⟨rfl, rfl⟩ := write_eq written
        exact .created input _
      · intro rows changes attempt
        obtain ⟨absent, rfl⟩ := insert_eq attempt
        exact .inserts input absent (congrArg Option.isSome (if_pos rfl))
  | attach index mediaIds =>
      cases mediaIds with
      | nil => exact effects_reading fun _ => .create input fun _ => rfl
      | cons id mediaIds => exact effects_update fun _ _ => .create input fun _ => rfl
  | deleteSchedule =>
      refine ⟨?_, fun _ => .create input fun _ => rfl⟩
      intro rows key change written
      cases scheduled : input.scheduledStatusId with
      | none =>
          rw [scheduled] at written
          cases written
      | some id =>
          rw [scheduled] at written
          exact changed_delete written
  | done => trivial

private theorem schedule_effects (input : NewScheduledStatus) (stage : ScheduleStage) :
    HasEffects (.schedule input stage) (createScheduledStatus input stage) := by
  cases stage with
  | account =>
      refine ⟨fun _ _ _ => changed_locked, fun rows => ?_⟩
      split
      · exact .schedule input
      · exact .failed
  | reserve mediaIds =>
      cases mediaIds with
      | nil => exact effects_reading fun _ => .schedule input
      | cons id mediaIds =>
          refine effects_attempting ?_ fun _ _ _ => .schedule input
          intro rows changes attempt key change written
          split at attempt
          · cases attempt
            exact changed_locked written
          · cases attempt
  | insert =>
      refine effects_attempting ?_ fun _ _ _ => .schedule input
      intro rows changes attempt key change written
      rw [(insert_eq attempt).2] at written
      obtain ⟨rfl, rfl⟩ := write_eq written
      exact .scheduled input _ _
  | attach index mediaIds =>
      cases mediaIds with
      | nil => exact effects_reading fun _ => .schedule input
      | cons id mediaIds => exact effects_update fun _ _ => .schedule input
  | done => trivial

private theorem reschedule_effects (account : AccountId) (id : Nat) (scheduledAt : Int)
    (stage : RescheduleStage) : HasEffects (.reschedule account id scheduledAt stage)
      (rescheduleStatus account id scheduledAt stage) := by
  cases stage with
  | account => exact ⟨fun _ _ _ => changed_locked, fun _ => .other trivial trivial⟩
  | find =>
      refine effects_lock fun rows _ => .other trivial ?_
      split <;> trivial
  | update =>
      refine effects_attempting ?_ fun _ _ _ => .other trivial trivial
      intro rows changes attempt key change written
      obtain ⟨row, found, rfl⟩ := Option.map_eq_some_iff.mp attempt
      obtain ⟨rfl, rfl⟩ := write_eq written
      exact .rescheduled scheduledAt (scheduleAt_eq_some found)

private theorem cancel_effects (account : AccountId) (id : Nat) (stage : CancelStage) :
    HasEffects (.cancel account id stage) (cancelScheduledStatus account id stage) := by
  cases stage with
  | find =>
      refine effects_lock fun rows _ => .other trivial ?_
      split <;> trivial
  | delete => exact ⟨fun _ _ _ => changed_delete, fun _ => .other trivial trivial⟩

private theorem edit_effects (uploads : List Nat) (input : Edit) (stage : EditStage) :
    HasEffects (.edit input stage) (updateOwnedLocalStatus uploads input stage) := by
  cases stage with
  | find =>
      refine effects_lock fun rows _ => .other trivial ?_
      split
      · trivial
      · split <;> trivial
  | check mediaIds =>
      cases mediaIds with
      | nil => exact effects_reading fun _ => .other trivial trivial
      | cons id mediaIds =>
          refine effects_reading fun rows => ?_
          split
          · exact .other trivial trivial
          · exact .failed
  | current => exact effects_reading fun _ => .other trivial trivial
  | detach mediaIds =>
      cases mediaIds with
      | nil => exact effects_reading fun _ => .other trivial trivial
      | cons id mediaIds => exact effects_update fun _ _ => .other trivial trivial
  | attach index mediaIds =>
      cases mediaIds with
      | nil => exact effects_reading fun _ => .other trivial trivial
      | cons id mediaIds => exact effects_update fun _ _ => .other trivial trivial

private theorem publish_effects (uploads : List Nat) (now : Int) (id : Nat) :
    HasEffects (.publish id) (publishScheduledStatus uploads now id) := by
  refine effects_reading fun rows => ?_
  cases found : scheduleAt rows id with
  | none => exact .other trivial trivial
  | some row =>
      dsimp only
      split
      · exact .failed
      split
      · exact .other trivial trivial
      split
      · exact .other trivial trivial
      exact .publish _ (scheduleAt_eq_some found)

theorem code_effects (uploads : List Nat) (now : Int) (position : Position) :
    HasEffects position ((code uploads).instruction now position) := by
  cases position with
  | create input stage => exact create_effects input stage
  | schedule input stage => exact schedule_effects input stage
  | reschedule account id scheduledAt stage =>
      exact reschedule_effects account id scheduledAt stage
  | cancel account id stage => exact cancel_effects account id stage
  | edit input stage => exact edit_effects uploads input stage
  | publish id => exact publish_effects uploads now id
  | done => trivial
  | failed => trivial

private theorem effects_of {uploads : List Nat} {now : Int} {position : Position}
    {writes : Rows Key Row → Writes Key Row} {next : Rows Key Row → Position}
    (instruction : (code uploads).instruction now position = .statement writes next) :
    Effects position writes next := by
  have effects := code_effects uploads now position
  rw [instruction] at effects
  exact effects

/-!
## The owner check
-/

def Checked : Key → Row → Prop
  | .media _, .media media => ownerCheck media = true
  | _, _ => True

theorem code_checks (uploads : List Nat) : Checks (code uploads) Checked := by
  intro now position writes next instruction rows checked key row written
  cases (effects_of instruction).changed rows key (some row) written with
  | locked present => exact checked key row present
  | media passes => exact passes
  | created | scheduled | rescheduled => trivial

/-!
## One publication
-/

/-- The status of a publication is inserted, and the transaction is not yet committed. -/
def inserted (schedule : Nat) (status : StatusId) : Position → Bool
  | .create input stage =>
      input.scheduledStatusId == some schedule && input.id == status && stage.inserted
  | _ => false

section

variable {rows : Rows Key Row} {writes : Writes Key Row} {position next : Position}
  {schedule : Nat} {status : StatusId}

private theorem Goes.inserted (goes : Goes rows writes position next)
    (own : Media.inserted schedule status next = true) :
    Media.inserted schedule status position = true ∨
      (rows (.status status) = none ∧ (writes (.status status)).isSome) := by
  cases goes with
  | create input later =>
      simp only [Media.inserted, Bool.and_eq_true] at own ⊢
      exact .inl ⟨own.1, later own.2⟩
  | inserts input absent written =>
      simp only [Media.inserted, Bool.and_eq_true, beq_iff_eq] at own
      exact .inr (own.1.2 ▸ ⟨absent, written⟩)
  | publish => simp [Media.inserted, CreationStage.inserted] at own
  | failed | schedule => cases own
  | other _ after => cases next <;> first | exact False.elim after | cases own

end

theorem code_inserts (uploads : List Nat) (schedule : Nat) (status : StatusId) :
    Inserts (code uploads) (.status status) (inserted schedule status) := by
  refine ⟨?_, ?_, ?_⟩
  · intro position starts
    cases position with
    | create input stage =>
        obtain ⟨_, rfl⟩ := starts
        exact Bool.and_false _
    | _ => rfl
  · intro now position writes next instruction rows
    exact ((effects_of instruction).goes rows).inserted
  · intro now position writes next instruction rows deleted
    cases (effects_of instruction).changed rows _ _ deleted

/-!
## The status of a publication
-/

/-- A schedule that is to be stored when the session commits. A session that has failed
does not commit. -/
def Pending (schedule : Nat) (status : StatusId) : Position → Prop
  | .schedule input _ => input.id = schedule ∧ input.publicationStatusId = status
  | .failed => True
  | _ => False

def Publishes (schedule : Nat) (status : StatusId) : Position → Prop
  | .create input _ => input.scheduledStatusId = some schedule ∧ input.id = status
  | _ => False

/-- The visible schedules were stored, or are to be stored by the session. -/
def Known (stored : Nat → List StatusId) (position : Position) (rows : Rows Key Row) : Prop :=
  ∀ id row, rows (.schedule id) = some (.schedule row) →
    row.publicationStatusId ∈ stored id ∨ Pending id row.publicationStatusId position

section

variable {rows : Rows Key Row} {writes : Writes Key Row} {position next : Position}
  {schedule : Nat} {status : StatusId} {stored : Nat → List StatusId}

private theorem Goes.pending (goes : Goes rows writes position next)
    (pending : Pending schedule status position) : Pending schedule status next := by
  cases goes with
  | failed => trivial
  | schedule => exact pending
  | create | inserts | publish => cases pending
  | other before _ => cases position <;> first | exact False.elim before | exact False.elim pending

private theorem Goes.publishes (goes : Goes rows writes position next)
    (known : Known stored position rows) (publishes : Publishes schedule status next) :
    Publishes schedule status position ∨ status ∈ stored schedule := by
  cases goes with
  | create | inserts => exact .inl publishes
  | publish mediaIds present =>
      obtain ⟨own, rfl⟩ := publishes
      cases own
      exact .inr ((known _ _ present).resolve_right nofun)
  | failed | schedule => cases publishes
  | other _ after => cases next <;> first | exact False.elim after | exact False.elim publishes

private theorem Changed.known {id : Nat} {row : ScheduledStatus}
    (changed : Changed rows position (.schedule id) (some (.schedule row)))
    (goes : Goes rows writes position next) (known : Known stored position rows) :
    row.publicationStatusId ∈ stored id ∨ Pending id row.publicationStatusId next := by
  cases changed with
  | locked present => exact (known id row present).imp_right goes.pending
  | scheduled input => exact .inr (goes.pending ⟨rfl, rfl⟩)
  | @rescheduled _ _ old _ present => exact (known id old present).imp_right goes.pending

end

private theorem committed_stores {uploads : List Nat} {now : Int} {position : Position}
    {schedule : Nat} {status : StatusId}
    (commits : (code uploads).instruction now position = .commit)
    (pending : Pending schedule status position) (number : Nat) :
    storage schedule (.commits number position) = some status := by
  cases position with
  | schedule input stage =>
      obtain ⟨rfl, rfl⟩ := pending
      cases stage with
      | done => exact if_pos rfl
      | reserve mediaIds => cases mediaIds <;> cases commits
      | attach index mediaIds => cases mediaIds <;> cases commits
      | _ => cases commits
  | failed => cases commits
  | _ => cases pending

/-- The schedules that sessions see and publish were stored with the status that they are
published as. -/
private structure Sourced (start : Rows Key Row) (events : List (Event Position))
    (state : ReadCommitted.State Key Row Position) : Prop where
  rows : ∀ id row, state.rows (.schedule id) = some (.schedule row) →
    row.publicationStatusId ∈ storedStatuses start id events
  writes : ∀ number session, state.sessions number = some session → ∀ id row,
    session.writes (.schedule id) = some (some (.schedule row)) →
      row.publicationStatusId ∈ storedStatuses start id events ∨
        Pending id row.publicationStatusId session.position
  publishes : ∀ number session, state.sessions number = some session → ∀ schedule status,
    Publishes schedule status session.position → status ∈ storedStatuses start schedule events
  published : ∀ schedule, events.filterMap (publication schedule) ⊆
    storedStatuses start schedule events

namespace Sourced

variable {uploads : List Nat} {start : Rows Key Row} {events : List (Event Position)}
  {state next : ReadCommitted.State Key Row Position} {event : Event Position}

private theorem stored_append (schedule : Nat) : storedStatuses start schedule (events ++ [event]) =
    storedStatuses start schedule events ++ (storage schedule event).toList := by
  unfold storedStatuses
  rw [List.filterMap_append, ← List.append_assoc]
  cases stores : storage schedule event with
  | none => rw [List.filterMap_cons_none stores]; rfl
  | some status => rw [List.filterMap_cons_some stores]; rfl

private theorem stored_mono {schedule : Nat} {status : StatusId}
    (stored : status ∈ storedStatuses start schedule events) :
    status ∈ storedStatuses start schedule (events ++ [event]) := by
  rw [stored_append]
  exact List.mem_append_left _ stored

private theorem seen (sourced : Sourced start events state) {number : Nat}
    {session : Session Key Row Position} (found : state.sessions number = some session) :
    Known (fun id => storedStatuses start id events) session.position (state.seen session) := by
  intro id row present
  unfold State.seen at present
  cases written : session.writes (.schedule id) with
  | none =>
      rw [overlay_of_none written] at present
      exact .inl (sourced.rows id row present)
  | some changed =>
      rw [overlay_of_some written] at present
      rw [present] at written
      exact sourced.writes number session found id row written

private theorem published_append (sourced : Sourced start events state)
    (publishes : ∀ schedule status, publication schedule event = some status →
      status ∈ storedStatuses start schedule events) (schedule : Nat) :
    (events ++ [event]).filterMap (publication schedule) ⊆
      storedStatuses start schedule (events ++ [event]) := by
  intro status member
  obtain ⟨other, listed, isStatus⟩ := List.mem_filterMap.mp member
  rcases List.mem_append.mp listed with listed | listed
  · exact stored_mono
      (sourced.published schedule (List.mem_filterMap.mpr ⟨other, listed, isStatus⟩))
  · rw [List.mem_singleton.mp listed] at isStatus
    exact stored_mono (publishes schedule status isStatus)

private theorem committed_publishes {position : Position} {number schedule : Nat}
    {status : StatusId}
    (publishes : publication schedule (.commits number position) = some status) :
    Publishes schedule status position := by
  cases position with
  | create input stage =>
      cases stage with
      | done =>
          dsimp only [publication] at publishes
          split at publishes
          · rename_i own
            exact ⟨own, Option.some.inj publishes⟩
          · cases publishes
      | _ => cases publishes
  | _ => cases publishes

private theorem step (sourced : Sourced start events state)
    (step : Step (code uploads) state event next) : Sourced start (events ++ [event]) next := by
  cases step with
  | clock =>
      exact ⟨fun id row found => stored_mono (sourced.rows id row found),
        fun number session found id row written =>
          (sourced.writes number session found id row written).imp_left stored_mono,
        fun number session found schedule status publishes =>
          stored_mono (sourced.publishes number session found schedule status publishes),
        sourced.published_append nofun⟩
  | @begins number position free starts =>
      refine ⟨fun id row found => stored_mono (sourced.rows id row found), ?_, ?_,
        sourced.published_append nofun⟩
      · intro other session found id row written
        obtain ⟨_, isNew⟩ | ⟨_, found⟩ := State.setSession_cases found
        · cases isNew
          cases written
        · exact (sourced.writes other session found id row written).imp_left stored_mono
      · intro other session found schedule status publishes
        obtain ⟨_, isNew⟩ | ⟨_, found⟩ := State.setSession_cases found
        · cases isNew
          cases position with
          | create input stage =>
              obtain ⟨unscheduled, _⟩ := starts
              obtain ⟨own, _⟩ := publishes
              rw [unscheduled] at own
              cases own
          | _ => cases publishes
        · exact stored_mono (sourced.publishes other session found schedule status publishes)
  | @executes number session writes after found instruction unlocked =>
      have effects := effects_of instruction
      have goes := effects.goes (state.seen session)
      have known := sourced.seen found
      refine ⟨fun id row present => stored_mono (sourced.rows id row present), ?_, ?_,
        sourced.published_append nofun⟩
      · intro other changed foundOther id row written
        obtain ⟨_, isNew⟩ | ⟨_, foundOther⟩ := State.setSession_cases foundOther
        · cases isNew
          obtain new | old := andThen_eq_some written
          · exact ((effects.changed _ _ _ new).known goes known).imp_left stored_mono
          · exact (sourced.writes number session found id row old).imp stored_mono goes.pending
        · exact (sourced.writes other changed foundOther id row written).imp_left stored_mono
      · intro other changed foundOther schedule status publishes
        obtain ⟨_, isNew⟩ | ⟨_, foundOther⟩ := State.setSession_cases foundOther
        · cases isNew
          obtain begun | stored := goes.publishes known publishes
          · exact stored_mono (sourced.publishes number session found schedule status begun)
          · exact stored_mono stored
        · exact stored_mono (sourced.publishes other changed foundOther schedule status publishes)
  | @commits number session found instruction =>
      refine ⟨?_, ?_, ?_, sourced.published_append ?_⟩
      · intro id row present
        obtain stored | pending := sourced.seen found id row present
        · exact stored_mono stored
        · rw [stored_append, committed_stores instruction pending number]
          exact List.mem_append_right _ (List.mem_singleton.mpr rfl)
      · intro other session foundOther id row written
        obtain ⟨_, ⟨⟩⟩ | ⟨_, foundOther⟩ := State.setSession_cases foundOther
        exact (sourced.writes other session foundOther id row written).imp_left stored_mono
      · intro other session foundOther schedule status publishes
        obtain ⟨_, ⟨⟩⟩ | ⟨_, foundOther⟩ := State.setSession_cases foundOther
        exact stored_mono (sourced.publishes other session foundOther schedule status publishes)
      · intro schedule status publishes
        exact sourced.publishes number session found schedule status (committed_publishes publishes)
  | aborts found =>
      refine ⟨fun id row present => stored_mono (sourced.rows id row present), ?_, ?_,
        sourced.published_append nofun⟩
      · intro other session foundOther id row written
        obtain ⟨_, ⟨⟩⟩ | ⟨_, foundOther⟩ := State.setSession_cases foundOther
        exact (sourced.writes other session foundOther id row written).imp_left stored_mono
      · intro other session foundOther schedule status publishes
        obtain ⟨_, ⟨⟩⟩ | ⟨_, foundOther⟩ := State.setSession_cases foundOther
        exact stored_mono (sourced.publishes other session foundOther schedule status publishes)

end Sourced

/-!
## Runs
-/

private theorem publication_inserted {schedule : Nat} {status : StatusId} (event : Event Position) :
    publication schedule event = some status →
      commitsAt (inserted schedule status) event = true := by
  intro publishes
  cases event with
  | commits number position =>
      cases position with
      | create input stage =>
          obtain ⟨own, rfl⟩ := Sourced.committed_publishes publishes
          cases stage with
          | done => simp [commitsAt, inserted, CreationStage.inserted, own]
          | _ => cases publishes
      | _ => cases publishes
  | _ => cases publishes

section

variable {uploads : List Nat} {start state : ReadCommitted.State Key Row Position}
  {events : List (Event Position)}

theorem published_stored (idle : ∀ number, start.sessions number = none)
    (run : Run (code uploads) (fun _ _ => True) start events state) (schedule : Nat) :
    events.filterMap (publication schedule) ⊆ storedStatuses start.rows schedule events := by
  have sourced : Sourced start.rows events state := by
    refine run.invariant ⟨?_, ?_, ?_, fun _ => List.nil_subset _⟩ fun _ _ _ _ kept _ step =>
      kept.step step
    · intro id row present
      have found : scheduleAt start.rows id = some row := by
        unfold scheduleAt
        rw [present]
      unfold storedStatuses
      rw [found]
      exact List.mem_append_left _ (List.mem_singleton.mpr rfl)
    · intro number session found
      rw [idle number] at found
      cases found
    · intro number session found
      rw [idle number] at found
      cases found
  exact sourced.published schedule

theorem published_nodup (idle : ∀ number, start.sessions number = none)
    (run : Run (code uploads) (fun _ _ => True) start events state) (schedule : Nat) :
    (events.filterMap (publication schedule)).Nodup := by
  rw [List.nodup_iff_count_le_one]
  intro status
  have once := (run.insertedOnce idle (code_inserts uploads schedule status)).once
  rw [List.count_filterMap]
  refine le_trans (List.countP_mono_left fun event _ => ?_) once
  intro publishes
  exact publication_inserted event (by simpa using publishes)

end

theorem Attached.unique {rows : Rows Key Row} (checked : ∀ key row, rows key = some row →
      Checked key row) {media : Nat} {one two : Owner} (first : Attached rows media one)
    (second : Attached rows media two) : one = two := by
  have passes : ∀ row, mediaAt rows media = some row → ownerCheck row = true := by
    intro row found
    unfold mediaAt at found
    split at found
    · rename_i stored present
      cases found
      exact checked _ _ present
    · cases found
  cases one with
  | status oneId =>
      obtain ⟨_, row, found, isOne⟩ := first
      cases two with
      | status twoId =>
          obtain ⟨_, other, foundOther, isTwo⟩ := second
          rw [found] at foundOther
          cases foundOther
          rw [isOne] at isTwo
          cases isTwo
          rfl
      | schedule twoId =>
          obtain ⟨_, other, foundOther, isTwo⟩ := second
          rw [found] at foundOther
          cases foundOther
          have passed := passes row found
          simp [ownerCheck, isOne, isTwo] at passed
  | schedule oneId =>
      obtain ⟨_, row, found, isOne⟩ := first
      cases two with
      | status twoId =>
          obtain ⟨_, other, foundOther, isTwo⟩ := second
          rw [found] at foundOther
          cases foundOther
          have passed := passes row found
          simp [ownerCheck, isOne, isTwo] at passed
      | schedule twoId =>
          obtain ⟨_, other, foundOther, isTwo⟩ := second
          rw [found] at foundOther
          cases foundOther
          rw [isOne] at isTwo
          cases isTwo
          rfl

/-- In every interleaving of transactions, an upload is attached to one live status or to one
scheduled status, and a schedule is turned into at most one status: its identifier is
published no more often than it has been stored. -/
theorem media_exclusive_and_published_once {uploads : List Nat}
    {start : ReadCommitted.State Key Row Position}
    (idle : ∀ number, start.sessions number = none)
    (checked : ∀ key row, start.rows key = some row → Checked key row)
    {events : List (Event Position)} {state : ReadCommitted.State Key Row Position}
    (run : Run (code uploads) (fun _ _ => True) start events state) :
    (∀ media one two, Attached state.rows media one → Attached state.rows media two → one = two) ∧
      ∀ schedule, (events.filterMap (publication schedule)).Nodup ∧
        (events.filterMap (publication schedule)).length ≤
          (storedStatuses start.rows schedule events).length := by
  have satisfies : state.Satisfies Checked := by
    refine run.invariant ⟨checked, ?_⟩ fun _ _ _ _ kept _ step =>
      step.satisfies (code_checks uploads) kept
    intro number session found
    rw [idle number] at found
    cases found
  refine ⟨fun _ _ _ first second => Attached.unique satisfies.rows first second, ?_⟩
  intro schedule
  have distinct := published_nodup idle run schedule
  have stored := published_stored idle run schedule
  exact ⟨distinct, (List.subperm_of_subset distinct stored).length_le⟩

/-!
## A job that is executed twice
-/

namespace Sample

def alice : AccountId := ⟨1⟩

def start : ReadCommitted.State Key Row Position where
  now := 0
  rows
    | .account id => if id = alice then some .account else none
    | .media 1 => some (.media ⟨alice, none, none, 0⟩)
    | _ => none
  sessions _ := none

def request : NewScheduledStatus := ⟨5, ⟨7⟩, alice, [1], 0⟩

def scheduled : ReadCommitted.State Key Row Position :=
  (start.opened 0 (.schedule request .account)).advanced (code [1]) 0 7

def publishedOnce : ReadCommitted.State Key Row Position :=
  (scheduled.opened 0 (.publish 5)).advanced (code [1]) 0 8

def publishedTwice : ReadCommitted.State Key Row Position :=
  (publishedOnce.opened 0 (.publish 5)).advanced (code [1]) 0 2

private theorem ended_idle {state : ReadCommitted.State Key Row Position} {position : Position}
    {count : Nat}
    (idle : ∀ number, state.sessions number = none)
    (own : ((state.opened 0 position).advanced (code [1]) 0 count).sessions 0 = none) :
    ∀ number, ((state.opened 0 position).advanced (code [1]) 0 count).sessions number = none := by
  intro number
  by_cases zero : number = 0
  · rw [zero]
    exact own
  · exact (ReadCommitted.State.opened_only idle).advanced count number zero

end Sample

open Sample in
theorem publication_job_twice :
    ∃ events, Run (code [1]) (fun _ _ => True) Sample.start events publishedTwice ∧
      (∀ media one two, Attached publishedTwice.rows media one →
        Attached publishedTwice.rows media two → one = two) ∧
      (events.filterMap (publication 5)).length ≤ 1 ∧
      events.filterMap (publication 5) = [⟨7⟩] ∧
      Attached publishedTwice.rows 1 (.status ⟨7⟩) := by
  have free : ∀ (state : ReadCommitted.State Key Row Position) (event : Event Position), True :=
    fun _ _ => trivial
  have idle : ∀ number, Sample.start.sessions number = none := fun _ => rfl
  have idle_scheduled : ∀ number, scheduled.sessions number = none := ended_idle idle rfl
  have idle_published : ∀ number, publishedOnce.sessions number = none :=
    ended_idle idle_scheduled rfl
  have began : Run (code [1]) (fun _ _ => True) Sample.start
      [.begins 0 (.schedule request .account)]
      (Sample.start.opened 0 (.schedule request .account)) :=
    .step .start trivial (.begins (idle 0) rfl)
  have publishes : (code [1]).starts (.publish 5) := trivial
  have first := began.advanced free (ReadCommitted.State.opened_only idle).alone 7
  have second := (first.step trivial (.begins (idle_scheduled 0) publishes)).advanced free
    (ReadCommitted.State.opened_only idle_scheduled).alone 8
  have third := (second.step trivial (.begins (idle_published 0) publishes)).advanced free
    (ReadCommitted.State.opened_only idle_published).alone 2
  have checked : ∀ key row, Sample.start.rows key = some row → Checked key row := by
    intro key row present
    unfold Sample.start at present
    dsimp only at present
    split at present
    · trivial
    · cases present
      rfl
    · cases present
  obtain ⟨exclusive, once⟩ := media_exclusive_and_published_once idle checked third
  exact ⟨_, third, exclusive, (once 5).2, rfl, rfl, _, rfl, rfl⟩

end Roosty.Status.Media
