import Roosty.Status.SchedulingProperties

/-!
# Limits of schedules

The day of a request is the one of its time in the offset that the client wrote. Where it is
another day than that of UTC, schedules of the wrong day are counted.
-/

set_option autoImplicit false

namespace Roosty.Status.Posting

open Library

namespace Limits

/-!
## Requests
-/

/-- A request of a client, with the identifiers that it generates. -/
inductive Request where
  | create (input : NewScheduledStatus)
  | reschedule (account : AccountId) (id : Nat) (scheduledAt : Int × Int)
  | cancel (account : AccountId) (id : Nat)

inductive Reply where
  | created
  | moved
  | missing
  | cancelled
  | limitReached
  | failed (error : RoostyError)

/-- One transaction. The lock of the account keeps the others of the account away from its
schedules. A failure rolls it back, and a limit that is reached does not. -/
def handle (env : Environment) (db : Db) : Request → Db × Reply
  | .create input =>
      match createScheduledStatusRow env db input with
      | .ok (.created, next) => (next, .created)
      | .ok (.totalLimitReached, next) | .ok (.dailyLimitReached, next) => (next, .limitReached)
      | .error error => (db, .failed error)
  | .reschedule account id scheduledAt =>
      match rescheduleStatus env db account id scheduledAt with
      | .ok (next, some _) => (next, .moved)
      | .ok (_, none) => (db, .missing)
      | .error error => (db, .failed error)
  | .cancel account id => (cancelScheduledStatus db account id, .cancelled)

def requests (env : Environment) : Machine Db Request Reply := ⟨handle env⟩

def utcDay (time : Int) : Int := time / day

def onDay (account : AccountId) (date : Int) (schedule : ScheduledStatus) : Bool :=
  schedule.accountId == account && decide (utcDay schedule.scheduledAt = date)

/-- No account has too many schedules, on a day of UTC or overall. -/
structure Limited (env : Environment) (db : Db) : Prop where
  daily : ∀ account date, db.schedules.countP (onDay account date) ≤ env.dailyLimit
  total : ∀ account, totalSchedules db account ≤ env.totalLimit

def SameDate (scheduledAt : Int × Int) : Prop :=
  (scheduledAt.1 + scheduledAt.2) / day = utcDay scheduledAt.1

/-- A new time is on the date that the client wrote, or the day that it is on has room. -/
def Suits (env : Environment) (db : Db) : Request → Prop
  | .create input => SameDate input.scheduledAt ∨
      db.schedules.countP (onDay input.accountId (utcDay input.scheduledAt.1)) < env.dailyLimit
  | .reschedule account id scheduledAt => SameDate scheduledAt ∨
      (db.schedules.countP fun other => other.id != id &&
        onDay account (utcDay scheduledAt.1) other) < env.dailyLimit
  | .cancel _ _ => True

/-!
## One request
-/

section

variable {env : Environment} {db : Db}

private theorem day_pos : 0 < day := by decide

private theorem window_iff {date time : Int} :
    date * day ≤ time ∧ time < date * day + day ↔ utcDay time = date := by
  unfold utcDay
  rw [Int.ediv_eq_iff_of_pos day_pos]

private theorem dailySchedules_eq (account : AccountId) {scheduledAt : Int × Int}
    (same : SameDate scheduledAt) : dailySchedules db account (dayStart scheduledAt) =
      db.schedules.countP (onDay account (utcDay scheduledAt.1)) := by
  unfold dailySchedules dayStart
  rw [same]
  refine List.countP_congr fun schedule _ => ?_
  unfold onDay
  rw [Bool.and_assoc, Bool.and_eq_true, Bool.and_eq_true, Bool.and_eq_true, decide_eq_true_eq,
    decide_eq_true_eq, decide_eq_true_eq, window_iff]

private theorem limitReached_ok {input : NewScheduledStatus} {result : ScheduleStatusResult}
    {next : Db} (success : createScheduledStatusRow env db input = .ok (result, next))
    (reached : result ≠ .created) : next = db := by
  unfold createScheduledStatusRow at success
  split_ifs at success with missing total daily
  · cases success
    rfl
  · cases success
    rfl
  · cases inserted : insertScheduledStatus env db input with
    | error error =>
        rw [inserted] at success
        cases success
    | ok written =>
        rw [inserted] at success
        cases success
        exact absurd rfl reached

private theorem created_ok {input : NewScheduledStatus} {next : Db}
    (success : createScheduledStatusRow env db input = .ok (.created, next)) :
    totalSchedules db input.accountId < env.totalLimit ∧
      dailySchedules db input.accountId (dayStart input.scheduledAt) < env.dailyLimit ∧
      (∀ schedule ∈ db.schedules, schedule.id ≠ input.id) ∧
      next.schedules = db.schedules ++ [input.row] := by
  unfold createScheduledStatusRow at success
  split_ifs at success with missing total daily
  · cases success
  · cases success
  · cases inserted : insertScheduledStatus env db input with
    | error error =>
        rw [inserted] at success
        cases success
    | ok written =>
        rw [inserted] at success
        cases success
        obtain ⟨_, _, rest⟩ := bind_ok inserted
        obtain ⟨_, fresh, rest⟩ := bind_ok rest
        obtain ⟨_, _, rest⟩ := bind_ok rest
        obtain ⟨_, _, rest⟩ := bind_ok rest
        obtain ⟨_, _, rest⟩ := bind_ok rest
        cases rest
        have unused := List.all_eq_true.mp (ensure_ok fresh)
        exact ⟨not_le.mp total, not_le.mp daily,
          fun schedule member => by simpa using unused schedule member, rfl⟩

private theorem Limited.created (limited : Limited env db) {input : NewScheduledStatus} {next : Db}
    (suits : Suits env db (.create input))
    (success : createScheduledStatusRow env db input = .ok (.created, next)) :
    Limited env next := by
  obtain ⟨total, daily, _, rows⟩ := created_ok success
  refine ⟨fun account date => ?_, fun account => ?_⟩
  · rw [rows, List.countP_append, List.countP_singleton]
    split
    next own =>
      rw [onDay, Bool.and_eq_true, beq_iff_eq, decide_eq_true_eq] at own
      obtain ⟨same, here⟩ : input.accountId = account ∧ utcDay input.scheduledAt.1 = date := own
      rw [← same, ← here]
      rcases suits with sameDate | room
      · rw [dailySchedules_eq input.accountId sameDate] at daily
        omega
      · omega
    next => exact limited.daily account date
  · unfold totalSchedules at total ⊢
    rw [rows, List.countP_append, List.countP_singleton]
    split
    next own =>
      have same : input.accountId = account := beq_iff_eq.mp own
      rw [← same]
      omega
    next => exact limited.total account

private theorem rescheduled_ok {account : AccountId} {id : Nat} {scheduledAt : Int × Int} {next : Db}
    {moved : ScheduledStatus}
    (success : rescheduleStatus env db account id scheduledAt = .ok (next, some moved)) :
    ∃ schedule ∈ db.schedules, schedule.id = id ∧ schedule.accountId = account ∧
      moved = { schedule with scheduledAt := scheduledAt.1 } ∧
      (SameDate scheduledAt → (db.schedules.countP fun other => other.id != id &&
        onDay account (utcDay scheduledAt.1) other) < env.dailyLimit) ∧
      next.schedules =
        Table.updateWhere (fun other => other.id == id) (fun _ => moved) db.schedules := by
  unfold rescheduleStatus at success
  cases found : db.schedules.find? fun schedule =>
      schedule.id == id && schedule.accountId == account with
  | none =>
      rw [found] at success
      cases success
  | some schedule =>
      rw [found] at success
      obtain ⟨room, success⟩ := guard_ok success
      cases success
      have own := List.find?_some found
      rw [Bool.and_eq_true, beq_iff_eq, beq_iff_eq] at own
      refine ⟨schedule, List.mem_of_find?_eq_some found, own.1, own.2, rfl, fun same => ?_, rfl⟩
      refine lt_of_eq_of_lt (List.countP_congr fun other _ => ?_) (not_le.mp room)
      unfold dayStart onDay
      rw [same]
      simp only [Bool.and_eq_true, decide_eq_true_eq, ← window_iff]
      tauto

private theorem countP_moved {rows : List ScheduledStatus} {id : Nat} {moved : ScheduledStatus}
    (keys : (rows.map ScheduledStatus.id).Nodup) (selected : ScheduledStatus → Bool) :
    (Table.updateWhere (fun other => other.id == id) (fun _ => moved) rows).countP selected ≤
      (rows.countP fun other => other.id != id && selected other) +
        if selected moved then 1 else 0 := by
  induction rows with
  | nil => exact Nat.zero_le _
  | cons head tail ih =>
      obtain ⟨fresh, tailKeys⟩ := List.nodup_cons.mp keys
      unfold Table.updateWhere at ih ⊢
      rw [List.map_cons, List.countP_cons, List.countP_cons]
      by_cases own : head.id = id
      · -- the other rows have other keys
        have others : tail.map (fun row => if (row.id == id) = true then moved else row) = tail := by
          refine (List.map_congr_left fun row member => ?_).trans (List.map_id _)
          have apart : row.id ≠ id := fun same =>
            fresh (own ▸ same ▸ List.mem_map_of_mem member)
          rw [if_neg (by simpa using apart), id_eq]
        have kept : (tail.countP fun other => other.id != id && selected other) =
            tail.countP selected := by
          refine List.countP_congr fun row member => ?_
          have apart : row.id ≠ id := fun same =>
            fresh (own ▸ same ▸ List.mem_map_of_mem member)
          simp [apart]
        have chosen : (head.id == id) = true := beq_iff_eq.mpr own
        rw [others, kept, if_pos chosen]
        dsimp only
        omega
      · have tailBound := ih tailKeys
        have apart : (head.id != id) = true := bne_iff_ne.mpr own
        have unchosen : ¬ (head.id == id) = true := fun same => own (beq_iff_eq.mp same)
        rw [if_neg unchosen, apart, Bool.true_and]
        omega

private theorem Limited.moved (limited : Limited env db) {account : AccountId} {id : Nat}
    {scheduledAt : Int × Int} {next : Db} {moved : ScheduledStatus}
    (keys : (db.schedules.map ScheduledStatus.id).Nodup)
    (suits : Suits env db (.reschedule account id scheduledAt))
    (success : rescheduleStatus env db account id scheduledAt = .ok (next, some moved)) :
    Limited env next := by
  obtain ⟨schedule, member, own, owner, rfl, room, rows⟩ := rescheduled_ok success
  have fewer : ∀ selected : ScheduledStatus → Bool,
      (db.schedules.countP fun other => other.id != id && selected other) ≤
        db.schedules.countP selected := fun selected =>
    List.countP_mono_left fun other _ chosen => (Bool.and_eq_true _ _ ▸ chosen).2
  refine ⟨fun other date => ?_, fun other => ?_⟩
  · rw [rows]
    refine (countP_moved keys _).trans ?_
    split
    next here =>
      rw [onDay, Bool.and_eq_true, beq_iff_eq, decide_eq_true_eq] at here
      obtain ⟨same, day⟩ : schedule.accountId = other ∧ utcDay scheduledAt.1 = date := here
      rw [← same, owner, ← day]
      rcases suits with sameDate | free
      · exact room sameDate
      · exact free
    next => exact (fewer _).trans (limited.daily other date)
  · unfold totalSchedules
    rw [rows]
    refine (countP_moved keys _).trans ?_
    split
    next here =>
      -- the schedule itself was one of those that are counted
      have same : schedule.accountId = other := beq_iff_eq.mp here
      refine le_trans ?_ (limited.total other)
      unfold totalSchedules
      obtain ⟨front, back, whole⟩ := List.append_of_mem member
      have chosen : (schedule.accountId == other) = true := beq_iff_eq.mpr same
      have left : (front.countP fun row => row.id != id && row.accountId == other) ≤
          front.countP fun row => row.accountId == other :=
        List.countP_mono_left fun row _ both => (Bool.and_eq_true _ _ ▸ both).2
      have right : (back.countP fun row => row.id != id && row.accountId == other) ≤
          back.countP fun row => row.accountId == other :=
        List.countP_mono_left fun row _ both => (Bool.and_eq_true _ _ ▸ both).2
      have self : (schedule.id != id && schedule.accountId == other) = false := by simp [own]
      rw [whole, List.countP_append, List.countP_append, List.countP_cons, List.countP_cons, self,
        chosen, if_pos rfl, if_neg Bool.false_ne_true]
      omega
    next => exact (fewer _).trans (limited.total other)

/-!
## Runs
-/

/-- Schedules have different identifiers, and no limit is exceeded. -/
structure Kept (env : Environment) (db : Db) : Prop where
  keys : (db.schedules.map ScheduledStatus.id).Nodup
  limited : Limited env db

theorem Kept.handle (kept : Kept env db) {request : Request} (suits : Suits env db request) :
    Kept env (handle env db request).1 := by
  cases request with
  | create input =>
      unfold Limits.handle
      dsimp only
      split
      next next success =>
        obtain ⟨_, _, fresh, rows⟩ := created_ok success
        refine ⟨?_, kept.limited.created suits success⟩
        rw [rows, List.map_append, List.map_singleton]
        refine List.nodup_append.mpr ⟨kept.keys, List.nodup_singleton _, ?_⟩
        intro id member other otherMember same
        obtain ⟨schedule, stored, rfl⟩ := List.mem_map.mp member
        exact fresh schedule stored (same.trans (List.mem_singleton.mp otherMember))
      next success => exact (limitReached_ok success (by decide)).symm ▸ kept
      next success => exact (limitReached_ok success (by decide)).symm ▸ kept
      next => exact kept
  | reschedule account id scheduledAt =>
      unfold Limits.handle
      dsimp only
      split
      next next moved success =>
        obtain ⟨schedule, _, own, _, shape, _, rows⟩ := rescheduled_ok success
        refine ⟨?_, kept.limited.moved kept.keys suits success⟩
        have same : ∀ row ∈ db.schedules, (row.id == id) = true → moved.id = row.id := by
          intro row _ chosen
          rw [shape]
          exact own.trans (beq_iff_eq.mp chosen).symm
        rw [rows, Table.map_updateWhere same]
        exact kept.keys
      next => exact kept
      next => exact kept
  | cancel account id =>
      change Kept env (cancelScheduledStatus db account id)
      unfold cancelScheduledStatus
      split
      next =>
        refine ⟨kept.keys.sublist (List.filter_sublist.map _), fun other date => ?_, fun other => ?_⟩
        · exact (List.Sublist.countP_le List.filter_sublist).trans (kept.limited.daily other date)
        · exact (List.Sublist.countP_le List.filter_sublist).trans (kept.limited.total other)
      next => exact kept

/-- Every run whose requests suit the days of UTC keeps the limits, and a request that is
refused changes nothing. -/
theorem schedules_limited (keys : (db.schedules.map ScheduledStatus.id).Nodup)
    (limited : Limited env db) {calls : List Request}
    (suits : (requests env).Guarded (Suits env) db calls) :
    Limited env ((requests env).run db calls) ∧
      ∀ state request, (handle env state request).2 = .limitReached ∨
        (∃ error, (handle env state request).2 = .failed error) →
          (handle env state request).1 = state := by
  refine ⟨?_, ?_⟩
  · have kept := (requests env).guarded_invariant (Kept env)
      (fun _ _ suits kept => kept.handle suits) ⟨keys, limited⟩ suits
    exact kept.limited
  · intro state request refused
    cases request with
    | create input =>
        unfold handle at refused ⊢
        dsimp only at refused ⊢
        split at refused
        · rcases refused with refused | ⟨_, refused⟩ <;> cases refused
        · next success => exact limitReached_ok success (by decide)
        · next success => exact limitReached_ok success (by decide)
        · rfl
    | reschedule account id scheduledAt =>
        unfold handle at refused ⊢
        dsimp only at refused ⊢
        split at refused
        · rcases refused with refused | ⟨_, refused⟩ <;> cases refused
        · rfl
        · rfl
    | cancel account id => rcases refused with refused | ⟨_, refused⟩ <;> cases refused

end

/-!
## Two clients
-/

namespace Clients

def env : Environment := { Posting.Sample.env with dailyLimit := 1 }

def schedule (number : Nat) (scheduledAt : Int × Int) : Request :=
  .create ⟨number, ⟨number⟩, ⟨1⟩, "hello", .publicStatus, false, "", none, none, none, none,
    .everyone, scheduledAt, [], none⟩

def early : Request := schedule 1 (1782952200000000, 0)

def late : Request := schedule 2 (1782953100000000, -3600000000)

end Clients

open Clients in
theorem schedules_limited_one :
    Limited env ((requests env).run Posting.Sample.db [early]) ∧
      (((requests env).run Posting.Sample.db [early]).schedules.map ScheduledStatus.id) = [1] := by
  have suits : (requests env).Guarded (Suits env) Posting.Sample.db [early] :=
    Machine.guarded_cons (.inl (show (1782952200000000 + 0 : Int) / day = _ by decide))
      Machine.guarded_nil
  have keys : (Posting.Sample.db.schedules.map ScheduledStatus.id).Nodup := List.nodup_nil
  have limited : Limited env Posting.Sample.db :=
    ⟨fun _ _ => Nat.zero_le _, fun _ => Nat.zero_le _⟩
  exact ⟨(schedules_limited keys limited suits).1, by decide +kernel⟩

open Clients in
/-- Two schedules on one day of UTC, of which the limit allows one. -/
theorem schedules_exceed :
    (Posting.Sample.db.schedules.map ScheduledStatus.id).Nodup ∧
      Limited env Posting.Sample.db ∧
      ((requests env).run Posting.Sample.db [early, late]).schedules.map
        (fun schedule => utcDay schedule.scheduledAt) = [20636, 20636] ∧
      ¬ Limited env ((requests env).run Posting.Sample.db [early, late]) := by
  refine ⟨List.nodup_nil, ⟨fun _ _ => Nat.zero_le _, fun _ => Nat.zero_le _⟩, by decide +kernel,
    fun limited => ?_⟩
  have two := limited.daily ⟨1⟩ 20636
  exact absurd two (by decide +kernel)

end Limits

end Roosty.Status.Posting
