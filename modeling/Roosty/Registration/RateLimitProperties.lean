import Mathlib.Algebra.Order.Group.Int
import Roosty.Library.RollingWindow
import Roosty.Registration.RateLimit

/-!
# Exact rolling windows

The table holds what was allowed to a client within the long window, however much of the
older rows the cleanup has removed. Answers depend on these instants only.
-/

set_option autoImplicit false

namespace Roosty.Registration

open Library RollingWindow

abbrev Reply := Except Failure RegistrationRateLimitResult

/-!
## Runs
-/

def allows : Reply → Bool
  | .ok result => result.allowed
  | .error _ => false

structure RegistrationRateLimitSettings.Guaranteed (settings : RegistrationRateLimitSettings) :
    Prop where
  burst : 1 ≤ settings.burstLimit
  daily : settings.burstLimit ≤ settings.dailyLimit
  windows : settings.burstWindow < settings.dailyWindow

/-- Calls come in the order of their instants, each with a new identifier for its row. -/
structure Admissible (calls : List Call) : Prop where
  ordered : calls.Pairwise fun first second => first.now ≤ second.now
  fresh : (calls.map Call.id).Nodup

section

variable (secretHash : String → String → Except RoostyError String) (tokenPepper : String)

def isOf (client : String) (call : Call) : Bool :=
  match clientIdOf secretHash tokenPepper call.clientGroup with
  | .ok clientId => clientId == client
  | .error _ => false

/-- The instants of the attempts that were allowed to a client, in their order. -/
def allowedTimes (trace : List (Call × Reply)) (client : String) : List Int :=
  (trace.filter fun entry => isOf secretHash tokenPepper client entry.1 && allows entry.2).map
    fun entry => entry.1.now

variable (settings : RegistrationRateLimitSettings)

def traceOf (calls : List Call) : List (Call × Reply) :=
  (limiter secretHash tokenPepper settings).trace [] calls

/-- One of the windows that end at an instant is full for a client. -/
def WindowFull (times : List Int) (now : Int) : Prop :=
  settings.burstLimit ≤ (recent settings.burstWindow now times).length ∨
    settings.dailyLimit ≤ (recent settings.dailyWindow now times).length

end

/-!
## The answer
-/

section

variable {settings : RegistrationRateLimitSettings} {now : Int} {times : List Int}

def answer (settings : RegistrationRateLimitSettings) (now : Int) (times : List Int) : Reply :=
  let window := recent settings.dailyWindow now times
  if burstBlocked settings now window || dailyBlocked settings window then
    .ok (denial settings now window)
  else allowance settings now window

theorem burstAttempts_recent (guaranteed : settings.Guaranteed) :
    burstAttempts settings now (recent settings.dailyWindow now times) =
      (recent settings.burstWindow now times).length := by
  rw [burstAttempts, List.countP_eq_length_filter]
  exact congrArg List.length (recent_of_narrower guaranteed.windows.le now times)

theorem burstBlocked_recent (guaranteed : settings.Guaranteed) :
    burstBlocked settings now (recent settings.dailyWindow now times) = true ↔
      settings.burstLimit ≤ (recent settings.burstWindow now times).length := by
  rw [burstBlocked, burstAttempts_recent guaranteed, decide_eq_true_eq]

theorem dailyBlocked_recent :
    dailyBlocked settings (recent settings.dailyWindow now times) = true ↔
      settings.dailyLimit ≤ (recent settings.dailyWindow now times).length := by
  rw [dailyBlocked, dailyAttempts, decide_eq_true_eq]

theorem blocked_iff (guaranteed : settings.Guaranteed) :
    (burstBlocked settings now (recent settings.dailyWindow now times) ||
      dailyBlocked settings (recent settings.dailyWindow now times)) = true ↔
      WindowFull settings times now := by
  rw [Bool.or_eq_true, burstBlocked_recent guaranteed, dailyBlocked_recent]
  rfl

theorem allowance_ok {window : List Int} (burst : burstBlocked settings now window = false)
    (daily : dailyBlocked settings window = false) :
    ∃ result, allowance settings now window = .ok result ∧ result.allowed = true := by
  have burst_room : burstAttempts settings now window < settings.burstLimit := by
    simpa [burstBlocked] using burst
  have daily_room : dailyAttempts window < settings.dailyLimit := by
    simpa [dailyBlocked] using daily
  have subtracts : ∀ first second : Nat, second < first →
      checkedSub first second = .ok (first - second) ∧
        checkedSub (first - second) 1 = .ok (first - second - 1) := by
    intro first second less
    exact ⟨if_pos less.le, if_pos (by omega)⟩
  unfold allowance
  rw [(subtracts _ _ burst_room).1, (subtracts _ _ daily_room).1]
  simp only [bind, Except.bind, (subtracts _ _ burst_room).2, (subtracts _ _ daily_room).2]
  split
  · exact ⟨_, rfl, rfl⟩
  · exact ⟨_, rfl, rfl⟩

theorem denial_allowed (window : List Int) : (denial settings now window).allowed = false := by
  unfold denial
  simp only
  split <;> rfl

theorem answer_ok (guaranteed : settings.Guaranteed) (now : Int) (times : List Int) :
    ∃ result, answer settings now times = .ok result ∧
      (result.allowed = false ↔ WindowFull settings times now) := by
  unfold answer
  by_cases full : WindowFull settings times now
  · refine ⟨_, if_pos ((blocked_iff guaranteed).mpr full), ?_⟩
    simp [denial_allowed, full]
  · have free := mt (blocked_iff guaranteed).mp full
    rw [Bool.not_eq_true, Bool.or_eq_false_iff] at free
    obtain ⟨result, allowed, isAllowed⟩ := allowance_ok free.1 free.2
    refine ⟨result, ?_, by simp [isAllowed, full]⟩
    simpa [free.1, free.2] using allowed

theorem allows_answer_iff (guaranteed : settings.Guaranteed) :
    allows (answer settings now times) = true ↔ ¬WindowFull settings times now := by
  obtain ⟨result, answered, denied⟩ := answer_ok guaranteed now times
  rw [answered, ← denied]
  simp [allows]

/-!
## The reset time
-/

section

variable {later : Int}

end

end

/-!
## The table
-/

variable {secretHash : String → String → Except RoostyError String} {tokenPepper : String}
variable {settings : RegistrationRateLimitSettings} {client : String} {now : Int}

theorem isOf_iff {call : Call} :
    isOf secretHash tokenPepper client call = true ↔
      clientIdOf secretHash tokenPepper call.clientGroup = .ok client := by
  unfold isOf
  split
  · rename_i clientId same
    rw [same, beq_iff_eq, Except.ok.injEq]
  · rename_i error same
    rw [same]
    simp

theorem allowedTimes_concat (trace : List (Call × Reply)) (call : Call) (reply : Reply)
    (client : String) :
    allowedTimes secretHash tokenPepper (trace ++ [(call, reply)]) client =
      allowedTimes secretHash tokenPepper trace client ++
        if isOf secretHash tokenPepper client call && allows reply then [call.now] else [] := by
  unfold allowedTimes
  rw [List.filter_append, List.map_append, List.filter_cons]
  split
  · rfl
  · rfl

/-- The table after a trace: each client's rows within the long window are its allowed
instants. -/
structure Records (secretHash : String → String → Except RoostyError String) (tokenPepper : String)
    (settings : RegistrationRateLimitSettings) (trace : List (Call × Reply))
    (attempts : List RegistrationAttempt) : Prop where
  unique : (attempts.map RegistrationAttempt.id).Nodup
  ids : ∀ row ∈ attempts, row.id ∈ trace.map fun entry => entry.1.id
  times : ∀ client now, (∀ entry ∈ trace, entry.1.now ≤ now) →
    (attempts.filter fun row =>
        row.clientId == client && now - settings.dailyWindow < row.attemptedAt).map
      RegistrationAttempt.attemptedAt =
        recent settings.dailyWindow now (allowedTimes secretHash tokenPepper trace client)

theorem filter_cleanUp {attempts : List RegistrationAttempt} {cutoff : Int}
    (unique : (attempts.map RegistrationAttempt.id).Nodup) {keep : RegistrationAttempt → Bool}
    (after : ∀ row ∈ attempts, keep row = true → cutoff < row.attemptedAt) :
    (cleanUp attempts cutoff).filter keep = attempts.filter keep := by
  unfold cleanUp
  rw [Table.deleteWhere, List.filter_filter]
  apply List.filter_congr
  intro row member
  rw [Bool.and_eq_left_iff_imp]
  intro kept
  rw [Bool.not_eq_true', ← Bool.not_eq_true, List.any_eq_true]
  rintro ⟨gone, taken, sameId⟩
  have expired := List.mem_filter.mp (List.mem_mergeSort.mp (List.mem_of_mem_take taken))
  have same : gone = row :=
    List.inj_on_of_nodup_map unique expired.1 member (beq_iff_eq.mp sameId)
  have old : gone.attemptedAt ≤ cutoff := of_decide_eq_true expired.2
  have recent := after row member kept
  rw [same] at old
  omega

theorem cleanUp_sublist (attempts : List RegistrationAttempt) (cutoff : Int) :
    (cleanUp attempts cutoff).Sublist attempts := List.filter_sublist

theorem insertAttempt_eq {attempts : List RegistrationAttempt} {row : RegistrationAttempt}
    (fresh : ∀ other ∈ attempts, other.id ≠ row.id) :
    insertAttempt attempts row = .ok (attempts ++ [row]) := by
  rw [insertAttempt, if_neg]
  rw [List.any_eq_true]
  rintro ⟨other, member, same⟩
  exact fresh other member (beq_iff_eq.mp same)

namespace Records

variable {trace : List (Call × Reply)} {attempts : List RegistrationAttempt} {call : Call}

theorem attemptTimes_eq (records : Records secretHash tokenPepper settings trace attempts)
    (past : ∀ entry ∈ trace, entry.1.now ≤ now)
    (ascending : (allowedTimes secretHash tokenPepper trace client).Pairwise (· ≤ ·)) :
    attemptTimes (cleanUp attempts (now - settings.dailyWindow)) client
        (now - settings.dailyWindow) =
      recent settings.dailyWindow now (allowedTimes secretHash tokenPepper trace client) := by
  unfold attemptTimes
  rw [filter_cleanUp records.unique fun row _ kept => ?_, records.times client now past,
    List.mergeSort_of_pairwise]
  · refine (ascending.filter _).imp fun order => ?_
    simpa using order
  · exact of_decide_eq_true (Bool.and_eq_true_iff.mp kept).2

theorem check_eq (records : Records secretHash tokenPepper settings trace attempts)
    (past : ∀ entry ∈ trace, entry.1.now ≤ call.now)
    (ascending : (allowedTimes secretHash tokenPepper trace client).Pairwise (· ≤ ·))
    (fresh : call.id ∉ trace.map fun entry => entry.1.id)
    (own : isOf secretHash tokenPepper client call = true) :
    ∃ result,
      answer settings call.now (allowedTimes secretHash tokenPepper trace client) = .ok result ∧
      checkRegistrationRateLimit secretHash tokenPepper attempts call.id call.clientGroup call.now
          settings =
        .ok (cleanUp attempts (call.now - settings.dailyWindow) ++
          if result.allowed then [⟨call.id, client, call.now⟩] else [], result) := by
  have times := records.attemptTimes_eq past ascending
  unfold checkRegistrationRateLimit answer
  rw [isOf_iff.mp own]
  simp only [Except.mapError, bind, Except.bind, times]
  generalize recent settings.dailyWindow call.now
    (allowedTimes secretHash tokenPepper trace client) = window
  by_cases blocked : (burstBlocked settings call.now window || dailyBlocked settings window) = true
  · refine ⟨denial settings call.now window, if_pos blocked, ?_⟩
    rw [if_pos blocked]
    simp [denial_allowed]
  · rw [Bool.not_eq_true, Bool.or_eq_false_iff] at blocked
    obtain ⟨result, allowed, isAllowed⟩ := allowance_ok blocked.1 blocked.2
    refine ⟨result, by simpa [blocked.1, blocked.2] using allowed, ?_⟩
    have inserted : insertAttempt (cleanUp attempts (call.now - settings.dailyWindow))
        ⟨call.id, client, call.now⟩ =
          .ok (cleanUp attempts (call.now - settings.dailyWindow) ++
            [⟨call.id, client, call.now⟩]) := by
      refine insertAttempt_eq fun other member same => fresh ?_
      change other.id = call.id at same
      rw [← same]
      exact records.ids other ((cleanUp_sublist _ _).mem member)
    simp [blocked.1, blocked.2, inserted, allowed, isAllowed]

theorem failed (records : Records secretHash tokenPepper settings trace attempts)
    (failure : Failure) :
    Records secretHash tokenPepper settings (trace ++ [(call, .error failure)]) attempts := by
  refine ⟨records.unique, ?_, ?_⟩
  · intro row member
    rw [List.map_append]
    exact List.mem_append_left _ (records.ids row member)
  · intro client now past
    rw [allowedTimes_concat, allows, Bool.and_false, if_neg Bool.false_ne_true, List.append_nil]
    exact records.times client now fun entry member => past entry (List.mem_append_left _ member)

theorem answered (records : Records secretHash tokenPepper settings trace attempts)
    (fresh : call.id ∉ trace.map fun entry => entry.1.id)
    (own : isOf secretHash tokenPepper client call = true) (result : RegistrationRateLimitResult) :
    Records secretHash tokenPepper settings (trace ++ [(call, .ok result)])
      (cleanUp attempts (call.now - settings.dailyWindow) ++
        if result.allowed then [⟨call.id, client, call.now⟩] else []) := by
  have kept := cleanUp_sublist attempts (call.now - settings.dailyWindow)
  refine ⟨?_, ?_, ?_⟩
  · have unique := records.unique.sublist (kept.map RegistrationAttempt.id)
    split
    · rw [List.map_append]
      refine List.Nodup.append unique (List.nodup_singleton _) ?_
      rw [List.map_singleton, List.disjoint_singleton]
      intro member
      obtain ⟨row, inside, same⟩ := List.mem_map.mp member
      change row.id = call.id at same
      exact fresh (same ▸ records.ids row (kept.mem inside))
    · rwa [List.append_nil]
  · intro row member
    rw [List.map_append, List.mem_append]
    rcases List.mem_append.mp member with old | new
    · exact .inl (records.ids row (kept.mem old))
    · split at new
      · rw [List.mem_singleton.mp new]
        exact .inr (List.mem_singleton_self _)
      · cases new
  · intro other now later
    have reached : call.now ≤ now := later (call, .ok result) (by simp)
    have earlier : ∀ entry ∈ trace, entry.1.now ≤ now :=
      fun entry member => later entry (List.mem_append_left _ member)
    rw [allowedTimes_concat, allows, recent, List.filter_append, List.filter_append,
      List.map_append, filter_cleanUp records.unique fun row _ keeps => ?_]
    · congr 1
      · exact records.times other now earlier
      · have sameClient : isOf secretHash tokenPepper other call = (client == other) := by
          unfold isOf
          rw [isOf_iff.mp own]
        rw [sameClient]
        by_cases allowed : result.allowed
        · by_cases same : client == other
          · simp only [allowed, same, Bool.and_self, ↓reduceIte]
            rw [List.filter_cons, List.filter_cons, same, Bool.true_and]
            split <;> rfl
          · rw [Bool.not_eq_true] at same
            simp [allowed, same]
        · rw [Bool.not_eq_true] at allowed
          simp [allowed]
    · have inside := of_decide_eq_true (Bool.and_eq_true_iff.mp keeps).2
      omega

end Records

/-!
## Runs of the limiter
-/

theorem Admissible.of_append {first second : List Call} (admissible : Admissible (first ++ second)) :
    Admissible first := by
  refine ⟨(List.pairwise_append.mp admissible.ordered).1, ?_⟩
  have fresh := admissible.fresh
  rw [List.map_append] at fresh
  exact fresh.of_append_left

theorem Admissible.filter {calls : List Call} (admissible : Admissible calls)
    (selected : Call → Bool) : Admissible (calls.filter selected) :=
  ⟨admissible.ordered.filter _, admissible.fresh.sublist (List.filter_sublist.map Call.id)⟩

theorem Admissible.last {calls : List Call} {call : Call}
    (admissible : Admissible (calls ++ [call])) :
    (∀ earlier ∈ calls, earlier.now ≤ call.now) ∧ call.id ∉ calls.map Call.id := by
  constructor
  · intro earlier member
    exact (List.pairwise_append.mp admissible.ordered).2.2 earlier member call
      (List.mem_singleton_self call)
  · have fresh := admissible.fresh
    rw [List.map_append, List.map_singleton] at fresh
    exact (List.nodup_concat _ _).mp (by simpa using fresh) |>.1

variable (secretHash tokenPepper settings) in
structure Enforced (trace : List (Call × Reply)) (attempts : List RegistrationAttempt) : Prop where
  records : Records secretHash tokenPepper settings trace attempts
  burst : ∀ client, Bounded settings.burstLimit settings.burstWindow
    (allowedTimes secretHash tokenPepper trace client)
  daily : ∀ client, Bounded settings.dailyLimit settings.dailyWindow
    (allowedTimes secretHash tokenPepper trace client)
  subtracts : ∀ entry ∈ trace, entry.2 ≠ .error .overflow

theorem allowedTimes_ascending {trace : List (Call × Reply)}
    (admissible : Admissible (trace.map Prod.fst)) (client : String) :
    (allowedTimes secretHash tokenPepper trace client).Pairwise (· ≤ ·) := by
  have ordered := admissible.ordered
  rw [List.pairwise_map] at ordered
  unfold allowedTimes
  rw [List.pairwise_map]
  exact ordered.filter _

theorem past_of_admissible {trace : List (Call × Reply)} {call : Call}
    (admissible : Admissible (trace.map Prod.fst ++ [call])) :
    (∀ entry ∈ trace, entry.1.now ≤ call.now) ∧
      call.id ∉ trace.map fun entry => entry.1.id := by
  obtain ⟨past, fresh⟩ := admissible.last
  rw [List.map_map] at fresh
  exact ⟨fun entry member => past entry.1 (List.mem_map_of_mem member), fresh⟩

namespace Enforced

variable {trace : List (Call × Reply)} {attempts : List RegistrationAttempt} {call : Call}

theorem step_eq (enforced : Enforced secretHash tokenPepper settings trace attempts)
    (admissible : Admissible (trace.map Prod.fst ++ [call]))
    (own : isOf secretHash tokenPepper client call = true) :
    ∃ result,
      answer settings call.now (allowedTimes secretHash tokenPepper trace client) = .ok result ∧
      (limiter secretHash tokenPepper settings).step attempts call =
        (cleanUp attempts (call.now - settings.dailyWindow) ++
          if result.allowed then [⟨call.id, client, call.now⟩] else [], .ok result) := by
  obtain ⟨past, fresh⟩ := past_of_admissible admissible
  obtain ⟨result, answered, checked⟩ := enforced.records.check_eq past
    (allowedTimes_ascending admissible.of_append client) fresh own
  refine ⟨result, answered, ?_⟩
  simp only [limiter, checked]

theorem step (guaranteed : settings.Guaranteed)
    (enforced : Enforced secretHash tokenPepper settings trace attempts)
    (admissible : Admissible (trace.map Prod.fst ++ [call])) :
    Enforced secretHash tokenPepper settings
      (trace ++ [(call, ((limiter secretHash tokenPepper settings).step attempts call).2)])
      ((limiter secretHash tokenPepper settings).step attempts call).1 := by
  cases hashed : clientIdOf secretHash tokenPepper call.clientGroup with
  | error error =>
      have rolledBack : (limiter secretHash tokenPepper settings).step attempts call =
          (attempts, .error (.error error)) := by
        simp only [limiter, checkRegistrationRateLimit, hashed, Except.mapError, bind, Except.bind]
      rw [rolledBack]
      have unchanged : ∀ client, allowedTimes secretHash tokenPepper
          (trace ++ [(call, .error (.error error))]) client =
            allowedTimes secretHash tokenPepper trace client := by
        intro client
        rw [allowedTimes_concat, allows, Bool.and_false, if_neg Bool.false_ne_true,
          List.append_nil]
      refine ⟨enforced.records.failed _, ?_, ?_, ?_⟩
      · intro client
        exact unchanged client ▸ enforced.burst client
      · intro client
        exact unchanged client ▸ enforced.daily client
      · intro entry member
        rcases List.mem_append.mp member with old | new
        · exact enforced.subtracts entry old
        · rw [List.mem_singleton.mp new]
          simp
  | ok client =>
      have own : isOf secretHash tokenPepper client call = true := isOf_iff.mpr hashed
      have fresh := (past_of_admissible admissible).2
      obtain ⟨result, answered, stepped⟩ := enforced.step_eq admissible own
      rw [stepped]
      have room : result.allowed = true →
          ¬WindowFull settings (allowedTimes secretHash tokenPepper trace client) call.now := by
        intro allowed
        rw [← allows_answer_iff guaranteed, answered]
        exact allowed
      have bounded : ∀ other : String, ∀ limit width,
          Bounded limit width (allowedTimes secretHash tokenPepper trace other) →
          (¬WindowFull settings (allowedTimes secretHash tokenPepper trace client) call.now →
            (recent width call.now
              (allowedTimes secretHash tokenPepper trace client)).length < limit) →
          Bounded limit width
            (allowedTimes secretHash tokenPepper (trace ++ [(call, .ok result)]) other) := by
        intro other limit width holds fits
        rw [allowedTimes_concat]
        split
        · rename_i recorded
          obtain ⟨also, allowed⟩ := Bool.and_eq_true_iff.mp recorded
          have same : client = other :=
            Except.ok.inj ((isOf_iff.mp own).symm.trans (isOf_iff.mp also))
          rw [← same] at holds ⊢
          exact holds.concat (fits (room allowed))
        · rwa [List.append_nil]
      refine ⟨enforced.records.answered fresh own result, ?_, ?_, ?_⟩
      · intro other
        refine bounded other _ _ (enforced.burst other) fun free => ?_
        exact Nat.lt_of_not_le fun full => free (.inl full)
      · intro other
        refine bounded other _ _ (enforced.daily other) fun free => ?_
        exact Nat.lt_of_not_le fun full => free (.inr full)
      · intro entry member
        rcases List.mem_append.mp member with old | new
        · exact enforced.subtracts entry old
        · rw [List.mem_singleton.mp new]
          simp

variable (secretHash tokenPepper) in
theorem run (guaranteed : settings.Guaranteed) {calls : List Call}
    (admissible : Admissible calls) :
    Enforced secretHash tokenPepper settings (traceOf secretHash tokenPepper settings calls)
      ((limiter secretHash tokenPepper settings).run [] calls) := by
  refine Machine.history_invariant (limiter secretHash tokenPepper settings) [] Admissible
    (fun calls call extended => extended.of_append) (Enforced secretHash tokenPepper settings)
    ?_ ?_ admissible
  · refine ⟨⟨List.nodup_nil, fun _ member => absurd member List.not_mem_nil, fun _ _ _ => rfl⟩,
      fun _ => Bounded.nil _ _, fun _ => Bounded.nil _ _,
      fun _ member => absurd member List.not_mem_nil⟩
  · intro calls call extended enforced
    refine enforced.step guaranteed ?_
    rwa [Machine.trace_map_fst]

end Enforced

namespace Sample

/-- A hash that keeps its text apart from others, as a keyed hash does. -/
def hash (pepper secret : String) : Except RoostyError String := .ok (pepper ++ secret)

def limits : RegistrationRateLimitConfig := { RegistrationRateLimitConfig.default with burstLimit := 1 }

def calls : List Call := [⟨1, "192.0.2.4", 0⟩, ⟨2, "192.0.2.5", 5⟩, ⟨3, "192.0.2.4", 5⟩]

end Sample

end Roosty.Registration
