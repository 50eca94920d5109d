import Roosty.Streaming.Events

/-!
# Completeness of streaming

A cursor is a sequence number, while rows appear in the order of commits. A process
sends every event of the others once, as long as no transaction holds a lower
sequence number than a row that is already there when the process reads the log.
-/

set_option autoImplicit false

namespace Roosty.Streaming

open Library

/-!
## What is to be sent
-/

/-- The events that are committed after the cursor snapshot of a process. -/
def dueStep (process : Nat) (due : Option (List Nat)) : Action × Bool → Option (List Nat)
  | (.snapshot other, true) => if other = process then some [] else due
  | (.commit sequence, true) => due.map fun sequences => sequences ++ [sequence]
  | _ => due

def due (process : Nat) (trace : List (Action × Bool)) : Option (List Nat) :=
  trace.foldl (dueStep process) none

def Due (process : Nat) (trace : List (Action × Bool)) (sequence : Nat) : Prop :=
  ∃ sequences, due process trace = some sequences ∧ sequence ∈ sequences

def Action.reads (process : Nat) : Action → Bool
  | .snapshot other => other == process
  | .receive other succeeds | .recover other succeeds => other == process && succeeds
  | .insert _ _ | .notify _ | .commit _ | .rollback _ | .listen _ | .disconnect _ |
    .reconnect _ | .cleanup _ => false

/-- When a process reads the log, all transactions of the others that are open come
after the rows that it finds. -/
def InOrder (process : Nat) (state : State) (action : Action) : Prop :=
  action.reads process → ∀ publication ∈ state.publications,
    publication.row.originProcessId ≠ process →
      ∀ row ∈ state.log, row.sequence < publication.row.sequence

/-- Every event that has been sent was sent once. After the process has read the
log, this is every event of another process that is due and retained. -/
structure Streamed (process : Nat) (actions : List Action) : Prop where
  once : ∀ sequence, (((machine.run initial actions).listeners process).sent.map
    RetainedStreamingEvent.sequence).count sequence ≤ 1
  all : ∀ before action, actions = before ++ [action] → action.reads process →
    (machine.step (machine.run initial before) action).2 = true →
    ∀ row ∈ (machine.run initial actions).log, row.originProcessId ≠ process →
      Due process (machine.trace initial actions) row.sequence →
      (((machine.run initial actions).listeners process).sent.map
        RetainedStreamingEvent.sequence).count row.sequence = 1

/-!
## Reading the log
-/

theorem mem_streamingEventsAfter {log : List RetainedStreamingEvent} {cursor : Nat}
    {row : RetainedStreamingEvent} :
    row ∈ streamingEventsAfter log cursor ↔ row ∈ log ∧ cursor < row.sequence := by
  unfold streamingEventsAfter
  rw [List.mem_insertionSort, List.mem_filter, decide_eq_true_iff]

theorem latest_lt {log : List RetainedStreamingEvent} {bound : Nat} (positive : 0 < bound)
    (below : ∀ row ∈ log, row.sequence < bound) : latestStreamingEventSequence log < bound := by
  unfold latestStreamingEventSequence
  induction log with
  | nil => exact positive
  | cons row log inductive_hypothesis =>
      rw [List.forall_mem_cons] at below
      exact max_lt below.1 (inductive_hypothesis below.2)

theorem deliverLoop_sent (process cursor : Nat) (rows : List RetainedStreamingEvent) :
    (deliverLoop process cursor rows).2 =
      rows.filter fun row => row.originProcessId ≠ process := by
  induction rows generalizing cursor with
  | nil => rfl
  | cons row rows inductive_hypothesis =>
      unfold deliverLoop
      dsimp only
      rw [inductive_hypothesis]
      by_cases own : row.originProcessId = process
      · rw [if_pos own, List.filter_cons_of_neg (by simpa using own)]
      · rw [if_neg own, List.filter_cons_of_pos (by simpa using own)]

theorem deliverLoop_cursor {process cursor : Nat} {rows : List RetainedStreamingEvent} :
    (deliverLoop process cursor rows).1 = cursor ∧ rows = [] ∨
      ∃ row ∈ rows, (deliverLoop process cursor rows).1 = row.sequence := by
  induction rows generalizing cursor with
  | nil => exact .inl ⟨rfl, rfl⟩
  | cons row rows inductive_hypothesis =>
      refine .inr ?_
      rcases inductive_hypothesis with ⟨last, _⟩ | ⟨later, member, last⟩
      · exact ⟨row, List.mem_cons_self, last⟩
      · exact ⟨later, List.mem_cons_of_mem _ member, last⟩

theorem le_deliverLoop_cursor {process cursor : Nat} {rows : List RetainedStreamingEvent}
    (sorted : rows.Pairwise fun first second => first.sequence ≤ second.sequence)
    {row : RetainedStreamingEvent} (member : row ∈ rows) :
    row.sequence ≤ (deliverLoop process cursor rows).1 := by
  induction rows generalizing cursor row with
  | nil => cases member
  | cons first rows inductive_hypothesis =>
      rw [List.pairwise_cons] at sorted
      change row.sequence ≤ (deliverLoop process first.sequence rows).1
      rcases List.mem_cons.mp member with rfl | member
      · rcases deliverLoop_cursor with ⟨last, _⟩ | ⟨later, listed, last⟩
        · exact Nat.le_of_eq last.symm
        · rw [last]
          exact sorted.1 later listed
      · exact inductive_hypothesis sorted.2 member

/-!
## Steps
-/

def State.opened (state : State) : List RetainedStreamingEvent :=
  state.publications.map Publication.row

structure Consistent (process : Nat) (trace : List (Action × Bool)) (state : State) : Prop where
  started : 0 < state.nextSequence
  fresh : ∀ row ∈ state.opened ++ state.log, row.sequence < state.nextSequence
  positive : ∀ row ∈ state.opened, 0 < row.sequence
  unique : ((state.opened ++ state.log).map RetainedStreamingEvent.sequence).Nodup
  idle : (state.listeners process).cursor = none →
    (state.listeners process).sent = [] ∧ due process trace = none
  bound : ∀ cursor, (state.listeners process).cursor = some cursor → cursor < state.nextSequence
  ahead : ∀ cursor, (state.listeners process).cursor = some cursor → ∀ row ∈ state.opened,
    row.originProcessId ≠ process → cursor < row.sequence
  behind : ∀ cursor, (state.listeners process).cursor = some cursor →
    ∀ row ∈ (state.listeners process).sent, row.sequence ≤ cursor
  once : ((state.listeners process).sent.map RetainedStreamingEvent.sequence).Nodup
  complete : ∀ cursor, (state.listeners process).cursor = some cursor → ∀ row ∈ state.log,
    row.originProcessId ≠ process → Due process trace row.sequence → row.sequence ≤ cursor →
      row ∈ (state.listeners process).sent

variable {process : Nat} {trace : List (Action × Bool)} {state next : State}

private theorem due_snoc (entry : Action × Bool) :
    due process (trace ++ [entry]) = dueStep process (due process trace) entry := by
  unfold due
  rw [List.foldl_append]
  rfl

private theorem Consistent.frame {entry : Action × Bool} (consistent : Consistent process trace state)
    (opened : next.opened.Sublist state.opened) (log : next.log.Sublist state.log)
    (sequence : next.nextSequence = state.nextSequence)
    (cursor : (next.listeners process).cursor = (state.listeners process).cursor)
    (sent : (next.listeners process).sent = (state.listeners process).sent)
    (same : dueStep process (due process trace) entry = due process trace) :
    Consistent process (trace ++ [entry]) next := by
  have rows := opened.append log
  have sameDue : due process (trace ++ [entry]) = due process trace := (due_snoc entry).trans same
  refine ⟨?_, ?_, ?_, ?_, ?_, ?_, ?_, ?_, ?_, ?_⟩
  · rw [sequence]
    exact consistent.started
  · intro row member
    rw [sequence]
    exact consistent.fresh row (rows.subset member)
  · intro row member
    exact consistent.positive row (opened.subset member)
  · exact consistent.unique.sublist (rows.map _)
  · rw [cursor, sent, sameDue]
    exact consistent.idle
  · rw [cursor, sequence]
    exact consistent.bound
  · rw [cursor]
    intro position found row member
    exact consistent.ahead position found row (opened.subset member)
  · rw [cursor, sent]
    exact consistent.behind
  · rw [sent]
    exact consistent.once
  · rw [cursor, sent]
    intro position found row member other isDue
    unfold Due at isDue
    rw [sameDue] at isDue
    exact consistent.complete position found row (log.subset member) other isDue

@[simp] theorem setListener_self (process : Nat) (listener : Listener) :
    (state.setListener process listener).listeners process = listener := by
  dsimp only [State.setListener]
  rw [Function.update_self]

theorem setListener_of_ne {other : Nat} (different : process ≠ other) (listener : Listener) :
    (state.setListener other listener).listeners process = state.listeners process := by
  dsimp only [State.setListener]
  rw [Function.update_of_ne different]

private theorem Consistent.setListener {entry : Action × Bool} {other : Nat} {listener : Listener}
    (consistent : Consistent process trace state)
    (cursor : other = process → listener.cursor = (state.listeners process).cursor)
    (sent : other = process → listener.sent = (state.listeners process).sent)
    (same : dueStep process (due process trace) entry = due process trace) :
    Consistent process (trace ++ [entry]) (state.setListener other listener) := by
  by_cases own : process = other
  · subst own
    refine consistent.frame (.refl _) (.refl _) rfl ?_ ?_ same
    · rw [setListener_self]
      exact cursor rfl
    · rw [setListener_self]
      exact sent rfl
  · refine consistent.frame (.refl _) (.refl _) rfl ?_ ?_ same
    · rw [setListener_of_ne own]
    · rw [setListener_of_ne own]

private theorem Consistent.insert {event : NewStreamingEvent} {time : Int}
    (consistent : Consistent process trace state)
    (done : step state (.insert event time) = some next) :
    Consistent process (trace ++ [(.insert event time, true)]) next := by
  cases done
  have sameDue : due process (trace ++ [(.insert event time, true)]) = due process trace :=
    due_snoc _
  let row : RetainedStreamingEvent := ⟨event, state.nextSequence, time⟩
  have opened : State.opened { state with
      nextSequence := state.nextSequence + 1
      publications := state.publications ++ [⟨row, false⟩] } = state.opened ++ [row] := by
    unfold State.opened
    rw [List.map_append]
    rfl
  refine ⟨Nat.succ_pos _, ?_, ?_, ?_, ?_, ?_, ?_, consistent.behind, consistent.once, ?_⟩
  · intro other member
    rw [opened, List.append_assoc] at member
    rcases List.mem_append.mp member with listed | member
    · exact Nat.lt_succ_of_lt (consistent.fresh other (List.mem_append_left _ listed))
    · rcases List.mem_cons.mp member with rfl | listed
      · exact Nat.lt_succ_self _
      · exact Nat.lt_succ_of_lt (consistent.fresh other (List.mem_append_right _ listed))
  · intro other member
    rw [opened] at member
    rcases List.mem_append.mp member with listed | added
    · exact consistent.positive other listed
    · cases List.mem_singleton.mp added
      exact consistent.started
  · rw [opened, List.append_assoc, List.map_append, List.map_append, List.map_singleton,
      List.singleton_append, List.nodup_middle, ← List.map_append, List.nodup_cons]
    refine ⟨?_, consistent.unique⟩
    intro taken
    obtain ⟨other, member, same⟩ := List.mem_map.mp taken
    exact absurd same (Nat.ne_of_lt (consistent.fresh other member))
  · rw [sameDue]
    exact consistent.idle
  · intro cursor found
    exact Nat.lt_succ_of_lt (consistent.bound cursor found)
  · intro cursor found other member foreign
    rw [opened] at member
    rcases List.mem_append.mp member with listed | added
    · exact consistent.ahead cursor found other listed foreign
    · cases List.mem_singleton.mp added
      exact consistent.bound cursor found
  · intro cursor found other member foreign isDue
    unfold Due at isDue
    rw [sameDue] at isDue
    exact consistent.complete cursor found other member foreign isDue

@[simp] theorem notified_cursor (sequence : Nat) (listener : Listener) :
    (listener.notified sequence).cursor = listener.cursor := by
  unfold Listener.notified
  split <;> rfl

@[simp] theorem notified_sent (sequence : Nat) (listener : Listener) :
    (listener.notified sequence).sent = listener.sent := by
  unfold Listener.notified
  split <;> rfl

private theorem Consistent.commit {sequence : Nat} (consistent : Consistent process trace state)
    (done : step state (.commit sequence) = some next) :
    Consistent process (trace ++ [(.commit sequence, true)]) next := by
  obtain ⟨publication, found, done⟩ := Option.bind_eq_some_iff.mp done
  cases done
  have chosen := List.find?_some found
  rw [Bool.and_eq_true, beq_iff_eq] at chosen
  have row : publication.row ∈ state.opened :=
    List.mem_map_of_mem (List.mem_of_find?_eq_some found)
  have opened : State.opened { state with
      publications := state.publications.filter fun other => other.row.sequence != sequence
      log := state.log ++ [publication.row]
      listeners := fun process => (state.listeners process).notified sequence } =
      state.opened.filter fun other => other.sequence != sequence := by
    unfold State.opened
    rw [List.filter_map]
    rfl
  have unique := consistent.unique
  rw [List.map_append, List.nodup_append] at unique
  obtain ⟨openedUnique, logUnique, disjoint⟩ := unique
  refine ⟨consistent.started, ?_, ?_, ?_, ?_, ?_, ?_, ?_, ?_, ?_⟩
  · intro other member
    rw [opened] at member
    rcases List.mem_append.mp member with listed | listed
    · exact consistent.fresh other (List.mem_append_left _ (List.mem_filter.mp listed).1)
    · rcases List.mem_append.mp listed with listed | added
      · exact consistent.fresh other (List.mem_append_right _ listed)
      · cases List.mem_singleton.mp added
        exact consistent.fresh _ (List.mem_append_left _ row)
  · intro other member
    rw [opened] at member
    exact consistent.positive other (List.mem_filter.mp member).1
  · rw [opened, List.map_append, List.map_append, List.map_singleton, List.nodup_append,
      List.nodup_append]
    refine ⟨openedUnique.sublist (List.filter_sublist.map _),
      ⟨logUnique, List.nodup_singleton _, ?_⟩, ?_⟩
    · rintro taken listed _ single rfl
      cases List.mem_singleton.mp single
      exact disjoint _ (List.mem_map_of_mem row) _ listed rfl
    · rintro taken listed _ other rfl
      obtain ⟨kept, member, rfl⟩ := List.mem_map.mp listed
      have parts := List.mem_filter.mp member
      rcases List.mem_append.mp other with other | single
      · exact disjoint _ (List.mem_map_of_mem parts.1) _ other rfl
      · rw [List.mem_singleton.mp single, chosen.1] at parts
        simp at parts
  · intro none
    rw [notified_cursor] at none
    obtain ⟨sent, notDue⟩ := consistent.idle none
    rw [notified_sent, due_snoc, notDue]
    exact ⟨sent, rfl⟩
  · intro cursor known
    rw [notified_cursor] at known
    exact consistent.bound cursor known
  · intro cursor known other member
    rw [notified_cursor] at known
    rw [opened] at member
    exact consistent.ahead cursor known other (List.mem_filter.mp member).1
  · intro cursor known
    rw [notified_cursor] at known
    rw [notified_sent]
    exact consistent.behind cursor known
  · rw [notified_sent]
    exact consistent.once
  · intro cursor known other member foreign isDue reached
    rw [notified_cursor] at known
    rw [notified_sent]
    rcases List.mem_append.mp member with listed | added
    · -- A row that was there before has another sequence number than the new one.
      refine consistent.complete cursor known other listed foreign ?_ reached
      obtain ⟨sequences, isDue, found⟩ := isDue
      rw [due_snoc] at isDue
      obtain ⟨before, wasDue, rfl⟩ := Option.map_eq_some_iff.mp isDue
      rcases List.mem_append.mp found with found | single
      · exact ⟨before, wasDue, found⟩
      · have sameSequence := chosen.1.trans (List.mem_singleton.mp single).symm
        exact (disjoint _ (List.mem_map_of_mem row) _ (List.mem_map_of_mem listed)
          sameSequence).elim
    · cases List.mem_singleton.mp added
      exact absurd (consistent.ahead cursor known _ row foreign) (Nat.not_lt_of_le reached)

private theorem deliverAfter_spec {log : List RetainedStreamingEvent} {listener : Listener}
    {cursor : Nat} : ∃ reached,
      (deliverAfter process log listener cursor).cursor = some reached ∧ cursor ≤ reached ∧
      (∀ row ∈ log, row.sequence ≤ reached) ∧
      (reached = cursor ∨ ∃ row ∈ log, reached = row.sequence) ∧
      (deliverAfter process log listener cursor).sent = listener.sent ++
        (streamingEventsAfter log cursor).filter fun row => row.originProcessId ≠ process := by
  have sorted : (streamingEventsAfter log cursor).Pairwise fun first second =>
      first.sequence ≤ second.sequence := by
    have total : Std.Total fun first second : RetainedStreamingEvent =>
        first.sequence ≤ second.sequence := ⟨fun _ _ => Nat.le_total _ _⟩
    have trans : IsTrans RetainedStreamingEvent fun first second =>
        first.sequence ≤ second.sequence := ⟨fun _ _ _ => Nat.le_trans⟩
    exact List.pairwise_insertionSort _ _
  have last : (deliverLoop process cursor (streamingEventsAfter log cursor)).1 = cursor ∨
      ∃ row ∈ streamingEventsAfter log cursor,
        (deliverLoop process cursor (streamingEventsAfter log cursor)).1 = row.sequence :=
    deliverLoop_cursor.imp_left And.left
  have forward : cursor ≤ (deliverLoop process cursor (streamingEventsAfter log cursor)).1 := by
    rcases last with same | ⟨row, member, same⟩
    · exact Nat.le_of_eq same.symm
    · rw [same]
      exact Nat.le_of_lt (mem_streamingEventsAfter.mp member).2
  refine ⟨_, rfl, forward, ?_, ?_, ?_⟩
  · intro row member
    by_cases passed : row.sequence ≤ cursor
    · exact Nat.le_trans passed forward
    · exact le_deliverLoop_cursor sorted
        (mem_streamingEventsAfter.mpr ⟨member, Nat.lt_of_not_le passed⟩)
  · exact last.imp_right fun ⟨row, member, same⟩ =>
      ⟨row, (mem_streamingEventsAfter.mp member).1, same⟩
  · exact congrArg _ (deliverLoop_sent process cursor _)

private theorem Consistent.deliver {entry : Action × Bool} {listener : Listener} {cursor : Nat}
    (consistent : Consistent process trace state)
    (ordered : ∀ row ∈ state.opened, row.originProcessId ≠ process →
      ∀ other ∈ state.log, other.sequence < row.sequence)
    (known : (state.listeners process).cursor = some cursor)
    (sent : listener.sent = (state.listeners process).sent)
    (same : dueStep process (due process trace) entry = due process trace) :
    Consistent process (trace ++ [entry])
        (state.setListener process (deliverAfter process state.log listener cursor)) ∧
      ∀ row ∈ state.log, row.originProcessId ≠ process →
        Due process (trace ++ [entry]) row.sequence →
        row ∈ (deliverAfter process state.log listener cursor).sent := by
  have sameDue : due process (trace ++ [entry]) = due process trace := (due_snoc entry).trans same
  obtain ⟨reached, moved, forward, passed, last, nowSent⟩ :
      ∃ reached, (deliverAfter process state.log listener cursor).cursor = some reached ∧ _ :=
    deliverAfter_spec
  rw [sent] at nowSent
  have all : ∀ row ∈ state.log, row.originProcessId ≠ process →
      Due process (trace ++ [entry]) row.sequence →
      row ∈ (deliverAfter process state.log listener cursor).sent := by
    intro row member foreign isDue
    unfold Due at isDue
    rw [sameDue] at isDue
    rw [nowSent, List.mem_append]
    by_cases before : row.sequence ≤ cursor
    · exact .inl (consistent.complete cursor known row member foreign isDue before)
    · refine .inr (List.mem_filter.mpr ⟨?_, decide_eq_true foreign⟩)
      exact mem_streamingEventsAfter.mpr ⟨member, Nat.lt_of_not_le before⟩
  have below : reached < state.nextSequence := by
    rcases last with rfl | ⟨row, member, rfl⟩
    · exact consistent.bound _ known
    · exact consistent.fresh row (List.mem_append_right _ member)
  refine ⟨⟨consistent.started, consistent.fresh, consistent.positive, consistent.unique,
    ?_, ?_, ?_, ?_, ?_, ?_⟩, all⟩
  · rw [setListener_self, moved]
    exact nofun
  · rw [setListener_self, moved]
    intro _ is
    cases is
    exact below
  · rw [setListener_self, moved]
    intro _ is row member foreign
    cases is
    rcases last with rfl | ⟨other, listed, rfl⟩
    · exact consistent.ahead _ known row member foreign
    · exact ordered row member foreign other listed
  · rw [setListener_self, moved, nowSent]
    intro _ is row member
    cases is
    rcases List.mem_append.mp member with old | found
    · exact Nat.le_trans (consistent.behind cursor known row old) forward
    · exact passed row (mem_streamingEventsAfter.mp (List.mem_filter.mp found).1).1
  · have logUnique : (state.log.map RetainedStreamingEvent.sequence).Nodup :=
      consistent.unique.sublist ((List.sublist_append_right _ _).map _)
    have readUnique : ((streamingEventsAfter state.log cursor).map
        RetainedStreamingEvent.sequence).Nodup :=
      ((List.perm_insertionSort _ _).map _).nodup_iff.mpr
        (logUnique.sublist (List.filter_sublist.map _))
    rw [setListener_self, nowSent, List.map_append, List.nodup_append]
    refine ⟨consistent.once, readUnique.sublist (List.filter_sublist.map _), ?_⟩
    rintro _ old _ new rfl
    obtain ⟨row, wasSent, rfl⟩ := List.mem_map.mp old
    obtain ⟨other, found, same⟩ := List.mem_map.mp new
    have after := (mem_streamingEventsAfter.mp (List.mem_filter.mp found).1).2
    have reachedBefore := consistent.behind cursor known row wasSent
    omega
  · rw [setListener_self]
    intro _ _ row member foreign isDue _
    exact all row member foreign isDue

private theorem Consistent.snapshot (consistent : Consistent process trace state)
    (ordered : ∀ row ∈ state.opened, row.originProcessId ≠ process →
      ∀ other ∈ state.log, other.sequence < row.sequence)
    (none : (state.listeners process).cursor = none) :
    Consistent process (trace ++ [(.snapshot process, true)]) (state.setListener process
      { state.listeners process with
        cursor := some (latestStreamingEventSequence state.log) }) := by
  obtain ⟨sent, _⟩ := consistent.idle none
  have nowDue : due process (trace ++ [(.snapshot process, true)]) = some [] := by
    rw [due_snoc]
    exact if_pos rfl
  refine ⟨consistent.started, consistent.fresh, consistent.positive, consistent.unique,
    ?_, ?_, ?_, ?_, ?_, ?_⟩
  · rw [setListener_self]
    exact nofun
  · rw [setListener_self]
    intro _ is
    cases is
    exact latest_lt consistent.started fun row member =>
      consistent.fresh row (List.mem_append_right _ member)
  · rw [setListener_self]
    intro _ is row member foreign
    cases is
    exact latest_lt (consistent.positive row member) (ordered row member foreign)
  · rw [setListener_self, sent]
    exact nofun
  · rw [setListener_self, sent]
    exact List.nodup_nil
  · intro _ _ row _ _ isDue
    obtain ⟨sequences, isDue, found⟩ := isDue
    rw [nowDue] at isDue
    cases isDue
    cases found

private theorem Consistent.receive {entry : Action × Bool} {other cursor : Nat}
    {listener : Listener} {succeeds : Bool} (consistent : Consistent process trace state)
    (ordered : other = process → succeeds → ∀ row ∈ state.opened, row.originProcessId ≠ process →
      ∀ other ∈ state.log, other.sequence < row.sequence)
    (known : (state.listeners other).cursor = some cursor)
    (kept : listener.cursor = (state.listeners other).cursor)
    (sent : listener.sent = (state.listeners other).sent)
    (same : dueStep process (due process trace) entry = due process trace) :
    Consistent process (trace ++ [entry]) (state.setListener other
        (if succeeds then deliverAfter other state.log listener cursor else listener)) ∧
      (other = process → succeeds → ∀ row ∈ state.log, row.originProcessId ≠ process →
        Due process (trace ++ [entry]) row.sequence →
        row ∈ ((state.setListener other (if succeeds then
          deliverAfter other state.log listener cursor else listener)).listeners process).sent) := by
  by_cases own : other = process
  · subst own
    cases succeeds with
    | false => exact ⟨consistent.setListener (fun _ => kept) (fun _ => sent) same, nofun⟩
    | true =>
        obtain ⟨after, all⟩ := consistent.deliver (ordered rfl rfl) known sent same
        refine ⟨after, fun _ _ => ?_⟩
        rw [setListener_self]
        exact all
  · exact ⟨consistent.setListener (fun is => absurd is own) (fun is => absurd is own) same,
      fun is => absurd is own⟩

private theorem Consistent.step {action : Action} (consistent : Consistent process trace state)
    (ordered : InOrder process state action) (done : Streaming.step state action = some next) :
    Consistent process (trace ++ [(action, true)]) next ∧
      (action.reads process → ∀ row ∈ next.log, row.originProcessId ≠ process →
        Due process (trace ++ [(action, true)]) row.sequence →
        row ∈ (next.listeners process).sent) := by
  have reading : action.reads process → ∀ row ∈ state.opened, row.originProcessId ≠ process →
      ∀ other ∈ state.log, other.sequence < row.sequence := by
    intro reads row member foreign
    obtain ⟨publication, listed, rfl⟩ := List.mem_map.mp member
    exact ordered reads publication listed foreign
  cases action with
  | insert => exact ⟨consistent.insert done, nofun⟩
  | commit => exact ⟨consistent.commit done, nofun⟩
  | notify sequence =>
      cases done
      refine ⟨consistent.frame ?_ (.refl _) rfl rfl rfl rfl, nofun⟩
      unfold State.opened
      rw [List.map_map]
      have same : state.publications.map (Publication.row ∘ fun publication =>
          if publication.row.sequence = sequence then { publication with notified := true }
          else publication) = state.publications.map Publication.row := by
        refine List.map_congr_left ?_
        intro publication _
        dsimp only [Function.comp]
        split <;> rfl
      rw [same]
  | rollback sequence =>
      cases done
      exact ⟨consistent.frame (List.filter_sublist.map _) (.refl _) rfl rfl rfl rfl, nofun⟩
  | cleanup cutoff =>
      cases done
      exact ⟨consistent.frame (.refl _) List.filter_sublist rfl rfl rfl rfl, nofun⟩
  | listen other =>
      dsimp only [Streaming.step] at done
      split at done
      · cases done
      · cases done
        exact ⟨consistent.setListener (fun same => same ▸ rfl) (fun same => same ▸ rfl) rfl, nofun⟩
  | disconnect other | reconnect other =>
      dsimp only [Streaming.step] at done
      split at done
      · cases done
        exact ⟨consistent.setListener (fun same => same ▸ rfl) (fun same => same ▸ rfl) rfl, nofun⟩
      · cases done
  | snapshot other =>
      dsimp only [Streaming.step] at done
      split at done
      next first =>
        cases done
        rw [Bool.and_eq_true, Option.isNone_iff_eq_none] at first
        by_cases own : other = process
        · subst own
          refine ⟨consistent.snapshot (reading (beq_self_eq_true other)) first.2, ?_⟩
          intro _ row _ _ isDue
          obtain ⟨sequences, isDue, found⟩ := isDue
          rw [due_snoc, dueStep, if_pos rfl] at isDue
          cases isDue
          cases found
        · refine ⟨consistent.setListener (fun is => absurd is own) (fun is => absurd is own)
            (if_neg own), ?_⟩
          intro reads
          exact absurd (beq_iff_eq.mp reads) own
      next => cases done
  | receive other succeeds =>
      obtain ⟨cursor, known, done⟩ := Option.bind_eq_some_iff.mp done
      split at done
      next => cases done
      next =>
        cases done
        refine And.imp_right ?_ (consistent.receive
          (fun own read => reading (Bool.and_eq_true_iff.mpr ⟨beq_iff_eq.mpr own, read⟩))
          known rfl rfl rfl)
        intro all reads
        obtain ⟨own, read⟩ := Bool.and_eq_true_iff.mp reads
        exact all (beq_iff_eq.mp own) read
  | recover other succeeds =>
      obtain ⟨cursor, known, done⟩ := Option.bind_eq_some_iff.mp done
      split at done
      next => cases done
      next =>
        cases done
        refine And.imp_right ?_ (consistent.receive
          (fun own read => reading (Bool.and_eq_true_iff.mpr ⟨beq_iff_eq.mpr own, read⟩))
          known rfl rfl rfl)
        intro all reads
        obtain ⟨own, read⟩ := Bool.and_eq_true_iff.mp reads
        exact all (beq_iff_eq.mp own) read

/-!
## Runs
-/

private theorem initial_consistent : Consistent process [] initial where
  started := Nat.one_pos
  fresh := nofun
  positive := nofun
  unique := List.nodup_nil
  idle _ := ⟨rfl, rfl⟩
  bound := nofun
  ahead := nofun
  behind := nofun
  once := List.nodup_nil
  complete := nofun

private theorem Consistent.machine_step {action : Action}
    (consistent : Consistent process trace state) (ordered : InOrder process state action) :
    Consistent process (trace ++ [(action, (machine.step state action).2)])
        (machine.step state action).1 ∧
      ((machine.step state action).2 = true → action.reads process →
        ∀ row ∈ (machine.step state action).1.log, row.originProcessId ≠ process →
        Due process (trace ++ [(action, (machine.step state action).2)]) row.sequence →
        row ∈ ((machine.step state action).1.listeners process).sent) := by
  unfold machine
  dsimp only
  cases done : Streaming.step state action with
  | none =>
      refine ⟨consistent.frame (.refl _) (.refl _) rfl rfl rfl ?_, nofun⟩
      cases action <;> rfl
  | some next =>
      obtain ⟨after, all⟩ := consistent.step ordered done
      exact ⟨after, fun _ => all⟩

private theorem run_consistent {actions : List Action}
    (ordered : ∀ before action after, actions = before ++ action :: after →
      InOrder process (machine.run initial before) action) :
    Consistent process (machine.trace initial actions) (machine.run initial actions) := by
  refine machine.history_invariant initial
    (fun actions => ∀ before action after, actions = before ++ action :: after →
      InOrder process (machine.run initial before) action) ?_
    (Consistent process) initial_consistent ?_ ordered
  · intro actions action ordered before earlier after same
    exact ordered before earlier (after ++ [action]) (by rw [same]; simp)
  · intro actions action ordered consistent
    exact (consistent.machine_step (ordered actions action [] rfl)).1

/-- Where transactions come after the rows that a process finds, it sends every
event of the others once. -/
theorem streamed_exactly_once {process : Nat} {actions : List Action}
    (ordered : ∀ before action after, actions = before ++ action :: after →
      InOrder process (machine.run initial before) action) : Streamed process actions where
  once sequence := List.nodup_iff_count_le_one.mp (run_consistent ordered).once sequence
  all before action same reads done row member foreign isDue := by
    subst same
    have earlier : Consistent process (machine.trace initial before)
        (machine.run initial before) := by
      refine run_consistent ?_
      intro first second third same
      exact ordered first second (third ++ [action]) (by rw [same]; simp)
    rw [Machine.trace_snoc] at isDue
    rw [Machine.run_snoc] at member
    have sent := (earlier.machine_step (ordered before action [] rfl)).2 done reads row member
      foreign isDue
    rw [← Machine.run_snoc] at sent
    exact List.count_eq_one_of_mem (run_consistent ordered).once (List.mem_map_of_mem sent)

/-!
## Three processes
-/

namespace Fanout

def event (process : Nat) : NewStreamingEvent :=
  ⟨process, .update, "status", ⟨1⟩, [], [], .publicStatus, .localStatus, false⟩

def inTurn : List Action :=
  [.listen 1, .snapshot 1, .insert (event 2) 0, .notify 1, .commit 1, .receive 1 true,
    .insert (event 3) 0, .notify 2, .commit 2, .receive 1 true]

def overtaking : List Action :=
  [.listen 1, .snapshot 1, .insert (event 2) 0, .insert (event 3) 0, .notify 2, .commit 2,
    .receive 1 true, .notify 1, .commit 1, .receive 1 true]

instance (process : Nat) (state : State) (action : Action) :
    Decidable (InOrder process state action) :=
  inferInstanceAs (Decidable (_ → ∀ publication ∈ state.publications, _))

private theorem ordered_of_get {process : Nat} {actions : List Action}
    (checked : ∀ index : Fin actions.length,
      InOrder process (machine.run initial (actions.take index)) (actions.get index)) :
    ∀ before action after, actions = before ++ action :: after →
      InOrder process (machine.run initial before) action := by
  rintro before action after rfl
  have at_ := checked ⟨before.length, by simp⟩
  simpa using at_

end Fanout

open Fanout in
theorem streamed_exactly_once_in_turn :
    Streamed 1 inTurn ∧ ((machine.run initial inTurn).listeners 1).sent.map
      RetainedStreamingEvent.sequence = [1, 2] := by
  have ordered := ordered_of_get (by decide : ∀ index : Fin inTurn.length,
    InOrder 1 (machine.run initial (inTurn.take index)) (inTurn.get index))
  exact ⟨streamed_exactly_once ordered, by decide⟩

open Fanout in
/-- An event that commits after one with a higher sequence number is skipped. -/
theorem streamed_overtaken : ¬Streamed 1 overtaking := by
  intro streamed
  have row : (⟨event 2, 1, 0⟩ : RetainedStreamingEvent) ∈ (machine.run initial overtaking).log := by
    decide
  have isDue : Due 1 (machine.trace initial overtaking) 1 :=
    ⟨[2, 1], by decide, by decide⟩
  have once := streamed.all overtaking.dropLast (.receive 1 true) (by decide) (by decide)
    (by decide) _ row (by decide) isDue
  revert once
  decide

end Roosty.Streaming
