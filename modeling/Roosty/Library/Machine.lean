import Mathlib.Data.List.Induction

/-! Machines whose calls are atomic and answer with a reply. A run is a finite
list of calls; its trace records every call with the reply it received. -/

set_option autoImplicit false

namespace Roosty.Library

/-- One atomic call maps a state to the next state and a reply. -/
structure Machine (State Call Reply : Type) where
  step : State → Call → State × Reply

namespace Machine

variable {State Call Reply : Type} (machine : Machine State Call Reply)

def run : State → List Call → State
  | state, [] => state
  | state, call :: calls => run (machine.step state call).1 calls

def trace : State → List Call → List (Call × Reply)
  | _, [] => []
  | state, call :: calls =>
      (call, (machine.step state call).2) :: trace (machine.step state call).1 calls

@[simp] theorem run_nil (state : State) : machine.run state [] = state := rfl

@[simp] theorem run_cons (state : State) (call : Call) (calls : List Call) :
    machine.run state (call :: calls) = machine.run (machine.step state call).1 calls := rfl

@[simp] theorem trace_nil (state : State) : machine.trace state [] = [] := rfl

@[simp] theorem trace_cons (state : State) (call : Call) (calls : List Call) :
    machine.trace state (call :: calls) =
      (call, (machine.step state call).2) :: machine.trace (machine.step state call).1 calls := rfl

theorem run_append (state : State) (first second : List Call) :
    machine.run state (first ++ second) = machine.run (machine.run state first) second := by
  induction first generalizing state with
  | nil => rfl
  | cons call calls ih => exact ih (machine.step state call).1

theorem trace_append (state : State) (first second : List Call) :
    machine.trace state (first ++ second) =
      machine.trace state first ++ machine.trace (machine.run state first) second := by
  induction first generalizing state with
  | nil => rfl
  | cons call calls ih =>
      simp only [List.cons_append, trace_cons, run_cons, ih]

theorem run_snoc (state : State) (calls : List Call) (call : Call) :
    machine.run state (calls ++ [call]) = (machine.step (machine.run state calls) call).1 := by
  rw [run_append, run_cons, run_nil]

theorem trace_snoc (state : State) (calls : List Call) (call : Call) :
    machine.trace state (calls ++ [call]) = machine.trace state calls ++
      [(call, (machine.step (machine.run state calls) call).2)] := by
  rw [trace_append, trace_cons, trace_nil]

theorem trace_map_fst (state : State) (calls : List Call) :
    (machine.trace state calls).map Prod.fst = calls := by
  induction calls generalizing state with
  | nil => rfl
  | cons call calls ih => simp only [trace_cons, List.map_cons, ih]

theorem run_invariant (invariant : State → Prop)
    (keeps : ∀ state call, invariant state → invariant (machine.step state call).1)
    {state : State} (start : invariant state) (calls : List Call) :
    invariant (machine.run state calls) := by
  induction calls generalizing state with
  | nil => exact start
  | cons call calls ih => exact ih (keeps state call start)

/-- An invariant of state and history that each admissible extension keeps
holds after every admissible run. Admissibility is closed under taking
initial segments, so that the environment may restrict the whole run. -/
theorem history_invariant (initial : State) (admissible : List Call → Prop)
    (closed : ∀ calls call, admissible (calls ++ [call]) → admissible calls)
    (invariant : List (Call × Reply) → State → Prop) (start : invariant [] initial)
    (keeps : ∀ calls call, admissible (calls ++ [call]) →
      invariant (machine.trace initial calls) (machine.run initial calls) →
      invariant
        (machine.trace initial calls ++
          [(call, (machine.step (machine.run initial calls) call).2)])
        (machine.step (machine.run initial calls) call).1)
    {calls : List Call} (allowed : admissible calls) :
    invariant (machine.trace initial calls) (machine.run initial calls) := by
  induction calls using List.reverseRecOn with
  | nil => exact start
  | append_singleton calls call ih =>
      rw [run_snoc, trace_snoc]
      exact keeps calls call allowed (ih (closed calls call allowed))

/-- Every call of a run is allowed in the state that it meets. -/
def Guarded (allowed : State → Call → Prop) (initial : State) (calls : List Call) : Prop :=
  ∀ before call after, calls = before ++ call :: after →
    allowed (machine.run initial before) call

variable {machine} in
theorem Guarded.of_append {allowed : State → Call → Prop} {initial : State}
    {first second : List Call} (guarded : machine.Guarded allowed initial (first ++ second)) :
    machine.Guarded allowed initial first := by
  intro before call after same
  exact guarded before call (after ++ second) (by rw [same]; simp)

variable {machine} in
theorem guarded_nil {allowed : State → Call → Prop} {initial : State} :
    machine.Guarded allowed initial [] := by
  intro before call after same
  cases before <;> cases same

variable {machine} in
theorem guarded_cons {allowed : State → Call → Prop} {initial : State} {call : Call}
    {calls : List Call} (first : allowed initial call)
    (rest : machine.Guarded allowed (machine.step initial call).1 calls) :
    machine.Guarded allowed initial (call :: calls) := by
  intro before next after same
  cases before with
  | nil =>
      cases same
      exact first
  | cons head before =>
      cases same
      exact rest before next after rfl

theorem guarded_of_get {allowed : State → Call → Prop} {initial : State} {calls : List Call}
    (checked : ∀ index : Fin calls.length,
      allowed (machine.run initial (calls.take index)) (calls.get index)) :
    machine.Guarded allowed initial calls := by
  intro before call after same
  subst same
  have here := checked ⟨before.length, by simp⟩
  simpa using here

theorem guarded_invariant {allowed : State → Call → Prop} (invariant : State → Prop)
    (keeps : ∀ state call, allowed state call → invariant state →
      invariant (machine.step state call).1)
    {initial : State} (start : invariant initial) {calls : List Call}
    (guarded : machine.Guarded allowed initial calls) : invariant (machine.run initial calls) := by
  induction calls using List.reverseRecOn with
  | nil => exact start
  | append_singleton calls call ih =>
      rw [run_snoc]
      exact keeps _ call (guarded calls call [] rfl) (ih guarded.of_append)

/-- Where a step keeps an invariant exactly when its call is allowed, a run stays in the
invariant exactly when it is guarded. `valid` holds of every state reached. -/
theorem guarded_iff {allowed : State → Call → Prop} {valid invariant : State → Prop}
    (stays : ∀ state call, valid state → valid (machine.step state call).1)
    (keeps : ∀ state call, valid state → invariant state →
      (invariant (machine.step state call).1 ↔ allowed state call))
    {initial : State} (validStart : valid initial) (start : invariant initial)
    {calls : List Call} :
    (∀ before after, calls = before ++ after → invariant (machine.run initial before)) ↔
      machine.Guarded allowed initial calls := by
  have validRun (before : List Call) : valid (machine.run initial before) :=
    machine.run_invariant valid stays validStart before
  constructor
  · intro holds before call after same
    have reached := holds (before ++ [call]) after (by rw [same, List.append_assoc]; rfl)
    rw [run_snoc] at reached
    exact (keeps _ call (validRun before) (holds before (call :: after) same)).mp reached
  · rintro guarded before after rfl
    exact (machine.guarded_invariant (fun state => valid state ∧ invariant state)
      (fun state call permitted ⟨isValid, kept⟩ =>
        ⟨stays state call isValid, (keeps state call isValid kept).mpr permitted⟩)
      ⟨validStart, start⟩ guarded.of_append).2

end Machine

end Roosty.Library
