import Mathlib.Order.WellFounded

/-! Loops. The body goes on with another state or returns a result. -/

set_option autoImplicit false

namespace Roosty.Library.Loop

variable {State Result : Type} {body : State → State ⊕ Result}

/-- The loop that starts in a state returns a result after finitely many rounds. -/
inductive Returns (body : State → State ⊕ Result) : State → Result → Prop where
  | stop {state : State} {result : Result} (stops : body state = .inr result) :
      Returns body state result
  | next {state next : State} {result : Result} (goesOn : body state = .inl next)
      (returns : Returns body next result) : Returns body state result

/-- What every round keeps holds of the state of the last round. -/
theorem Returns.invariant {state : State} {result : Result} (returns : Returns body state result)
    {invariant : State → Prop}
    (keeps : ∀ state next, invariant state → body state = .inl next → invariant next)
    (start : invariant state) : ∃ last, invariant last ∧ body last = .inr result := by
  induction returns with
  | stop stops => exact ⟨_, start, stops⟩
  | next goesOn _ ih => exact ih (keeps _ _ start goesOn)

/-- A loop returns when each of its rounds goes down in a relation without endless descent. -/
theorem exists_returns {below : State → State → Prop} {invariant : State → Prop}
    (keeps : ∀ state next, invariant state → body state = .inl next → invariant next)
    (descends : ∀ state next, invariant state → body state = .inl next → below next state)
    {state : State} (accessible : Acc below state) (start : invariant state) :
    ∃ result, Returns body state result := by
  induction accessible with
  | intro state _ ih =>
      cases round : body state with
      | inr result => exact ⟨result, .stop round⟩
      | inl next =>
          obtain ⟨result, returns⟩ :=
            ih next (descends state next start round) (keeps state next start round)
          exact ⟨result, .next round returns⟩

theorem exists_returns_of_wellFounded {below : State → State → Prop}
    (wellFounded : WellFounded below)
    (descends : ∀ state next, body state = .inl next → below next state) (state : State) :
    ∃ result, Returns body state result :=
  @exists_returns _ _ _ below (fun _ => True) (fun _ _ _ _ => trivial)
    (fun state next _ round => descends state next round) state (wellFounded.apply state) trivial

end Roosty.Library.Loop
