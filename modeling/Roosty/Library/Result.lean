import Mathlib.Data.List.Basic

/-! Fallible computations with early returns, and the inversion of successful ones. -/

set_option autoImplicit false

namespace Roosty.Library

variable {Error Value Result : Type}

theorem bind_ok {computation : Except Error Value} {next : Value → Except Error Result}
    {result : Result} (success : computation >>= next = .ok result) :
    ∃ value, computation = .ok value ∧ next value = .ok result := by
  cases computation with
  | error error => cases success
  | ok value => exact ⟨value, rfl, success⟩

theorem guard_ok {condition : Prop} [Decidable condition] {error : Error}
    {rest : Except Error Result} {result : Result}
    (success : (if condition then .error error else rest) = .ok result) :
    ¬ condition ∧ rest = .ok result := by
  by_cases failed : condition
  · rw [if_pos failed] at success
    cases success
  · rw [if_neg failed] at success
    exact ⟨failed, success⟩

/-- `Option::ok_or`. -/
def okOr (value : Option Value) (error : Error) : Except Error Value :=
  match value with
  | some value => .ok value
  | none => .error error

/-- Fail early unless a condition holds. -/
def ensure (condition : Bool) (error : Error) : Except Error Unit :=
  if condition then .ok () else .error error

@[simp] theorem ok_bind (value : Value) (next : Value → Except Error Result) :
    (Except.ok value >>= next) = next value := rfl

@[simp] theorem okOr_some (value : Value) (error : Error) : okOr (some value) error = .ok value :=
  rfl

@[simp] theorem ensure_true (error : Error) : ensure true error = .ok () := rfl

theorem okOr_ok {value : Option Value} {error : Error} {result : Value}
    (success : okOr value error = .ok result) : value = some result := by
  cases value with
  | none => cases success
  | some value =>
      cases success
      rfl

theorem ensure_ok {condition : Bool} {error : Error} {result : Unit}
    (success : ensure condition error = .ok result) : condition = true := by
  cases condition with
  | false => cases success
  | true => rfl

theorem bind_eq_ok_iff {computation : Except Error Value} {next : Value → Except Error Result}
    {result : Result} :
    computation >>= next = .ok result ↔ ∃ value, computation = .ok value ∧ next value = .ok result :=
  ⟨bind_ok, fun ⟨_, ran, success⟩ => by rw [ran, ok_bind, success]⟩

theorem exists_unit_iff {holds : Unit → Prop} : (∃ value, holds value) ↔ holds () :=
  ⟨fun ⟨(), here⟩ => here, fun here => ⟨(), here⟩⟩

theorem ensure_eq_ok_iff {condition : Bool} {error : Error} {result : Unit} :
    ensure condition error = .ok result ↔ condition = true :=
  ⟨ensure_ok, fun holds => by rw [holds, ensure_true]⟩

theorem okOr_eq_ok_iff {value : Option Value} {error : Error} {result : Value} :
    okOr value error = .ok result ↔ value = some result :=
  ⟨okOr_ok, fun found => by rw [found, okOr_some]⟩

theorem mapError_eq_ok_iff {Report : Type} {report : Error → Report}
    {computation : Except Error Value} {result : Value} :
    computation.mapError report = .ok result ↔ computation = .ok result := by
  cases computation with
  | error error => exact ⟨nofun, nofun⟩
  | ok value => exact ⟨fun same => by cases same; rfl, fun same => by cases same; rfl⟩

/-- What each round of a successful loop extends, the whole loop establishes. -/
theorem foldlM_ok {Item State : Type} {round : State → Item → Except Error State}
    {items : List Item} {initial final : State}
    (invariant : List Item → State → Prop) (start : invariant [] initial)
    (next : ∀ done item state updated, item ∈ items → invariant done state →
      round state item = .ok updated → invariant (done ++ [item]) updated)
    (finished : items.foldlM round initial = .ok final) : invariant items final := by
  have loop : ∀ remaining done state, items = done ++ remaining → invariant done state →
      remaining.foldlM round state = .ok final → invariant items final := by
    intro remaining
    induction remaining with
    | nil =>
        intro done state split holds finished
        cases finished
        rwa [split, List.append_nil]
    | cons item remaining ih =>
        intro done state split holds finished
        rw [List.foldlM_cons] at finished
        obtain ⟨updated, ran, finished⟩ := bind_ok finished
        have member : item ∈ items := by simp [split]
        exact ih (done ++ [item]) updated (by simpa using split)
          (next done item state updated member holds ran) finished
  exact loop items [] initial rfl start finished

end Roosty.Library
