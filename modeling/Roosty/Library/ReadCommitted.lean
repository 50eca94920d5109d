import Mathlib.Logic.Function.Iterate
import Mathlib.Logic.Relation

/-!
# Transactions under READ COMMITTED

Open transactions execute one statement at a time. A statement sees the committed
rows under the uncommitted writes of its own transaction. A row that one
transaction has written is locked until it ends, and a statement that would
write it as well waits.
-/

set_option autoImplicit false

namespace Roosty.Library.ReadCommitted

abbrev Rows (Key Row : Type) := Key → Option Row

/-- Rows that are inserted or updated, and rows that are deleted. -/
abbrev Writes (Key Row : Type) := Key → Option (Option Row)

section

variable {Key Row : Type}

def overlay (writes : Writes Key Row) (rows : Rows Key Row) : Rows Key Row := fun key =>
  (writes key).getD (rows key)

def Writes.andThen (earlier later : Writes Key Row) : Writes Key Row := fun key =>
  (later key).or (earlier key)

def Writes.none : Writes Key Row := fun _ => .none

theorem overlay_of_none {writes : Writes Key Row} {key : Key} (unwritten : writes key = .none)
    (rows : Rows Key Row) : overlay writes rows key = rows key := by
  unfold overlay
  rw [unwritten]
  rfl

theorem overlay_of_some {writes : Writes Key Row} {key : Key} {row : Option Row}
    (written : writes key = some row) (rows : Rows Key Row) : overlay writes rows key = row := by
  unfold overlay
  rw [written]
  rfl

theorem overlay_andThen (earlier later : Writes Key Row) (rows : Rows Key Row) :
    overlay (earlier.andThen later) rows = overlay later (overlay earlier rows) := by
  funext key
  unfold overlay Writes.andThen
  cases later key <;> rfl

theorem andThen_eq_some {earlier later : Writes Key Row} {key : Key} {row : Option Row}
    (written : earlier.andThen later key = some row) :
    later key = some row ∨ earlier key = some row := by
  unfold Writes.andThen at written
  rcases Option.or_eq_some_iff.mp written with written | ⟨_, written⟩
  · exact .inl written
  · exact .inr written

theorem overlay_eq_none {writes : Writes Key Row} {before after : Rows Key Row} {key : Key}
    (kept : before key = .none → after key = .none) (missing : overlay writes before key = .none) :
    overlay writes after key = .none := by
  cases written : writes key with
  | none =>
      rw [overlay_of_none written] at missing ⊢
      exact kept missing
  | some row =>
      rw [overlay_of_some written] at missing ⊢
      exact missing

end

inductive Instruction (Key Row Position : Type) where
  | statement (writes : Rows Key Row → Writes Key Row) (next : Rows Key Row → Position)
  | commit
  | rollback

/-- Transactions by their positions: where they start, and what they do when the
clock shows a time. -/
structure Code (Key Row Position : Type) where
  starts : Position → Prop
  instruction : Int → Position → Instruction Key Row Position

structure Session (Key Row Position : Type) where
  writes : Writes Key Row
  position : Position

structure State (Key Row Position : Type) where
  now : Int
  rows : Rows Key Row
  sessions : Nat → Option (Session Key Row Position)

inductive Event (Position : Type) where
  | clock (time : Int)
  | begins (number : Nat) (position : Position)
  | executes (number : Nat) (before after : Position)
  | commits (number : Nat) (position : Position)
  | aborts (number : Nat) (position : Position)

variable {Key Row Position : Type}

namespace State

variable (state : State Key Row Position)

def seen (session : Session Key Row Position) : Rows Key Row := overlay session.writes state.rows

/-- No other session holds the lock of a row that is to be written. -/
def Unlocked (number : Nat) (writes : Writes Key Row) : Prop :=
  ∀ other session, other ≠ number → state.sessions other = some session →
    ∀ key, (writes key).isSome → session.writes key = none

def setSession (number : Nat) (session : Option (Session Key Row Position)) :
    State Key Row Position :=
  { state with sessions := Function.update state.sessions number session }

variable {state}

@[simp] theorem setSession_self (number : Nat) (session : Option (Session Key Row Position)) :
    (state.setSession number session).sessions number = session := by
  dsimp only [setSession]
  rw [Function.update_self]

theorem setSession_of_ne {number other : Nat} (different : other ≠ number)
    (session : Option (Session Key Row Position)) :
    (state.setSession number session).sessions other = state.sessions other := by
  dsimp only [setSession]
  rw [Function.update_of_ne different]

theorem setSession_cases {number other : Nat} {changed : Option (Session Key Row Position)}
    {session : Session Key Row Position}
    (found : (state.setSession number changed).sessions other = some session) :
    (other = number ∧ changed = some session) ∨
      (other ≠ number ∧ state.sessions other = some session) := by
  by_cases same : other = number
  · subst same
    rw [setSession_self] at found
    exact .inl ⟨rfl, found⟩
  · rw [setSession_of_ne same] at found
    exact .inr ⟨same, found⟩

end State

section

variable (code : Code Key Row Position)

/-- The clock advances, or one transaction begins, executes a statement or ends.
Errors and crashes may end it anywhere. -/
inductive Step : State Key Row Position → Event Position → State Key Row Position → Prop
  | clock {state : State Key Row Position} {time : Int} (later : state.now ≤ time) :
      Step state (.clock time) { state with now := time }
  | begins {state : State Key Row Position} {number : Nat} {position : Position}
      (free : state.sessions number = none) (starts : code.starts position) :
      Step state (.begins number position) (state.setSession number (some ⟨.none, position⟩))
  | executes {state : State Key Row Position} {number : Nat} {session : Session Key Row Position}
      {writes : Rows Key Row → Writes Key Row} {next : Rows Key Row → Position}
      (found : state.sessions number = some session)
      (instruction : code.instruction state.now session.position = .statement writes next)
      (unlocked : state.Unlocked number (writes (state.seen session))) :
      Step state (.executes number session.position (next (state.seen session)))
        (state.setSession number
          (some ⟨session.writes.andThen (writes (state.seen session)), next (state.seen session)⟩))
  | commits {state : State Key Row Position} {number : Nat} {session : Session Key Row Position}
      (found : state.sessions number = some session)
      (instruction : code.instruction state.now session.position = .commit) :
      Step state (.commits number session.position)
        { state.setSession number none with rows := state.seen session }
  | aborts {state : State Key Row Position} {number : Nat} {session : Session Key Row Position}
      (found : state.sessions number = some session) :
      Step state (.aborts number session.position) (state.setSession number none)

/-- A run whose steps are all allowed in the state before them. -/
inductive Run (Allowed : State Key Row Position → Event Position → Prop)
    (start : State Key Row Position) : List (Event Position) → State Key Row Position → Prop
  | start : Run Allowed start [] start
  | step {events : List (Event Position)} {state next : State Key Row Position}
      {event : Event Position} (run : Run Allowed start events state)
      (allowed : Allowed state event) (step : Step code state event next) :
      Run Allowed start (events ++ [event]) next

variable {code}

theorem Run.invariant {Allowed : State Key Row Position → Event Position → Prop}
    {start state : State Key Row Position} {events : List (Event Position)}
    (run : Run code Allowed start events state)
    {Holds : List (Event Position) → State Key Row Position → Prop} (initial : Holds [] start)
    (keeps : ∀ events state event next, Holds events state → Allowed state event →
      Step code state event next → Holds (events ++ [event]) next) : Holds events state := by
  induction run with
  | start => exact initial
  | step run allowed step inductive_hypothesis =>
      exact keeps _ _ _ _ inductive_hypothesis allowed step

end

/-!
## Execution without contention
-/

section

variable (code : Code Key Row Position)

def State.advance (state : State Key Row Position) (number : Nat) : State Key Row Position :=
  match state.sessions number with
  | none => state
  | some session =>
      match code.instruction state.now session.position with
      | .statement writes next => state.setSession number
          (some ⟨session.writes.andThen (writes (state.seen session)), next (state.seen session)⟩)
      | .commit => { state.setSession number none with rows := state.seen session }
      | .rollback => state.setSession number none

def State.nextEvent (state : State Key Row Position) (number : Nat) : Option (Event Position) :=
  (state.sessions number).map fun session =>
    match code.instruction state.now session.position with
    | .statement _ next => .executes number session.position (next (state.seen session))
    | .commit => .commits number session.position
    | .rollback => .aborts number session.position

/-- The other sessions hold no locks. -/
def State.Alone (state : State Key Row Position) (number : Nat) : Prop :=
  ∀ other session, other ≠ number → state.sessions other = some session →
    session.writes = Writes.none

def State.Only (state : State Key Row Position) (number : Nat) : Prop :=
  ∀ other, other ≠ number → state.sessions other = none

variable {code} {state : State Key Row Position} {number : Nat}

theorem State.Only.alone (only : state.Only number) : state.Alone number := by
  intro other session different found
  rw [only other different] at found
  cases found

theorem State.advance_sessions {other : Nat} (different : other ≠ number) :
    (state.advance code number).sessions other = state.sessions other := by
  unfold State.advance
  split
  · rfl
  · split <;> exact Function.update_of_ne different _ _

theorem State.Alone.advance (alone : state.Alone number) :
    (state.advance code number).Alone number := by
  intro other session different found
  rw [advance_sessions different] at found
  exact alone other session different found

theorem State.Only.advance (only : state.Only number) :
    (state.advance code number).Only number := by
  intro other different
  rw [advance_sessions different]
  exact only other different

theorem State.Alone.step {event : Event Position} (alone : state.Alone number)
    (event_eq : state.nextEvent code number = some event) :
    Step code state event (state.advance code number) := by
  obtain ⟨session, found, rfl⟩ := Option.map_eq_some_iff.mp event_eq
  unfold State.advance
  rw [found]
  dsimp only
  cases instruction : code.instruction state.now session.position with
  | statement writes next =>
      refine .executes found instruction ?_
      intro other open_ different foundOther key _
      rw [alone other open_ different foundOther]
      rfl
  | commit => exact .commits found instruction
  | rollback => exact .aborts found

theorem State.advance_of_none (ended : state.nextEvent code number = none) :
    state.advance code number = state := by
  unfold State.advance
  rw [Option.map_eq_none_iff.mp ended]

theorem Run.advance {Allowed : State Key Row Position → Event Position → Prop}
    {start : State Key Row Position} {events : List (Event Position)} {event : Event Position}
    (run : Run code Allowed start events state) (alone : state.Alone number)
    (event_eq : state.nextEvent code number = some event) (allowed : Allowed state event) :
    Run code Allowed start (events ++ [event]) (state.advance code number) :=
  .step run allowed (alone.step event_eq)

def State.opened (state : State Key Row Position) (number : Nat) (position : Position) :
    State Key Row Position :=
  state.setSession number (some ⟨.none, position⟩)

variable (code) in
def State.advanced (state : State Key Row Position) (number count : Nat) :
    State Key Row Position :=
  (fun state => state.advance code number)^[count] state

variable (code) in
def State.nextEvents (number : Nat) : State Key Row Position → Nat → List (Event Position)
  | _, 0 => []
  | state, count + 1 => (state.nextEvent code number).toList ++
      State.nextEvents number (state.advance code number) count

theorem State.opened_only {position : Position} (idle : ∀ other, state.sessions other = none) :
    (state.opened number position).Only number := by
  intro other different
  exact (setSession_of_ne different _).trans (idle other)

theorem State.advanced_sessions {other : Nat} (count : Nat) (different : other ≠ number) :
    (state.advanced code number count).sessions other = state.sessions other := by
  induction count generalizing state with
  | zero => rfl
  | succ count inductive_hypothesis =>
      exact inductive_hypothesis.trans (advance_sessions different)

theorem State.Only.advanced (only : state.Only number) (count : Nat) :
    (state.advanced code number count).Only number := by
  intro other different
  exact (advanced_sessions count different).trans (only other different)

theorem Run.advanced {Allowed : State Key Row Position → Event Position → Prop}
    {start : State Key Row Position} {events : List (Event Position)}
    (free : ∀ state event, Allowed state event) (run : Run code Allowed start events state)
    (alone : state.Alone number) (count : Nat) :
    Run code Allowed start (events ++ State.nextEvents code number state count)
      (state.advanced code number count) := by
  induction count generalizing state events with
  | zero =>
      rw [State.nextEvents, List.append_nil]
      exact run
  | succ count inductive_hypothesis =>
      rw [State.nextEvents, ← List.append_assoc]
      refine inductive_hypothesis ?_ alone.advance
      cases upcoming : state.nextEvent code number with
      | none =>
          rw [State.advance_of_none upcoming, Option.toList_none, List.append_nil]
          exact run
      | some event => exact run.advance alone upcoming (free state event)

/-- Any number of steps of one session, under a condition that they keep. -/
theorem reaches_iterate {Follows : State Key Row Position → State Key Row Position → Prop}
    {Holds : State Key Row Position → Prop} (alone : ∀ {state}, Holds state → state.Alone number)
    (keeps : ∀ {state}, Holds state → Holds (state.advance code number))
    (steps : ∀ {state event next}, Holds state → Step code state event next → Follows state next)
    (holds : Holds state) (count : Nat) :
    Relation.ReflTransGen Follows state (state.advanced code number count) := by
  induction count generalizing state with
  | zero => exact .refl
  | succ count inductive_hypothesis =>
      unfold State.advanced
      rw [Function.iterate_succ_apply]
      cases upcoming : state.nextEvent code number with
      | none =>
          rw [State.advance_of_none upcoming]
          exact inductive_hypothesis holds
      | some event =>
          exact .head (steps holds ((alone holds).step upcoming))
            (inductive_hypothesis (keeps holds))

end

end Roosty.Library.ReadCommitted
