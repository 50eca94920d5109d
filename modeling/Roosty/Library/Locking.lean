import Roosty.Library.ReadCommitted

/-!
# Row locks and constraints

A row that a session has written is written by no other until the session ends. A
constraint that every statement checks holds in every committed state, and of the
sessions that insert one key, which no statement deletes, at most one commits.
-/

set_option autoImplicit false

namespace Roosty.Library.ReadCommitted

variable {Key Row Position : Type}

def State.Exclusive (state : State Key Row Position) : Prop :=
  ∀ one two (first second : Session Key Row Position), one ≠ two →
    state.sessions one = some first → state.sessions two = some second →
      ∀ key, (first.writes key).isSome → second.writes key = none

variable {code : Code Key Row Position}

theorem isSome_andThen (earlier later : Writes Key Row) (key : Key) :
    (earlier.andThen later key).isSome = ((later key).isSome || (earlier key).isSome) :=
  Option.isSome_or

section

variable {state next : State Key Row Position} {event : Event Position}

private theorem Exclusive.setSession {number : Nat} {changed : Session Key Row Position}
    (exclusive : state.Exclusive)
    (alone : ∀ other session, other ≠ number → state.sessions other = some session →
      ∀ key, (changed.writes key).isSome → session.writes key = none) :
    (state.setSession number (some changed)).Exclusive := by
  intro one two first second different foundFirst foundSecond key written
  obtain ⟨isOne, isFirst⟩ | ⟨notOne, first_before⟩ := State.setSession_cases foundFirst
  · obtain ⟨isTwo, _⟩ | ⟨notTwo, second_before⟩ := State.setSession_cases foundSecond
    · exact absurd (isOne.trans isTwo.symm) different
    · cases isFirst
      exact alone two second notTwo second_before key written
  · obtain ⟨_, isSecond⟩ | ⟨_, second_before⟩ := State.setSession_cases foundSecond
    · cases isSecond
      by_contra other
      have unwritten :=
        alone one first notOne first_before key (Option.isSome_iff_ne_none.mpr other)
      rw [unwritten] at written
      cases written
    · exact exclusive one two first second different first_before second_before key written

private theorem Exclusive.ended {number : Nat} (exclusive : state.Exclusive) :
    (state.setSession number none).Exclusive := by
  intro one two first second different foundFirst foundSecond
  obtain ⟨_, ⟨⟩⟩ | ⟨_, foundFirst⟩ := State.setSession_cases foundFirst
  obtain ⟨_, ⟨⟩⟩ | ⟨_, foundSecond⟩ := State.setSession_cases foundSecond
  exact exclusive one two first second different foundFirst foundSecond

theorem Step.exclusive (exclusive : state.Exclusive) (step : Step code state event next) :
    next.Exclusive := by
  cases step with
  | clock => exact exclusive
  | begins free starts => exact Exclusive.setSession exclusive nofun
  | @executes number session writes _ found _ unlocked =>
      refine Exclusive.setSession exclusive ?_
      intro other session different foundOther key written
      cases new : writes (state.seen _) key with
      | some row => exact unlocked other session different foundOther key (by rw [new]; rfl)
      | none =>
          refine exclusive number other _ session different.symm found foundOther key ?_
          rwa [isSome_andThen, new, Option.isSome_none, Bool.false_or] at written
  | commits found _ =>
      intro one two first second
      exact Exclusive.ended exclusive one two first second
  | aborts found => exact Exclusive.ended exclusive

end

/-!
## Constraints on rows
-/

/-- Every row that a statement writes satisfies a constraint where the rows that it sees
do. -/
def Checks (code : Code Key Row Position) (Valid : Key → Row → Prop) : Prop :=
  ∀ now position writes next, code.instruction now position = .statement writes next →
    ∀ rows : Rows Key Row, (∀ key row, rows key = some row → Valid key row) →
      ∀ key row, writes rows key = some (some row) → Valid key row

/-- The rows of the database and those that are to be committed satisfy a constraint. -/
structure State.Satisfies (state : State Key Row Position) (Valid : Key → Row → Prop) : Prop where
  rows : ∀ key row, state.rows key = some row → Valid key row
  writes : ∀ number session, state.sessions number = some session →
    ∀ key row, session.writes key = some (some row) → Valid key row

section

variable {Valid : Key → Row → Prop} {state next : State Key Row Position}
  {event : Event Position}

theorem State.Satisfies.seen (satisfies : state.Satisfies Valid) {number : Nat}
    {session : Session Key Row Position} (found : state.sessions number = some session) :
    ∀ key row, state.seen session key = some row → Valid key row := by
  intro key row present
  unfold State.seen at present
  cases written : session.writes key with
  | none =>
      rw [overlay_of_none written] at present
      exact satisfies.rows key row present
  | some changed =>
      rw [overlay_of_some written] at present
      rw [present] at written
      exact satisfies.writes number session found key row written

theorem Step.satisfies (checks : Checks code Valid) (satisfies : state.Satisfies Valid)
    (step : Step code state event next) : next.Satisfies Valid := by
  cases step with
  | clock => exact ⟨satisfies.rows, satisfies.writes⟩
  | begins free starts =>
      refine ⟨satisfies.rows, ?_⟩
      intro other session found key row written
      obtain ⟨_, isNew⟩ | ⟨_, found⟩ := State.setSession_cases found
      · cases isNew
        cases written
      · exact satisfies.writes other session found key row written
  | executes found instruction _ =>
      refine ⟨satisfies.rows, ?_⟩
      intro other session foundOther key row written
      obtain ⟨rfl, isNew⟩ | ⟨_, foundOther⟩ := State.setSession_cases foundOther
      · cases isNew
        obtain new | old := andThen_eq_some written
        · exact checks _ _ _ _ instruction _ (satisfies.seen found) key row new
        · exact satisfies.writes _ _ found key row old
      · exact satisfies.writes other session foundOther key row written
  | commits found _ =>
      refine ⟨satisfies.seen found, ?_⟩
      intro other session foundOther
      obtain ⟨_, ⟨⟩⟩ | ⟨_, foundOther⟩ := State.setSession_cases foundOther
      exact satisfies.writes other session foundOther
  | aborts found =>
      refine ⟨satisfies.rows, ?_⟩
      intro other session foundOther
      obtain ⟨_, ⟨⟩⟩ | ⟨_, foundOther⟩ := State.setSession_cases foundOther
      exact satisfies.writes other session foundOther

end

/-!
## Keys that are inserted once
-/

def commitsAt (at_ : Position → Bool) : Event Position → Bool
  | .commits _ position => at_ position
  | _ => false

/-- Sessions come to some positions only by inserting a key that they do not see, and no
statement deletes the key. -/
structure Inserts (code : Code Key Row Position) (key : Key) (inserted : Position → Bool) :
    Prop where
  starts : ∀ position, code.starts position → inserted position = false
  enters : ∀ now position writes next, code.instruction now position = .statement writes next →
    ∀ rows, inserted (next rows) = true →
      inserted position = true ∨ (rows key = none ∧ (writes rows key).isSome)
  keeps : ∀ now position writes next, code.instruction now position = .statement writes next →
    ∀ rows, writes rows key ≠ some none

/-- A session that has inserted the key holds its lock, and the key is not there yet. After
the first commit it is. -/
structure InsertedOnce (key : Key) (inserted : Position → Bool) (events : List (Event Position))
    (state : State Key Row Position) : Prop where
  exclusive : state.Exclusive
  writes : ∀ number session, state.sessions number = some session → session.writes key ≠ some none
  pending : ∀ number session, state.sessions number = some session →
    inserted session.position = true → (session.writes key).isSome ∧ state.rows key = none
  once : events.countP (commitsAt inserted) ≤ 1
  present : 0 < events.countP (commitsAt inserted) → (state.rows key).isSome

section

variable {key : Key} {inserted : Position → Bool} {state next : State Key Row Position}
  {events : List (Event Position)} {event : Event Position}

private theorem countP_snoc (quiet : commitsAt inserted event = false) :
    (events ++ [event]).countP (commitsAt inserted) = events.countP (commitsAt inserted) := by
  rw [List.countP_append, List.countP_singleton, if_neg (by rw [quiet]; decide), Nat.add_zero]

private theorem InsertedOnce.executes {number : Nat} {session : Session Key Row Position}
    {changes : Rows Key Row → Writes Key Row} {after : Rows Key Row → Position}
    (inserts : Inserts code key inserted) (once : InsertedOnce key inserted events state)
    (found : state.sessions number = some session)
    (instruction : code.instruction state.now session.position = .statement changes after)
    (exclusive : (state.setSession number (some ⟨session.writes.andThen (changes
      (state.seen session)), after (state.seen session)⟩)).Exclusive) (event : Event Position)
    (quiet : commitsAt inserted event = false) :
    InsertedOnce key inserted (events ++ [event]) (state.setSession number
      (some ⟨session.writes.andThen (changes (state.seen session)),
        after (state.seen session)⟩)) where
  exclusive := exclusive
  writes := by
    intro other changed foundOther
    obtain ⟨rfl, isNew⟩ | ⟨_, foundOther⟩ := State.setSession_cases foundOther
    · cases isNew
      intro deleted
      obtain new | old := andThen_eq_some deleted
      · exact inserts.keeps _ _ _ _ instruction _ new
      · exact once.writes _ session found old
    · exact once.writes other changed foundOther
  pending := by
    intro other changed foundOther at_
    obtain ⟨rfl, isNew⟩ | ⟨_, foundOther⟩ := State.setSession_cases foundOther
    · cases isNew
      obtain before | ⟨missing, written⟩ := inserts.enters _ _ _ _ instruction _ at_
      · obtain ⟨written, absent⟩ := once.pending _ session found before
        refine ⟨?_, absent⟩
        rw [isSome_andThen, written, Bool.or_true]
      · refine ⟨by rw [isSome_andThen, written, Bool.true_or], ?_⟩
        cases own : session.writes key with
        | none => rwa [State.seen, overlay_of_none own] at missing
        | some row =>
            rw [State.seen, overlay_of_some own] at missing
            rw [missing] at own
            exact absurd own (once.writes _ session found)
    · exact once.pending other changed foundOther at_
  once := by
    rw [countP_snoc quiet]
    exact once.once
  present := by
    rw [countP_snoc quiet]
    exact once.present

private theorem InsertedOnce.commits {number : Nat} {session : Session Key Row Position}
    (once : InsertedOnce key inserted events state)
    (found : state.sessions number = some session)
    (exclusive : { state.setSession number none with rows := state.seen session }.Exclusive) :
    InsertedOnce key inserted (events ++ [.commits number session.position])
      { state.setSession number none with rows := state.seen session } where
  exclusive := exclusive
  writes := by
    intro other changed foundOther
    obtain ⟨_, ⟨⟩⟩ | ⟨_, foundOther⟩ := State.setSession_cases foundOther
    exact once.writes other changed foundOther
  pending := by
    intro other changed foundOther at_
    obtain ⟨_, ⟨⟩⟩ | ⟨different, foundOther⟩ := State.setSession_cases foundOther
    obtain ⟨written, absent⟩ := once.pending other changed foundOther at_
    -- The session that commits has not written a key that another has locked.
    have unwritten := once.exclusive other number changed session different foundOther found key
      written
    exact ⟨written, (overlay_of_none unwritten state.rows).trans absent⟩
  once := by
    rw [List.countP_append, List.countP_singleton]
    split
    · rename_i own
      have absent := (once.pending number session found own).2
      have none_before : events.countP (commitsAt inserted) = 0 := by
        by_contra some_
        have present := once.present (Nat.pos_of_ne_zero some_)
        rw [absent] at present
        cases present
      omega
    · exact once.once
  present := by
    intro counted
    have written_or : (session.writes key).isSome ∨ (state.rows key).isSome := by
      rw [List.countP_append, List.countP_singleton] at counted
      split at counted
      · rename_i own
        exact .inl (once.pending number session found own).1
      · exact .inr (once.present counted)
    change (overlay session.writes state.rows key).isSome
    cases own : session.writes key with
    | none =>
        rw [overlay_of_none own]
        rw [own] at written_or
        exact written_or.resolve_left nofun
    | some row =>
        rw [overlay_of_some own]
        cases row with
        | none => exact absurd own (once.writes number session found)
        | some row => rfl

theorem InsertedOnce.step (inserts : Inserts code key inserted)
    (once : InsertedOnce key inserted events state) (step : Step code state event next) :
    InsertedOnce key inserted (events ++ [event]) next := by
  have exclusive := step.exclusive once.exclusive
  cases step with
  | clock =>
      refine ⟨exclusive, once.writes, once.pending, ?_, ?_⟩
      · rw [countP_snoc rfl]
        exact once.once
      · rw [countP_snoc rfl]
        exact once.present
  | @begins number position free starts =>
      refine ⟨exclusive, ?_, ?_, ?_, ?_⟩
      · intro other session found
        obtain ⟨_, isNew⟩ | ⟨_, found⟩ := State.setSession_cases found
        · cases isNew
          exact nofun
        · exact once.writes other session found
      · intro other session found at_
        obtain ⟨_, isNew⟩ | ⟨_, found⟩ := State.setSession_cases found
        · cases isNew
          rw [inserts.starts position starts] at at_
          cases at_
        · exact once.pending other session found at_
      · rw [countP_snoc rfl]
        exact once.once
      · rw [countP_snoc rfl]
        exact once.present
  | executes found instruction _ => exact once.executes inserts found instruction exclusive _ rfl
  | commits found _ => exact once.commits found exclusive
  | aborts found =>
      refine ⟨exclusive, ?_, ?_, ?_, ?_⟩
      · intro other session foundOther
        obtain ⟨_, ⟨⟩⟩ | ⟨_, foundOther⟩ := State.setSession_cases foundOther
        exact once.writes other session foundOther
      · intro other session foundOther
        obtain ⟨_, ⟨⟩⟩ | ⟨_, foundOther⟩ := State.setSession_cases foundOther
        exact once.pending other session foundOther
      · rw [countP_snoc rfl]
        exact once.once
      · rw [countP_snoc rfl]
        exact once.present

/-- In every run from a state without sessions, at most one session commits after it has
inserted the key. -/
theorem Run.insertedOnce {Allowed : State Key Row Position → Event Position → Prop}
    {start : State Key Row Position} (run : Run code Allowed start events state)
    (idle : ∀ number, start.sessions number = none) (inserts : Inserts code key inserted) :
    InsertedOnce key inserted events state := by
  refine run.invariant ?_ fun _ _ _ _ once _ => once.step inserts
  refine ⟨?_, ?_, ?_, Nat.zero_le 1, fun counted => absurd counted (Nat.lt_irrefl 0)⟩
  · intro one two first second _ found
    rw [idle one] at found
    cases found
  · intro number session found
    rw [idle number] at found
    cases found
  · intro number session found
    rw [idle number] at found
    cases found

end

end Roosty.Library.ReadCommitted
