import Roosty.Auth.AuthorizationCode

/-!
# Single use of authorization codes

Two calls that find a code before either has committed both return its grant.
Otherwise a code is redeemed at most once, and not after it has expired.
-/

set_option autoImplicit false

namespace Roosty.Auth

open Library Library.ReadCommitted

def Position.Holds (hash : String) : Position → Prop
  | .check call _ | .update call _ | .returned call (some _) _ => call.codeHash = hash
  | .find _ | .returned _ none _ | .failed _ => False

/-- No two calls hold the code, no call that returned a grant is rolled back, and
the clock does not pass the expiry of the code between its check and the return. -/
structure Orderly (hash : String) (state : State String AuthorizationCode Position)
    (event : Event Position) : Prop where
  exclusive : ∀ one two first second, state.sessions one = some first →
    state.sessions two = some second → first.position.Holds hash → second.position.Holds hash →
    one = two
  kept : ∀ number call grant time,
    event = .aborts number (.returned call (some grant) time) → call.codeHash ≠ hash
  timely : ∀ time, event = .clock time → ∀ number session call code,
    state.sessions number = some session → session.position = .update call code →
    call.codeHash = hash → time ≤ code.expiresAt

variable {hash : String} {expiresAt : Int}

structure Sound (hash : String) (expiresAt now : Int)
    (session : Session String AuthorizationCode Position) : Prop where
  writes : ∀ key row, session.writes key = some row → ∃ code, row = some code ∧
    code.consumedAt.isSome ∧ (key = hash → code.expiresAt = expiresAt)
  found : ∀ call code, session.position = .check call code ∨ session.position = .update call code →
    call.codeHash = hash → code.expiresAt = expiresAt
  timely : ∀ call code, session.position = .update call code → call.codeHash = hash →
    now ≤ expiresAt

def Consumed (hash : String) (codes : Codes) : Prop :=
  ∃ code, codes hash = some code ∧ code.consumedAt.isSome

/-- A grant has been returned. It is consumed and nobody holds it, or the call that
returned it has yet to commit. -/
def Redeemed (hash : String) (state : State String AuthorizationCode Position) : Prop :=
  (Consumed hash state.rows ∧ ∀ number session, state.sessions number = some session →
      ¬session.position.Holds hash) ∨
    ∃ number session call grant time, state.sessions number = some session ∧
      session.position = .returned call (some grant) time ∧ call.codeHash = hash ∧
      Consumed hash (state.seen session)

structure Consistent (hash : String) (expiresAt : Int) (events : List (Event Position))
    (state : State String AuthorizationCode Position) : Prop where
  row : ∃ code, state.rows hash = some code ∧ code.expiresAt = expiresAt
  sessions : ∀ number session, state.sessions number = some session →
    Sound hash expiresAt state.now session
  history : redemptions hash events = [] ∨
    (∃ time, redemptions hash events = [time] ∧ time ≤ expiresAt) ∧ Redeemed hash state

/-!
## History
-/

private theorem redemptions_snoc (events : List (Event Position)) (event : Event Position) :
    redemptions hash (events ++ [event]) = redemptions hash events ++ redemptions hash [event] :=
  List.filterMap_append

private theorem redemptions_of_not_holds {number : Nat} {before after : Position}
    (free : ¬after.Holds hash) : redemptions hash [.executes number before after] = [] := by
  cases after with
  | returned call grant time =>
      cases grant with
      | none => rfl
      | some grant =>
          have different : call.codeHash ≠ hash := free
          simp [redemptions, different]
  | find | check | update | failed => rfl

/-!
## Open calls
-/

section

variable {now : Int} {codes : Codes} {session : Session String AuthorizationCode Position}

private theorem Sound.seen_row (sound : Sound hash expiresAt now session)
    (row : ∃ code, codes hash = some code ∧ code.expiresAt = expiresAt) :
    ∃ code, overlay session.writes codes hash = some code ∧ code.expiresAt = expiresAt := by
  cases written : session.writes hash with
  | none =>
      rw [overlay_of_none written]
      exact row
  | some row =>
      obtain ⟨code, rfl, _, expires⟩ := sound.writes hash row written
      rw [overlay_of_some written]
      exact ⟨code, rfl, expires rfl⟩

private theorem Sound.consumed (sound : Sound hash expiresAt now session)
    (consumed : session.writes hash = none → Consumed hash codes) :
    Consumed hash (overlay session.writes codes) := by
  cases written : session.writes hash with
  | none =>
      obtain ⟨code, found, consumed⟩ := consumed written
      exact ⟨code, (overlay_of_none written codes).trans found, consumed⟩
  | some row =>
      obtain ⟨code, rfl, consumed, _⟩ := sound.writes hash row written
      exact ⟨code, overlay_of_some written codes, consumed⟩

private theorem consumed_some {call : Call} {key : String} {row : Option AuthorizationCode}
    (written : Auth.consumed now call codes key = some row) :
    key = call.codeHash ∧ ∃ code, codes key = some code ∧
      row = some { code with consumedAt := some now } := by
  unfold Auth.consumed at written
  split at written
  next same =>
    obtain ⟨code, found, rfl⟩ := Option.map_eq_some_iff.mp written
    exact ⟨same, code, found, rfl⟩
  next => cases written

private theorem Sound.begins (call : Call) : Sound hash expiresAt now ⟨.none, .find call⟩ where
  writes _ _ written := by cases written
  found _ _ position := by rcases position with position | position <;> cases position
  timely _ _ position := by cases position

inductive Executes (now : Int) (codes : Codes) :
    Position → Writes String AuthorizationCode → Position → Prop
  | found {call : Call} {code : AuthorizationCode}
      (selected : (codes call.codeHash).filter (fun code => code.matches call) = some code) :
      Executes now codes (.find call) .none (.check call code)
  | missing {call : Call} : Executes now codes (.find call) .none (.returned call none now)
  | expired {call : Call} {code : AuthorizationCode} :
      Executes now codes (.check call code) .none (.returned call none now)
  | live {call : Call} {code : AuthorizationCode} (live : now < code.expiresAt) :
      Executes now codes (.check call code) .none (.update call code)
  | redeemed {call : Call} {code stored : AuthorizationCode}
      (present : codes call.codeHash = some stored) :
      Executes now codes (.update call code) (Auth.consumed now call codes)
        (.returned call (some code.grant) now)
  | lost {call : Call} {code : AuthorizationCode} :
      Executes now codes (.update call code) (Auth.consumed now call codes) (.failed call)

private theorem executes_of_statement {position : Position}
    {writes : Codes → Writes String AuthorizationCode} {next : Codes → Position} (codes : Codes)
    (instruction : consumeAuthorizationCode now position = .statement writes next) :
    Executes now codes position (writes codes) (next codes) := by
  cases position with
  | find call =>
      cases instruction
      dsimp only
      split
      next code selected => exact .found selected
      next => exact .missing
  | check call code =>
      cases instruction
      dsimp only
      split
      next => exact .expired
      next live => exact .live (Int.not_le.mp live)
  | update call code =>
      cases instruction
      dsimp only
      split
      next present =>
        obtain ⟨stored, present⟩ := Option.isSome_iff_exists.mp present
        exact .redeemed present
      next => exact .lost
  | returned call grant time => cases grant <;> cases instruction
  | failed call => cases instruction

private theorem Sound.executes {changes : Writes String AuthorizationCode} {after : Position}
    (sound : Sound hash expiresAt now session)
    (row : ∃ code, overlay session.writes codes hash = some code ∧ code.expiresAt = expiresAt)
    (executes : Executes now (overlay session.writes codes) session.position changes after) :
    Sound hash expiresAt now ⟨session.writes.andThen changes, after⟩ := by
  cases position : session.position with
  | find call =>
      rw [position] at executes
      cases executes with
      | found selected =>
          refine ⟨sound.writes, ?_, nofun⟩
          rintro _ code (at_ | at_) same <;> cases at_
          obtain ⟨expected, stored, expires⟩ := row
          rw [same, stored] at selected
          cases Option.some.inj (Option.filter_eq_some_iff.mp selected).1
          exact expires
      | missing => exact ⟨sound.writes, nofun, nofun⟩
  | check call code =>
      rw [position] at executes
      cases executes with
      | expired => exact ⟨sound.writes, nofun, nofun⟩
      | live live =>
          have expires := sound.found call code (.inl position)
          refine ⟨sound.writes, ?_, ?_⟩
          · rintro _ _ (at_ | at_) same <;> cases at_
            exact expires same
          · intro _ _ at_ same
            cases at_
            have known := expires same
            omega
  | update call code =>
      rw [position] at executes
      have writes : ∀ key changed,
          session.writes.andThen (Auth.consumed now call (overlay session.writes codes)) key =
            some changed →
          ∃ code, changed = some code ∧ code.consumedAt.isSome ∧
            (key = hash → code.expiresAt = expiresAt) := by
        intro key changed written
        rcases andThen_eq_some written with written | written
        · obtain ⟨_, stored, found, rfl⟩ := consumed_some written
          refine ⟨_, rfl, rfl, ?_⟩
          rintro rfl
          obtain ⟨expected, seen, expires⟩ := row
          cases Option.some.inj (found.symm.trans seen)
          exact expires
        · exact sound.writes key changed written
      cases executes with
      | redeemed => exact ⟨writes, nofun, nofun⟩
      | lost => exact ⟨writes, nofun, nofun⟩
  | returned | failed =>
      rw [position] at executes
      cases executes

end

/-!
## Runs
-/

variable {events : List (Event Position)} {state : State String AuthorizationCode Position}

private theorem not_consumed_of_found {call : Call} {codes : Codes} {found : AuthorizationCode}
    (selected : (codes call.codeHash).filter (fun code => code.matches call) = some found) :
    ¬Consumed call.codeHash codes := by
  rintro ⟨stored, same, consumed⟩
  obtain ⟨read, matching⟩ := Option.filter_eq_some_iff.mp selected
  cases Option.some.inj (read.symm.trans same)
  unfold AuthorizationCode.matches at matching
  rw [Bool.and_eq_true] at matching
  rw [Option.isSome_iff_ne_none, ne_eq, ← Option.isNone_iff_eq_none] at consumed
  exact consumed matching.2

private theorem Redeemed.setSession {number : Nat}
    {changed : Session String AuthorizationCode Position} (redeemed : Redeemed hash state)
    (open_ : ∀ session call grant time, state.sessions number = some session →
      session.position ≠ .returned call (some grant) time)
    (free : (Consumed hash state.rows ∧ ∀ number session, state.sessions number = some session →
      ¬session.position.Holds hash) → ¬changed.position.Holds hash) :
    Redeemed hash (state.setSession number (some changed)) := by
  rcases redeemed with ⟨consumed, unheld⟩ |
      ⟨other, session, call, grant, time, found, at_, same, consumed⟩
  · refine .inl ⟨consumed, ?_⟩
    intro other session found
    rcases State.setSession_cases found with ⟨_, is⟩ | ⟨_, found⟩
    · cases is
      exact free ⟨consumed, unheld⟩
    · exact unheld other session found
  · have different : other ≠ number := by
      rintro rfl
      exact open_ session call grant time found at_
    exact .inr ⟨other, session, call, grant, time,
      (State.setSession_of_ne different _).trans found, at_, same, consumed⟩

private theorem Consistent.quiet {event : Event Position}
    {next : State String AuthorizationCode Position}
    (consistent : Consistent hash expiresAt events state)
    (none : redemptions hash [event] = []) (kept : Redeemed hash state → Redeemed hash next) :
    redemptions hash (events ++ [event]) = [] ∨
      (∃ time, redemptions hash (events ++ [event]) = [time] ∧ time ≤ expiresAt) ∧
        Redeemed hash next := by
  rw [redemptions_snoc, none, List.append_nil]
  exact consistent.history.imp_right fun redeemed => ⟨redeemed.1, kept redeemed.2⟩

private theorem Consistent.redeemed {number : Nat} {call : Call} {code stored : AuthorizationCode}
    {session : Session String AuthorizationCode Position}
    (consistent : Consistent hash expiresAt events state)
    (exclusive : ∀ one two first second, state.sessions one = some first →
      state.sessions two = some second → first.position.Holds hash →
      second.position.Holds hash → one = two)
    (found : state.sessions number = some session) (position : session.position = .update call code)
    (same : call.codeHash = hash) (present : state.seen session call.codeHash = some stored) :
    redemptions hash events = [] ∧ state.now ≤ expiresAt ∧
      Redeemed hash (state.setSession number
        (some ⟨session.writes.andThen (Auth.consumed state.now call (state.seen session)),
          .returned call (some code.grant) state.now⟩)) := by
  have holds : session.position.Holds hash := by
    rw [position]
    exact same
  refine ⟨?_, (consistent.sessions number session found).timely call code position same, ?_⟩
  · rcases consistent.history with none | ⟨_, redeemed⟩
    · exact none
    · rcases redeemed with ⟨_, unheld⟩ | ⟨other, first, by_, grant, time, foundOther, at_, own, _⟩
      · exact absurd holds (unheld number session found)
      · have holdsOther : first.position.Holds hash := by
          rw [at_]
          exact own
        cases exclusive other number first session foundOther found holdsOther holds
        cases Option.some.inj (foundOther.symm.trans found)
        rw [position] at at_
        cases at_
  · refine .inr ⟨number, _, call, code.grant, state.now, State.setSession_self _ _, rfl, same, ?_⟩
    have overlaid := overlay_andThen session.writes
      (Auth.consumed state.now call (state.seen session)) state.rows
    refine ⟨{ stored with consumedAt := some state.now }, ?_, rfl⟩
    refine (congrFun overlaid hash).trans (overlay_of_some ?_ _)
    unfold Auth.consumed
    rw [if_pos same.symm, ← same, present]
    rfl

private theorem Consistent.executes {number : Nat} {changes : Writes String AuthorizationCode}
    {after : Position} {session : Session String AuthorizationCode Position}
    (consistent : Consistent hash expiresAt events state)
    (exclusive : ∀ one two first second, state.sessions one = some first →
      state.sessions two = some second → first.position.Holds hash →
      second.position.Holds hash → one = two)
    (found : state.sessions number = some session)
    (executes : Executes state.now (state.seen session) session.position changes after) :
    Consistent hash expiresAt (events ++ [.executes number session.position after])
      (state.setSession number (some ⟨session.writes.andThen changes, after⟩)) := by
  have sound := consistent.sessions number session found
  refine ⟨consistent.row, ?_, ?_⟩
  · intro other session foundOther
    rcases State.setSession_cases foundOther with ⟨_, is⟩ | ⟨_, foundOther⟩
    · cases is
      exact sound.executes (sound.seen_row consistent.row) executes
    · exact consistent.sessions other session foundOther
  · have running : ∀ other call grant time, state.sessions number = some other →
        other.position ≠ .returned call (some grant) time := by
      intro other call grant time foundAgain at_
      cases Option.some.inj (found.symm.trans foundAgain)
      rw [at_] at executes
      cases executes
    have unchanged (none : redemptions hash [.executes number session.position after] = [])
        (free : (Consumed hash state.rows ∧ ∀ number session,
          state.sessions number = some session → ¬session.position.Holds hash) →
            ¬after.Holds hash) :=
      consistent.quiet none fun redeemed =>
        (redeemed.setSession running free :
          Redeemed hash (state.setSession number (some ⟨session.writes.andThen changes, after⟩)))
    cases position : session.position with
    | find call =>
        rw [position] at executes unchanged
        cases executes with
        | found selected =>
            refine unchanged rfl ?_
            rintro ⟨consumed, _⟩ holds
            cases (holds : call.codeHash = hash)
            exact not_consumed_of_found selected (sound.consumed fun _ => consumed)
        | missing => exact unchanged rfl fun _ => nofun
    | check call code =>
        rw [position] at executes unchanged
        cases executes with
        | expired => exact unchanged rfl fun _ => nofun
        | live =>
            refine unchanged rfl ?_
            rintro ⟨_, unheld⟩ same
            have own := unheld number session found
            rw [position] at own
            exact own same
    | update call code =>
        rw [position] at executes unchanged
        cases executes with
        | redeemed present =>
            by_cases same : call.codeHash = hash
            · obtain ⟨first, timely, redeemed⟩ :=
                consistent.redeemed exclusive found position same present
              have returned : redemptions hash [.executes number (.update call code)
                  (.returned call (some code.grant) state.now)] = [state.now] := by
                simp [redemptions, same]
              rw [redemptions_snoc, first, returned]
              exact .inr ⟨⟨state.now, rfl, timely⟩, redeemed⟩
            · exact unchanged (redemptions_of_not_holds same) fun _ => same
        | lost => exact unchanged rfl fun _ => nofun
    | returned | failed =>
        rw [position] at executes
        cases executes

private theorem Redeemed.ends {number : Nat} {session : Session String AuthorizationCode Position}
    {codes : Codes} (redeemed : Redeemed hash state)
    (found : state.sessions number = some session)
    (kept : Consumed hash state.rows → Consumed hash codes)
    (sound : ∀ other session, state.sessions other = some session →
      Sound hash expiresAt state.now session)
    (last : ∀ call grant time, session.position = .returned call (some grant) time →
      call.codeHash = hash → Consumed hash (state.seen session) → Consumed hash codes ∧
        ∀ other session, other ≠ number → state.sessions other = some session →
          ¬session.position.Holds hash) :
    Redeemed hash { state.setSession number none with rows := codes } := by
  rcases redeemed with ⟨consumed, unheld⟩ |
      ⟨other, first, call, grant, time, foundOther, at_, same, consumed⟩
  · refine .inl ⟨kept consumed, ?_⟩
    intro other session foundOther
    rcases State.setSession_cases foundOther with ⟨_, is⟩ | ⟨_, foundOther⟩
    · cases is
    · exact unheld other session foundOther
  · by_cases ended : other = number
    · subst ended
      cases Option.some.inj (foundOther.symm.trans found)
      obtain ⟨consumed, unheld⟩ := last call grant time at_ same consumed
      refine .inl ⟨consumed, ?_⟩
      intro another session foundAnother
      rcases State.setSession_cases foundAnother with ⟨_, is⟩ | ⟨different, foundAnother⟩
      · cases is
      · exact unheld another session different foundAnother
    · refine .inr ⟨other, first, call, grant, time,
        (State.setSession_of_ne ended _).trans foundOther, at_, same, ?_⟩
      refine (sound other first foundOther).consumed ?_
      intro unwritten
      refine kept ?_
      obtain ⟨code, seen, isConsumed⟩ := consumed
      exact ⟨code, (overlay_of_none unwritten state.rows).symm.trans seen, isConsumed⟩

private theorem Consistent.step {next : State String AuthorizationCode Position}
    {event : Event Position} (consistent : Consistent hash expiresAt events state)
    (orderly : Orderly hash state event) (step : Step tokenRequest state event next) :
    Consistent hash expiresAt (events ++ [event]) next := by
  cases step with
  | @clock time later =>
      refine ⟨consistent.row, ?_, consistent.quiet rfl id⟩
      intro number session found
      have sound := consistent.sessions number session found
      refine ⟨sound.writes, sound.found, ?_⟩
      intro call code position own
      rw [← sound.found call code (.inr position) own]
      exact orderly.timely time rfl number session call code found position own
  | @begins number position free starts =>
      obtain ⟨call, rfl⟩ := starts
      refine ⟨consistent.row, ?_, consistent.quiet rfl fun redeemed =>
        redeemed.setSession ?_ fun _ => nofun⟩
      · intro other session found
        rcases State.setSession_cases found with ⟨_, is⟩ | ⟨_, found⟩
        · cases is
          exact .begins call
        · exact consistent.sessions other session found
      · intro session call grant time found
        rw [free] at found
        cases found
  | executes found instruction =>
      exact consistent.executes orderly.exclusive found (executes_of_statement _ instruction)
  | @commits number session found instruction =>
      have sound := consistent.sessions number session found
      refine ⟨sound.seen_row consistent.row, ?_, consistent.quiet rfl fun redeemed =>
        redeemed.ends found ?_ consistent.sessions ?_⟩
      · intro other session found
        rcases State.setSession_cases found with ⟨_, is⟩ | ⟨_, found⟩
        · cases is
        · exact consistent.sessions other session found
      · intro consumed
        exact sound.consumed fun _ => consumed
      · intro call grant time at_ own consumed
        refine ⟨consumed, ?_⟩
        intro other another different foundOther holds
        have ownHolds : session.position.Holds hash := by
          rw [at_]
          exact own
        exact different (orderly.exclusive other number another session foundOther found holds
          ownHolds)
  | @aborts number session found =>
      refine ⟨consistent.row, ?_, consistent.quiet rfl fun redeemed =>
        redeemed.ends found id consistent.sessions ?_⟩
      · intro other session found
        rcases State.setSession_cases found with ⟨_, is⟩ | ⟨_, found⟩
        · cases is
        · exact consistent.sessions other session found
      · intro call grant time at_ own
        exact absurd own (orderly.kept number call grant time (congrArg _ at_))

/-- A code is redeemed at most once, and not after it has expired, in every run in
which its redemptions are orderly. -/
theorem authorization_code_single_use {start : State String AuthorizationCode Position}
    {stored : AuthorizationCode} (idle : ∀ number, start.sessions number = none)
    (present : start.rows hash = some stored)
    (run : Run tokenRequest (Orderly hash) start events state) :
    (redemptions hash events).length ≤ 1 ∧
      ∀ time ∈ redemptions hash events, time ≤ stored.expiresAt := by
  have consistent : Consistent hash stored.expiresAt events state := by
    refine run.invariant ?_ fun _ _ _ _ => Consistent.step
    refine ⟨⟨stored, present, rfl⟩, ?_, .inl rfl⟩
    intro number session found
    rw [idle number] at found
    cases found
  rcases consistent.history with none | ⟨⟨time, one, timely⟩, _⟩
  · rw [none]
    exact ⟨Nat.zero_le 1, nofun⟩
  · rw [one]
    refine ⟨Nat.le_refl 1, ?_⟩
    intro other member
    cases List.mem_singleton.mp member
    exact timely

/-!
## Token requests
-/

namespace Requests

def request : Call := ⟨"hash", 3, "https://client.example/callback"⟩

def issued : AuthorizationCode where
  accountId := ⟨1⟩
  applicationId := 3
  redirectUri := "https://client.example/callback"
  scopes := "read"
  codeChallenge := ""
  codeChallengeMethod := .none
  expiresAt := 300
  consumedAt := none

def start : State String AuthorizationCode Position where
  now := 0
  rows hash := if hash = "hash" then some issued else none
  sessions _ := none

/-- The events of one request that finds the code: it is found, checked and consumed. -/
def found (number : Nat) : List (Event Position) :=
  [.begins number (.find request), .executes number (.find request) (.check request issued),
    .executes number (.check request issued) (.update request issued)]

def redeemed (number : Nat) : List (Event Position) :=
  [.executes number (.update request issued) (.returned request (some issued.grant) 0),
    .commits number (.returned request (some issued.grant) 0)]

/-- The events of a request that comes after the code was consumed. -/
def refused (number : Nat) : List (Event Position) :=
  [.begins number (.find request), .executes number (.find request) (.returned request none 0),
    .aborts number (.returned request none 0)]

def done : State String AuthorizationCode Position :=
  (start.opened 0 (.find request)).advanced tokenRequest 0 4

/-- Both requests have checked the code before either of them consumes it. -/
def first : State String AuthorizationCode Position :=
  (start.opened 0 (.find request)).advanced tokenRequest 0 2

def second : State String AuthorizationCode Position :=
  (first.opened 1 (.find request)).advanced tokenRequest 1 2

def third : State String AuthorizationCode Position := second.advanced tokenRequest 0 2

def twice : State String AuthorizationCode Position := third.advanced tokenRequest 1 2

private theorem orderly_of_only {state : State String AuthorizationCode Position} {number : Nat}
    {hash : String} {event : Event Position} (only : state.Only number)
    (clock : ∀ time, event ≠ .clock time)
    (abort : ∀ other call grant time, event ≠ .aborts other (.returned call (some grant) time)) :
    Orderly hash state event where
  exclusive one two first second foundOne foundTwo _ _ := by
    have single : ∀ other session, state.sessions other = some session → other = number := by
      intro other session found
      by_contra different
      rw [only other different] at found
      cases found
    rw [single one first foundOne, single two second foundTwo]
  kept other call grant time same := absurd same (abort other call grant time)
  timely time same := absurd same (clock time)

end Requests

open Requests in
/-- The first of two requests redeems the code, and the second is refused. -/
theorem authorization_code_single_use_redeemed :
    start.rows "hash" = some issued ∧
      Run tokenRequest (Orderly "hash") start (found 0 ++ redeemed 0 ++ refused 1)
        ((done.opened 1 (.find request)).advanced tokenRequest 1 2) ∧
      redemptions "hash" (found 0 ++ redeemed 0 ++ refused 1) = [0] ∧
      (0 : Int) ≤ issued.expiresAt := by
  have only : (start.opened 0 (.find request)).Only 0 := State.opened_only fun _ => rfl
  have begun : Run tokenRequest (Orderly "hash") start [.begins 0 (.find request)]
      (start.opened 0 (.find request)) :=
    .step .start (orderly_of_only (fun _ _ => rfl : start.Only 0) nofun nofun)
      (.begins rfl ⟨request, rfl⟩)
  have stays : ∀ {state : State String AuthorizationCode Position} {number : Nat},
      state.Only number → (state.advance tokenRequest number).Only number := State.Only.advance
  have read := begun.advance only.alone rfl (orderly_of_only only nofun nofun)
  have checked := read.advance (stays only).alone rfl (orderly_of_only (stays only) nofun nofun)
  have returned := checked.advance (stays (stays only)).alone rfl
    (orderly_of_only (stays (stays only)) nofun nofun)
  have committed : Run tokenRequest (Orderly "hash") start (found 0 ++ redeemed 0) done :=
    returned.advance (stays (stays (stays only))).alone rfl
      (orderly_of_only (stays (stays (stays only))) nofun nofun)
  have idle : ∀ other, done.sessions other = none := by
    intro other
    by_cases zero : other = 0
    · subst zero
      rfl
    · exact only.advanced 4 other zero
  have next : (done.opened 1 (.find request)).Only 1 := State.opened_only idle
  have joined := Run.step committed
    (orderly_of_only (fun other _ => idle other : done.Only 1) (by rintro _ ⟨⟩)
      (by rintro _ _ _ _ ⟨⟩))
    (.begins (idle 1) ⟨request, rfl⟩)
  have missed := joined.advance next.alone rfl (orderly_of_only next nofun nofun)
  have run : Run tokenRequest (Orderly "hash") start (found 0 ++ redeemed 0 ++ refused 1)
      ((done.opened 1 (.find request)).advanced tokenRequest 1 2) :=
    missed.advance (stays next).alone rfl
      (orderly_of_only (stays next) nofun (by rintro _ _ _ _ ⟨⟩))
  have once := authorization_code_single_use (fun _ => rfl) rfl run
  exact ⟨rfl, run, rfl, once.2 0 (List.mem_singleton.mpr rfl)⟩

open Requests in
/-- Two requests that have both checked the code redeem it one after the other. -/
theorem authorization_code_redeemed_twice :
    (∀ number, start.sessions number = none) ∧ start.rows "hash" = some issued ∧
      Run tokenRequest (fun _ _ => True) start
        (found 0 ++ found 1 ++ redeemed 0 ++ redeemed 1) twice ∧
      ¬(redemptions "hash" (found 0 ++ found 1 ++ redeemed 0 ++ redeemed 1)).length ≤ 1 := by
  have free : ∀ (state : State String AuthorizationCode Position) (event : Event Position),
      True := fun _ _ => trivial
  have idle : ∀ other, start.sessions other = none := fun _ => rfl
  have quiet : first.Only 0 := (State.opened_only idle).advanced 2
  have others : ∀ other, other ≠ 0 → other ≠ 1 → second.sessions other = none := by
    intro other zero one
    exact (State.advanced_sessions 2 one).trans
      ((State.setSession_of_ne one _).trans (quiet other zero))
  have firstAlone : (first.opened 1 (.find request)).Alone 1 := by
    intro other session different found
    rw [State.opened, State.setSession_of_ne different] at found
    by_cases zero : other = 0
    · subst zero
      cases found
      rfl
    · rw [quiet other zero] at found
      cases found
  have secondAlone : second.Alone 0 := by
    intro other session different found
    by_cases one : other = 1
    · subst one
      cases found
      rfl
    · rw [others other different one] at found
      cases found
  have thirdOnly : third.Only 1 := by
    intro other different
    by_cases zero : other = 0
    · subst zero
      rfl
    · exact (State.advanced_sessions 2 zero).trans (others other zero different)
  have begun : Run tokenRequest (fun _ _ => True) start [.begins 0 (.find request)]
      (start.opened 0 (.find request)) := .step .start trivial (.begins rfl ⟨request, rfl⟩)
  have one := begun.advanced free (State.opened_only idle).alone 2
  have joined := Run.step one trivial (.begins (quiet 1 (by decide)) ⟨request, rfl⟩)
  have run := ((joined.advanced free firstAlone 2).advanced free secondAlone 2).advanced free
    thirdOnly.alone 2
  exact ⟨idle, rfl, run, by decide⟩

end Roosty.Auth
