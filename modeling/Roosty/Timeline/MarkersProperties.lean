import Mathlib.Data.List.Nodup
import Roosty.Library.Locking
import Roosty.Timeline.Markers

/-!
# Versions of timeline markers

A call that writes a marker after another one has written it since it was read returns the
same version. Otherwise versions count the calls.
-/

set_option autoImplicit false

namespace Roosty.Timeline.Markers

open Library Library.ReadCommitted

/-- Versions are not used twice and count the calls that have returned them, and the stored
position is the one of the call with the greatest version. -/
structure Versioned (key : Key) (events : List (Event Position)) (markers : Markers) : Prop where
  distinct : ((returned key events).map LocalTimelineMarker.version).Nodup
  counted : (markers key).map LocalTimelineMarker.version =
    if returned key events = [] then none else some ((returned key events).length : Int)
  latest : ∀ marker ∈ returned key events,
    (∀ other ∈ returned key events, other.version ≤ marker.version) →
      (markers key).map LocalTimelineMarker.lastReadId = some marker.lastReadId

/-- The stored marker still has the version that a call has read when the call updates it. -/
def Undisturbed (key : Key) (state : State Key LocalTimelineMarker Position)
    (event : Event Position) : Prop :=
  ∀ number account saved timeline lastReadId now marker updates after,
    event = .executes number
      (.update account saved timeline lastReadId now marker updates) after →
    (account, timeline) = key →
      (state.rows key).map LocalTimelineMarker.version = some marker.version

def Position.pending : Position → List LocalTimeline
  | .find _ _ updates => updates.map Prod.fst
  | .update _ _ timeline _ _ _ updates | .insert _ _ timeline _ _ updates =>
      timeline :: updates.map Prod.fst
  | .failed => []

def Position.done : Position → List LocalTimeline
  | .find _ saved _ | .update _ saved _ _ _ _ _ | .insert _ saved _ _ _ _ => saved.map Prod.fst
  | .failed => []

/-- The version of a marker that is inserted follows zero. -/
def storedVersion (markers : Markers) (key : Key) : Int :=
  ((markers key).map LocalTimelineMarker.version).getD 0

/-- An open request has not written the marker, or it has written the next version of it. -/
structure Sound (key : Key) (markers : Markers)
    (session : Session Key LocalTimelineMarker Position) : Prop where
  once : (session.position.done ++ session.position.pending).Nodup
  written : session.position = .failed ∨
    (session.position.savedUnder key = [] ∧ session.writes key = none) ∨
    ∃ marker, session.position.savedUnder key = [marker] ∧
      session.writes key = some (some marker) ∧ marker.version = storedVersion markers key + 1

/-- The returned versions are the numbers from one on, and the last marker is stored. -/
structure Consistent (key : Key) (events : List (Event Position))
    (state : State Key LocalTimelineMarker Position) : Prop where
  exclusive : state.Exclusive
  sessions : ∀ number session, state.sessions number = some session → Sound key state.rows session
  stored : state.rows key = (returned key events).getLast?
  versions : ∀ (index : Nat) marker, (returned key events)[index]? = some marker →
    marker.version = (index : Int) + 1

section

variable {key : Key} {events : List (Event Position)}
  {state next : State Key LocalTimelineMarker Position} {event : Event Position}

private theorem returned_snoc :
    returned key (events ++ [event]) = returned key events ++ returned key [event] :=
  List.flatMap_append

private theorem Consistent.storedVersion (consistent : Consistent key events state) :
    storedVersion state.rows key = ((returned key events).length : Int) := by
  unfold Markers.storedVersion
  rw [consistent.stored]
  cases last : (returned key events).getLast? with
  | none =>
      rw [List.getLast?_eq_none_iff.mp last]
      rfl
  | some marker =>
      have length := List.length_pos_of_mem (List.mem_of_getLast? last)
      rw [List.getLast?_eq_getElem?] at last
      rw [Option.map_some, Option.getD_some, consistent.versions _ marker last]
      omega

theorem Consistent.versioned (consistent : Consistent key events state) :
    Versioned key events state.rows := by
  refine ⟨?_, ?_, ?_⟩
  · refine List.pairwise_iff_getElem.mpr fun one two oneInside twoInside before => ?_
    rw [List.length_map] at oneInside twoInside
    rw [List.getElem_map, List.getElem_map,
      consistent.versions one _ (List.getElem?_eq_getElem oneInside),
      consistent.versions two _ (List.getElem?_eq_getElem twoInside)]
    omega
  · have version := consistent.storedVersion
    unfold Markers.storedVersion at version
    cases found : state.rows key with
    | none =>
        rw [consistent.stored, List.getLast?_eq_none_iff] at found
        rw [if_pos found, Option.map_none]
    | some marker =>
        have some_ : returned key events ≠ [] := by
          intro none
          rw [consistent.stored, none] at found
          cases found
        rw [found] at version
        rw [if_neg some_, ← version]
        rfl
  · intro marker member greatest
    obtain ⟨index, inside, rfl⟩ := List.getElem_of_mem member
    have version := consistent.versions index _ (List.getElem?_eq_getElem inside)
    have lastInside : (returned key events).length - 1 < (returned key events).length := by omega
    have above := greatest _ (List.getElem_mem lastInside)
    rw [version, consistent.versions _ _ (List.getElem?_eq_getElem lastInside)] at above
    have last : index = (returned key events).length - 1 := by omega
    rw [consistent.stored, List.getLast?_eq_getElem?, ← last, List.getElem?_eq_getElem inside,
      Option.map_some]

/-!
## One step
-/

private theorem Sound.of_rows {markers other : Markers}
    {session : Session Key LocalTimelineMarker Position} (sound : Sound key markers session)
    (same : other key = markers key) : Sound key other session := by
  have version : Markers.storedVersion other key = Markers.storedVersion markers key := by
    unfold Markers.storedVersion
    rw [same]
  refine ⟨sound.once, ?_⟩
  rw [version]
  exact sound.written

private theorem Sound.begins (markers : Markers) (account : AccountId)
    (params : MarkerUpdateParams) :
    Sound key markers ⟨.none, .find account [] (markerUpdates params)⟩ := by
  refine ⟨?_, .inr (.inl ⟨rfl, rfl⟩)⟩
  obtain ⟨home, notifications⟩ := params
  cases home <;> cases notifications <;> simp [Position.done, Position.pending, markerUpdates]

private theorem savedUnder_append {account : AccountId}
    {saved : List (LocalTimeline × LocalTimelineMarker)} {timeline : LocalTimeline}
    {marker : LocalTimelineMarker} {updates : List (LocalTimeline × Nat)} :
    (Position.find account (saved ++ [(timeline, marker)]) updates).savedUnder key =
      (Position.find account saved updates).savedUnder key ++
        if (account, timeline) = key then [marker] else [] := by
  unfold Position.savedUnder
  dsimp only
  rw [List.filter_append, List.map_append, List.filter_singleton]
  by_cases own : (account, timeline) = key
  · rw [decide_eq_true own, if_pos own]
    rfl
  · rw [decide_eq_false own, if_neg own]
    rfl

private theorem Sound.saves {markers : Markers} {writes : Writes Key LocalTimelineMarker}
    {account : AccountId} {saved : List (LocalTimeline × LocalTimelineMarker)}
    {timeline : LocalTimeline} {marker : LocalTimelineMarker} {updates : List (LocalTimeline × Nat)}
    (once : (saved.map Prod.fst ++ timeline :: updates.map Prod.fst).Nodup)
    (before : ((Position.find account saved updates).savedUnder key = [] ∧ writes key = none) ∨
      ∃ earlier, (Position.find account saved updates).savedUnder key = [earlier] ∧
        writes key = some (some earlier) ∧ earlier.version = storedVersion markers key + 1)
    (version : (account, timeline) = key → (Position.find account saved updates).savedUnder key = [] →
      marker.version = storedVersion markers key + 1) :
    Sound key markers ⟨writes.andThen (Markers.written (account, timeline) marker),
      .find account (saved ++ [(timeline, marker)]) updates⟩ := by
  refine ⟨?_, .inr ?_⟩
  · have same : (saved ++ [(timeline, marker)]).map Prod.fst ++ updates.map Prod.fst =
        saved.map Prod.fst ++ timeline :: updates.map Prod.fst := by simp
    exact same ▸ once
  · rw [savedUnder_append]
    dsimp only
    by_cases own : (account, timeline) = key
    · -- the timeline was pending, so that it has not been saved
      have unsaved : (Position.find account saved updates).savedUnder key = [] := by
        unfold Position.savedUnder
        rw [List.map_eq_nil_iff, List.filter_eq_nil_iff]
        intro entry member same
        have here : entry.1 = timeline := by
          rw [← own] at same
          simpa using same
        have earlier : timeline ∈ saved.map Prod.fst := here ▸ List.mem_map_of_mem member
        exact (List.disjoint_of_nodup_append once) earlier List.mem_cons_self
      refine .inr ⟨marker, ?_, ?_, version own unsaved⟩
      · rw [unsaved, if_pos own, List.nil_append]
      · unfold Writes.andThen Markers.written
        rw [own, if_pos rfl, Option.some_or]
    · have untouched :
          writes.andThen (Markers.written (account, timeline) marker) key = writes key := by
        unfold Writes.andThen Markers.written
        rw [if_neg fun same => own same.symm, Option.none_or]
      rw [if_neg own, List.append_nil, untouched]
      exact before

private theorem andThen_none (writes : Writes Key LocalTimelineMarker) :
    writes.andThen .none = writes := by
  funext key
  rfl

private theorem Sound.executes {markers : Markers}
    {session : Session Key LocalTimelineMarker Position} (sound : Sound key markers session)
    {now : Int} {writes : Markers → Writes Key LocalTimelineMarker} {after : Markers → Position}
    (instruction : saveLocalTimelineMarker now session.position = .statement writes after)
    (fresh : ∀ account saved timeline lastReadId started marker updates,
      session.position = .update account saved timeline lastReadId started marker updates →
      (account, timeline) = key →
        (markers key).map LocalTimelineMarker.version = some marker.version) :
    Sound key markers ⟨session.writes.andThen (writes (overlay session.writes markers)),
      after (overlay session.writes markers)⟩ := by
  obtain ⟨own, position⟩ := session
  have failed : ∀ changes : Writes Key LocalTimelineMarker,
      Sound key markers ⟨changes, .failed⟩ := fun changes => ⟨List.nodup_nil, .inl rfl⟩
  cases position with
  | find account saved updates =>
      cases updates with
      | nil => cases instruction
      | cons update updates =>
          obtain ⟨timeline, lastReadId⟩ := update
          cases instruction
          dsimp only
          rw [andThen_none]
          have before := sound.written.resolve_left nofun
          split
          · split
            · exact ⟨sound.once, .inr before⟩
            · exact failed own
          · exact ⟨sound.once, .inr before⟩
  | update account saved timeline lastReadId started marker updates =>
      cases instruction
      dsimp only
      split
      · refine Sound.saves sound.once (sound.written.resolve_left nofun) fun same _ => ?_
        have read := fresh account saved timeline lastReadId started marker updates rfl same
        unfold storedVersion
        rw [read]
        rfl
      · exact failed _
  | insert account saved timeline lastReadId started updates =>
      cases instruction
      dsimp only
      split
      · exact failed _
      next absent =>
        refine Sound.saves sound.once (sound.written.resolve_left nofun) fun same unsaved => ?_
        rcases sound.written.resolve_left nofun with ⟨_, unwritten⟩ | ⟨earlier, saved_, _⟩
        · rw [same, overlay_of_none unwritten] at absent
          unfold storedVersion
          rw [Option.not_isSome_iff_eq_none.mp absent]
          rfl
        · change _ = [] at unsaved
          change (Position.find account saved updates).savedUnder key = [earlier] at saved_
          rw [unsaved] at saved_
          cases saved_
  | failed => cases instruction

private theorem Consistent.quiet (consistent : Consistent key events state)
    (silent : returned key [event] = []) (rows : next.rows = state.rows)
    (exclusive : next.Exclusive)
    (sessions : ∀ number session, next.sessions number = some session →
      Sound key state.rows session) : Consistent key (events ++ [event]) next where
  exclusive := exclusive
  sessions := by
    rw [rows]
    exact sessions
  stored := by rw [rows, returned_snoc, silent, List.append_nil, consistent.stored]
  versions := by
    rw [returned_snoc, silent, List.append_nil]
    exact consistent.versions

private theorem Consistent.commits (consistent : Consistent key events state) {number : Nat}
    {session : Session Key LocalTimelineMarker Position}
    (found : state.sessions number = some session) (committed : session.position ≠ .failed)
    (exclusive : { state.setSession number none with rows := state.seen session }.Exclusive) :
    Consistent key (events ++ [.commits number session.position])
      { state.setSession number none with rows := state.seen session } := by
  have saved : returned key [.commits number session.position] =
      session.position.savedUnder key := List.append_nil _
  rcases (consistent.sessions number session found).written.resolve_left committed with
    ⟨unsaved, unwritten⟩ | ⟨marker, returned_, changed, version⟩
  · have same : state.seen session key = state.rows key := overlay_of_none unwritten state.rows
    refine ⟨exclusive, ?_, ?_, ?_⟩
    · intro other another foundOther
      obtain ⟨_, ⟨⟩⟩ | ⟨_, foundOther⟩ := State.setSession_cases foundOther
      exact (consistent.sessions other another foundOther).of_rows same
    · rw [returned_snoc, saved, unsaved, List.append_nil, ← consistent.stored]
      exact same
    · rw [returned_snoc, saved, unsaved, List.append_nil]
      exact consistent.versions
  · refine ⟨exclusive, ?_, ?_, ?_⟩
    · -- a request that is still open has not written the marker that was locked
      intro other another foundOther
      obtain ⟨_, ⟨⟩⟩ | ⟨different, foundOther⟩ := State.setSession_cases foundOther
      have sound := consistent.sessions other another foundOther
      have unwritten := consistent.exclusive number other session another different.symm found
        foundOther key (by rw [changed]; rfl)
      refine ⟨sound.once, ?_⟩
      rcases sound.written with failed | quiet | ⟨_, _, written, _⟩
      · exact .inl failed
      · exact .inr (.inl quiet)
      · rw [unwritten] at written
        cases written
    · rw [returned_snoc, saved, returned_, List.getLast?_concat]
      exact overlay_of_some changed state.rows
    · rw [returned_snoc, saved, returned_]
      intro index entry inside
      rcases Nat.lt_or_ge index (returned key events).length with earlier | last
      · rw [List.getElem?_append_left earlier] at inside
        exact consistent.versions index entry inside
      · rw [List.getElem?_append_right last, List.getElem?_singleton] at inside
        split at inside
        next first =>
          cases inside
          rw [version, consistent.storedVersion]
          omega
        next => cases inside

theorem Consistent.step (consistent : Consistent key events state)
    (undisturbed : Undisturbed key state event) (step : Step saveMarkers state event next) :
    Consistent key (events ++ [event]) next := by
  have exclusive := step.exclusive consistent.exclusive
  cases step with
  | clock => exact consistent.quiet rfl rfl exclusive consistent.sessions
  | @begins number position free starts =>
      refine consistent.quiet rfl rfl exclusive fun other session found => ?_
      obtain ⟨_, isNew⟩ | ⟨_, found⟩ := State.setSession_cases found
      · cases isNew
        obtain ⟨account, params, rfl⟩ := starts
        exact .begins state.rows account params
      · exact consistent.sessions other session found
  | @executes number session writes after found instruction unlocked =>
      refine consistent.quiet rfl rfl exclusive fun other another foundOther => ?_
      obtain ⟨_, isNew⟩ | ⟨_, foundOther⟩ := State.setSession_cases foundOther
      · cases isNew
        refine (consistent.sessions number session found).executes instruction ?_
        intro account saved timeline lastReadId started marker updates position own
        exact undisturbed number account saved timeline lastReadId started marker updates _
          (congrArg (Event.executes number · _) position) own
      · exact consistent.sessions other another foundOther
  | @commits number session found instruction =>
      refine consistent.commits found (fun failed => ?_) exclusive
      rw [failed] at instruction
      cases instruction
  | aborts found =>
      refine consistent.quiet rfl rfl exclusive fun other session foundOther => ?_
      obtain ⟨_, ⟨⟩⟩ | ⟨_, foundOther⟩ := State.setSession_cases foundOther
      exact consistent.sessions other session foundOther

/-- In every run in which no call updates a marker that has changed since it was read,
versions count the calls for a marker. -/
theorem marker_versions_count {start : State Key LocalTimelineMarker Position}
    (idle : ∀ number, start.sessions number = none) (absent : start.rows key = none)
    (run : Run saveMarkers (Undisturbed key) start events state) :
    Versioned key events state.rows := by
  have consistent : Consistent key events state := by
    refine run.invariant ?_ fun _ _ _ _ => Consistent.step
    refine ⟨?_, ?_, absent, ?_⟩
    · intro one two first second _ found
      rw [idle one] at found
      cases found
    · intro number session found
      rw [idle number] at found
      cases found
    · intro index marker inside
      cases inside
  exact consistent.versioned

end

/-!
## Two clients
-/

namespace Clients

def home : Key := (⟨1⟩, .home)

def position (lastReadId : Nat) : Position :=
  .find ⟨1⟩ [] (markerUpdates ⟨some lastReadId, none⟩)

def start : State Key LocalTimelineMarker Position where
  now := 0
  rows _ := none
  sessions _ := none

def one : State Key LocalTimelineMarker Position :=
  (start.opened 0 (position 10)).advanced saveMarkers 0 3

def two : State Key LocalTimelineMarker Position :=
  (one.opened 0 (position 20)).advanced saveMarkers 0 3

/-- Two requests have read the marker before either of them updates it. -/
def second : State Key LocalTimelineMarker Position :=
  (one.opened 0 (position 20)).advanced saveMarkers 0 1

def third : State Key LocalTimelineMarker Position :=
  (second.opened 1 (position 30)).advanced saveMarkers 1 1

def fourth : State Key LocalTimelineMarker Position := third.advanced saveMarkers 0 2

def last : State Key LocalTimelineMarker Position := fourth.advanced saveMarkers 1 2

def saved : List (Event Position) :=
  [.begins 0 (position 10)] ++ State.nextEvents saveMarkers 0 (start.opened 0 (position 10)) 3

def updated : List (Event Position) :=
  saved ++ [.begins 0 (position 20)] ++
    State.nextEvents saveMarkers 0 (one.opened 0 (position 20)) 3

def twice : List (Event Position) :=
  saved ++ [.begins 0 (position 20)] ++
    State.nextEvents saveMarkers 0 (one.opened 0 (position 20)) 1 ++ [.begins 1 (position 30)] ++
    State.nextEvents saveMarkers 1 (second.opened 1 (position 30)) 1 ++
    State.nextEvents saveMarkers 0 third 2 ++ State.nextEvents saveMarkers 1 fourth 2

private theorem one_idle (other : Nat) : one.sessions other = none := by
  by_cases zero : other = 0
  · subst zero
    rfl
  · exact (State.advanced_sessions 3 zero).trans ((State.setSession_of_ne zero _).trans rfl)

end Clients

open Clients in
/-- A marker is inserted, and updated by a later request. -/
theorem marker_versions_count_first :
    (returned home updated).map LocalTimelineMarker.version = [1, 2] ∧
      Versioned home updated two.rows := by
  have only : (start.opened 0 (position 10)).Only 0 := State.opened_only fun _ => rfl
  have stays : ∀ {state : State Key LocalTimelineMarker Position}, state.Only 0 →
      (state.advance saveMarkers 0).Only 0 := State.Only.advance
  have begun : Run saveMarkers (Undisturbed home) start [.begins 0 (position 10)]
      (start.opened 0 (position 10)) :=
    .step .start nofun (.begins rfl ⟨⟨1⟩, ⟨some 10, none⟩, rfl⟩)
  have read := begun.advance only.alone rfl nofun
  have inserted := read.advance (stays only).alone rfl nofun
  have first := inserted.advance (stays (stays only)).alone rfl nofun
  have again : (one.opened 0 (position 20)).Only 0 := State.opened_only one_idle
  have joined : Run saveMarkers (Undisturbed home) start (saved ++ [.begins 0 (position 20)])
      (one.opened 0 (position 20)) :=
    .step first nofun (.begins (one_idle 0) ⟨⟨1⟩, ⟨some 20, none⟩, rfl⟩)
  have found := joined.advance again.alone rfl nofun
  have changed := found.advance (stays again).alone rfl (by
    rintro _ _ _ _ _ _ _ _ _ ⟨⟩ _
    rfl)
  have run := changed.advance (stays (stays again)).alone rfl nofun
  exact ⟨by decide +kernel, marker_versions_count (fun _ => rfl) rfl run⟩

open Clients in
/-- Both updates return the second version. -/
theorem marker_version_reused :
    (∀ number, start.sessions number = none) ∧ start.rows home = none ∧
      Run saveMarkers (fun _ _ => True) start twice last ∧
      (returned home twice).map LocalTimelineMarker.version = [1, 2, 2] ∧
      ¬ Versioned home twice last.rows := by
  have free : ∀ (state : State Key LocalTimelineMarker Position) (event : Event Position),
      True := fun _ _ => trivial
  have idle : ∀ other, start.sessions other = none := fun _ => rfl
  have secondOnly : second.Only 0 := (State.opened_only one_idle).advanced 1
  have secondAlone : (second.opened 1 (position 30)).Alone 1 := by
    intro other session different found
    rw [State.opened, State.setSession_of_ne different] at found
    by_cases zero : other = 0
    · subst zero
      cases found
      rfl
    · rw [secondOnly other zero] at found
      cases found
  have others : ∀ other, other ≠ 0 → other ≠ 1 → third.sessions other = none := by
    intro other zero one_
    exact (State.advanced_sessions 1 one_).trans
      ((State.setSession_of_ne one_ _).trans (secondOnly other zero))
  have thirdAlone : third.Alone 0 := by
    intro other session different found
    by_cases isOne : other = 1
    · subst isOne
      cases found
      rfl
    · rw [others other different isOne] at found
      cases found
  have fourthOnly : fourth.Only 1 := by
    intro other different
    by_cases zero : other = 0
    · subst zero
      rfl
    · exact (State.advanced_sessions 2 zero).trans (others other zero different)
  have starts : ∀ lastReadId, saveMarkers.starts (position lastReadId) :=
    fun lastReadId => ⟨⟨1⟩, ⟨some lastReadId, none⟩, rfl⟩
  have begun : Run saveMarkers (fun _ _ => True) start [.begins 0 (position 10)]
      (start.opened 0 (position 10)) := .step .start trivial (.begins rfl (starts 10))
  have first := begun.advanced free (State.opened_only idle).alone 3
  have joined := (Run.step first trivial (.begins (one_idle 0) (starts 20))).advanced free
    (State.opened_only one_idle).alone 1
  have both := (Run.step joined trivial (.begins (secondOnly 1 (by decide)) (starts 30))).advanced
    free secondAlone 1
  have run := (both.advanced free thirdAlone 2).advanced free fourthOnly.alone 2
  have versions : (returned home twice).map LocalTimelineMarker.version = [1, 2, 2] := by
    decide +kernel
  refine ⟨idle, rfl, run, versions, fun versioned => ?_⟩
  have distinct := versioned.distinct
  rw [versions] at distinct
  exact absurd distinct (by decide)

end Roosty.Timeline.Markers
