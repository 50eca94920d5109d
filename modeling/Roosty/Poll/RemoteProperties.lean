import Mathlib.Algebra.Group.Nat.Defs
import Roosty.Library.Result
import Roosty.Poll.Effects

/-!
# Remote polls

A Question that fits the columns is stored, and what is then read for its status
is what the Question carries, whatever was stored before.
-/

set_option autoImplicit false

namespace Roosty.Poll

open Library Job

structure PollContent where
  multiple : Bool
  expiresAt : Option Int
  closedAt : Option Int
  votersCount : Option Int
  options : List (String × Int)
deriving DecidableEq

def RemoteStatusPoll.content (input : RemoteStatusPoll) : PollContent where
  multiple := input.multiple
  expiresAt := input.expiresAt
  closedAt := input.closedAt
  votersCount := input.votersCount.map toI64
  options := input.options.map fun entry => (Text.trim entry.1, toI64 entry.2)

def PollDb.content (db : PollDb) (status : PollStatus) : Option PollContent :=
  (findPollRow db status).map fun row =>
    { multiple := row.multiple
      expiresAt := row.expiresAt
      closedAt := row.closedAt
      votersCount := row.votersCount
      options := (pollOptions db row.id).map fun option => (option.title, option.votesCount) }

/-- A remote poll within the bounds of the cache: 2 to 500 options, and counts
that fit signed columns. -/
structure RemoteStatusPoll.Storable (input : RemoteStatusPoll) : Prop where
  least : 2 ≤ input.options.length
  most : input.options.length ≤ 500
  counts : ∀ entry ∈ input.options, entry.2 < 2 ^ 63
  voters : ∀ count ∈ input.votersCount, count < 2 ^ 63

theorem toI64_nonneg {count : Nat} (small : count < 2 ^ 63) : 0 ≤ toI64 count := by
  have value : (BitVec.ofNat 64 count).toNat = count := by
    rw [BitVec.toNat_ofNat]
    omega
  unfold toI64
  rw [BitVec.toInt_eq_toNat_of_lt (by omega)]
  exact Int.natCast_nonneg _

/-!
## Options
-/

def optionRows (pollId : Nat) : Nat → List (String × Nat) → List OptionRow
  | _, [] => []
  | position, (title, votesCount) :: rest =>
      ⟨pollId, position, Text.trim title, toI64 votesCount⟩ :: optionRows pollId (position + 1) rest

private theorem optionRows_owned {pollId position : Nat} {options : List (String × Nat)} :
    ∀ row ∈ optionRows pollId position options,
      row.pollId = pollId ∧ (position : Int) ≤ row.position := by
  induction options generalizing position with
  | nil => exact fun row member => absurd member List.not_mem_nil
  | cons entry rest ih =>
      intro row member
      rcases List.mem_cons.mp member with rfl | later
      · exact ⟨rfl, le_refl _⟩
      · obtain ⟨owner, bound⟩ := ih row later
        exact ⟨owner, by omega⟩

private theorem optionRows_sorted (pollId position : Nat) (options : List (String × Nat)) :
    (optionRows pollId position options).Pairwise
      fun left right => left.position ≤ right.position := by
  induction options generalizing position with
  | nil => exact List.Pairwise.nil
  | cons entry rest ih =>
      refine List.Pairwise.cons ?_ (ih (position + 1))
      intro row member
      have bound := (optionRows_owned row member).2
      dsimp only
      omega

private theorem optionRows_content (pollId position : Nat) (options : List (String × Nat)) :
    (optionRows pollId position options).map (fun row => (row.title, row.votesCount)) =
      options.map fun entry => (Text.trim entry.1, toI64 entry.2) := by
  induction options generalizing position with
  | nil => rfl
  | cons entry rest ih => rw [optionRows, List.map_cons, List.map_cons, ih]

private theorem insertOptions_rows {pollId position : Nat} {options : List (String × Nat)}
    (rows : List OptionRow) (counts : ∀ entry ∈ options, entry.2 < 2 ^ 63) :
    insertOptions pollId position options rows =
      .ok (rows ++ optionRows pollId position options) := by
  induction options generalizing position rows with
  | nil => rw [insertOptions, optionRows, List.append_nil]
  | cons entry rest ih =>
      obtain ⟨title, votesCount⟩ := entry
      have nonneg := toI64_nonneg (counts _ List.mem_cons_self)
      rw [insertOptions, if_neg (not_lt.mpr nonneg),
        ih _ fun other member => counts other (List.mem_cons_of_mem _ member), optionRows,
        List.append_assoc, List.singleton_append]

private theorem insertOptions_stored {pollId position : Nat} {options : List (String × Nat)}
    {rows result : List OptionRow}
    (success : insertOptions pollId position options rows = .ok result) :
    result = rows ++ optionRows pollId position options ∧
      ∀ entry ∈ options, 0 ≤ toI64 entry.2 := by
  induction options generalizing position rows with
  | nil =>
      cases success
      exact ⟨by rw [optionRows, List.append_nil], fun _ member => absurd member List.not_mem_nil⟩
  | cons entry rest ih =>
      obtain ⟨title, votesCount⟩ := entry
      obtain ⟨fits, success⟩ := guard_ok success
      obtain ⟨shape, counts⟩ := ih success
      refine ⟨by rw [shape, optionRows, List.append_assoc, List.singleton_append], ?_⟩
      intro other member
      rcases List.mem_cons.mp member with rfl | later
      · exact not_lt.mp fits
      · exact counts other later

private theorem replaceOptions_stored {db next : PollDb} {pollId : Nat}
    {options : List (String × Nat)} (success : replaceOptions db pollId options = .ok next) :
    (next.polls = db.polls ∧ next.options =
      Table.deleteWhere (fun row => row.pollId == pollId) db.options ++
        optionRows pollId 0 options) ∧ ∀ entry ∈ options, 0 ≤ toI64 entry.2 := by
  obtain ⟨inserted, ran, result⟩ := bind_ok success
  obtain ⟨rfl, counts⟩ := insertOptions_stored ran
  cases result
  exact ⟨⟨rfl, rfl⟩, counts⟩

private theorem replaceOptions_stores (db : PollDb) (pollId : Nat) {options : List (String × Nat)}
    (counts : ∀ entry ∈ options, entry.2 < 2 ^ 63) :
    ∃ votes, replaceOptions db pollId options = .ok { db with
        options := Table.deleteWhere (fun row => row.pollId == pollId) db.options ++
          optionRows pollId 0 options
        votes := votes } := by
  unfold replaceOptions
  rw [insertOptions_rows _ counts, ok_bind]
  exact ⟨_, rfl⟩

private theorem pollOptions_replaced {db : PollDb} {pollId : Nat} {rows : List OptionRow}
    {options : List (String × Nat)} (stored : db.options =
      Table.deleteWhere (fun row => row.pollId == pollId) rows ++ optionRows pollId 0 options) :
    (pollOptions db pollId).map (fun option => (option.title, option.votesCount)) =
      options.map fun entry => (Text.trim entry.1, toI64 entry.2) := by
  have own : ∀ row ∈ optionRows pollId 0 options, (row.pollId == pollId) = true := by
    intro row member
    simp [(optionRows_owned row member).1]
  unfold pollOptions
  rw [stored, Table.filter_replaced own, (optionRows_sorted pollId 0 options).insertionSort_eq,
    optionRows_content]

/-!
## Storing a Question
-/

variable {db : PollDb} {context : Context} {statusId : StatusId} {input : RemoteStatusPoll}

private theorem voters_fit (storable : input.Storable) :
    (input.votersCount.map toI64).any (· < 0) = false := by
  cases counted : input.votersCount with
  | none => rfl
  | some count =>
      have nonneg := toI64_nonneg (storable.voters count (by rw [counted]; rfl))
      simpa using nonneg

@[simp] theorem pollOptions_updatePoll (db : PollDb) (pollId other : Nat)
    (change : PollRow → PollRow) :
    pollOptions (updatePoll db pollId change) other = pollOptions db other := rfl

private theorem find?_updatePoll {found : PollRow → Bool} {pollId : Nat}
    {change : PollRow → PollRow} (keeps : ∀ row, found (change row) = found row) :
    (updatePoll db pollId change).polls.find? found =
      (db.polls.find? found).map fun row => if row.id == pollId then change row else row :=
  Table.find?_updateWhere fun row _ _ => keeps row

private theorem storeRemotePoll_content {stored : PollDb} {pollId : Nat}
    (success : storeRemotePoll db context statusId input = .ok (pollId, stored)) :
    stored.content (.remoteStatus statusId) = some input.content ∧
      (∀ entry ∈ input.options, 0 ≤ toI64 entry.2) ∧
      (input.votersCount.map toI64).any (· < 0) = false := by
  simp only [storeRemotePoll] at success
  cases found : findPollRow db (.remoteStatus statusId) with
  | some existing =>
      simp only [found] at success
      obtain ⟨replaced, replacement, success⟩ := bind_ok success
      obtain ⟨voters, success⟩ := guard_ok success
      cases success
      generalize resetting : (if (existing.multiple != input.multiple ||
        (pollOptions db existing.id).map (·.title) != input.options.map Prod.fst) = true then
          deleteVotes db existing.id else db) = reset at replacement
      have polls : reset.polls = db.polls := by
        rw [← resetting]
        split <;> rfl
      obtain ⟨⟨samePolls, options⟩, counts⟩ := replaceOptions_stored replacement
      refine ⟨?_, counts, Bool.eq_false_iff.mpr voters⟩
      unfold PollDb.content findPollRow
      unfold findPollRow at found
      rw [find?_updatePoll (by intro row; rfl), samePolls, polls, found, Option.map_some,
        if_pos (beq_self_eq_true _), Option.map_some]
      dsimp only
      rw [pollOptions_updatePoll, pollOptions_replaced options]
      rfl
  | none =>
      simp only [found] at success
      obtain ⟨inserted, insertion, success⟩ := bind_ok success
      obtain ⟨replaced, replacement, success⟩ := bind_ok success
      cases success
      obtain ⟨_, insertion⟩ := guard_ok insertion
      obtain ⟨_, insertion⟩ := guard_ok insertion
      obtain ⟨voters, insertion⟩ := guard_ok insertion
      obtain ⟨_, insertion⟩ := guard_ok insertion
      cases insertion
      obtain ⟨⟨samePolls, options⟩, counts⟩ := replaceOptions_stored replacement
      refine ⟨?_, counts, Bool.eq_false_iff.mpr voters⟩
      unfold PollDb.content findPollRow
      unfold findPollRow at found
      rw [samePolls, List.find?_append, found, Option.none_or, List.find?_singleton,
        if_pos (beq_self_eq_true _), Option.map_some]
      dsimp only
      rw [pollOptions_replaced options]
      rfl

theorem upsertRemotePoll_content {next : PollDb} {poll : StatusPoll}
    (success : upsertRemotePoll db context statusId input = .ok (next, poll)) :
    next.content (.remoteStatus statusId) = some input.content ∧
      (∀ entry ∈ input.options, 0 ≤ toI64 entry.2) ∧
      (input.votersCount.map toI64).any (· < 0) = false := by
  obtain ⟨pollId, stored, jobs, storing, rfl⟩ := upsertRemotePoll_ok success
  obtain ⟨content, fits⟩ := storeRemotePoll_content storing
  exact ⟨content, fits⟩

private theorem storeRemotePoll_stores (context : Context) (storable : input.Storable)
    (freshPoll : ∀ row ∈ db.polls, row.id ≠ context.pollId)
    (referenced : ∃ status ∈ db.remoteStatuses, status.1 = statusId) :
    ∃ pollId next, storeRemotePoll db context statusId input = .ok (pollId, next) ∧
      (next.polls.find? fun row => row.id == pollId).isSome = true ∧ next.jobs = db.jobs := by
  unfold storeRemotePoll
  dsimp only
  cases found : findPollRow db (.remoteStatus statusId) with
  | some existing =>
      dsimp only
      generalize resetting : (if (existing.multiple != input.multiple ||
        (pollOptions db existing.id).map (·.title) != input.options.map Prod.fst) = true then
          deleteVotes db existing.id else db) = reset
      have polls : reset.polls = db.polls := by
        rw [← resetting]
        split <;> rfl
      have jobs : reset.jobs = db.jobs := by
        rw [← resetting]
        split <;> rfl
      obtain ⟨votes, replaced⟩ := replaceOptions_stores reset existing.id storable.counts
      rw [replaced, ok_bind, voters_fit storable]
      refine ⟨_, _, rfl, ?_, jobs⟩
      have member : existing ∈ db.polls := List.mem_of_find?_eq_some found
      rw [find?_updatePoll (by intro row; rfl), Option.isSome_map]
      dsimp only
      rw [polls, List.find?_isSome]
      exact ⟨existing, member, beq_self_eq_true _⟩
  | none =>
      dsimp only
      have absent : ∀ row ∈ db.polls, row.status ≠ .remoteStatus statusId := by
        intro row member same
        have other := List.find?_eq_none.mp found row member
        simp [same] at other
      have unusedId : (db.polls.any fun other => other.id == context.pollId) = false := by
        rw [List.any_eq_false]
        intro row member same
        exact freshPoll row member (by simpa using same)
      have unusedStatus : (db.polls.any fun other =>
          other.status == PollStatus.remoteStatus statusId) = false := by
        rw [List.any_eq_false]
        intro row member same
        exact absent row member (by simpa using same)
      have known : (db.remoteStatuses.any fun status => status.1 == statusId) = true := by
        obtain ⟨status, member, same⟩ := referenced
        exact List.any_eq_true.mpr ⟨status, member, by simp [same]⟩
      unfold insertPoll
      simp only [unusedId, unusedStatus, voters_fit storable, known, Bool.not_true,
        Bool.false_eq_true, if_false, ok_bind]
      obtain ⟨votes, replaced⟩ := replaceOptions_stores
        { db with polls := db.polls ++ [(⟨context.pollId, .remoteStatus statusId, input.multiple,
          false, input.expiresAt, input.closedAt, none, input.votersCount.map toI64, context.now,
          context.now⟩ : PollRow)] } context.pollId storable.counts
      rw [replaced]
      refine ⟨_, _, rfl, ?_, rfl⟩
      rw [List.find?_isSome]
      exact ⟨_, List.mem_append_right _ (List.mem_singleton_self _), beq_self_eq_true _⟩

private theorem enqueuePollExpiration_stores (pollId : Nat) (runAfter : Int)
    (freshJob : ∀ row ∈ db.jobs, row.id ≠ context.jobId) :
    ∃ jobs, enqueuePollExpiration db context pollId runAfter = .ok { db with jobs := jobs } := by
  unfold enqueuePollExpiration enqueueJobOnConnection
  have unused : (db.jobs.any fun row => row.id == context.jobId) = false := by
    rw [List.any_eq_false]
    intro row member same
    exact freshJob row member (by simpa using same)
  split
  next jobs result enqueued =>
    split at enqueued
    next =>
      cases enqueued
      exact ⟨_, rfl⟩
    next =>
      rw [unused] at enqueued
      cases enqueued
      exact ⟨_, rfl⟩

theorem upsertRemotePoll_stores (storable : input.Storable)
    (freshPoll : ∀ row ∈ db.polls, row.id ≠ context.pollId)
    (freshJob : ∀ row ∈ db.jobs, row.id ≠ context.jobId)
    (referenced : ∃ status ∈ db.remoteStatuses, status.1 = statusId) :
    ∃ next poll, upsertRemotePoll db context statusId input = .ok (next, poll) ∧
      next.content (.remoteStatus statusId) = some input.content := by
  have bounds : ¬ (input.options.length < 2 ∨ 500 < input.options.length) := by
    have least := storable.least
    have most := storable.most
    omega
  obtain ⟨pollId, stored, storing, present, jobs⟩ :=
    storeRemotePoll_stores context storable freshPoll referenced
  have queued : ∃ jobs, enqueueRemoteExpiration stored context pollId
      (input.closedAt.or input.expiresAt) = .ok { stored with jobs := jobs } := by
    cases input.closedAt.or input.expiresAt with
    | none => exact ⟨stored.jobs, rfl⟩
    | some expiresAt =>
        exact enqueuePollExpiration_stores pollId _ fun row member =>
          freshJob row (jobs ▸ member)
  obtain ⟨jobs, queued⟩ := queued
  have content := (storeRemotePoll_content storing).1
  obtain ⟨row, found⟩ := Option.isSome_iff_exists.mp present
  unfold upsertRemotePoll
  rw [if_neg bounds, storing, ok_bind, queued, ok_bind]
  refine ⟨{ stored with jobs := jobs }, hydratePoll { stored with jobs := jobs } row, ?_,
    content⟩
  unfold reloadPoll findPollById
  dsimp only
  rw [found]
  rfl

end Roosty.Poll
