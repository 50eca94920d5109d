import Mathlib.Data.Finset.Card
import Roosty.Library.Result
import Roosty.Poll.Tables

/-!
# Tallies agree with the stored votes

The schema invariants of the poll tables, the agreement of a local poll's
tallies with its vote rows, and their preservation by every operation.
-/

set_option autoImplicit false

namespace Roosty.Poll

open Library Job

structure Consistent (db : PollDb) : Prop where
  pollIds : Table.UniqueOn (fun row : PollRow => some row.id) db.polls
  optionKeys : Table.UniqueOn (fun row : OptionRow => some (row.pollId, row.position)) db.options
  optionPolls : ∀ option ∈ db.options, ∃ poll ∈ db.polls, poll.id = option.pollId
  voteKeys : Table.UniqueOn
    (fun row : VoteRow => some (row.pollId, row.voter, row.choicePosition)) db.votes
  voteOptions : ∀ vote ∈ db.votes, ∃ option ∈ db.options,
    option.pollId = vote.pollId ∧ option.position = vote.choicePosition

def votesFor (db : PollDb) (pollId : Nat) (position : Int) : Nat :=
  db.votes.countP fun vote => vote.pollId == pollId && vote.choicePosition == position

def votersOf (db : PollDb) (pollId : Nat) : Finset Voter :=
  ((db.votes.filter fun vote => vote.pollId == pollId).map VoteRow.voter).toFinset

def Counted (db : PollDb) (pollId : Nat) : Prop :=
  ∀ option ∈ db.options, option.pollId = pollId →
    option.votesCount = votesFor db pollId option.position

def SingleChoice (db : PollDb) (pollId : Nat) : Prop :=
  ∀ left ∈ db.votes, ∀ right ∈ db.votes, left.pollId = pollId → right.pollId = pollId →
    left.voter = right.voter → left = right

structure Tallied (db : PollDb) (poll : PollRow) : Prop where
  counts : Counted db poll.id
  voters : poll.votersCount = some ((votersOf db poll.id).card : Int)
  single : poll.multiple = false → SingleChoice db poll.id

def PollStatus.isLocal : PollStatus → Bool
  | .localStatus _ => true
  | .remoteStatus _ => false

structure Valid (db : PollDb) : Prop where
  consistent : Consistent db
  tallied : ∀ poll ∈ db.polls, poll.status.isLocal = true → Tallied db poll

theorem Consistent.eq_of_id {db : PollDb} (consistent : Consistent db) {left right : PollRow}
    (leftMember : left ∈ db.polls) (rightMember : right ∈ db.polls) (same : left.id = right.id) :
    left = right :=
  consistent.pollIds.eq_of_key leftMember rightMember rfl (congrArg some same.symm)

/-!
## Rows of other polls
-/

structure SameRows (before after : PollDb) (pollId : Nat) : Prop where
  options : after.options.filter (fun option => option.pollId == pollId) =
    before.options.filter (fun option => option.pollId == pollId)
  votes : after.votes.filter (fun vote => vote.pollId == pollId) =
    before.votes.filter (fun vote => vote.pollId == pollId)

private theorem votesFor_filter (db : PollDb) (pollId : Nat) (position : Int) :
    votesFor db pollId position =
      (db.votes.filter fun vote => vote.pollId == pollId).countP
        (fun vote => vote.choicePosition == position) := by
  rw [votesFor, List.countP_filter]
  congr 1
  funext vote
  exact Bool.and_comm _ _

theorem SameRows.tallied {before after : PollDb} {poll : PollRow}
    (same : SameRows before after poll.id) (tallied : Tallied before poll) :
    Tallied after poll := by
  have optionMember : ∀ option, option.pollId = poll.id →
      (option ∈ after.options ↔ option ∈ before.options) := by
    intro option owner
    have filtered := congrArg (option ∈ ·) same.options
    simpa [List.mem_filter, owner] using filtered
  have voteMember : ∀ vote, vote.pollId = poll.id →
      (vote ∈ after.votes ↔ vote ∈ before.votes) := by
    intro vote owner
    have filtered := congrArg (vote ∈ ·) same.votes
    simpa [List.mem_filter, owner] using filtered
  refine ⟨?_, ?_, ?_⟩
  · intro option member owner
    rw [tallied.counts option ((optionMember option owner).mp member) owner, votesFor_filter,
      votesFor_filter, same.votes]
  · rw [tallied.voters, votersOf, votersOf, same.votes]
  · intro one left leftMember right rightMember leftOwner rightOwner
    exact tallied.single one left ((voteMember left leftOwner).mp leftMember) right
      ((voteMember right rightOwner).mp rightMember) leftOwner rightOwner

theorem SameRows.refl (db : PollDb) (pollId : Nat) : SameRows db db pollId := ⟨rfl, rfl⟩

theorem SameRows.trans {first second third : PollDb} {pollId : Nat}
    (left : SameRows first second pollId) (right : SameRows second third pollId) :
    SameRows first third pollId :=
  ⟨right.options.trans left.options, right.votes.trans left.votes⟩

theorem filter_deleteWhere_other {Row : Type} (owner : Row → Nat) {rows : List Row}
    {selected : Row → Bool} {pollId other : Nat} (different : other ≠ pollId)
    (own : ∀ row, selected row = true → owner row = pollId) :
    (Table.deleteWhere selected rows).filter (fun row => owner row == other) =
      rows.filter (fun row => owner row == other) := by
  apply Table.filter_deleteWhere
  intro row chosen
  rw [own row chosen]
  exact beq_eq_false_iff_ne.mpr different.symm

/-!
## Replacing options
-/

theorem insertOptions_ok {pollId position : Nat} {options : List (String × Nat)}
    {rows result : List OptionRow}
    (success : insertOptions pollId position options rows = .ok result) :
    ∃ added : List OptionRow, result = rows ++ added ∧
      (∀ option ∈ added, option.pollId = pollId ∧ (position : Int) ≤ option.position) ∧
      ((∀ entry ∈ options, entry.2 = 0) → ∀ option ∈ added, option.votesCount = 0) ∧
      Table.UniqueOn (fun row : OptionRow => some (row.pollId, row.position)) added := by
  induction options generalizing position rows with
  | nil =>
      cases success
      exact ⟨[], by simp, by simp, by simp, Table.UniqueOn.nil _⟩
  | cons entry rest ih =>
      obtain ⟨title, votesCount⟩ := entry
      obtain ⟨_, success⟩ := guard_ok success
      obtain ⟨added, shape, owned, zero, unique⟩ := ih success
      refine ⟨⟨pollId, position, Text.trim title, toI64 votesCount⟩ :: added, by simp [shape],
        ?_, ?_, ?_⟩
      · intro option member
        rcases List.mem_cons.mp member with rfl | later
        · exact ⟨rfl, le_refl _⟩
        · obtain ⟨owner, bound⟩ := owned option later
          exact ⟨owner, by omega⟩
      · intro zeros option member
        rcases List.mem_cons.mp member with rfl | later
        · have none : votesCount = 0 := zeros _ List.mem_cons_self
          subst none
          rfl
        · exact zero (fun entry entryMember => zeros entry (List.mem_cons_of_mem _ entryMember))
            option later
      · unfold Table.UniqueOn at unique ⊢
        rw [List.filterMap_cons]
        refine List.nodup_cons.mpr ⟨?_, unique⟩
        intro repeated
        obtain ⟨option, member, key⟩ := List.mem_filterMap.mp repeated
        have bound := (owned option member).2
        simp only [Option.some.injEq, Prod.mk.injEq] at key
        omega

theorem replaceOptions_ok {db next : PollDb} {pollId : Nat} {options : List (String × Nat)}
    (success : replaceOptions db pollId options = .ok next) :
    ∃ added : List OptionRow,
      next = { db with
        options := Table.deleteWhere (fun row => row.pollId == pollId) db.options ++ added
        votes := Table.deleteWhere (fun vote => db.options.any fun option =>
          option.pollId == pollId && vote.pollId == pollId &&
            vote.choicePosition == option.position) db.votes } ∧
      (∀ option ∈ added, option.pollId = pollId) ∧
      ((∀ entry ∈ options, entry.2 = 0) → ∀ option ∈ added, option.votesCount = 0) ∧
      Table.UniqueOn (fun row : OptionRow => some (row.pollId, row.position)) added := by
  obtain ⟨inserted, ran, result⟩ := bind_ok success
  obtain ⟨added, shape, owned, zero, unique⟩ := insertOptions_ok ran
  cases result
  exact ⟨added, by rw [shape], fun option member => (owned option member).1, zero, unique⟩

private theorem cascade_iff {db : PollDb} (consistent : Consistent db) {pollId : Nat}
    {vote : VoteRow} (member : vote ∈ db.votes) :
    (db.options.any fun option => option.pollId == pollId && vote.pollId == pollId &&
      vote.choicePosition == option.position) = true ↔ vote.pollId = pollId := by
  constructor
  · intro cascades
    obtain ⟨option, _, selected⟩ := List.any_eq_true.mp cascades
    simp only [Bool.and_eq_true, beq_iff_eq] at selected
    exact selected.1.2
  · intro owner
    obtain ⟨option, optionMember, sameOwner, samePosition⟩ := consistent.voteOptions vote member
    refine List.any_eq_true.mpr ⟨option, optionMember, ?_⟩
    simp [sameOwner, owner, samePosition]

theorem replaceOptions_spec {db next : PollDb} {pollId : Nat} {options : List (String × Nat)}
    (success : replaceOptions db pollId options = .ok next) (consistent : Consistent db)
    (stored : ∃ poll ∈ db.polls, poll.id = pollId) :
    Consistent next ∧ next.polls = db.polls ∧
      (∀ other, other ≠ pollId → SameRows db next other) ∧
      (∀ vote ∈ next.votes, vote.pollId ≠ pollId) ∧
      ((∀ entry ∈ options, entry.2 = 0) →
        ∀ option ∈ next.options, option.pollId = pollId → option.votesCount = 0) := by
  obtain ⟨added, rfl, owned, zero, unique⟩ := replaceOptions_ok success
  have emptied : ∀ vote ∈ Table.deleteWhere (fun vote => db.options.any fun option =>
      option.pollId == pollId && vote.pollId == pollId &&
        vote.choicePosition == option.position) db.votes, vote.pollId ≠ pollId := by
    intro vote member owner
    obtain ⟨old, kept⟩ := Table.mem_deleteWhere.mp member
    rw [(cascade_iff consistent old).mpr owner] at kept
    cases kept
  refine ⟨⟨consistent.pollIds, ?_, ?_, consistent.voteKeys.deleteWhere _, ?_⟩, rfl, ?_, emptied, ?_⟩
  · have kept := consistent.optionKeys.deleteWhere (fun row : OptionRow => row.pollId == pollId)
    unfold Table.UniqueOn at kept unique ⊢
    rw [List.filterMap_append, List.nodup_append]
    refine ⟨kept, unique, ?_⟩
    intro left leftMember right rightMember same
    obtain ⟨oldOption, oldMember, oldKey⟩ := List.mem_filterMap.mp leftMember
    obtain ⟨newOption, newMember, newKey⟩ := List.mem_filterMap.mp rightMember
    have foreign := (Table.mem_deleteWhere.mp oldMember).2
    have key : some (oldOption.pollId, oldOption.position) =
        some (newOption.pollId, newOption.position) := by rw [oldKey, newKey, same]
    have sameOwner : oldOption.pollId = pollId := by
      rw [(Prod.mk.inj (Option.some.inj key)).1]
      exact owned newOption newMember
    simp [sameOwner] at foreign
  · intro option member
    rcases List.mem_append.mp member with old | new
    · exact consistent.optionPolls option (Table.mem_deleteWhere.mp old).1
    · obtain ⟨poll, pollMember, sameId⟩ := stored
      exact ⟨poll, pollMember, by rw [sameId, owned option new]⟩
  · intro vote member
    have foreign := emptied vote member
    obtain ⟨option, optionMember, sameOwner, samePosition⟩ :=
      consistent.voteOptions vote (Table.mem_deleteWhere.mp member).1
    refine ⟨option, List.mem_append_left _ (Table.mem_deleteWhere.mpr ⟨optionMember, ?_⟩),
      sameOwner, samePosition⟩
    rw [sameOwner]
    exact beq_eq_false_iff_ne.mpr foreign
  · intro other different
    refine ⟨?_, ?_⟩
    · have addedForeign : added.filter (fun option => option.pollId == other) = [] := by
        rw [List.filter_eq_nil_iff]
        intro option member
        simp [owned option member, different.symm]
      rw [List.filter_append, addedForeign, List.append_nil]
      exact filter_deleteWhere_other OptionRow.pollId different
        fun row selected => by simpa using selected
    · refine filter_deleteWhere_other VoteRow.pollId different ?_
      intro row selected
      obtain ⟨option, _, chosen⟩ := List.any_eq_true.mp selected
      simp only [Bool.and_eq_true, beq_iff_eq] at chosen
      exact chosen.1.2
  · intro zeros option member owner
    rcases List.mem_append.mp member with old | new
    · have foreign := (Table.mem_deleteWhere.mp old).2
      simp [owner] at foreign
    · exact zero zeros option new

/-!
## Updating, inserting and deleting polls
-/

theorem enqueuePollExpiration_ok {db next : PollDb} {context : Context} {pollId : Nat}
    {runAfter : Int} (success : enqueuePollExpiration db context pollId runAfter = .ok next) :
    ∃ jobs, next = { db with jobs := jobs } := by
  obtain ⟨_, _, result⟩ := bind_ok success
  cases result
  exact ⟨_, rfl⟩

theorem reloadPoll_ok {ε : Type} {db next : PollDb} {pollId : Nat} {missing : ε}
    {poll : StatusPoll} (success : reloadPoll db pollId missing = .ok (next, poll)) :
    next = db := by
  unfold reloadPoll at success
  split at success
  · cases success
    rfl
  · cases success

private theorem Consistent.withJobs {db : PollDb} (consistent : Consistent db)
    (jobs : List JobRow) : Consistent { db with jobs := jobs } :=
  ⟨consistent.pollIds, consistent.optionKeys, consistent.optionPolls, consistent.voteKeys,
    consistent.voteOptions⟩

theorem Valid.withJobs {db : PollDb} (valid : Valid db) (jobs : List JobRow) :
    Valid { db with jobs := jobs } := by
  refine ⟨valid.consistent.withJobs jobs, ?_⟩
  intro poll member isLocal
  have sameRows : SameRows db { db with jobs := jobs } poll.id := ⟨rfl, rfl⟩
  exact sameRows.tallied (valid.tallied poll member isLocal)

private theorem Consistent.updatePoll {db : PollDb} (consistent : Consistent db) (pollId : Nat)
    {change : PollRow → PollRow} (keepsId : ∀ row, (change row).id = row.id) :
    Consistent (updatePoll db pollId change) := by
  refine ⟨?_, consistent.optionKeys, ?_, consistent.voteKeys, consistent.voteOptions⟩
  · exact consistent.pollIds.updateWhere fun row _ _ => .inl (by rw [keepsId row])
  · intro option member
    obtain ⟨poll, pollMember, sameId⟩ := consistent.optionPolls option member
    by_cases chosen : (poll.id == pollId) = true
    · exact ⟨change poll, Table.mem_updateWhere.mpr (.inr ⟨poll, pollMember, chosen, rfl⟩),
        (keepsId poll).trans sameId⟩
    · exact ⟨poll, Table.mem_updateWhere.mpr (.inl ⟨pollMember, by simpa using chosen⟩), sameId⟩

theorem Valid.rewrite {db stored : PollDb} (valid : Valid db) {pollId : Nat}
    {change : PollRow → PollRow} (samePolls : stored.polls = db.polls)
    (consistent : Consistent stored) (others : ∀ other, other ≠ pollId → SameRows db stored other)
    (keepsId : ∀ row, (change row).id = row.id)
    (keepsStatus : ∀ row, (change row).status = row.status)
    (rewritten : ∀ poll ∈ db.polls, poll.id = pollId → poll.status.isLocal = true →
      Tallied stored (change poll)) :
    Valid (updatePoll stored pollId change) := by
  refine ⟨consistent.updatePoll pollId keepsId, ?_⟩
  intro poll member isLocal
  have sameRows : ∀ other, SameRows stored (Poll.updatePoll stored pollId change) other :=
    fun _ => ⟨rfl, rfl⟩
  have member : poll ∈ Table.updateWhere (fun row => row.id == pollId) change db.polls := by
    rw [← samePolls]
    exact member
  rcases Table.mem_updateWhere.mp member with ⟨kept, unselected⟩ | ⟨before, old, chosen, rfl⟩
  · have different : poll.id ≠ pollId := beq_eq_false_iff_ne.mp unselected
    have tallied := (others poll.id different).tallied (valid.tallied poll kept isLocal)
    exact (sameRows poll.id).tallied tallied
  · have sameId : before.id = pollId := by simpa using chosen
    rw [keepsStatus before] at isLocal
    exact (sameRows _).tallied (rewritten before old sameId isLocal)

theorem insertPoll_ok {db next : PollDb} {row : PollRow} (success : insertPoll db row = .ok next) :
    (∀ other ∈ db.polls, other.id ≠ row.id) ∧ next = { db with polls := db.polls ++ [row] } := by
  obtain ⟨absent, success⟩ := guard_ok success
  obtain ⟨_, success⟩ := guard_ok success
  obtain ⟨_, success⟩ := guard_ok success
  obtain ⟨_, success⟩ := guard_ok success
  cases success
  refine ⟨?_, rfl⟩
  intro other member same
  exact absent (List.any_eq_true.mpr ⟨other, member, by simp [same]⟩)

theorem Consistent.insertPoll {db next : PollDb} {row : PollRow}
    (success : insertPoll db row = .ok next) (consistent : Consistent db) : Consistent next := by
  obtain ⟨absent, rfl⟩ := insertPoll_ok success
  refine ⟨consistent.pollIds.insert ?_, consistent.optionKeys, ?_, consistent.voteKeys,
    consistent.voteOptions⟩
  · intro id newId other member otherId
    exact absent other member (Option.some.inj (otherId.trans newId.symm))
  · intro option member
    obtain ⟨poll, pollMember, sameId⟩ := consistent.optionPolls option member
    exact ⟨poll, List.mem_append_left _ pollMember, sameId⟩

private theorem tallied_of_no_votes {db : PollDb} {poll : PollRow}
    (empty : ∀ vote ∈ db.votes, vote.pollId ≠ poll.id)
    (zero : ∀ option ∈ db.options, option.pollId = poll.id → option.votesCount = 0)
    (voters : poll.votersCount = some 0) : Tallied db poll := by
  have noVotes : db.votes.filter (fun vote => vote.pollId == poll.id) = [] := by
    rw [List.filter_eq_nil_iff]
    intro vote member
    simpa using empty vote member
  refine ⟨?_, ?_, ?_⟩
  · intro option member owner
    rw [zero option member owner, votesFor_filter, noVotes]
    rfl
  · rw [voters, votersOf, noVotes]
    rfl
  · intro _ left leftMember _ _ leftOwner
    exact absurd leftOwner (empty left leftMember)

private theorem zeroTallies_zero (options : List String) :
    ∀ entry ∈ zeroTallies options, entry.2 = 0 := by
  intro entry member
  obtain ⟨title, _, rfl⟩ := List.mem_map.mp member
  rfl

private theorem Valid.insertWithOptions {db inserted next : PollDb} {row : PollRow}
    {options : List (String × Nat)} (valid : Valid db)
    (insertion : Poll.insertPoll db row = .ok inserted)
    (replacement : replaceOptions inserted row.id options = .ok next)
    (fresh : row.status.isLocal = true →
      row.votersCount = some 0 ∧ ∀ entry ∈ options, entry.2 = 0) : Valid next := by
  have consistentInserted := valid.consistent.insertPoll insertion
  obtain ⟨absent, rfl⟩ := insertPoll_ok insertion
  obtain ⟨consistent, samePolls, others, emptied, zero⟩ :=
    replaceOptions_spec replacement consistentInserted ⟨row, by simp, rfl⟩
  refine ⟨consistent, ?_⟩
  intro poll member isLocal
  rw [samePolls] at member
  rcases List.mem_append.mp member with old | new
  · have different := absent poll old
    have sameRows : SameRows db { db with polls := db.polls ++ [row] } poll.id := ⟨rfl, rfl⟩
    exact (sameRows.trans (others poll.id different)).tallied (valid.tallied poll old isLocal)
  · have same : poll = row := List.mem_singleton.mp new
    subst same
    obtain ⟨voters, zeros⟩ := fresh isLocal
    exact tallied_of_no_votes emptied (zero zeros) voters

theorem createLocalPoll_valid {segmentation : Segmentation} {db next : PollDb} {context : Context}
    {statusId : StatusId} {input : NewStatusPoll} {poll : StatusPoll} (valid : Valid db)
    (success : createLocalPoll segmentation db context statusId input = .ok (next, poll)) :
    Valid next := by
  obtain ⟨_, _, success⟩ := bind_ok success
  obtain ⟨inserted, insertion, success⟩ := bind_ok success
  obtain ⟨replaced, replacement, success⟩ := bind_ok success
  obtain ⟨queued, enqueued, success⟩ := bind_ok success
  obtain ⟨jobs, rfl⟩ := enqueuePollExpiration_ok enqueued
  have stored : Valid replaced :=
    valid.insertWithOptions insertion replacement fun _ => ⟨rfl, zeroTallies_zero _⟩
  rw [reloadPoll_ok success]
  exact stored.withJobs jobs

theorem Consistent.deleteVotes {db : PollDb} (consistent : Consistent db) (pollId : Nat) :
    Consistent (deleteVotes db pollId) :=
  ⟨consistent.pollIds, consistent.optionKeys, consistent.optionPolls,
    consistent.voteKeys.deleteWhere _,
    fun vote member => consistent.voteOptions vote (Table.mem_deleteWhere.mp member).1⟩

theorem deleteVotes_others (db : PollDb) {pollId other : Nat} (different : other ≠ pollId) :
    SameRows db (deleteVotes db pollId) other :=
  ⟨rfl, filter_deleteWhere_other VoteRow.pollId different
    fun row selected => by simpa using selected⟩

private theorem deletePoll_valid {db : PollDb} (valid : Valid db) (pollId : Nat) :
    Valid (deletePoll db pollId) := by
  have consistent := valid.consistent
  refine ⟨⟨consistent.pollIds.deleteWhere _, consistent.optionKeys.deleteWhere _, ?_,
    consistent.voteKeys.deleteWhere _, ?_⟩, ?_⟩
  · intro option member
    obtain ⟨old, kept⟩ := Table.mem_deleteWhere.mp member
    obtain ⟨poll, pollMember, sameId⟩ := consistent.optionPolls option old
    exact ⟨poll, Table.mem_deleteWhere.mpr ⟨pollMember, by rw [sameId]; exact kept⟩, sameId⟩
  · intro vote member
    obtain ⟨old, kept⟩ := Table.mem_deleteWhere.mp member
    obtain ⟨option, optionMember, sameOwner, samePosition⟩ := consistent.voteOptions vote old
    exact ⟨option, Table.mem_deleteWhere.mpr ⟨optionMember, by rw [sameOwner]; exact kept⟩,
      sameOwner, samePosition⟩
  · intro poll member isLocal
    obtain ⟨old, kept⟩ := Table.mem_deleteWhere.mp member
    have different : poll.id ≠ pollId := beq_eq_false_iff_ne.mp kept
    have sameRows : SameRows db (deletePoll db pollId) poll.id :=
      ⟨filter_deleteWhere_other OptionRow.pollId different
        fun row selected => by simpa using selected,
        filter_deleteWhere_other VoteRow.pollId different
          fun row selected => by simpa using selected⟩
    exact sameRows.tallied (valid.tallied poll old isLocal)

theorem findPollRow_some {db : PollDb} {status : PollStatus} {poll : PollRow}
    (found : findPollRow db status = some poll) : poll ∈ db.polls ∧ poll.status = status :=
  ⟨List.mem_of_find?_eq_some found, by simpa using List.find?_some found⟩

theorem replaceLocalPoll_valid {segmentation : Segmentation} {db next : PollDb}
    {context : Context} {statusId : StatusId} {input : Option NewStatusPoll}
    {poll : Option StatusPoll} (valid : Valid db)
    (success : replaceLocalPoll segmentation db context statusId input = .ok (next, poll)) :
    Valid next := by
  simp only [replaceLocalPoll] at success
  cases input with
  | none =>
      cases found : findPollRow db (.localStatus statusId) with
      | none =>
          simp only [found] at success
          cases success
          exact valid
      | some existing =>
          simp only [found] at success
          cases success
          exact deletePoll_valid valid existing.id
  | some input =>
      cases found : findPollRow db (.localStatus statusId) with
      | none =>
          simp only [found] at success
          obtain ⟨_, _, success⟩ := bind_ok success
          obtain ⟨created, creation, success⟩ := bind_ok success
          cases success
          exact createLocalPoll_valid valid creation
      | some existing =>
          simp only [found] at success
          obtain ⟨member, _⟩ := findPollRow_some found
          obtain ⟨_, _, success⟩ := bind_ok success
          obtain ⟨reset, resetting, success⟩ := bind_ok success
          obtain ⟨queued, enqueued, success⟩ := bind_ok success
          obtain ⟨jobs, rfl⟩ := enqueuePollExpiration_ok enqueued
          cases success
          refine Valid.withJobs ?_ jobs
          by_cases changed : (existing.multiple != input.multiple ||
              (pollOptions db existing.id).map (·.title) != input.options.map Text.trim) = true
          · rw [resetChoices, if_pos changed] at resetting
            obtain ⟨consistent, samePolls, others, emptied, zero⟩ := replaceOptions_spec resetting
              (valid.consistent.deleteVotes existing.id) ⟨existing, member, rfl⟩
            refine valid.rewrite samePolls consistent ?_ (fun _ => rfl) (fun _ => rfl) ?_
            · intro other different
              exact (deleteVotes_others db different).trans (others other different)
            · intro row _ sameId _
              refine tallied_of_no_votes ?_ ?_ (by simp [changed])
              · intro vote voteMember
                simpa [sameId] using emptied vote voteMember
              · intro option optionMember owner
                exact zero (zeroTallies_zero _) option optionMember (owner.trans sameId)
          · rw [resetChoices, if_neg changed] at resetting
            cases resetting
            refine valid.rewrite rfl valid.consistent (fun other _ => SameRows.refl db other)
              (fun _ => rfl) (fun _ => rfl) ?_
            intro row rowMember sameId isLocal
            have same : row = existing := valid.consistent.eq_of_id rowMember member sameId
            subst same
            have tallied := valid.tallied row rowMember isLocal
            have sameMode : row.multiple = input.multiple := by
              by_contra different
              exact changed (by simp [different])
            refine ⟨tallied.counts, ?_, ?_⟩
            · simpa [changed] using tallied.voters
            · intro one
              exact tallied.single (sameMode.trans one)

theorem upsertRemotePoll_valid {db next : PollDb} {context : Context} {statusId : StatusId}
    {input : RemoteStatusPoll} {poll : StatusPoll} (valid : Valid db)
    (success : upsertRemotePoll db context statusId input = .ok (next, poll)) : Valid next := by
  obtain ⟨_, success⟩ := guard_ok success
  obtain ⟨⟨pollId, stored⟩, storing, success⟩ := bind_ok success
  obtain ⟨queued, enqueued, success⟩ := bind_ok success
  have validStored : Valid stored := by
    simp only [storeRemotePoll] at storing
    cases found : findPollRow db (.remoteStatus statusId) with
    | none =>
        simp only [found] at storing
        obtain ⟨inserted, insertion, storing⟩ := bind_ok storing
        obtain ⟨replaced, replacement, storing⟩ := bind_ok storing
        cases storing
        exact valid.insertWithOptions insertion replacement fun isLocal => by cases isLocal
    | some existing =>
        simp only [found] at storing
        obtain ⟨member, isRemote⟩ := findPollRow_some found
        obtain ⟨replaced, replacement, storing⟩ := bind_ok storing
        obtain ⟨_, storing⟩ := guard_ok storing
        cases storing
        generalize hReset : (if (existing.multiple != input.multiple ||
          (pollOptions db existing.id).map (·.title) != input.options.map Prod.fst) = true then
            deleteVotes db existing.id else db) = reset at replacement
        have resetPolls : reset.polls = db.polls := by
          rw [← hReset]
          split <;> rfl
        have resetConsistent : Consistent reset := by
          rw [← hReset]
          split
          · exact valid.consistent.deleteVotes existing.id
          · exact valid.consistent
        have resetOthers : ∀ other, other ≠ existing.id → SameRows db reset other := by
          intro other different
          rw [← hReset]
          split
          · exact deleteVotes_others db different
          · exact SameRows.refl db other
        obtain ⟨consistent, samePolls, others, _, _⟩ := replaceOptions_spec replacement
          resetConsistent ⟨existing, by rw [resetPolls]; exact member, rfl⟩
        refine valid.rewrite (samePolls.trans resetPolls) consistent ?_ (fun _ => rfl)
          (fun _ => rfl) ?_
        · intro other different
          exact (resetOthers other different).trans (others other different)
        · intro row rowMember sameId isLocal
          have same : row = existing := valid.consistent.eq_of_id rowMember member sameId
          rw [same, isRemote] at isLocal
          cases isLocal
  have validQueued : Valid queued := by
    cases due : input.closedAt.or input.expiresAt with
    | some expiresAt =>
        rw [due] at enqueued
        obtain ⟨jobs, rfl⟩ := enqueuePollExpiration_ok enqueued
        exact validStored.withJobs jobs
    | none =>
        rw [due] at enqueued
        cases enqueued
        exact validStored
  rw [reloadPoll_ok success]
  exact validQueued

theorem expirePoll_valid {db next : PollDb} {context : Context} {pollId : Nat}
    {expiration : Option PollExpiration} (valid : Valid db)
    (success : expirePoll db context pollId = .ok (next, expiration)) : Valid next := by
  simp only [expirePoll] at success
  split at success
  · cases success
    exact valid
  next model found =>
    have member := List.mem_of_find?_eq_some found
    split at success
    · cases success
      exact valid
    · split at success
      · cases success
        exact valid
      · split at success
        · cases success
        · split at success
          · cases success
            refine valid.rewrite rfl ⟨valid.consistent.pollIds, valid.consistent.optionKeys,
              valid.consistent.optionPolls, valid.consistent.voteKeys,
              valid.consistent.voteOptions⟩ (fun other _ => ⟨rfl, rfl⟩) (fun _ => rfl)
              (fun _ => rfl) ?_
            intro row rowMember _ isLocal
            have tallied := valid.tallied row rowMember isLocal
            exact ⟨tallied.counts, tallied.voters, tallied.single⟩
          · cases success

/-!
## Votes
-/

structure CastBy (before after : PollDb) (pollId : Nat) (voter : Voter) (choices : Nat) :
    Prop where
  consistent : Consistent after
  polls : after.polls = before.polls
  rows : ∃ rows : List VoteRow, after.votes = before.votes ++ rows ∧ rows.length = choices ∧
    ∀ row ∈ rows, row.pollId = pollId ∧ row.voter = voter
  counted : ∀ other, Counted before other → Counted after other
  others : ∀ other, other ≠ pollId → SameRows before after other

theorem insertVote_ok {db next : PollDb} {row : VoteRow} (success : insertVote db row = .ok next) :
    next = { db with votes := db.votes ++ [row] } ∧
      (∀ other ∈ db.votes, (other.pollId, other.voter, other.choicePosition) ≠
        (row.pollId, row.voter, row.choicePosition)) ∧
      ∃ option ∈ db.options, option.pollId = row.pollId ∧ option.position = row.choicePosition := by
  obtain ⟨_, success⟩ := guard_ok success
  obtain ⟨absent, success⟩ := guard_ok success
  obtain ⟨_, success⟩ := guard_ok success
  obtain ⟨_, success⟩ := guard_ok success
  obtain ⟨referenced, success⟩ := guard_ok success
  cases success
  refine ⟨rfl, ?_, ?_⟩
  · intro other member same
    obtain ⟨samePoll, sameVoter, samePosition⟩ := by simpa only [Prod.mk.injEq] using same
    exact absent (List.any_eq_true.mpr
      ⟨other, member, by simp [samePoll, sameVoter, samePosition]⟩)
  · simpa using referenced

private theorem Consistent.insertVote {db next : PollDb} {row : VoteRow}
    (success : Poll.insertVote db row = .ok next) (consistent : Consistent db) :
    Consistent next := by
  obtain ⟨rfl, absent, referenced⟩ := insertVote_ok success
  refine ⟨consistent.pollIds, consistent.optionKeys, consistent.optionPolls,
    consistent.voteKeys.insert ?_, ?_⟩
  · intro key newKey other member otherKey
    exact absent other member (Option.some.inj (otherKey.trans newKey.symm))
  · intro vote member
    rcases List.mem_append.mp member with old | new
    · exact consistent.voteOptions vote old
    · have same : vote = row := List.mem_singleton.mp new
      subst same
      exact referenced

theorem castChoice_ok {context : Context} {pollId : Nat} {voter : Voter}
    {activitypubId : Option String} {db next : PollDb} {choice : UInt32}
    (success : castChoice context pollId voter activitypubId db choice = .ok next) :
    ∃ row : VoteRow, ∃ inserted, ∃ option ∈ db.options,
      (row.pollId = pollId ∧ row.voter = voter ∧ row.choicePosition = toI32 choice) ∧
      insertVote db row = .ok inserted ∧
      (option.pollId = pollId ∧ option.position = toI32 choice) ∧
      next = { inserted with
        options := Table.updateWhere
          (fun other => other.pollId == pollId && other.position == toI32 choice)
          (fun other => { other with votesCount := option.votesCount + 1 }) inserted.options } := by
  simp only [castChoice] at success
  split at success
  · cases success
  next inserted insertion =>
    split at success
    · cases success
    next option found =>
      obtain ⟨_, success⟩ := guard_ok success
      cases success
      have member := List.mem_of_find?_eq_some found
      have key := List.find?_some found
      simp only [Bool.and_eq_true, beq_iff_eq] at key
      obtain ⟨rfl, _, _⟩ := insertVote_ok insertion
      exact ⟨_, _, option, member, ⟨rfl, rfl, rfl⟩, insertion, key, rfl⟩

private theorem votesFor_snoc (db : PollDb) (row : VoteRow) (pollId : Nat) (position : Int) :
    votesFor { db with votes := db.votes ++ [row] } pollId position =
      votesFor db pollId position +
        if row.pollId = pollId ∧ row.choicePosition = position then 1 else 0 := by
  simp only [votesFor, List.countP_append, List.countP_singleton, Bool.and_eq_true, beq_iff_eq]

theorem castChoice_castBy {context : Context} {pollId : Nat} {voter : Voter}
    {activitypubId : Option String} {db next : PollDb} {choice : UInt32}
    (consistent : Consistent db)
    (success : castChoice context pollId voter activitypubId db choice = .ok next) :
    CastBy db next pollId voter 1 := by
  obtain ⟨row, inserted, option, optionMember, ⟨rowPoll, rowVoter, rowChoice⟩, insertion,
    ⟨optionPoll, optionPosition⟩, rfl⟩ := castChoice_ok success
  have consistentInserted := consistent.insertVote insertion
  obtain ⟨rfl, _, _⟩ := insertVote_ok insertion
  refine ⟨⟨consistent.pollIds, ?_, ?_, consistentInserted.voteKeys, ?_⟩, rfl,
    ⟨[row], rfl, rfl, ?_⟩, ?_, ?_⟩
  · exact consistent.optionKeys.updateWhere fun other _ _ => .inl rfl
  · intro updated member
    rcases Table.mem_updateWhere.mp member with ⟨kept, _⟩ | ⟨before, old, _, rfl⟩
    · exact consistent.optionPolls updated kept
    · exact consistent.optionPolls before old
  · intro vote member
    obtain ⟨target, targetMember, sameOwner, samePosition⟩ :=
      consistentInserted.voteOptions vote member
    by_cases chosen : (target.pollId == pollId && target.position == toI32 choice) = true
    · exact ⟨_, Table.mem_updateWhere.mpr (.inr ⟨target, targetMember, chosen, rfl⟩),
        sameOwner, samePosition⟩
    · exact ⟨target, Table.mem_updateWhere.mpr (.inl ⟨targetMember, by simpa using chosen⟩),
        sameOwner, samePosition⟩
  · intro vote member
    rw [List.mem_singleton.mp member]
    exact ⟨rowPoll, rowVoter⟩
  · intro other counted updated member owner
    have recount := votesFor_snoc db row other updated.position
    rw [rowPoll, rowChoice] at recount
    change updated.votesCount = ((votesFor { db with votes := db.votes ++ [row] } other
      updated.position : Nat) : Int)
    rw [recount]
    rcases Table.mem_updateWhere.mp member with ⟨kept, unselected⟩ | ⟨before, old, chosen, rfl⟩
    · have elsewhere : ¬ (pollId = other ∧ toI32 choice = updated.position) := by
        rintro ⟨samePoll, samePosition⟩
        simp [owner, samePoll, samePosition] at unselected
      rw [if_neg elsewhere, counted updated kept owner]
      rfl
    · simp only [Bool.and_eq_true, beq_iff_eq] at chosen
      have same : before = option := consistent.optionKeys.eq_of_key old optionMember rfl
        (by rw [chosen.1, chosen.2, optionPoll, optionPosition])
      subst same
      rw [if_pos ⟨chosen.1.symm.trans owner, chosen.2.symm⟩]
      push_cast
      rw [counted before old owner]
  · intro other different
    refine ⟨Table.filter_updateWhere ?_, ?_⟩
    · intro target chosen
      simp only [Bool.and_eq_true, beq_iff_eq] at chosen
      simp [chosen.1, different.symm]
    · rw [List.filter_append]
      simp [rowPoll, different.symm]

theorem CastBy.trans {first second third : PollDb} {pollId : Nat} {voter : Voter}
    {left right : Nat} (before : CastBy first second pollId voter left)
    (after : CastBy second third pollId voter right) :
    CastBy first third pollId voter (left + right) := by
  obtain ⟨leftRows, leftVotes, leftLength, leftOwned⟩ := before.rows
  obtain ⟨rightRows, rightVotes, rightLength, rightOwned⟩ := after.rows
  refine ⟨after.consistent, after.polls.trans before.polls, ⟨leftRows ++ rightRows, ?_, ?_, ?_⟩,
    fun other counted => after.counted other (before.counted other counted),
    fun other different => (before.others other different).trans (after.others other different)⟩
  · rw [rightVotes, leftVotes, List.append_assoc]
  · rw [List.length_append, leftLength, rightLength]
  · intro row member
    rcases List.mem_append.mp member with fromLeft | fromRight
    · exact leftOwned row fromLeft
    · exact rightOwned row fromRight

theorem castChoices_castBy {context : Context} {pollId : Nat} {voter : Voter}
    {activitypubId : Option String} {db next : PollDb} {choices : List UInt32}
    (consistent : Consistent db)
    (success : castChoices context pollId voter activitypubId db choices = .ok next) :
    CastBy db next pollId voter choices.length := by
  induction choices generalizing db with
  | nil =>
      cases success
      exact ⟨consistent, rfl, ⟨[], by simp, rfl, by simp⟩, fun _ counted => counted,
        fun other _ => SameRows.refl _ other⟩
  | cons choice choices ih =>
      obtain ⟨middle, cast, success⟩ := bind_ok success
      have first := castChoice_castBy consistent cast
      rw [List.length_cons, Nat.add_comm]
      exact first.trans (ih first.consistent success)

theorem admitVote_ok {db : PollDb} {now : Int} {pollId : Nat}
    {localAccountId remoteActorId : Option AccountId} {choices : List UInt32} {ballot : Ballot}
    (success : admitVote db now pollId localAccountId remoteActorId choices = .ok ballot) :
    ballot.poll ∈ db.polls ∧ ballot.poll.id = pollId ∧ ballot.choices ≠ [] ∧
      ballot.existing =
        db.votes.filter (fun vote => vote.pollId == pollId && vote.voter == ballot.voter) ∧
      (ballot.poll.multiple = false → ballot.choices.length = 1 ∧ ballot.existing = []) := by
  simp only [admitVote] at success
  split at success
  · cases success
  next model found =>
    have sameId : model.id = pollId := by simpa using List.find?_some found
    obtain ⟨_, success⟩ := guard_ok success
    obtain ⟨nonempty, success⟩ := guard_ok success
    obtain ⟨oneChoice, success⟩ := guard_ok success
    obtain ⟨voter, _, success⟩ := bind_ok success
    obtain ⟨fresh, success⟩ := guard_ok success
    obtain ⟨_, success⟩ := guard_ok success
    obtain ⟨_, success⟩ := guard_ok success
    cases success
    refine ⟨List.mem_of_find?_eq_some found, sameId, by simpa using nonempty, rfl, ?_⟩
    intro single
    have single : model.multiple = false := single
    constructor
    · simpa [single] using oneChoice
    · simpa [single] using fresh

private theorem votersOf_castBy {before after : PollDb} {pollId : Nat} {voter : Voter}
    {choices : Nat} (cast : CastBy before after pollId voter choices) (some : choices ≠ 0) :
    votersOf after pollId = insert voter (votersOf before pollId) := by
  obtain ⟨rows, votes, length, owned⟩ := cast.rows
  have ownRows : rows.filter (fun vote => vote.pollId == pollId) = rows := by
    rw [List.filter_eq_self]
    intro row member
    simpa using (owned row member).1
  have ownVoters : (rows.map VoteRow.voter).toFinset = {voter} := by
    ext other
    rw [List.mem_toFinset, List.mem_map, Finset.mem_singleton]
    constructor
    · rintro ⟨row, member, rfl⟩
      exact (owned row member).2
    · rintro rfl
      obtain ⟨row, member⟩ := List.exists_mem_of_ne_nil rows
        (List.ne_nil_of_length_pos (by omega))
      exact ⟨row, member, (owned row member).2⟩
  rw [votersOf, votes, List.filter_append, ownRows, List.map_append, List.toFinset_append,
    ownVoters, Finset.union_comm]
  rfl

private theorem mem_votersOf {db : PollDb} {pollId : Nat} {voter : Voter} :
    voter ∈ votersOf db pollId ↔
      db.votes.filter (fun vote => vote.pollId == pollId && vote.voter == voter) ≠ [] := by
  rw [votersOf, List.mem_toFinset, List.mem_map, Ne, List.filter_eq_nil_iff]
  constructor
  · rintro ⟨vote, member, rfl⟩ none
    obtain ⟨stored, owner⟩ := List.mem_filter.mp member
    exact none vote stored (by simpa using owner)
  · intro some
    by_contra absent
    apply some
    intro vote stored chosen
    simp only [Bool.and_eq_true, beq_iff_eq] at chosen
    exact absent ⟨vote, List.mem_filter.mpr ⟨stored, by simpa using chosen.1⟩, chosen.2⟩

private theorem singleChoice_castBy {before after : PollDb} {pollId : Nat} {voter : Voter}
    (cast : CastBy before after pollId voter 1) (single : SingleChoice before pollId)
    (fresh : ∀ vote ∈ before.votes, vote.pollId = pollId → vote.voter ≠ voter) :
    SingleChoice after pollId := by
  obtain ⟨rows, votes, length, owned⟩ := cast.rows
  obtain ⟨row, rfl⟩ := List.length_eq_one_iff.mp length
  have rowVoter := (owned row List.mem_cons_self).2
  intro left leftMember right rightMember leftOwner rightOwner sameVoter
  rw [votes] at leftMember rightMember
  rcases List.mem_append.mp leftMember with leftOld | leftNew <;>
    rcases List.mem_append.mp rightMember with rightOld | rightNew
  · exact single left leftOld right rightOld leftOwner rightOwner sameVoter
  · rw [List.mem_singleton.mp rightNew, rowVoter] at sameVoter
    exact absurd sameVoter (fresh left leftOld leftOwner)
  · rw [List.mem_singleton.mp leftNew, rowVoter] at sameVoter
    exact absurd sameVoter.symm (fresh right rightOld rightOwner)
  · rw [List.mem_singleton.mp leftNew, List.mem_singleton.mp rightNew]

theorem vote_valid {db next : PollDb} {context : Context} {pollId : Nat}
    {localAccountId remoteActorId : Option AccountId} {choices : List UInt32}
    {activitypubId : Option String} {poll : StatusPoll} (valid : Valid db)
    (success : vote db context pollId localAccountId remoteActorId choices activitypubId =
      .ok (next, poll)) : Valid next := by
  obtain ⟨ballot, admitted, success⟩ := bind_ok success
  obtain ⟨stored, casting, success⟩ := bind_ok success
  obtain ⟨_, success⟩ := guard_ok success
  obtain ⟨member, sameId, nonempty, existing, single⟩ := admitVote_ok admitted
  have cast := castChoices_castBy valid.consistent casting
  have voters := votersOf_castBy cast (by simpa using nonempty)
  rw [reloadPoll_ok success]
  refine valid.rewrite cast.polls cast.consistent cast.others (fun _ => rfl) (fun _ => rfl) ?_
  intro row rowMember rowId isLocal
  have same : row = ballot.poll :=
    valid.consistent.eq_of_id rowMember member (rowId.trans sameId.symm)
  subst same
  have tallied := valid.tallied ballot.poll rowMember isLocal
  rw [← sameId] at voters
  refine ⟨cast.counted _ tallied.counts, ?_, ?_⟩
  · -- the voter count grows exactly when this voter had no row before
    change (if ballot.existing.isEmpty = true then ballot.poll.votersCount.map (· + 1)
      else ballot.poll.votersCount) = some ((votersOf stored ballot.poll.id).card : Int)
    rw [voters, tallied.voters]
    have known : ballot.voter ∈ votersOf db ballot.poll.id ↔ ballot.existing ≠ [] := by
      rw [mem_votersOf, sameId, existing]
    by_cases first : ballot.existing = []
    · rw [if_pos (by simp [first]), Finset.card_insert_of_notMem (by simp [known, first])]
      rfl
    · rw [if_neg (by simpa using first), Finset.insert_eq_self.mpr (known.mpr first)]
  · intro one
    have one : ballot.poll.multiple = false := one
    obtain ⟨length, unseen⟩ := single one
    rw [length, ← sameId] at cast
    refine singleChoice_castBy cast (tallied.single one) ?_
    intro vote voteMember owner sameVoter
    rw [existing, List.filter_eq_nil_iff] at unseen
    exact unseen vote voteMember (by simp [owner.trans sameId, sameVoter])

/-!
## Runs
-/

theorem commit_valid {ε α : Type} {db : PollDb} (valid : Valid db)
    {result : Except ε (PollDb × α)}
    (kept : ∀ next value, result = .ok (next, value) → Valid next) :
    Valid (commit db result).1 := by
  cases result with
  | error error => exact valid
  | ok value => exact kept value.1 value.2 rfl

theorem step_valid (segmentation : Segmentation) (db : PollDb) (call : Call) (valid : Valid db) :
    Valid ((polls segmentation).step db call).1 := by
  cases call with
  | create context statusId input =>
      exact commit_valid valid fun _ _ success => createLocalPoll_valid valid success
  | voteInPoll context pollId accountId choices =>
      exact commit_valid valid fun _ _ success => vote_valid valid success
  | recordRemotePollVote context pollId actorId choice activitypubId =>
      exact commit_valid valid fun _ _ success => vote_valid valid success
  | replace context statusId input =>
      exact commit_valid valid fun _ _ success => replaceLocalPoll_valid valid success
  | upsertRemote context statusId input =>
      exact commit_valid valid fun _ _ success => upsertRemotePoll_valid valid success
  | expire context pollId =>
      exact commit_valid valid fun _ _ success => expirePoll_valid valid success

/-- A database that holds no poll yet; its other tables are arbitrary. -/
def PollDb.withoutPolls (localStatuses remoteStatuses : List (StatusId × AccountId))
    (notifications : List PollNotification) (jobs : List JobRow) : PollDb :=
  ⟨localStatuses, remoteStatuses, [], [], [], notifications, jobs⟩

theorem withoutPolls_valid (localStatuses remoteStatuses : List (StatusId × AccountId))
    (notifications : List PollNotification) (jobs : List JobRow) :
    Valid (PollDb.withoutPolls localStatuses remoteStatuses notifications jobs) := by
  refine ⟨⟨Table.UniqueOn.nil _, Table.UniqueOn.nil _, ?_, Table.UniqueOn.nil _, ?_⟩, ?_⟩ <;>
    intro _ member <;> cases member

theorem Consistent.distinctChoices {db : PollDb} (consistent : Consistent db) (pollId : Nat) :
    (db.votes.filter fun vote => vote.pollId == pollId).Pairwise fun left right =>
      (left.voter, left.choicePosition) ≠ (right.voter, right.choicePosition) := by
  have keys : db.votes.Pairwise fun left right =>
      (left.pollId, left.voter, left.choicePosition) ≠
        (right.pollId, right.voter, right.choicePosition) := by
    have unique := consistent.voteKeys
    unfold Table.UniqueOn at unique
    rw [List.filterMap_eq_map'] at unique
    exact List.pairwise_map.mp unique
  refine (List.Pairwise.filter _ keys).imp_of_mem ?_
  intro left right leftMember rightMember different same
  have leftOwner : left.pollId = pollId := by simpa using (List.mem_filter.mp leftMember).2
  have rightOwner : right.pollId = pollId := by simpa using (List.mem_filter.mp rightMember).2
  exact different (by rw [leftOwner, rightOwner, same])

theorem SingleChoice.distinctVoters {db : PollDb} {pollId : Nat}
    (single : SingleChoice db pollId) (consistent : Consistent db) :
    (db.votes.filter fun vote => vote.pollId == pollId).Pairwise fun left right =>
      left.voter ≠ right.voter := by
  refine (consistent.distinctChoices pollId).imp_of_mem ?_
  intro left right leftMember rightMember different sameVoter
  obtain ⟨leftStored, leftOwner⟩ := List.mem_filter.mp leftMember
  obtain ⟨rightStored, rightOwner⟩ := List.mem_filter.mp rightMember
  have same : left = right := single left leftStored right rightStored (by simpa using leftOwner)
    (by simpa using rightOwner) sameVoter
  exact different (by rw [same])

/-- In every reachable state each local poll's tallies agree with its votes. -/
theorem run_tallies_agree (segmentation : Segmentation)
    (localStatuses remoteStatuses : List (StatusId × AccountId))
    (notifications : List PollNotification) (jobs : List JobRow) (calls : List Call) :
    let db := (polls segmentation).run
      (PollDb.withoutPolls localStatuses remoteStatuses notifications jobs) calls
    ∀ poll ∈ db.polls, poll.status.isLocal = true →
      (∀ option ∈ db.options, option.pollId = poll.id →
        option.votesCount = votesFor db poll.id option.position) ∧
      poll.votersCount = some ((votersOf db poll.id).card : Int) ∧
      (db.votes.filter fun vote => vote.pollId == poll.id).Pairwise (fun left right =>
        (left.voter, left.choicePosition) ≠ (right.voter, right.choicePosition)) ∧
      (poll.multiple = false → (db.votes.filter fun vote => vote.pollId == poll.id).Pairwise
        fun left right => left.voter ≠ right.voter) ∧
      ∀ vote ∈ db.votes, vote.pollId = poll.id →
        ∃ option ∈ db.options, option.pollId = poll.id ∧ option.position = vote.choicePosition := by
  intro db poll member isLocal
  have valid : Valid db := (polls segmentation).run_invariant Valid (step_valid segmentation)
    (withoutPolls_valid localStatuses remoteStatuses notifications jobs) calls
  have tallied := valid.tallied poll member isLocal
  refine ⟨tallied.counts, tallied.voters, valid.consistent.distinctChoices poll.id, ?_, ?_⟩
  · intro one
    exact tallied.single one |>.distinctVoters valid.consistent
  · intro vote voteMember owner
    obtain ⟨option, optionMember, sameOwner, samePosition⟩ :=
      valid.consistent.voteOptions vote voteMember
    exact ⟨option, optionMember, sameOwner.trans owner, samePosition⟩

def votedPoll : List Call :=
  let context (now : Int) (row : Nat) : Context := ⟨now, 7, ⟨row⟩, fun _ => row⟩
  [.create (context 0 1) ⟨1⟩ ⟨["yes", "no"], 300, false, false⟩,
    .voteInPoll (context 1000000 2) 7 ⟨20⟩ [1],
    .recordRemotePollVote (context 2000000 3) 7 ⟨30⟩ 1 "https://remote.example/votes/3"]

theorem run_tallies_agree_votedPoll :
    let db := (polls ⟨String.length⟩).run (PollDb.withoutPolls [(⟨1⟩, ⟨10⟩)] [] [] []) votedPoll
    let poll : PollRow :=
      ⟨7, .localStatus ⟨1⟩, false, false, some 300000000, none, none, some 2, 0, 2000000⟩
    poll ∈ db.polls ∧ some (2 : Int) = some ((votersOf db 7).card : Int) ∧
      (db.votes.filter fun vote => vote.pollId == 7).Pairwise fun left right =>
        left.voter ≠ right.voter := by
  have stored : (⟨7, .localStatus ⟨1⟩, false, false, some 300000000, none, none, some 2, 0,
      2000000⟩ : PollRow) ∈ ((polls ⟨String.length⟩).run
        (PollDb.withoutPolls [(⟨1⟩, ⟨10⟩)] [] [] []) votedPoll).polls := by
    decide +kernel
  have agree := run_tallies_agree ⟨String.length⟩ [(⟨1⟩, ⟨10⟩)] [] [] [] votedPoll _ stored rfl
  exact ⟨stored, agree.2.1, agree.2.2.2.1 rfl⟩

end Roosty.Poll
