import Mathlib.Algebra.GroupWithZero.Nat
import Mathlib.Algebra.Order.BigOperators.Group.List
import Mathlib.Algebra.Ring.Int.Defs
import Mathlib.Data.UInt
import Roosty.Poll.RefreshProperties

/-!
# Poll arithmetic

The counts of a remote Question are 64-bit numbers without a sign, those of the columns have
one, and the total of a poll has none again.
-/

set_option autoImplicit false

namespace Roosty.Poll

open Library Job Federation

/-- `count as u64`. -/
def toU64 (count : Int) : UInt64 := .ofBitVec (.ofInt 64 count)

/-- `StatusPoll::votes_count`; a sum that does not fit wraps. -/
def StatusPoll.votesCount (poll : StatusPoll) : UInt64 :=
  (poll.options.map fun option => toU64 option.votesCount).sum

def StatusPoll.total (poll : StatusPoll) : Int := (poll.options.map (·.votesCount)).sum

/-- A poll without negative counts whose total is that of its options. -/
structure StatusPoll.InRange (poll : StatusPoll) : Prop where
  options : ∀ option ∈ poll.options, 0 ≤ option.votesCount
  voters : ∀ count ∈ poll.votersCount, 0 ≤ count
  fits : poll.total < 2 ^ 64
  total : (poll.votesCount.toNat : Int) = poll.total

/-- The constraints on counts that an insert or an update can violate. -/
def countConstraints : List RoostyError :=
  [.database "status_poll_option_votes_count_check", .database "status_poll_voters_count_check"]

def countOverflow : PollVoteError := .database (.database "bigint out of range")

structure RemoteStatusPoll.CountsFit (input : RemoteStatusPoll) : Prop where
  options : ∀ entry ∈ input.options, entry.2 < 2 ^ 63
  voters : ∀ count ∈ input.votersCount, count < 2 ^ 63

def RemoteStatusPoll.total (input : RemoteStatusPoll) : Nat := (input.options.map Prod.snd).sum

/-!
## Totals
-/

theorem toNat_toU64 {count : Int} (nonneg : 0 ≤ count) (fits : count ≤ maxCount) :
    ((toU64 count).toNat : Int) = count := by
  unfold maxCount at fits
  unfold toU64
  rw [UInt64.toNat_ofBitVec, BitVec.toNat_ofInt]
  omega

theorem sum_toU64 {counts : List Int} (range : ∀ count ∈ counts, 0 ≤ count ∧ count ≤ maxCount) :
    (((counts.map toU64).sum.toNat : Nat) : Int) = counts.sum % 2 ^ 64 := by
  induction counts with
  | nil => rfl
  | cons count counts ih =>
      have rest := ih fun other member => range other (List.mem_cons_of_mem _ member)
      obtain ⟨nonneg, fits⟩ := range count List.mem_cons_self
      rw [List.map_cons, List.sum_cons, List.sum_cons, UInt64.toNat_add]
      have first := toNat_toU64 nonneg fits
      omega

theorem StatusPoll.votesCount_eq_iff {poll : StatusPoll}
    (range : ∀ option ∈ poll.options, 0 ≤ option.votesCount ∧ option.votesCount ≤ maxCount) :
    (poll.votesCount.toNat : Int) = poll.total ↔ poll.total < 2 ^ 64 := by
  have ranged : ∀ count ∈ poll.options.map (·.votesCount), 0 ≤ count ∧ count ≤ maxCount := by
    intro count member
    obtain ⟨option, inside, rfl⟩ := List.mem_map.mp member
    exact range option inside
  have sum := sum_toU64 ranged
  have nonneg : 0 ≤ poll.total := List.sum_nonneg fun count member => (ranged count member).1
  rw [List.map_map] at sum
  change (poll.votesCount.toNat : Int) = poll.total % 2 ^ 64 at sum
  omega

def OptionRow.tally (pollId : Nat) (row : OptionRow) : Int :=
  if row.pollId == pollId then row.votesCount else 0

def pollTotal (db : PollDb) (pollId : Nat) : Int := (db.options.map (OptionRow.tally pollId)).sum

theorem sum_tally (pollId : Nat) (options : List OptionRow) :
    (options.map (OptionRow.tally pollId)).sum =
      ((options.filter fun row => row.pollId == pollId).map (·.votesCount)).sum := by
  induction options with
  | nil => rfl
  | cons row options ih =>
      rw [List.map_cons, List.sum_cons, ih, OptionRow.tally]
      by_cases own : (row.pollId == pollId) = true
      · rw [if_pos own, List.filter_cons, if_pos own, List.map_cons, List.sum_cons]
      · rw [if_neg own, List.filter_cons, if_neg own, Int.zero_add]

theorem total_hydratePoll (db : PollDb) (model : PollRow) :
    (hydratePoll db model).total = pollTotal db model.id := by
  unfold StatusPoll.total hydratePoll pollTotal pollOptions
  rw [sum_tally, List.map_map]
  exact ((List.perm_insertionSort _ _).map _).sum_eq

/-!
## Stored polls
-/

structure Within (db : PollDb) (pollId : Nat) : Prop where
  options : ∀ option ∈ db.options, option.pollId = pollId →
    0 ≤ option.votesCount ∧ option.votesCount ≤ maxCount
  voters : ∀ row ∈ db.polls, row.id = pollId → ∀ count ∈ row.votersCount, 0 ≤ count
  total : pollTotal db pollId < 2 ^ 64

theorem hydratePoll_options {db : PollDb} {model : PollRow} {option : PollOption}
    (member : option ∈ (hydratePoll db model).options) :
    ∃ row ∈ db.options, row.pollId = model.id ∧ row.votesCount = option.votesCount := by
  obtain ⟨row, inside, rfl⟩ := List.mem_map.mp member
  obtain ⟨stored, own⟩ := List.mem_filter.mp ((List.mem_insertionSort _).mp inside)
  exact ⟨row, stored, by simpa using own, rfl⟩

theorem Within.inRange {db : PollDb} {pollId : Nat} {poll : StatusPoll} (within : Within db pollId)
    (found : findPollById db pollId = some poll) : poll.InRange := by
  obtain ⟨model, member, rfl⟩ := Option.map_eq_some_iff.mp found
  have same : model.id = pollId := by simpa using List.find?_some member
  have options : ∀ option ∈ (hydratePoll db model).options,
      0 ≤ option.votesCount ∧ option.votesCount ≤ maxCount := by
    intro option inside
    obtain ⟨row, stored, own, count⟩ := hydratePoll_options inside
    rw [← count]
    exact within.options row stored (own.trans same)
  have fits : (hydratePoll db model).total < 2 ^ 64 := by
    rw [total_hydratePoll, same]
    exact within.total
  exact ⟨fun option inside => (options option inside).1,
    within.voters model (List.mem_of_find?_eq_some member) same, fits,
    (StatusPoll.votesCount_eq_iff options).mpr fits⟩

/-!
## Votes
-/

structure LocalVote where
  context : Context
  accountId : AccountId
  choices : List UInt32

def ballots (pollId : Nat) : Machine PollDb LocalVote (Except PollVoteError StatusPoll) where
  step db vote :=
    match voteInPoll db vote.context pollId vote.accountId vote.choices with
    | .ok (next, poll) => (next, .ok poll)
    | .error error => (db, .error error)

/-- The counts that a ballot raises are not at their limits, and their total can grow. -/
structure Room (db : PollDb) (pollId : Nat) (ballot : Ballot) : Prop where
  options : ∀ option ∈ db.options, option.pollId = pollId → ∀ choice ∈ ballot.choices,
    option.position = toI32 choice → option.votesCount < maxCount
  voters : ∀ count ∈ ballot.poll.votersCount, count < maxCount
  total : pollTotal db pollId + ballot.choices.length < 2 ^ 64

def HasRoom (pollId : Nat) (db : PollDb) (vote : LocalVote) : Prop :=
  ∀ ballot, admitVote db vote.context.now pollId (some vote.accountId) none vote.choices =
    .ok ballot → Room db pollId ballot

theorem toI32_injective {left right : UInt32} (same : toI32 left = toI32 right) : left = right :=
  congrArg Int32.toUInt32 (Int32.toInt_inj.mp same)

section

variable {context : Context} {pollId : Nat} {voter : Voter} {activitypubId : Option String}
  {db next : PollDb} {choice : UInt32} {choices : List UInt32}

theorem insertVote_error {row : VoteRow} {error : RoostyError}
    (failure : insertVote db row = .error error) : .database error ≠ countOverflow := by
  rintro same
  cases same
  unfold insertVote at failure
  split at failure
  · simp at failure
  split at failure
  · simp at failure
  split at failure
  · simp at failure
  split at failure
  · simp at failure
  split at failure
  · simp at failure
  · cases failure

theorem castChoice_counts
    (success : castChoice context pollId voter activitypubId db choice = .ok next) :
    next.polls = db.polls ∧ ∃ option ∈ db.options, option.pollId = pollId ∧
      option.position = toI32 choice ∧ option.votesCount < maxCount ∧
      next.options = Table.updateWhere
        (fun other => other.pollId == pollId && other.position == toI32 choice)
        (fun other => { other with votesCount := option.votesCount + 1 }) db.options := by
  simp only [castChoice] at success
  split at success
  next => cases success
  next inserted insertion =>
    obtain ⟨rfl, _, _⟩ := insertVote_ok insertion
    split at success
    next => cases success
    next option found =>
      obtain ⟨below, success⟩ := guard_ok success
      cases success
      have key := List.find?_some found
      simp only [Bool.and_eq_true, beq_iff_eq] at key
      exact ⟨rfl, option, List.mem_of_find?_eq_some found, key.1, key.2, not_le.mp below, rfl⟩

theorem castChoice_overflow
    (failure : castChoice context pollId voter activitypubId db choice = .error countOverflow) :
    ∃ option ∈ db.options, option.pollId = pollId ∧ option.position = toI32 choice ∧
      maxCount ≤ option.votesCount := by
  simp only [castChoice] at failure
  split at failure
  next error insertion => exact absurd (Except.error.inj failure) (insertVote_error insertion)
  next inserted insertion =>
    obtain ⟨rfl, _, _⟩ := insertVote_ok insertion
    split at failure
    next => cases failure
    next option found =>
      split at failure
      next full =>
        have key := List.find?_some found
        simp only [Bool.and_eq_true, beq_iff_eq] at key
        exact ⟨option, List.mem_of_find?_eq_some found, key.1, key.2, full⟩
      next => cases failure

theorem castChoice_options (consistent : Consistent db)
    (success : castChoice context pollId voter activitypubId db choice = .ok next)
    {row : OptionRow} (member : row ∈ next.options) :
    (row ∈ db.options ∧ (row.pollId = pollId → row.position ≠ toI32 choice)) ∨
      ∃ option ∈ db.options, option.pollId = pollId ∧ option.position = toI32 choice ∧
        option.votesCount < maxCount ∧ row = { option with votesCount := option.votesCount + 1 } := by
  obtain ⟨_, option, stored, own, position, below, options⟩ := castChoice_counts success
  rw [options] at member
  rcases Table.mem_updateWhere.mp member with ⟨kept, unselected⟩ | ⟨before, old, chosen, rfl⟩
  · refine .inl ⟨kept, fun sameOwner samePosition => ?_⟩
    simp [sameOwner, samePosition] at unselected
  · simp only [Bool.and_eq_true, beq_iff_eq] at chosen
    have same : before = option := consistent.optionKeys.eq_of_key old stored rfl
      (by rw [chosen.1, chosen.2, own, position])
    subst same
    exact .inr ⟨before, stored, own, position, below, rfl⟩

theorem castChoice_total (consistent : Consistent db)
    (success : castChoice context pollId voter activitypubId db choice = .ok next) :
    pollTotal next pollId = pollTotal db pollId + 1 := by
  obtain ⟨_, option, stored, own, position, below, options⟩ := castChoice_counts success
  have chosen : ∀ row ∈ db.options,
      (row.pollId == pollId && row.position == toI32 choice) = true →
        row.pollId = pollId ∧ row.position = toI32 choice := by
    intro row _ selected
    simpa using selected
  have one := consistent.optionKeys.affected_eq_one (pollId, toI32 choice)
    (fun row member selected => by
      rw [(chosen row member selected).1, (chosen row member selected).2])
    stored (by simp [own, position])
  have grows : ∀ row ∈ db.options,
      (row.pollId == pollId && row.position == toI32 choice) = true →
        OptionRow.tally pollId { row with votesCount := option.votesCount + 1 } =
          row.tally pollId + 1 := by
    intro row member selected
    obtain ⟨rowOwner, rowPosition⟩ := chosen row member selected
    have same : row = option := consistent.optionKeys.eq_of_key member stored rfl
      (by rw [rowOwner, rowPosition, own, position])
    subst same
    simp [OptionRow.tally, own]
  unfold pollTotal
  rw [options, Table.sum_updateWhere grows, one]
  rfl

theorem castChoices_within (consistent : Consistent db)
    (range : ∀ option ∈ db.options, option.pollId = pollId →
      0 ≤ option.votesCount ∧ option.votesCount ≤ maxCount)
    (success : castChoices context pollId voter activitypubId db choices = .ok next) :
    (∀ option ∈ next.options, option.pollId = pollId →
      0 ≤ option.votesCount ∧ option.votesCount ≤ maxCount) ∧
      pollTotal next pollId = pollTotal db pollId + choices.length := by
  induction choices generalizing db with
  | nil =>
      cases success
      exact ⟨range, (Int.add_zero _).symm⟩
  | cons choice choices ih =>
      obtain ⟨middle, cast, success⟩ := bind_ok success
      have ranged : ∀ option ∈ middle.options, option.pollId = pollId →
          0 ≤ option.votesCount ∧ option.votesCount ≤ maxCount := by
        intro row member own
        rcases castChoice_options consistent cast member with
          ⟨kept, _⟩ | ⟨option, stored, owner, _, below, rfl⟩
        · exact range row kept own
        · have before := range option stored owner
          exact ⟨Int.add_nonneg before.1 Int.one_nonneg, below⟩
      obtain ⟨after, total⟩ := ih (castChoice_castBy consistent cast).consistent ranged success
      refine ⟨after, ?_⟩
      rw [total, castChoice_total consistent cast, List.length_cons]
      push_cast
      omega

theorem castChoices_not_overflow (consistent : Consistent db) (distinct : choices.Nodup)
    (room : ∀ option ∈ db.options, option.pollId = pollId → ∀ choice ∈ choices,
      option.position = toI32 choice → option.votesCount < maxCount) :
    castChoices context pollId voter activitypubId db choices ≠ .error countOverflow := by
  induction choices generalizing db with
  | nil => exact nofun
  | cons choice choices ih =>
      obtain ⟨absent, distinct⟩ := List.nodup_cons.mp distinct
      unfold castChoices
      cases cast : castChoice context pollId voter activitypubId db choice with
      | error error =>
          rintro same
          cases same
          obtain ⟨option, stored, own, position, full⟩ := castChoice_overflow cast
          exact absurd (room option stored own choice List.mem_cons_self position) (not_lt.mpr full)
      | ok middle =>
          refine ih (castChoice_castBy consistent cast).consistent distinct ?_
          intro row member own other later position
          rcases castChoice_options consistent cast member with
            ⟨kept, _⟩ | ⟨option, stored, owner, counted, below, rfl⟩
          · exact room row kept own other (List.mem_cons_of_mem _ later) position
          · rw [toI32_injective (counted.symm.trans position)] at absent
            exact absurd later absent

end

section

variable {db next : PollDb} {now : Int} {pollId : Nat} {accountId : AccountId}
  {choices : List UInt32} {ballot : Ballot} {vote : LocalVote}

theorem admitVote_local
    (success : admitVote db now pollId (some accountId) none choices = .ok ballot) :
    ballot.choices = sortDedup choices ∧ ballot.existing = [] := by
  simp only [admitVote] at success
  split at success
  · cases success
  next model found =>
    obtain ⟨_, success⟩ := guard_ok success
    obtain ⟨_, success⟩ := guard_ok success
    obtain ⟨_, success⟩ := guard_ok success
    obtain ⟨voter, _, success⟩ := bind_ok success
    obtain ⟨first, success⟩ := guard_ok success
    obtain ⟨_, success⟩ := guard_ok success
    obtain ⟨_, success⟩ := guard_ok success
    cases success
    exact ⟨rfl, by simpa using first⟩

theorem admitVote_not_overflow :
    admitVote db now pollId (some accountId) none choices ≠ .error countOverflow := by
  unfold admitVote voterIdentity countOverflow
  split
  · exact nofun
  · simp only [ok_bind]
    split
    · exact nofun
    split
    · exact nofun
    split
    · exact nofun
    split
    · exact nofun
    split
    · exact nofun
    split
    · exact nofun
    · exact nofun

theorem voteInPoll_not_overflow (consistent : Consistent db) (room : HasRoom pollId db vote) :
    voteInPoll db vote.context pollId vote.accountId vote.choices ≠ .error countOverflow := by
  unfold voteInPoll Poll.vote
  cases admitted : admitVote db vote.context.now pollId (some vote.accountId) none vote.choices with
  | error error =>
      intro same
      cases same
      exact admitVote_not_overflow admitted
  | ok ballot =>
      have hasRoom := room ballot admitted
      obtain ⟨choices, first⟩ := admitVote_local admitted
      have distinct : ballot.choices.Nodup := choices ▸ nodup_sortDedup _
      rw [ok_bind]
      cases casting : castChoices vote.context pollId ballot.voter none db ballot.choices with
      | error error =>
          intro same
          cases same
          exact castChoices_not_overflow consistent distinct hasRoom.options casting
      | ok cast =>
          have below : ballot.poll.votersCount.any (maxCount ≤ ·) = false := by
            rw [Option.any_eq_false]
            intro count counted
            simpa using hasRoom.voters count counted
          rw [ok_bind, below, Bool.and_false, if_neg Bool.false_ne_true]
          unfold reloadPoll
          split
          · exact nofun
          · exact nofun

theorem voteInPoll_within {poll : StatusPoll} (consistent : Consistent db)
    (within : Within db pollId) (room : HasRoom pollId db vote)
    (success : voteInPoll db vote.context pollId vote.accountId vote.choices =
      .ok (next, poll)) : Within next pollId := by
  obtain ⟨ballot, admitted, success⟩ := bind_ok success
  obtain ⟨cast, casting, success⟩ := bind_ok success
  obtain ⟨_, success⟩ := guard_ok success
  obtain ⟨member, same, _⟩ := admitVote_ok admitted
  obtain ⟨range, total⟩ := castChoices_within consistent within.options casting
  have polls := (castChoices_castBy consistent casting).polls
  rw [reloadPoll_ok success]
  refine ⟨range, ?_, ?_⟩
  · intro row inside own count counted
    rcases Table.mem_updateWhere.mp inside with ⟨kept, unselected⟩ | ⟨before, old, _, rfl⟩
    · exact absurd own (beq_eq_false_iff_ne.mp unselected)
    · have voters := within.voters ballot.poll member same
      simp only [Ballot.count] at counted
      split at counted
      next =>
        obtain ⟨voted, stored, rfl⟩ := Option.map_eq_some_iff.mp counted
        exact Int.add_nonneg (voters voted stored) Int.one_nonneg
      next => exact voters count counted
  · change pollTotal cast pollId < 2 ^ 64
    rw [total]
    exact (room ballot admitted).total

end

/-!
## Runs of votes
-/

section

variable {db : PollDb} {pollId : Nat}

theorem ballots_step_consistent (db : PollDb) (vote : LocalVote) (sane : Sane db) :
    Sane ((ballots pollId).step db vote).1 := by
  have kept := step_sane ⟨String.length⟩ db
    (.voteInPoll vote.context pollId vote.accountId vote.choices) sane
  unfold ballots
  simp only [polls] at kept ⊢
  cases voted : voteInPoll db vote.context pollId vote.accountId vote.choices with
  | error error => exact sane
  | ok result =>
      rw [voted] at kept
      exact kept

theorem ballots_step_within (vote : LocalVote) (sane : Sane db) (within : Within db pollId)
    (room : HasRoom pollId db vote) : Within ((ballots pollId).step db vote).1 pollId := by
  unfold ballots
  simp only
  cases voted : voteInPoll db vote.context pollId vote.accountId vote.choices with
  | error error => exact within
  | ok result => exact voteInPoll_within sane.valid.consistent within room voted

theorem ballots_in_range (sane : Sane db) (within : Within db pollId) {votes : List LocalVote}
    (guarded : (ballots pollId).Guarded (HasRoom pollId) db votes) :
    (∀ before after, votes = before ++ after → ∀ stored,
      findPollById ((ballots pollId).run db before) pollId = some stored → stored.InRange) ∧
      ∀ before vote after, votes = before ++ vote :: after →
        ((ballots pollId).step ((ballots pollId).run db before) vote).2 ≠
          .error countOverflow := by
  have keeps : ∀ state vote, HasRoom pollId state vote → Sane state ∧ Within state pollId →
      Sane ((ballots pollId).step state vote).1 ∧ Within ((ballots pollId).step state vote).1 pollId :=
    fun state vote room kept =>
      ⟨ballots_step_consistent state vote kept.1, ballots_step_within vote kept.1 kept.2 room⟩
  constructor
  · rintro before after rfl stored found
    exact ((ballots pollId).guarded_invariant _ keeps ⟨sane, within⟩
      guarded.of_append).2.inRange found
  · rintro before vote after rfl
    have reached := (ballots pollId).guarded_invariant _ keeps ⟨sane, within⟩ guarded.of_append
    have room := guarded before vote after rfl
    have quiet := voteInPoll_not_overflow reached.1.valid.consistent room
    unfold ballots at quiet ⊢
    simp only
    split
    next => exact nofun
    next error failed =>
      rintro same
      cases same
      exact quiet failed

end

/-!
## Documents
-/

theorem toI64_neg_iff {count : Nat} (small : count < 2 ^ 64) : toI64 count < 0 ↔ 2 ^ 63 ≤ count := by
  unfold toI64
  rw [BitVec.toInt_eq_toNat_cond, BitVec.toNat_ofNat]
  omega

theorem insertOptions_fails {pollId position : Nat} {options : List (String × Nat)}
    {rows : List OptionRow} (negative : ∃ entry ∈ options, toI64 entry.2 < 0) :
    insertOptions pollId position options rows =
      .error (.database "status_poll_option_votes_count_check") := by
  induction options generalizing position rows with
  | nil =>
      obtain ⟨entry, member, _⟩ := negative
      cases member
  | cons first rest ih =>
      obtain ⟨title, count⟩ := first
      rw [insertOptions]
      split
      next => rfl
      next nonneg =>
        obtain ⟨entry, member, below⟩ := negative
        rcases List.mem_cons.mp member with rfl | later
        · exact absurd below nonneg
        · exact ih ⟨entry, later, below⟩

theorem insertOptions_error {pollId position : Nat} {options : List (String × Nat)}
    {rows : List OptionRow} {error : RoostyError}
    (failure : insertOptions pollId position options rows = .error error) :
    error = .database "status_poll_option_votes_count_check" := by
  induction options generalizing position rows with
  | nil => cases failure
  | cons first rest ih =>
      obtain ⟨title, count⟩ := first
      rw [insertOptions] at failure
      split at failure
      next =>
        cases failure
        rfl
      next => exact ih failure

theorem replaceOptions_error {db : PollDb} {pollId : Nat} {options : List (String × Nat)}
    {error : RoostyError} (failure : replaceOptions db pollId options = .error error) :
    error = .database "status_poll_option_votes_count_check" := by
  unfold replaceOptions at failure
  cases inserting : insertOptions pollId 0 options
      (Table.deleteWhere (fun row => row.pollId == pollId) db.options) with
  | error other =>
      rw [inserting] at failure
      cases failure
      exact insertOptions_error inserting
  | ok inserted =>
      rw [inserting] at failure
      cases failure

section

variable {db next : PollDb} {context : Context} {statusId : StatusId} {input : RemoteStatusPoll}
  {poll : StatusPoll}

theorem voters_any_iff (small : ∀ count ∈ input.votersCount, count < 2 ^ 64) :
    (input.votersCount.map toI64).any (· < 0) = true ↔ ∃ count ∈ input.votersCount,
      2 ^ 63 ≤ count := by
  cases counted : input.votersCount with
  | none => simp
  | some count => simp [toI64_neg_iff (small count counted)]

theorem storeRemotePoll_fails (entries : ∀ entry ∈ input.options, entry.2 < 2 ^ 64)
    (small : ∀ count ∈ input.votersCount, count < 2 ^ 64) (wide : ¬ input.CountsFit)
    (freshPoll : ∀ row ∈ db.polls, row.id ≠ context.pollId)
    (referenced : ∃ status ∈ db.remoteStatuses, status.1 = statusId) :
    ∃ error ∈ countConstraints, storeRemotePoll db context statusId input = .error error := by
  have either : (∃ entry ∈ input.options, toI64 entry.2 < 0) ∨
      (input.votersCount.map toI64).any (· < 0) = true := by
    by_contra none
    obtain ⟨options, voters⟩ := not_or.mp none
    rw [voters_any_iff small] at voters
    refine wide ⟨fun entry member => ?_, fun count counted => ?_⟩
    · by_contra above
      exact options ⟨entry, member,
        (toI64_neg_iff (entries entry member)).mpr (not_lt.mp above)⟩
    · by_contra above
      exact voters ⟨count, counted, not_lt.mp above⟩
  have options : ∀ (stored : PollDb) (pollId : Nat), (∃ entry ∈ input.options,
      toI64 entry.2 < 0) → replaceOptions stored pollId input.options =
        .error (.database "status_poll_option_votes_count_check") := by
    intro stored pollId negative
    unfold replaceOptions
    rw [insertOptions_fails negative]
    rfl
  unfold storeRemotePoll countConstraints
  simp only
  split
  next existing found =>
    generalize (if (existing.multiple != input.multiple ||
      (pollOptions db existing.id).map (·.title) != input.options.map Prod.fst) = true then
        deleteVotes db existing.id else db) = reset
    cases replacing : replaceOptions reset existing.id input.options with
    | error error =>
        rw [replaceOptions_error replacing]
        exact ⟨_, List.mem_cons_self, rfl⟩
    | ok replaced =>
        have voters := either.resolve_left fun negative =>
          nomatch replacing.symm.trans (options reset existing.id negative)
        rw [ok_bind, if_pos voters]
        exact ⟨_, List.mem_cons_of_mem _ List.mem_cons_self, rfl⟩
  next missing =>
    have unusedId : (db.polls.any fun other => other.id == context.pollId) = false := by
      rw [List.any_eq_false]
      intro row member same
      exact freshPoll row member (by simpa using same)
    have unusedStatus : (db.polls.any fun other =>
        other.status == PollStatus.remoteStatus statusId) = false := by
      rw [List.any_eq_false]
      exact List.find?_eq_none.mp missing
    have known : (db.remoteStatuses.any fun status => status.1 == statusId) = true := by
      obtain ⟨status, member, same⟩ := referenced
      exact List.any_eq_true.mpr ⟨status, member, by simp [same]⟩
    unfold insertPoll
    simp only [unusedId, unusedStatus, known, Bool.not_true, Bool.false_eq_true, if_false]
    by_cases voters : (input.votersCount.map toI64).any (· < 0) = true
    · rw [if_pos voters]
      exact ⟨_, List.mem_cons_of_mem _ List.mem_cons_self, rfl⟩
    · rw [if_neg voters, ok_bind, options _ _ (either.resolve_right voters)]
      exact ⟨_, List.mem_cons_self, rfl⟩

theorem upsertRemotePoll_counts_iff (least : 2 ≤ input.options.length)
    (most : input.options.length ≤ 500) (entries : ∀ entry ∈ input.options, entry.2 < 2 ^ 64)
    (small : ∀ count ∈ input.votersCount, count < 2 ^ 64)
    (freshPoll : ∀ row ∈ db.polls, row.id ≠ context.pollId)
    (freshJob : ∀ row ∈ db.jobs, row.id ≠ context.jobId)
    (referenced : ∃ status ∈ db.remoteStatuses, status.1 = statusId) :
    (∀ error ∈ countConstraints, upsertRemotePoll db context statusId input ≠ .error error) ↔
      input.CountsFit := by
  constructor
  · intro accepts
    by_contra wide
    obtain ⟨error, listed, failed⟩ :=
      storeRemotePoll_fails entries small wide freshPoll referenced
    refine accepts error listed ?_
    unfold upsertRemotePoll
    rw [if_neg (by omega), failed]
    rfl
  · intro fit error _ failed
    obtain ⟨next, poll, stored, _⟩ := upsertRemotePoll_stores
      ⟨least, most, fit.options, fit.voters⟩ freshPoll freshJob referenced
    cases stored.symm.trans failed

theorem storeRemotePoll_row {stored : PollDb} {pollId : Nat}
    (success : storeRemotePoll db context statusId input = .ok (pollId, stored)) :
    ∃ row ∈ stored.polls, row.id = pollId ∧ row.status = .remoteStatus statusId := by
  simp only [storeRemotePoll] at success
  split at success
  next existing found =>
    obtain ⟨member, status⟩ := findPollRow_some found
    obtain ⟨replaced, replacement, success⟩ := bind_ok success
    obtain ⟨_, success⟩ := guard_ok success
    cases success
    obtain ⟨_, rfl, _⟩ := replaceOptions_ok replacement
    refine ⟨_, Table.mem_updateWhere.mpr (.inr ⟨existing, ?_, beq_self_eq_true _, rfl⟩), rfl,
      status⟩
    dsimp only
    split
    · exact member
    · exact member
  next =>
    obtain ⟨inserted, insertion, success⟩ := bind_ok success
    obtain ⟨replaced, replacement, success⟩ := bind_ok success
    cases success
    obtain ⟨_, rfl⟩ := insertPoll_ok insertion
    obtain ⟨_, rfl, _⟩ := replaceOptions_ok replacement
    exact ⟨_, List.mem_append_right _ (List.mem_singleton_self _), rfl, rfl⟩

theorem upsertRemotePoll_row (sane : Sane next)
    (success : upsertRemotePoll db context statusId input = .ok (next, poll)) :
    ∃ row, findPollRow next (.remoteStatus statusId) = some row ∧ poll = hydratePoll next row ∧
      next.polls.find? (fun other => other.id == poll.id) = some row := by
  obtain ⟨_, success⟩ := guard_ok success
  obtain ⟨⟨pollId, stored⟩, storing, success⟩ := bind_ok success
  obtain ⟨queued, enqueued, success⟩ := bind_ok success
  obtain ⟨row, member, id, status⟩ := storeRemotePoll_row storing
  obtain ⟨jobs, rfl⟩ := enqueueRemoteExpiration_ok enqueued
  obtain rfl := reloadPoll_ok success
  unfold reloadPoll findPollById at success
  simp only at success id
  cases found : stored.polls.find? fun other => other.id == pollId with
  | none =>
      rw [found] at success
      cases success
  | some other =>
      rw [found] at success
      cases success
      have same : other.id = pollId := by simpa using List.find?_some found
      have identical := sane.valid.consistent.eq_of_id (List.mem_of_find?_eq_some found) member
        (same.trans id.symm)
      subst identical
      refine ⟨other, ?_, rfl, ?_⟩
      · rw [← status]
        exact sane.attached.findPollRow member
      · change stored.polls.find? (fun row => row.id == other.id) = some other
        rw [same]
        exact found

theorem upsertRemotePoll_within (sane : Sane next)
    (entries : ∀ entry ∈ input.options, entry.2 < 2 ^ 64)
    (success : upsertRemotePoll db context statusId input = .ok (next, poll)) :
    (∀ option ∈ poll.options, 0 ≤ option.votesCount ∧ option.votesCount ≤ maxCount) ∧
      (∀ count ∈ poll.votersCount, 0 ≤ count) ∧ poll.total = input.total := by
  obtain ⟨content, counts, voters⟩ := upsertRemotePoll_content success
  obtain ⟨row, found, rfl, _⟩ := upsertRemotePoll_row sane success
  unfold PollDb.content at content
  rw [found, Option.map_some] at content
  have same := Option.some.inj content
  have options : (hydratePoll next row).options.map (·.votesCount) =
      input.options.map fun entry => toI64 entry.2 := by
    have pairs := congrArg (fun content : PollContent => content.options.map Prod.snd) same
    simpa [RemoteStatusPoll.content, hydratePoll, Function.comp_def] using pairs
  have votersCount : row.votersCount = input.votersCount.map toI64 :=
    congrArg PollContent.votersCount same
  have exact : ∀ entry ∈ input.options, toI64 entry.2 = entry.2 ∧ toI64 entry.2 ≤ maxCount := by
    intro entry member
    have value := toI64_eq (entries entry member) (counts entry member)
    have nonneg := counts entry member
    have below := not_le.mp fun wide =>
      not_lt.mpr nonneg ((toI64_neg_iff (entries entry member)).mpr wide)
    refine ⟨value, ?_⟩
    unfold maxCount
    omega
  refine ⟨?_, ?_, ?_⟩
  · intro option member
    have listed := List.mem_map_of_mem (f := fun option : PollOption => option.votesCount) member
    rw [options] at listed
    obtain ⟨entry, inside, value⟩ := List.mem_map.mp listed
    rw [← value]
    exact ⟨counts entry inside, (exact entry inside).2⟩
  · intro count counted
    change count ∈ row.votersCount at counted
    rw [votersCount] at counted
    obtain ⟨voted, stored, rfl⟩ := Option.map_eq_some_iff.mp counted
    rw [show input.votersCount = some voted from stored] at voters
    simpa using voters
  · have sums : ∀ entries : List (String × Nat),
        (entries.map fun entry => (entry.2 : Int)).sum = ((entries.map Prod.snd).sum : Nat) := by
      intro entries
      induction entries with
      | nil => rfl
      | cons entry entries ih =>
          rw [List.map_cons, List.map_cons, List.sum_cons, List.sum_cons, ih]
          push_cast
          rfl
    unfold StatusPoll.total RemoteStatusPoll.total
    rw [options, ← sums, List.map_congr_left fun entry member => (exact entry member).1]

theorem within_of_stored (sane : Sane next)
    (entries : ∀ entry ∈ input.options, entry.2 < 2 ^ 64) (fits : input.total < 2 ^ 64)
    (success : upsertRemotePoll db context statusId input = .ok (next, poll)) :
    Within next poll.id := by
  obtain ⟨options, voters, total⟩ := upsertRemotePoll_within sane entries success
  obtain ⟨row, _, rfl, found⟩ := upsertRemotePoll_row sane success
  have member := List.mem_of_find?_eq_some found
  refine ⟨?_, ?_, ?_⟩
  · intro option stored own
    change option.pollId = row.id at own
    refine options ⟨option.position, option.title, option.votesCount⟩ ?_
    refine List.mem_map.mpr ⟨option, (List.mem_insertionSort _).mpr ?_, rfl⟩
    exact List.mem_filter.mpr ⟨stored, by simpa using own⟩
  · intro other stored same
    rw [sane.valid.consistent.eq_of_id stored member same]
    exact voters
  · change pollTotal next row.id < 2 ^ 64
    rw [← total_hydratePoll, total]
    exact_mod_cast fits

end

/-!
## Any document and any votes
-/

/-- A document is refused for its counts exactly when one does not fit, what is stored is
rendered right exactly when its total fits, and it stays so under all votes that have room. -/
theorem poll_counts_in_range (segmentation : Segmentation) (notes : NoteContext)
    (localStatuses remoteStatuses : List (StatusId × AccountId))
    (notifications : List PollNotification) (jobs : List JobRow) (earlier : List Call)
    {note : InboundNote} {input : RemoteStatusPoll}
    (read : remotePollFromNote notes note = .ok (some input))
    (least : 2 ≤ input.options.length) (most : input.options.length ≤ 500)
    (context : Context) (statusId : StatusId) {db : PollDb}
    (reached : (polls segmentation).run
      (PollDb.withoutPolls localStatuses remoteStatuses notifications jobs) earlier = db)
    (freshPoll : ∀ row ∈ db.polls, row.id ≠ context.pollId)
    (freshJob : ∀ row ∈ db.jobs, row.id ≠ context.jobId)
    (referenced : ∃ status ∈ db.remoteStatuses, status.1 = statusId) :
    ((∀ error ∈ countConstraints, upsertRemotePoll db context statusId input ≠ .error error) ↔
        input.CountsFit) ∧
      ∀ next poll, upsertRemotePoll db context statusId input = .ok (next, poll) →
        (poll.InRange ↔ input.total < 2 ^ 64) ∧
        ∀ votes, input.total < 2 ^ 64 →
          (ballots poll.id).Guarded (HasRoom poll.id) next votes →
            (∀ before after, votes = before ++ after → ∀ stored,
              findPollById ((ballots poll.id).run next before) poll.id = some stored →
                stored.InRange) ∧
            ∀ before vote after, votes = before ++ vote :: after →
              ((ballots poll.id).step ((ballots poll.id).run next before) vote).2 ≠
                .error countOverflow := by
  subst reached
  obtain ⟨entries, small⟩ := remotePollFromNote_ok read
  have wide : ∀ entry ∈ input.options, entry.2 < 2 ^ 64 :=
    fun entry member => (entries entry member).2
  refine ⟨upsertRemotePoll_counts_iff least most wide small freshPoll freshJob referenced, ?_⟩
  intro next poll stored
  have saneBefore : Sane _ := (polls segmentation).run_invariant Sane (step_sane segmentation)
    (withoutPolls_sane localStatuses remoteStatuses notifications jobs) earlier
  have sane : Sane next :=
    ⟨upsertRemotePoll_valid saneBefore.valid stored,
      (upsertRemotePoll_effect saneBefore.valid.consistent stored).1.attached saneBefore.attached⟩
  obtain ⟨options, voters, total⟩ := upsertRemotePoll_within sane wide stored
  have rendered := StatusPoll.votesCount_eq_iff options
  rw [total] at rendered
  refine ⟨⟨fun inRange => ?_, fun fits => ?_⟩, fun votes fits guarded =>
    ballots_in_range sane (within_of_stored sane wide fits stored) guarded⟩
  · have fits := inRange.fits
    rw [total] at fits
    exact_mod_cast fits
  · have fits : (input.total : Int) < 2 ^ 64 := by exact_mod_cast fits
    exact ⟨fun option member => (options option member).1, voters, total ▸ fits,
      (rendered.mpr fits).trans total.symm⟩

namespace Survey

def tea : LocalVote := ⟨context 1000000 3, ⟨20⟩, [0]⟩

def stored : PollDb × StatusPoll :=
  ((upsertRemotePoll start (context 0 2) ⟨1⟩ asked).toOption).getD (start, ⟨0, .remoteStatus ⟨1⟩,
    false, false, none, none, none, [], 0⟩)

theorem tea_hasRoom : HasRoom 7 stored.1 tea := by
  intro ballot admitted
  have computed : admitVote stored.1 tea.context.now 7 (some tea.accountId) none tea.choices =
      .ok ⟨⟨7, .remoteStatus ⟨1⟩, false, false, none, none, none, some 8, 0, 0⟩,
        .localAccount ⟨20⟩, [0], []⟩ := by rfl
  cases computed.symm.trans admitted
  refine ⟨?_, by decide +kernel, by decide +kernel⟩
  intro option member own choice chosen
  rw [List.mem_singleton.mp chosen]
  revert option
  decide +kernel

end Survey

open Survey in
theorem asked_counts_in_range :
    (∀ error ∈ countConstraints, upsertRemotePoll start (context 0 2) ⟨1⟩ asked ≠ .error error) ∧
      stored.2.InRange ∧ ((ballots 7).step stored.1 tea).2 ≠ .error countOverflow := by
  have read : remotePollFromNote notes (question [⟨"Tea", 1⟩, ⟨"Coffee", 0⟩]) =
      .ok (some asked) := by decide +kernel
  obtain ⟨counts, later⟩ := poll_counts_in_range ⟨String.length⟩ notes [] [(⟨1⟩, ⟨30⟩)] [] [] []
    read (by decide) (by decide) (context 0 2) ⟨1⟩ rfl (by decide) (by decide)
    ⟨_, List.mem_singleton_self _, rfl⟩
  obtain ⟨exact, votes⟩ := later stored.1 stored.2 (by rfl)
  refine ⟨counts.mpr ⟨by decide, by decide⟩, exact.mpr (by decide), ?_⟩
  have guarded : (ballots 7).Guarded (HasRoom 7) stored.1 [tea] :=
    Machine.guarded_cons tea_hasRoom Machine.guarded_nil
  exact (votes [tea] (by decide) guarded).2 [] tea [] rfl

namespace Survey

def wide : RemoteStatusPoll := ⟨[("Tea", 2 ^ 63), ("Coffee", 0)], false, none, none, some 8⟩

def full : RemoteStatusPoll := ⟨[("Tea", 2 ^ 63 - 1), ("Coffee", 0)], false, none, none, some 8⟩

def heavy : RemoteStatusPoll :=
  ⟨[("Tea", 2 ^ 63 - 1), ("Coffee", 2 ^ 63 - 1), ("Cocoa", 2)], false, none, none, some 8⟩

def upserted (input : RemoteStatusPoll) : Except RoostyError (PollDb × StatusPoll) :=
  upsertRemotePoll start (context 0 2) ⟨1⟩ input

end Survey

open Survey in
/-- A document is refused by a constraint on counts, a vote overflows, and a total wraps. -/
theorem poll_counts_out_of_range :
    (remotePollFromNote notes (question [⟨"Tea", 9223372036854775808⟩, ⟨"Coffee", 0⟩]) =
        .ok (some wide) ∧ ∃ error ∈ countConstraints, upserted wide = .error error) ∧
      (remotePollFromNote notes (question [⟨"Tea", 9223372036854775807⟩, ⟨"Coffee", 0⟩]) =
        .ok (some full) ∧ ∃ next poll, upserted full = .ok (next, poll) ∧
          ((ballots poll.id).step next tea).2 = .error countOverflow) ∧
      remotePollFromNote notes (question [⟨"Tea", 9223372036854775807⟩,
          ⟨"Coffee", 9223372036854775807⟩, ⟨"Cocoa", 2⟩]) = .ok (some heavy) ∧
        ∃ next poll, upserted heavy = .ok (next, poll) ∧ poll.votesCount = 0 ∧
          ¬ poll.InRange := by
  refine ⟨⟨by decide +kernel, _, List.mem_cons_self, by rfl⟩,
    ⟨by decide +kernel, _, _, by rfl, by decide +kernel⟩, by decide +kernel, _, _, by rfl,
      by decide +kernel, ?_⟩
  intro inRange
  exact absurd inRange.fits (by decide +kernel)

end Roosty.Poll
