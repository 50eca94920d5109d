import Roosty.Poll.TallyProperties

/-!
# Effects of the poll operations

What one operation does to the rows of its poll and leaves alone elsewhere, said
once for the invariants that are derived from it.
-/

set_option autoImplicit false

namespace Roosty.Poll

open Library Job

def Voter.localAccount? : Voter → Option AccountId
  | .localAccount id => some id
  | .remoteActor _ => none

/-- The clock, the poll and the voter of a vote. -/
def Call.vote? : Call → Option (Int × Nat × Voter)
  | .voteInPoll context pollId accountId _ => some (context.now, pollId, .localAccount accountId)
  | .recordRemotePollVote context pollId actorId _ _ =>
      some (context.now, pollId, .remoteActor actorId)
  | _ => none

def Call.states? : Call → Option PollStatus
  | .create _ statusId _ => some (.localStatus statusId)
  | .replace _ statusId _ => some (.localStatus statusId)
  | .upsertRemote _ statusId _ => some (.remoteStatus statusId)
  | _ => none

def OptionRow.choice (row : OptionRow) : Nat × Int × String := (row.pollId, row.position, row.title)

structure Quiet (db next : PollDb) : Prop where
  localStatuses : next.localStatuses = db.localStatuses
  remoteStatuses : next.remoteStatuses = db.remoteStatuses
  notifications : next.notifications = db.notifications

theorem Quiet.refl (db : PollDb) : Quiet db db := ⟨rfl, rfl, rfl⟩

theorem Quiet.trans {first second third : PollDb} (left : Quiet first second)
    (right : Quiet second third) : Quiet first third :=
  ⟨right.localStatuses.trans left.localStatuses, right.remoteStatuses.trans left.remoteStatuses,
    right.notifications.trans left.notifications⟩

/-- A poll of a status that had none. -/
structure Inserts (db next : PollDb) (row : PollRow) : Prop where
  polls : ∀ other, other ∈ next.polls ↔ other = row ∨ other ∈ db.polls
  freshId : ∀ other ∈ db.polls, other.id ≠ row.id
  freshStatus : ∀ other ∈ db.polls, other.status ≠ row.status
  referenced : (statusAuthor db row.status).isSome = true
  others : ∀ other, other ≠ row.id → SameRows db next other
  noVotes : ∀ vote ∈ next.votes, vote.pollId ≠ row.id

structure Rewrites (db next : PollDb) (row after : PollRow) : Prop where
  stored : row ∈ db.polls
  sameId : after.id = row.id
  sameStatus : after.status = row.status
  polls : ∀ other, other ∈ next.polls ↔ other = after ∨ other ∈ db.polls ∧ other.id ≠ row.id
  others : ∀ other, other ≠ row.id → SameRows db next other

/-- A poll is deleted with its options and votes. -/
structure Removes (db next : PollDb) (row : PollRow) : Prop where
  stored : row ∈ db.polls
  polls : ∀ other, other ∈ next.polls ↔ other ∈ db.polls ∧ other.id ≠ row.id
  others : ∀ other, other ≠ row.id → SameRows db next other

inductive Effect (db : PollDb) : Call → PollDb → Prop where
  | idle {call} : Effect db call db
  | opened {call next row} (states : call.states? = some row.status) (inserts : Inserts db next row)
      (quiet : Quiet db next) (unsent : row.notificationsSentAt = none) : Effect db call next
  | removed {context statusId next row} (status : row.status = .localStatus statusId)
      (removes : Removes db next row) (quiet : Quiet db next) :
      Effect db (.replace context statusId none) next
  | edited {context statusId input next row after} (status : row.status = .localStatus statusId)
      (rewrites : Rewrites db next row after) (quiet : Quiet db next)
      (reopened : after.closedAt = none) (unsent : after.notificationsSentAt = none)
      (votes : ∀ vote ∈ next.votes, vote ∈ db.votes) :
      Effect db (.replace context statusId (some input)) next
  | refreshed {context statusId input next row after}
      (status : row.status = .remoteStatus statusId) (rewrites : Rewrites db next row after)
      (quiet : Quiet db next) (closed : after.closedAt = input.closedAt)
      (sent : after.notificationsSentAt = row.notificationsSentAt)
      (noVotes : ∀ vote ∈ next.votes, vote.pollId ≠ row.id) :
      Effect db (.upsertRemote context statusId input) next
  | voted {call now voter next row after} {rows : List VoteRow}
      (vote : call.vote? = some (now, row.id, voter)) (closed : row.closedAt = none)
      (running : row.expiresAt.all (now < ·) = true) (rewrites : Rewrites db next row after)
      (quiet : Quiet db next) (multiple : after.multiple = row.multiple)
      (expiresAt : after.expiresAt = row.expiresAt) (closedAt : after.closedAt = row.closedAt)
      (sent : after.notificationsSentAt = row.notificationsSentAt)
      (votes : next.votes = db.votes ++ rows)
      (owned : ∀ vote ∈ rows, vote.pollId = row.id ∧ vote.voter = voter)
      (choices : next.options.map OptionRow.choice = db.options.map OptionRow.choice) :
      Effect db call next
  | ended {context next row after author} {added : List PollNotification}
      (unsent : row.notificationsSentAt = none)
      (due : (row.closedAt.or row.expiresAt).any (context.now < ·) = false)
      (wrote : statusAuthor db row.status = some author) (rewrites : Rewrites db next row after)
      (sent : after.notificationsSentAt.isSome = true) (closed : after.closedAt.isSome = true)
      (multiple : after.multiple = row.multiple)
      (localStatuses : next.localStatuses = db.localStatuses)
      (remoteStatuses : next.remoteStatuses = db.remoteStatuses)
      (options : next.options = db.options) (votes : next.votes = db.votes)
      (notifications : next.notifications = db.notifications ++ added)
      (recipients : added.map (fun notification => notification.accountId.value) =
        expirationRecipients db row author)
      (about : ∀ notification ∈ added, notification.status = row.status) :
      Effect db (.expire context row.id) next

/-!
## Statements
-/

theorem replaceOptions_quiet {db next : PollDb} {pollId : Nat} {options : List (String × Nat)}
    (success : replaceOptions db pollId options = .ok next) : Quiet db next := by
  obtain ⟨_, rfl, _⟩ := replaceOptions_ok success
  exact ⟨rfl, rfl, rfl⟩

private theorem rewrites_updatePoll {db stored : PollDb} (consistent : Consistent db)
    {row : PollRow} (member : row ∈ db.polls) (samePolls : stored.polls = db.polls)
    (others : ∀ other, other ≠ row.id → SameRows db stored other) {change : PollRow → PollRow}
    (keepsId : ∀ row, (change row).id = row.id)
    (keepsStatus : ∀ row, (change row).status = row.status) :
    Rewrites db (updatePoll stored row.id change) row (change row) := by
  refine ⟨member, keepsId row, keepsStatus row, ?_, ?_⟩
  · intro other
    change other ∈ Table.updateWhere _ change stored.polls ↔ _
    rw [samePolls, Table.mem_updateWhere]
    constructor
    · rintro (⟨kept, unselected⟩ | ⟨before, old, chosen, rfl⟩)
      · exact .inr ⟨kept, beq_eq_false_iff_ne.mp unselected⟩
      · rw [consistent.eq_of_id old member (by simpa using chosen)]
        exact .inl rfl
    · rintro (rfl | ⟨kept, different⟩)
      · exact .inr ⟨row, member, beq_self_eq_true _, rfl⟩
      · exact .inl ⟨kept, beq_eq_false_iff_ne.mpr different⟩
  · intro other different
    obtain ⟨options, votes⟩ := others other different
    exact ⟨options, votes⟩

private theorem inserts_insertPoll {db inserted next : PollDb} {row : PollRow}
    {options : List (String × Nat)} (consistent : Consistent db)
    (insertion : insertPoll db row = .ok inserted)
    (replacement : replaceOptions inserted row.id options = .ok next) :
    Inserts db next row ∧ Quiet db next := by
  have consistentInserted := consistent.insertPoll insertion
  obtain ⟨absent, insertion⟩ := guard_ok insertion
  obtain ⟨alone, insertion⟩ := guard_ok insertion
  obtain ⟨_, insertion⟩ := guard_ok insertion
  obtain ⟨referenced, insertion⟩ := guard_ok insertion
  cases insertion
  obtain ⟨_, samePolls, others, emptied, _⟩ :=
    replaceOptions_spec replacement consistentInserted ⟨row, by simp, rfl⟩
  have quiet := replaceOptions_quiet replacement
  refine ⟨⟨?_, ?_, ?_, ?_, ?_, emptied⟩, quiet.localStatuses, quiet.remoteStatuses,
    quiet.notifications⟩
  · intro other
    rw [samePolls, List.mem_append, List.mem_singleton, or_comm]
  · intro other member same
    exact absent (List.any_eq_true.mpr ⟨other, member, by simp [same]⟩)
  · intro other member same
    exact alone (List.any_eq_true.mpr ⟨other, member, by simp [same]⟩)
  · cases status : row.status with
    | localStatus id =>
        rw [status] at referenced
        simpa [statusAuthor, List.find?_isSome] using referenced
    | remoteStatus id =>
        rw [status] at referenced
        simpa [statusAuthor, List.find?_isSome] using referenced
  · intro other different
    obtain ⟨options, votes⟩ := others other different
    exact ⟨options, votes⟩

private theorem Inserts.withJobs {db next : PollDb} {row : PollRow} (inserts : Inserts db next row)
    (jobs : List JobRow) : Inserts db { next with jobs := jobs } row :=
  ⟨inserts.polls, inserts.freshId, inserts.freshStatus, inserts.referenced,
    fun other different => ⟨(inserts.others other different).options,
      (inserts.others other different).votes⟩, inserts.noVotes⟩

private theorem Rewrites.withJobs {db next : PollDb} {row after : PollRow}
    (rewrites : Rewrites db next row after) (jobs : List JobRow) :
    Rewrites db { next with jobs := jobs } row after :=
  ⟨rewrites.stored, rewrites.sameId, rewrites.sameStatus, rewrites.polls,
    fun other different => ⟨(rewrites.others other different).options,
      (rewrites.others other different).votes⟩⟩

/-!
## Operations
-/

theorem createLocalPoll_effect {segmentation : Segmentation} {db next : PollDb} {context : Context}
    {statusId : StatusId} {input : NewStatusPoll} {poll : StatusPoll} (consistent : Consistent db)
    (success : createLocalPoll segmentation db context statusId input = .ok (next, poll)) :
    ∃ row, row.status = .localStatus statusId ∧ row.notificationsSentAt = none ∧
      Inserts db next row ∧ Quiet db next := by
  obtain ⟨_, _, success⟩ := bind_ok success
  obtain ⟨inserted, insertion, success⟩ := bind_ok success
  obtain ⟨replaced, replacement, success⟩ := bind_ok success
  obtain ⟨queued, enqueued, success⟩ := bind_ok success
  obtain ⟨jobs, rfl⟩ := enqueuePollExpiration_ok enqueued
  obtain ⟨inserts, quiet⟩ := inserts_insertPoll consistent insertion replacement
  rw [reloadPoll_ok success]
  exact ⟨_, rfl, rfl, inserts.withJobs jobs, quiet.localStatuses, quiet.remoteStatuses,
    quiet.notifications⟩

private theorem removes_deletePoll {db : PollDb} {row : PollRow} (member : row ∈ db.polls) :
    Removes db (deletePoll db row.id) row := by
  refine ⟨member, fun other => ?_, fun other different => ⟨?_, ?_⟩⟩
  · simp [deletePoll]
  · exact filter_deleteWhere_other OptionRow.pollId different
      fun option selected => by simpa using selected
  · exact filter_deleteWhere_other VoteRow.pollId different
      fun vote selected => by simpa using selected

private theorem resetChoices_effect {db next : PollDb} {row : PollRow} {changed : Bool}
    {options : List String} (consistent : Consistent db) (member : row ∈ db.polls)
    (success : resetChoices db row.id changed options = .ok next) :
    next.polls = db.polls ∧ (∀ other, other ≠ row.id → SameRows db next other) ∧
      Quiet db next ∧ ∀ vote ∈ next.votes, vote ∈ db.votes := by
  cases changed with
  | false =>
      rw [resetChoices, if_neg Bool.false_ne_true] at success
      cases success
      exact ⟨rfl, fun other _ => SameRows.refl db other, Quiet.refl db, fun vote kept => kept⟩
  | true =>
      rw [resetChoices, if_pos rfl] at success
      obtain ⟨_, samePolls, others, _, _⟩ := replaceOptions_spec success
        (consistent.deleteVotes row.id) ⟨row, member, rfl⟩
      refine ⟨samePolls, ?_, ?_, ?_⟩
      · intro other different
        exact (deleteVotes_others db different).trans (others other different)
      · have quiet := replaceOptions_quiet success
        exact ⟨quiet.localStatuses, quiet.remoteStatuses, quiet.notifications⟩
      · intro vote kept
        obtain ⟨_, rfl, _⟩ := replaceOptions_ok success
        exact (Table.mem_deleteWhere.mp (Table.mem_deleteWhere.mp kept).1).1

private theorem Removes.unsent {db next : PollDb} {row : PollRow} (removes : Removes db next row)
    (attached : ∀ left ∈ db.polls, ∀ right ∈ db.polls, left.status = right.status → left = right) :
    ∀ other ∈ next.polls, other.status = row.status → other.notificationsSentAt = none := by
  intro other member status
  obtain ⟨old, different⟩ := (removes.polls other).mp member
  exact absurd (congrArg PollRow.id (attached other old row removes.stored status)) different

private theorem Rewrites.unsent {db next : PollDb} {row after : PollRow}
    (rewrites : Rewrites db next row after) (fresh : after.notificationsSentAt = none)
    (attached : ∀ left ∈ db.polls, ∀ right ∈ db.polls, left.status = right.status → left = right) :
    ∀ other ∈ next.polls, other.status = row.status → other.notificationsSentAt = none := by
  intro other member status
  rcases (rewrites.polls other).mp member with rfl | ⟨old, different⟩
  · exact fresh
  · exact absurd (congrArg PollRow.id (attached other old row rewrites.stored status)) different

private theorem Inserts.unsent {db next : PollDb} {row : PollRow} (inserts : Inserts db next row)
    (fresh : row.notificationsSentAt = none) :
    ∀ other ∈ next.polls, other.status = row.status → other.notificationsSentAt = none := by
  intro other member status
  rcases (inserts.polls other).mp member with rfl | old
  · exact fresh
  · exact absurd status (inserts.freshStatus other old)

private def editRow (context : Context) (input : NewStatusPoll) (votersCount : Option Int)
    (row : PollRow) : PollRow :=
  { row with
    multiple := input.multiple
    hideTotals := input.hideTotals
    expiresAt := some (context.now + input.expiresIn * 1000000)
    closedAt := none
    notificationsSentAt := none
    votersCount := votersCount
    updatedAt := context.now }

private def votersAfter (db : PollDb) (existing : PollRow) (input : NewStatusPoll) : Option Int :=
  if (existing.multiple != input.multiple ||
      (pollOptions db existing.id).map (·.title) != input.options.map Text.trim) = true then some 0
  else existing.votersCount

theorem replaceLocalPoll_effect {segmentation : Segmentation} {db next : PollDb}
    {context : Context} {statusId : StatusId} {input : Option NewStatusPoll}
    {poll : Option StatusPoll} (consistent : Consistent db)
    (success : replaceLocalPoll segmentation db context statusId input = .ok (next, poll)) :
    Effect db (.replace context statusId input) next ∧
      ((∀ left ∈ db.polls, ∀ right ∈ db.polls, left.status = right.status → left = right) →
        ∀ row ∈ next.polls, row.status = .localStatus statusId →
          row.notificationsSentAt = none) := by
  simp only [replaceLocalPoll] at success
  cases input with
  | none =>
      cases found : findPollRow db (.localStatus statusId) with
      | none =>
          simp only [found] at success
          cases success
          refine ⟨.idle, fun _ row member status => ?_⟩
          have absent := List.find?_eq_none.mp found row member
          simp [status] at absent
      | some existing =>
          simp only [found] at success
          cases success
          obtain ⟨member, status⟩ := findPollRow_some found
          have removes := removes_deletePoll member
          exact ⟨.removed status removes ⟨rfl, rfl, rfl⟩, status ▸ removes.unsent⟩
  | some input =>
      cases found : findPollRow db (.localStatus statusId) with
      | none =>
          simp only [found] at success
          obtain ⟨_, _, success⟩ := bind_ok success
          obtain ⟨created, creation, success⟩ := bind_ok success
          cases success
          obtain ⟨row, status, unsent, inserts, quiet⟩ := createLocalPoll_effect consistent creation
          exact ⟨.opened (by rw [status]; rfl) inserts quiet unsent,
            fun _ => status ▸ inserts.unsent unsent⟩
      | some existing =>
          simp only [found] at success
          obtain ⟨member, status⟩ := findPollRow_some found
          obtain ⟨_, _, success⟩ := bind_ok success
          obtain ⟨reset, resetting, success⟩ := bind_ok success
          obtain ⟨queued, enqueued, success⟩ := bind_ok success
          obtain ⟨jobs, rfl⟩ := enqueuePollExpiration_ok enqueued
          cases success
          obtain ⟨samePolls, others, quiet, votes⟩ :=
            resetChoices_effect consistent member resetting
          have rewrites := (rewrites_updatePoll consistent member samePolls others
            (fun row => (rfl : (editRow context input (votersAfter db existing input) row).id =
              row.id)) fun _ => rfl).withJobs jobs
          exact ⟨.edited status rewrites
              ⟨quiet.localStatuses, quiet.remoteStatuses, quiet.notifications⟩ rfl rfl votes,
            status ▸ rewrites.unsent rfl⟩

theorem enqueueRemoteExpiration_ok {db next : PollDb} {context : Context} {pollId : Nat}
    {due : Option Int} (success : enqueueRemoteExpiration db context pollId due = .ok next) :
    ∃ jobs, next = { db with jobs := jobs } := by
  cases due with
  | none =>
      cases success
      exact ⟨db.jobs, rfl⟩
  | some expiresAt => exact enqueuePollExpiration_ok success

theorem upsertRemotePoll_ok {db next : PollDb} {context : Context} {statusId : StatusId}
    {input : RemoteStatusPoll} {poll : StatusPoll}
    (success : upsertRemotePoll db context statusId input = .ok (next, poll)) :
    ∃ pollId stored jobs, storeRemotePoll db context statusId input = .ok (pollId, stored) ∧
      next = { stored with jobs := jobs } := by
  obtain ⟨_, success⟩ := guard_ok success
  obtain ⟨⟨pollId, stored⟩, storing, success⟩ := bind_ok success
  obtain ⟨queued, enqueued, success⟩ := bind_ok success
  obtain ⟨jobs, rfl⟩ := enqueueRemoteExpiration_ok enqueued
  exact ⟨pollId, stored, jobs, storing, reloadPoll_ok success⟩

private def refreshRow (context : Context) (input : RemoteStatusPoll) (row : PollRow) : PollRow :=
  { row with
    multiple := input.multiple
    expiresAt := input.expiresAt
    closedAt := input.closedAt
    votersCount := input.votersCount.map toI64
    updatedAt := context.now }

theorem upsertRemotePoll_effect {db next : PollDb} {context : Context} {statusId : StatusId}
    {input : RemoteStatusPoll} {poll : StatusPoll} (consistent : Consistent db)
    (success : upsertRemotePoll db context statusId input = .ok (next, poll)) :
    Effect db (.upsertRemote context statusId input) next ∧
      ∃ poll ∈ next.polls, poll.status = .remoteStatus statusId ∧
        ∀ vote ∈ next.votes, vote.pollId ≠ poll.id := by
  obtain ⟨pollId, stored, jobs, storing, rfl⟩ := upsertRemotePoll_ok success
  simp only [storeRemotePoll] at storing
  cases found : findPollRow db (.remoteStatus statusId) with
  | none =>
      simp only [found] at storing
      obtain ⟨inserted, insertion, storing⟩ := bind_ok storing
      obtain ⟨replaced, replacement, storing⟩ := bind_ok storing
      cases storing
      obtain ⟨inserts, quiet⟩ := inserts_insertPoll consistent insertion replacement
      exact ⟨.opened rfl (inserts.withJobs jobs)
          ⟨quiet.localStatuses, quiet.remoteStatuses, quiet.notifications⟩ rfl,
        _, (inserts.polls _).mpr (.inl rfl), rfl, inserts.noVotes⟩
  | some existing =>
      simp only [found] at storing
      obtain ⟨member, status⟩ := findPollRow_some found
      obtain ⟨replaced, replacement, storing⟩ := bind_ok storing
      obtain ⟨_, storing⟩ := guard_ok storing
      cases storing
      generalize resetting : (if (existing.multiple != input.multiple ||
        (pollOptions db existing.id).map (·.title) != input.options.map Prod.fst) = true then
          deleteVotes db existing.id else db) = reset at replacement
      have kept : Consistent reset ∧ reset.polls = db.polls ∧ Quiet db reset ∧
          ∀ other, other ≠ existing.id → SameRows db reset other := by
        rw [← resetting]
        split
        · exact ⟨consistent.deleteVotes existing.id, rfl, ⟨rfl, rfl, rfl⟩,
            fun other different => deleteVotes_others db different⟩
        · exact ⟨consistent, rfl, Quiet.refl db, fun other _ => SameRows.refl db other⟩
      obtain ⟨consistentReset, resetPolls, quietReset, resetOthers⟩ := kept
      obtain ⟨_, samePolls, others, emptied, _⟩ := replaceOptions_spec replacement
        consistentReset ⟨existing, by rw [resetPolls]; exact member, rfl⟩
      have quiet := quietReset.trans (replaceOptions_quiet replacement)
      have rewrites := rewrites_updatePoll consistent member (samePolls.trans resetPolls)
        (fun other different => (resetOthers other different).trans (others other different))
        (fun row => (rfl : (refreshRow context input row).id = row.id)) fun _ => rfl
      exact ⟨.refreshed status (rewrites.withJobs jobs)
          ⟨quiet.localStatuses, quiet.remoteStatuses, quiet.notifications⟩ rfl rfl emptied,
        _, (rewrites.polls _).mpr (.inl rfl), rewrites.sameStatus.trans status, emptied⟩

private theorem castChoices_choices {context : Context} {pollId : Nat} {voter : Voter}
    {activitypubId : Option String} {db next : PollDb} {choices : List UInt32}
    (success : castChoices context pollId voter activitypubId db choices = .ok next) :
    next.options.map OptionRow.choice = db.options.map OptionRow.choice ∧ Quiet db next := by
  induction choices generalizing db with
  | nil =>
      cases success
      exact ⟨rfl, Quiet.refl _⟩
  | cons choice choices ih =>
      obtain ⟨middle, cast, success⟩ := bind_ok success
      obtain ⟨kept, quiet⟩ := ih success
      obtain ⟨row, inserted, option, _, _, insertion, _, rfl⟩ := castChoice_ok cast
      obtain ⟨rfl, _⟩ := insertVote_ok insertion
      refine ⟨kept.trans ?_, quiet.localStatuses, quiet.remoteStatuses, quiet.notifications⟩
      exact Table.map_updateWhere fun other _ _ => rfl

theorem admitVote_open {db : PollDb} {now : Int} {pollId : Nat}
    {localAccountId remoteActorId : Option AccountId} {choices : List UInt32} {ballot : Ballot}
    (success : admitVote db now pollId localAccountId remoteActorId choices = .ok ballot) :
    ballot.poll.closedAt = none ∧ ballot.poll.expiresAt.all (now < ·) = true ∧
      voterIdentity localAccountId remoteActorId = .ok ballot.voter := by
  simp only [admitVote] at success
  split at success
  · cases success
  next model found =>
    obtain ⟨running, success⟩ := guard_ok success
    obtain ⟨_, success⟩ := guard_ok success
    obtain ⟨_, success⟩ := guard_ok success
    obtain ⟨voter, identity, success⟩ := bind_ok success
    obtain ⟨_, success⟩ := guard_ok success
    obtain ⟨_, success⟩ := guard_ok success
    obtain ⟨_, success⟩ := guard_ok success
    cases success
    simp only [Bool.or_eq_true, not_or, Bool.not_eq_true, Option.isSome_eq_false_iff,
      Option.isNone_iff_eq_none] at running
    refine ⟨running.1, ?_, identity⟩
    cases due : model.expiresAt with
    | none => rfl
    | some expiresAt =>
        have later := running.2
        rw [due] at later
        simpa using later

theorem vote_effect {db next : PollDb} {context : Context} {pollId : Nat}
    {localAccountId remoteActorId : Option AccountId} {choices : List UInt32}
    {activitypubId : Option String} {poll : StatusPoll} (consistent : Consistent db) {call : Call}
    (casts : ∀ voter, voterIdentity localAccountId remoteActorId = .ok voter →
      call.vote? = some (context.now, pollId, voter))
    (success : vote db context pollId localAccountId remoteActorId choices activitypubId =
      .ok (next, poll)) : Effect db call next := by
  obtain ⟨ballot, admitted, success⟩ := bind_ok success
  obtain ⟨stored, casting, success⟩ := bind_ok success
  obtain ⟨_, success⟩ := guard_ok success
  obtain ⟨member, rfl, _⟩ := admitVote_ok admitted
  obtain ⟨closed, running, identity⟩ := admitVote_open admitted
  obtain ⟨kept, quiet⟩ := castChoices_choices casting
  have cast := castChoices_castBy consistent casting
  obtain ⟨rows, votes, _, owned⟩ := cast.rows
  rw [reloadPoll_ok success]
  exact .voted (casts _ identity) closed running
    (rewrites_updatePoll consistent member cast.polls cast.others (fun _ => rfl) (fun _ => rfl))
    ⟨quiet.localStatuses, quiet.remoteStatuses, quiet.notifications⟩ rfl rfl rfl rfl votes owned
    kept

theorem expirePoll_effect {db next : PollDb} {context : Context} {pollId : Nat}
    {expiration : Option PollExpiration} (consistent : Consistent db)
    (success : expirePoll db context pollId = .ok (next, expiration)) :
    Effect db (.expire context pollId) next := by
  simp only [expirePoll] at success
  split at success
  · cases success
    exact .idle
  next model found =>
    have member := List.mem_of_find?_eq_some found
    have sameId : model.id = pollId := by simpa using List.find?_some found
    subst sameId
    split at success
    · cases success
      exact .idle
    next due =>
      split at success
      · cases success
        exact .idle
      next unsent =>
        split at success
        · cases success
        next author wrote =>
          split at success
          · cases success
            refine .ended (by simpa using unsent) (Bool.eq_false_iff.mpr due) wrote
              (rewrites_updatePoll consistent member ?_ (fun other _ => ⟨?_, ?_⟩) ?_ ?_)
              rfl ?_ rfl rfl rfl rfl rfl rfl ?_ ?_
            iterate 3 rfl
            iterate 2 exact fun _ => rfl
            · cases model.closedAt <;> cases model.expiresAt <;> rfl
            · rw [List.map_map]
              exact List.map_id _
            · intro notification sent
              obtain ⟨_, _, rfl⟩ := List.mem_map.mp sent
              rfl
          · cases success

theorem commit_ok {ε α : Type} {db : PollDb} {result : Except ε (PollDb × α)}
    (committed : (commit db result).2 = true) :
    ∃ value, result = .ok ((commit db result).1, value) := by
  cases result with
  | error error => cases committed
  | ok value => exact ⟨value.2, rfl⟩

theorem commit_error {ε α : Type} {db : PollDb} {result : Except ε (PollDb × α)}
    (refused : (commit db result).2 = false) : (commit db result).1 = db := by
  cases result with
  | error error => rfl
  | ok value => cases refused

private theorem effect_commit {ε α : Type} {db : PollDb} {call : Call}
    {result : Except ε (PollDb × α)}
    (kept : ∀ next value, result = .ok (next, value) → Effect db call next) :
    Effect db call (commit db result).1 := by
  cases result with
  | error error => exact .idle
  | ok value => exact kept value.1 value.2 rfl

theorem step_effect (segmentation : Segmentation) {db : PollDb} (consistent : Consistent db)
    (call : Call) : Effect db call ((polls segmentation).step db call).1 := by
  cases call with
  | create context statusId input =>
      refine effect_commit fun next poll success => ?_
      obtain ⟨row, status, unsent, inserts, quiet⟩ := createLocalPoll_effect consistent success
      exact .opened (by rw [status]; rfl) inserts quiet unsent
  | voteInPoll context pollId accountId choices =>
      refine effect_commit fun next poll success => vote_effect consistent ?_ success
      intro voter identity
      cases identity
      rfl
  | recordRemotePollVote context pollId actorId choice activitypubId =>
      refine effect_commit fun next poll success => vote_effect consistent ?_ success
      intro voter identity
      cases identity
      rfl
  | replace context statusId input =>
      exact effect_commit fun next poll success => (replaceLocalPoll_effect consistent success).1
  | upsertRemote context statusId input =>
      exact effect_commit fun next poll success => (upsertRemotePoll_effect consistent success).1
  | expire context pollId =>
      exact effect_commit fun next poll success => expirePoll_effect consistent success

/-!
## One poll for a status
-/

structure Attached (db : PollDb) : Prop where
  unique : ∀ left ∈ db.polls, ∀ right ∈ db.polls, left.status = right.status → left = right
  author : ∀ poll ∈ db.polls, (statusAuthor db poll.status).isSome = true

theorem Attached.findPollRow {db : PollDb} (attached : Attached db) {poll : PollRow}
    (member : poll ∈ db.polls) : findPollRow db poll.status = some poll := by
  have some : (Poll.findPollRow db poll.status).isSome = true :=
    List.find?_isSome.mpr ⟨poll, member, beq_self_eq_true _⟩
  obtain ⟨found, finding⟩ := Option.isSome_iff_exists.mp some
  obtain ⟨foundMember, status⟩ := findPollRow_some finding
  rw [finding, attached.unique found foundMember poll member status]

theorem statusAuthor_congr {db next : PollDb} (localStatuses : next.localStatuses = db.localStatuses)
    (remoteStatuses : next.remoteStatuses = db.remoteStatuses) (status : PollStatus) :
    statusAuthor next status = statusAuthor db status := by
  cases status with
  | localStatus id => rw [statusAuthor, statusAuthor, localStatuses]
  | remoteStatus id => rw [statusAuthor, statusAuthor, remoteStatuses]

theorem Effect.authors {db next : PollDb} {call : Call} (effect : Effect db call next)
    (status : PollStatus) : statusAuthor next status = statusAuthor db status := by
  cases effect with
  | idle => rfl
  | opened _ _ quiet => exact statusAuthor_congr quiet.localStatuses quiet.remoteStatuses status
  | removed _ _ quiet => exact statusAuthor_congr quiet.localStatuses quiet.remoteStatuses status
  | edited _ _ quiet => exact statusAuthor_congr quiet.localStatuses quiet.remoteStatuses status
  | refreshed _ _ quiet => exact statusAuthor_congr quiet.localStatuses quiet.remoteStatuses status
  | voted _ _ _ _ quiet => exact statusAuthor_congr quiet.localStatuses quiet.remoteStatuses status
  | ended _ _ _ _ _ _ _ localStatuses remoteStatuses =>
      exact statusAuthor_congr localStatuses remoteStatuses status

private theorem Attached.rewrites {db next : PollDb} {row after : PollRow} (attached : Attached db)
    (rewrites : Rewrites db next row after)
    (authors : ∀ status, statusAuthor next status = statusAuthor db status) : Attached next := by
  refine ⟨?_, ?_⟩
  · intro left leftMember right rightMember same
    rcases (rewrites.polls left).mp leftMember with rfl | ⟨leftOld, leftOther⟩ <;>
      rcases (rewrites.polls right).mp rightMember with rfl | ⟨rightOld, rightOther⟩
    · rfl
    · rw [rewrites.sameStatus] at same
      rw [attached.unique row rewrites.stored right rightOld same] at rightOther
      exact absurd rfl rightOther
    · rw [rewrites.sameStatus] at same
      rw [attached.unique left leftOld row rewrites.stored same] at leftOther
      exact absurd rfl leftOther
    · exact attached.unique left leftOld right rightOld same
  · intro poll member
    rw [authors]
    rcases (rewrites.polls poll).mp member with rfl | ⟨old, _⟩
    · rw [rewrites.sameStatus]
      exact attached.author row rewrites.stored
    · exact attached.author poll old

theorem Effect.attached {db next : PollDb} {call : Call} (effect : Effect db call next)
    (attached : Attached db) : Attached next := by
  have authors := effect.authors
  cases effect with
  | idle => exact attached
  | opened _ inserts =>
      refine ⟨?_, ?_⟩
      · intro left leftMember right rightMember same
        rcases (inserts.polls left).mp leftMember with rfl | leftOld <;>
          rcases (inserts.polls right).mp rightMember with rfl | rightOld
        · rfl
        · exact absurd same.symm (inserts.freshStatus right rightOld)
        · exact absurd same (inserts.freshStatus left leftOld)
        · exact attached.unique left leftOld right rightOld same
      · intro poll member
        rw [authors]
        rcases (inserts.polls poll).mp member with rfl | old
        · exact inserts.referenced
        · exact attached.author poll old
  | removed _ removes =>
      refine ⟨?_, ?_⟩
      · intro left leftMember right rightMember same
        exact attached.unique left ((removes.polls left).mp leftMember).1 right
          ((removes.polls right).mp rightMember).1 same
      · intro poll member
        rw [authors]
        exact attached.author poll ((removes.polls poll).mp member).1
  | edited _ rewrites => exact attached.rewrites rewrites authors
  | refreshed _ rewrites => exact attached.rewrites rewrites authors
  | voted _ _ _ rewrites => exact attached.rewrites rewrites authors
  | ended _ _ _ rewrites => exact attached.rewrites rewrites authors

/-- The states that the machine reaches from a database without polls. -/
structure Sane (db : PollDb) : Prop where
  valid : Valid db
  attached : Attached db

theorem step_sane (segmentation : Segmentation) (db : PollDb) (call : Call) (sane : Sane db) :
    Sane ((polls segmentation).step db call).1 :=
  ⟨step_valid segmentation db call sane.valid,
    (step_effect segmentation sane.valid.consistent call).attached sane.attached⟩

theorem withoutPolls_sane (localStatuses remoteStatuses : List (StatusId × AccountId))
    (notifications : List PollNotification) (jobs : List JobRow) :
    Sane (PollDb.withoutPolls localStatuses remoteStatuses notifications jobs) := by
  refine ⟨withoutPolls_valid localStatuses remoteStatuses notifications jobs, ?_, ?_⟩ <;>
    intro _ member <;> cases member

end Roosty.Poll
