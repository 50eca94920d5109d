import Roosty.Poll.Effects

/-!
# The end of a poll

Votes, edits, newer documents and executions of expiration jobs, in any order and
at any times. The accounts that were told about a poll since its last local edit
are recorded beside the tables.
-/

set_option autoImplicit false

namespace Roosty.Poll

open Library Job

def Call.now : Call → Int
  | .create context _ _ => context.now
  | .voteInPoll context _ _ _ => context.now
  | .recordRemotePollVote context _ _ _ _ => context.now
  | .replace context _ _ => context.now
  | .upsertRemote context _ _ => context.now
  | .expire context _ => context.now

def Call.edits? : Call → Option PollStatus
  | .replace _ statusId _ => some (.localStatus statusId)
  | _ => none

def Call.renews? : Call → Option PollStatus
  | .replace _ statusId _ => some (.localStatus statusId)
  | .upsertRemote _ statusId _ => some (.remoteStatus statusId)
  | _ => none

/-- The end time of a poll: `closed`, else `endTime`. -/
def PollRow.endsAt (row : PollRow) : Option Int := row.closedAt.or row.expiresAt

def PollRow.Pending (row : PollRow) (now : Int) : Prop := ∀ endsAt ∈ row.endsAt, now < endsAt

def PollRow.Open (row : PollRow) (now : Int) : Prop :=
  row.closedAt = none ∧ row.expiresAt.all (now < ·) = true

instance (row : PollRow) (now : Int) : Decidable (row.Open now) :=
  inferInstanceAs (Decidable (_ ∧ _))

def announced (before after : PollDb) (status : PollStatus) : List AccountId :=
  ((after.notifications.drop before.notifications.length).filter fun notification =>
    notification.status == status).map (·.accountId)

/-- The tables, and the accounts that were notified about the poll of each status since
its last local edit. -/
structure Watch where
  db : PollDb
  sent : PollStatus → List AccountId

def Watch.start (localStatuses remoteStatuses : List (StatusId × AccountId))
    (notifications : List PollNotification) (jobs : List JobRow) : Watch :=
  ⟨PollDb.withoutPolls localStatuses remoteStatuses notifications jobs, fun _ => []⟩

/-- An edit starts the record of its status anew; everything else adds to it. -/
def Watch.record (watch : Watch) (call : Call) (next : PollDb) (committed : Bool) : Watch where
  db := next
  sent status :=
    if committed && call.edits? == some status then []
    else watch.sent status ++ announced watch.db next status

def watched (segmentation : Segmentation) : Machine Watch Call Bool where
  step watch call :=
    let (next, committed) := (polls segmentation).step watch.db call
    (watch.record call next committed, committed)

/-- No job executes a poll that has neither been announced nor an end time, and no account
first votes in a poll that runs again after it was announced. -/
def Admissible (watch : Watch) : Call → Prop
  | .expire _ pollId => ∀ row ∈ watch.db.polls, row.id = pollId →
      row.notificationsSentAt = none → row.endsAt ≠ none
  | .voteInPoll context pollId accountId _ => ∀ row ∈ watch.db.polls, row.id = pollId →
      row.Open context.now → row.notificationsSentAt ≠ none → accountId ∈ watch.sent row.status
  | _ => True

instance (watch : Watch) (call : Call) : Decidable (Admissible watch call) := by
  cases call <;> unfold Admissible <;> infer_instance

structure Law (segmentation : Segmentation) (watch : Watch) (call : Call) : Prop where
  once : ∀ status, (((watched segmentation).step watch call).1.sent status).Nodup
  /-- A poll whose end time is absent or ahead is neither announced nor closed. Only a
  document may state that it is closed. -/
  early : ∀ row ∈ watch.db.polls, row.Pending call.now →
    announced watch.db ((watched segmentation).step watch call).1.db row.status = [] ∧
      ∀ after ∈ ((watched segmentation).step watch call).1.db.polls, after.id = row.id →
        after.closedAt.isSome = true → row.closedAt.isSome = true ∨
          ∃ context statusId input, call = .upsertRemote context statusId input ∧
            after.closedAt = input.closedAt
  /-- A job that runs after the end time leaves every local voter and the local author
  notified, and no vote is accepted from then on until the poll is renewed. -/
  final : ∀ context pollId, call = .expire context pollId → ∀ row ∈ watch.db.polls,
    row.id = pollId → (∃ endsAt ∈ row.endsAt, endsAt ≤ context.now) →
    (∀ vote ∈ ((watched segmentation).step watch call).1.db.votes, vote.pollId = pollId →
      ∀ account, vote.voter = .localAccount account →
        account ∈ ((watched segmentation).step watch call).1.sent row.status) ∧
    (∀ statusId author, row.status = .localStatus statusId →
      statusAuthor watch.db row.status = some author →
        author ∈ ((watched segmentation).step watch call).1.sent row.status) ∧
    ∀ later vote, (∀ other ∈ later, other.renews? ≠ some row.status) → ∀ now voter,
      vote.vote? = some (now, pollId, voter) → context.now ≤ now →
        ((watched segmentation).step ((watched segmentation).run
          ((watched segmentation).step watch call).1 later) vote).2 = false

/-!
## Notifications of a step
-/

theorem announced_quiet {db next : PollDb} (quiet : Quiet db next) (status : PollStatus) :
    announced db next status = [] := by
  unfold announced
  rw [quiet.notifications, List.drop_length]
  rfl

section

variable {db next : PollDb} {row : PollRow} {added : List PollNotification}

theorem announced_ended (notifications : next.notifications = db.notifications ++ added)
    (about : ∀ notification ∈ added, notification.status = row.status) :
    announced db next row.status = added.map (·.accountId) := by
  unfold announced
  rw [notifications, List.drop_left]
  congr 1
  apply List.filter_eq_self.mpr
  intro notification member
  rw [about notification member, beq_self_eq_true]

theorem announced_other (notifications : next.notifications = db.notifications ++ added)
    (about : ∀ notification ∈ added, notification.status = row.status) {status : PollStatus}
    (different : status ≠ row.status) : announced db next status = [] := by
  unfold announced
  rw [notifications, List.drop_left, List.map_eq_nil_iff, List.filter_eq_nil_iff]
  intro notification member
  rw [about notification member]
  simpa using different.symm

end

private theorem mem_localVoters {votes : List VoteRow} {pollId value : Nat}
    {name : VoteRow → Option Nat}
    (named : ∀ vote id, vote.voter = .localAccount id → name vote = some id.value)
    (unnamed : ∀ vote id, vote.voter = .remoteActor id → name vote = none) :
    value ∈ (votes.filter fun vote => vote.pollId == pollId).filterMap name ↔
      ∃ vote ∈ votes, vote.pollId = pollId ∧ vote.voter = .localAccount ⟨value⟩ := by
  rw [List.mem_filterMap]
  constructor
  · rintro ⟨vote, member, found⟩
    obtain ⟨stored, owner⟩ := List.mem_filter.mp member
    cases voter : vote.voter with
    | localAccount id =>
        rw [named vote id voter] at found
        cases found
        exact ⟨vote, stored, by simpa using owner, voter⟩
    | remoteActor id =>
        rw [unnamed vote id voter] at found
        cases found
  · rintro ⟨vote, stored, owner, voter⟩
    exact ⟨vote, List.mem_filter.mpr ⟨stored, by simpa using owner⟩, named vote _ voter⟩

theorem mem_expirationRecipients {db : PollDb} {row : PollRow} {author : AccountId} {value : Nat} :
    value ∈ expirationRecipients db row author ↔
      (∃ vote ∈ db.votes, vote.pollId = row.id ∧ vote.voter = .localAccount ⟨value⟩) ∨
        (row.status.isLocal = true ∧ value = author.value) := by
  unfold expirationRecipients
  rw [mem_sortDedup]
  cases status : row.status with
  | localStatus id =>
      rw [List.mem_append, List.mem_singleton]
      simp only [PollStatus.isLocal, true_and]
      exact or_congr (mem_localVoters (fun _ _ voter => by rw [voter]) fun _ _ voter => by rw [voter])
        Iff.rfl
  | remoteStatus id =>
      simp only [PollStatus.isLocal, Bool.false_eq_true, false_and, or_false]
      exact mem_localVoters (fun _ _ voter => by rw [voter]) fun _ _ voter => by rw [voter]

/-!
## The record
-/

structure Announced (watch : Watch) : Prop where
  sane : Sane watch.db
  known : ∀ status, watch.sent status ≠ [] →
    ∃ row ∈ watch.db.polls, row.status = status ∧ row.notificationsSentAt.isSome = true
  nodup : ∀ status, (watch.sent status).Nodup
  voters : ∀ row ∈ watch.db.polls, row.notificationsSentAt.isSome = true →
    ∀ vote ∈ watch.db.votes, vote.pollId = row.id →
      ∀ account, vote.voter = .localAccount account → account ∈ watch.sent row.status
  author : ∀ row ∈ watch.db.polls, row.notificationsSentAt.isSome = true →
    ∀ statusId author, row.status = .localStatus statusId →
      statusAuthor watch.db row.status = some author → author ∈ watch.sent row.status

theorem Announced.unsent {watch : Watch} (holds : Announced watch) {row : PollRow}
    (member : row ∈ watch.db.polls) (unsent : row.notificationsSentAt = none) :
    watch.sent row.status = [] := by
  by_contra some
  obtain ⟨other, otherMember, status, sent⟩ := holds.known row.status some
  rw [holds.sane.attached.unique other otherMember row member status, unsent] at sent
  cases sent

theorem edit_unsent (segmentation : Segmentation) {db : PollDb} (sane : Sane db) {call : Call}
    {status : PollStatus} (edits : call.edits? = some status)
    (committed : ((polls segmentation).step db call).2 = true) :
    ∀ row ∈ ((polls segmentation).step db call).1.polls, row.status = status →
      row.notificationsSentAt = none := by
  cases call with
  | replace context statusId input =>
      cases edits
      obtain ⟨poll, success⟩ := commit_ok committed
      exact (replaceLocalPoll_effect sane.valid.consistent success).2 sane.attached.unique
  | create => cases edits
  | voteInPoll => cases edits
  | recordRemotePollVote => cases edits
  | upsertRemote => cases edits
  | expire => cases edits

theorem watched_eq (segmentation : Segmentation) (watch : Watch) (call : Call) :
    (watched segmentation).step watch call =
      (watch.record call ((polls segmentation).step watch.db call).1
        ((polls segmentation).step watch.db call).2, ((polls segmentation).step watch.db call).2) :=
  rfl

section

variable {watch : Watch} {call : Call} {next : PollDb} {status : PollStatus}

theorem record_refused (watch : Watch) (call : Call) : watch.record call watch.db false = watch := by
  obtain ⟨db, sent⟩ := watch
  have recorded (status : PollStatus) : sent status ++ announced db db status = sent status := by
    rw [announced_quiet (Quiet.refl db), List.append_nil]
  simp only [Watch.record, Bool.false_and, Bool.false_eq_true, if_false, recorded]

theorem record_edited (edits : call.edits? = some status) :
    (watch.record call next true).sent status = [] := by
  unfold Watch.record
  dsimp only
  rw [edits, if_pos (by simp)]

theorem record_other (other : call.edits? ≠ some status) :
    (watch.record call next true).sent status =
      watch.sent status ++ announced watch.db next status := by
  unfold Watch.record
  dsimp only
  rw [if_neg (by simpa using other)]

theorem record_quiet (quiet : Quiet watch.db next) :
    (watch.record call next true).sent status =
      if call.edits? = some status then [] else watch.sent status := by
  by_cases edits : call.edits? = some status
  · rw [record_edited edits, if_pos edits]
  · rw [record_other edits, if_neg edits, announced_quiet quiet, List.append_nil]

private theorem Announced.quiet (holds : Announced watch) (quiet : Quiet watch.db next)
    (saneNext : Sane next)
    (renewed : ∀ status, call.edits? = some status → ∀ row ∈ next.polls, row.status = status →
      row.notificationsSentAt = none)
    (stays : ∀ row ∈ watch.db.polls, call.edits? ≠ some row.status →
      row.notificationsSentAt.isSome = true →
        ∃ after ∈ next.polls, after.status = row.status ∧ after.notificationsSentAt.isSome = true)
    (earlier : ∀ row ∈ next.polls, row.notificationsSentAt.isSome = true →
      ∃ before ∈ watch.db.polls, before.status = row.status ∧
        before.notificationsSentAt.isSome = true ∧
        ∀ vote ∈ next.votes, vote.pollId = row.id → ∀ account, vote.voter = .localAccount account →
          account ∈ watch.sent row.status ∨
            ∃ old ∈ watch.db.votes, old.pollId = before.id ∧ old.voter = vote.voter) :
    Announced (watch.record call next true) := by
  have unedited {row : PollRow} (member : row ∈ next.polls)
      (sent : row.notificationsSentAt.isSome = true) : call.edits? ≠ some row.status := by
    intro edits
    rw [renewed row.status edits row member rfl] at sent
    cases sent
  refine ⟨saneNext, ?_, ?_, ?_, ?_⟩
  · intro status some
    rw [record_quiet quiet] at some
    by_cases edits : call.edits? = Option.some status
    · rw [if_pos edits] at some
      exact absurd rfl some
    · rw [if_neg edits] at some
      obtain ⟨row, member, rfl, sent⟩ := holds.known status some
      exact stays row member edits sent
  · intro status
    rw [record_quiet quiet]
    split
    · exact List.nodup_nil
    · exact holds.nodup status
  · intro row member sent vote voteMember owner account voter
    rw [record_quiet quiet, if_neg (unedited member sent)]
    obtain ⟨before, beforeMember, sameStatus, beforeSent, votes⟩ := earlier row member sent
    rcases votes vote voteMember owner account voter with known | ⟨old, oldMember, oldOwner, same⟩
    · exact known
    · rw [← sameStatus]
      exact holds.voters before beforeMember beforeSent old oldMember oldOwner account
        (same.trans voter)
  · intro row member sent statusId author isLocal wrote
    rw [record_quiet quiet, if_neg (unedited member sent)]
    obtain ⟨before, beforeMember, sameStatus, beforeSent, _⟩ := earlier row member sent
    rw [← sameStatus]
    refine holds.author before beforeMember beforeSent statusId author
      (sameStatus.trans isLocal) ?_
    rw [sameStatus, ← statusAuthor_congr quiet.localStatuses quiet.remoteStatuses]
    exact wrote

theorem SameRows.vote_mem {before after : PollDb} {pollId : Nat}
    (same : SameRows before after pollId) {vote : VoteRow} (member : vote ∈ after.votes)
    (owner : vote.pollId = pollId) : vote ∈ before.votes := by
  have kept : vote ∈ after.votes.filter fun vote => vote.pollId == pollId :=
    List.mem_filter.mpr ⟨member, by simpa using owner⟩
  rw [same.votes] at kept
  exact List.mem_of_mem_filter kept

private theorem Rewrites.stays {db : PollDb} {row after : PollRow}
    (rewrites : Rewrites db next row after)
    (consistent : Consistent db) {poll : PollRow} (member : poll ∈ db.polls)
    (sent : poll.notificationsSentAt.isSome = true)
    (keeps : poll = row → after.notificationsSentAt.isSome = true) :
    ∃ other ∈ next.polls, other.status = poll.status ∧ other.notificationsSentAt.isSome = true := by
  by_cases same : poll.id = row.id
  · have samePoll := consistent.eq_of_id member rewrites.stored same
    exact ⟨after, (rewrites.polls after).mpr (.inl rfl),
      rewrites.sameStatus.trans (congrArg PollRow.status samePoll.symm), keeps samePoll⟩
  · exact ⟨poll, (rewrites.polls poll).mpr (.inr ⟨member, same⟩), rfl, sent⟩

private theorem known_voter {db : PollDb} {now : Int} {row : PollRow} {voter : Voter}
    {sent : PollStatus → List AccountId} (admissible : Admissible ⟨db, sent⟩ call)
    (vote : call.vote? = some (now, row.id, voter)) (member : row ∈ db.polls)
    (isOpen : row.Open now) (announced : row.notificationsSentAt.isSome = true)
    {account : AccountId} (isLocal : voter = .localAccount account) : account ∈ sent row.status := by
  cases call with
  | voteInPoll context pollId accountId choices =>
      cases vote
      cases isLocal
      exact admissible row member rfl isOpen (Option.isSome_iff_ne_none.mp announced)
  | recordRemotePollVote context pollId actorId choice activitypubId =>
      cases vote
      cases isLocal
  | create => cases vote
  | replace => cases vote
  | upsertRemote => cases vote
  | expire => cases vote

private theorem Announced.ended {row after : PollRow} {author : AccountId}
    {added : List PollNotification} (holds : Announced watch) (saneNext : Sane next)
    (unedited : call.edits? = none) (unsent : row.notificationsSentAt = none)
    (wrote : statusAuthor watch.db row.status = some author)
    (rewrites : Rewrites watch.db next row after)
    (sent : after.notificationsSentAt.isSome = true)
    (localStatuses : next.localStatuses = watch.db.localStatuses)
    (remoteStatuses : next.remoteStatuses = watch.db.remoteStatuses)
    (votes : next.votes = watch.db.votes)
    (notifications : next.notifications = watch.db.notifications ++ added)
    (recipients : added.map (fun notification => notification.accountId.value) =
      expirationRecipients watch.db row author)
    (about : ∀ notification ∈ added, notification.status = row.status) :
    Announced (watch.record call next true) := by
  have other (status : PollStatus) : call.edits? ≠ some status := by
    rw [unedited]
    exact nofun
  have silent : watch.sent row.status = [] := holds.unsent rewrites.stored unsent
  have told : (watch.record call next true).sent row.status = added.map (·.accountId) := by
    rw [record_other (other _), silent, List.nil_append, announced_ended notifications about]
  have kept {status : PollStatus} (different : status ≠ row.status) :
      (watch.record call next true).sent status = watch.sent status := by
    rw [record_other (other _), announced_other notifications about different, List.append_nil]
  have recipient {account : AccountId}
      (named : account.value ∈ expirationRecipients watch.db row author) :
      account ∈ added.map (·.accountId) := by
    rw [← recipients] at named
    obtain ⟨notification, member, value⟩ := List.mem_map.mp named
    refine List.mem_map.mpr ⟨notification, member, ?_⟩
    cases account
    cases accountId : notification.accountId
    rw [accountId] at value
    exact congrArg AccountId.mk value
  have consistent := holds.sane.valid.consistent
  have elsewhere {poll : PollRow} (member : poll ∈ watch.db.polls) (different : poll.id ≠ row.id) :
      poll.status ≠ row.status := by
    intro status
    exact different (congrArg PollRow.id
      (holds.sane.attached.unique poll member row rewrites.stored status))
  refine ⟨saneNext, ?_, ?_, ?_, ?_⟩
  · intro status some
    by_cases same : status = row.status
    · exact ⟨after, (rewrites.polls after).mpr (.inl rfl), rewrites.sameStatus.trans same.symm, sent⟩
    · rw [kept same] at some
      obtain ⟨poll, member, rfl, pollSent⟩ := holds.known status some
      refine rewrites.stays consistent member pollSent fun samePoll => ?_
      exact absurd (congrArg PollRow.status samePoll) same
  · intro status
    by_cases same : status = row.status
    · rw [same, told]
      have distinct : (added.map fun notification => notification.accountId.value).Nodup := by
        rw [recipients]
        exact nodup_sortDedup _
      refine List.Nodup.of_map AccountId.value ?_
      rw [List.map_map]
      exact distinct
    · rw [kept same]
      exact holds.nodup status
  · intro poll member pollSent vote voteMember owner account voter
    have voteOld : vote ∈ watch.db.votes := votes ▸ voteMember
    rcases (rewrites.polls poll).mp member with rfl | ⟨old, different⟩
    · rw [rewrites.sameStatus, told]
      exact recipient (mem_expirationRecipients.mpr (.inl ⟨vote, voteOld,
        owner.trans rewrites.sameId, voter⟩))
    · rw [kept (elsewhere old different)]
      exact holds.voters poll old pollSent vote voteOld owner account voter
  · intro poll member pollSent statusId writer isLocal pollWrote
    have wroteOld : statusAuthor watch.db poll.status = some writer := by
      rw [← statusAuthor_congr localStatuses remoteStatuses]
      exact pollWrote
    rcases (rewrites.polls poll).mp member with rfl | ⟨old, different⟩
    · rw [rewrites.sameStatus] at isLocal wroteOld ⊢
      have same : writer = author := Option.some.inj (wroteOld.symm.trans wrote)
      rw [told]
      exact recipient (mem_expirationRecipients.mpr (.inr
        ⟨by rw [isLocal]; rfl, congrArg AccountId.value same⟩))
    · rw [kept (elsewhere old different)]
      exact holds.author poll old pollSent statusId writer isLocal wroteOld

private theorem Announced.record (holds : Announced watch) (admissible : Admissible watch call)
    (effect : Effect watch.db call next) (saneNext : Sane next)
    (renewed : ∀ status, call.edits? = some status → ∀ row ∈ next.polls, row.status = status →
      row.notificationsSentAt = none) :
    Announced (watch.record call next true) := by
  have consistent := holds.sane.valid.consistent
  cases effect with
  | idle =>
      refine holds.quiet (Quiet.refl _) saneNext renewed ?_ ?_
      · intro row member _ sent
        exact ⟨row, member, rfl, sent⟩
      · intro row member sent
        exact ⟨row, member, rfl, sent, fun vote voteMember owner _ _ =>
          .inr ⟨vote, voteMember, owner, rfl⟩⟩
  | opened _ inserts quiet unsent =>
      refine holds.quiet quiet saneNext renewed ?_ ?_
      · intro row member _ sent
        exact ⟨row, (inserts.polls row).mpr (.inr member), rfl, sent⟩
      · intro row member sent
        rcases (inserts.polls row).mp member with rfl | old
        · rw [unsent] at sent
          cases sent
        · refine ⟨row, old, rfl, sent, fun vote voteMember owner _ _ => .inr ⟨vote, ?_, owner, rfl⟩⟩
          exact (inserts.others row.id (inserts.freshId row old)).vote_mem voteMember owner
  | @removed _ _ _ deleted status removes quiet =>
      refine holds.quiet quiet saneNext renewed ?_ ?_
      · intro row member unedited sent
        refine ⟨row, (removes.polls row).mpr ⟨member, ?_⟩, rfl, sent⟩
        intro same
        rw [consistent.eq_of_id member removes.stored same, status] at unedited
        exact unedited rfl
      · intro row member sent
        obtain ⟨old, different⟩ := (removes.polls row).mp member
        exact ⟨row, old, rfl, sent, fun vote voteMember owner _ _ =>
          .inr ⟨vote, (removes.others row.id different).vote_mem voteMember owner, owner, rfl⟩⟩
  | edited status rewrites quiet _ unsent votes =>
      refine holds.quiet quiet saneNext renewed ?_ ?_
      · intro row member unedited sent
        refine rewrites.stays consistent member sent fun same => ?_
        rw [same, status] at unedited
        exact absurd rfl unedited
      · intro row member sent
        rcases (rewrites.polls row).mp member with rfl | ⟨old, _⟩
        · rw [unsent] at sent
          cases sent
        · exact ⟨row, old, rfl, sent, fun vote voteMember owner _ _ =>
            .inr ⟨vote, votes vote voteMember, owner, rfl⟩⟩
  | @refreshed _ _ _ _ before after _ rewrites quiet _ sentSame noVotes =>
      refine holds.quiet quiet saneNext renewed ?_ ?_
      · intro row member _ sent
        refine rewrites.stays consistent member sent fun same => ?_
        rw [sentSame, ← same]
        exact sent
      · intro row member sent
        rcases (rewrites.polls row).mp member with rfl | ⟨old, different⟩
        · refine ⟨before, rewrites.stored, rewrites.sameStatus.symm, sentSame ▸ sent, ?_⟩
          intro vote voteMember owner
          exact absurd (owner.trans rewrites.sameId) (noVotes vote voteMember)
        · exact ⟨row, old, rfl, sent, fun vote voteMember owner _ _ =>
            .inr ⟨vote, (rewrites.others row.id different).vote_mem voteMember owner, owner, rfl⟩⟩
  | @voted _ now voter _ before after rows cast closed running rewrites quiet _ _ _ sentSame votes
      owned =>
      refine holds.quiet quiet saneNext renewed ?_ ?_
      · intro row member _ sent
        refine rewrites.stays consistent member sent fun same => ?_
        rw [sentSame, ← same]
        exact sent
      · intro row member sent
        rcases (rewrites.polls row).mp member with rfl | ⟨old, different⟩
        · rw [sentSame] at sent
          refine ⟨before, rewrites.stored, rewrites.sameStatus.symm, sent, ?_⟩
          intro vote voteMember owner account isLocal
          rw [votes] at voteMember
          rcases List.mem_append.mp voteMember with kept | new
          · exact .inr ⟨vote, kept, owner.trans rewrites.sameId, rfl⟩
          · refine .inl ?_
            rw [rewrites.sameStatus]
            exact known_voter admissible cast rewrites.stored ⟨closed, running⟩ sent
              ((owned vote new).2.symm.trans isLocal)
        · exact ⟨row, old, rfl, sent, fun vote voteMember owner _ _ =>
            .inr ⟨vote, (rewrites.others row.id different).vote_mem voteMember owner, owner, rfl⟩⟩
  | ended unsent _ wrote rewrites sent _ _ localStatuses remoteStatuses _ votes notifications
      recipients about =>
      exact holds.ended saneNext rfl unsent wrote rewrites sent localStatuses remoteStatuses votes
        notifications recipients about

end

theorem step_announced (segmentation : Segmentation) {watch : Watch} {call : Call}
    (admissible : Admissible watch call) (holds : Announced watch) :
    Announced ((watched segmentation).step watch call).1 := by
  rw [watched_eq]
  cases committed : ((polls segmentation).step watch.db call).2 with
  | false =>
      have same : ((polls segmentation).step watch.db call).1 = watch.db := by
        cases call <;> exact commit_error committed
      rw [same, record_refused]
      exact holds
  | true =>
      exact holds.record admissible
        (step_effect segmentation holds.sane.valid.consistent call)
        (step_sane segmentation watch.db call holds.sane)
        fun status edits => edit_unsent segmentation holds.sane edits committed

/-!
## Before the end
-/

private theorem Rewrites.closed {db next : PollDb} {before after row other : PollRow}
    (rewrites : Rewrites db next before after) (consistent : Consistent db) (member : row ∈ db.polls)
    (found : other ∈ next.polls) (same : other.id = row.id) :
    other = after ∧ before = row ∨ other = row := by
  rcases (rewrites.polls other).mp found with rfl | ⟨old, _⟩
  · exact .inl ⟨rfl, consistent.eq_of_id rewrites.stored member (rewrites.sameId.symm.trans same)⟩
  · exact .inr (consistent.eq_of_id old member same)

theorem PollRow.Pending.not_due {row : PollRow} {now : Int} (pending : row.Pending now)
    (due : (row.closedAt.or row.expiresAt).any (now < ·) = false) : row.endsAt = none := by
  cases ends : row.endsAt with
  | none => rfl
  | some endsAt =>
      have later := pending endsAt ends
      unfold PollRow.endsAt at ends
      rw [ends] at due
      simp [later] at due

private theorem Announced.early {watch : Watch} {call : Call} {next : PollDb}
    (holds : Announced watch) (admissible : Admissible watch call)
    (effect : Effect watch.db call next) {row : PollRow} (member : row ∈ watch.db.polls)
    (pending : row.Pending call.now) :
    announced watch.db next row.status = [] ∧
      ∀ after ∈ next.polls, after.id = row.id → after.closedAt.isSome = true →
        row.closedAt.isSome = true ∨ ∃ context statusId input,
          call = .upsertRemote context statusId input ∧ after.closedAt = input.closedAt := by
  have consistent := holds.sane.valid.consistent
  cases effect with
  | idle =>
      refine ⟨announced_quiet (Quiet.refl _) _, fun after found same closed => .inl ?_⟩
      rwa [consistent.eq_of_id found member same] at closed
  | opened _ inserts quiet =>
      refine ⟨announced_quiet quiet _, fun after found same closed => .inl ?_⟩
      rcases (inserts.polls after).mp found with rfl | old
      · exact absurd same.symm (inserts.freshId row member)
      · rwa [consistent.eq_of_id old member same] at closed
  | removed _ removes quiet =>
      refine ⟨announced_quiet quiet _, fun after found same closed => .inl ?_⟩
      rwa [consistent.eq_of_id ((removes.polls after).mp found).1 member same] at closed
  | edited _ rewrites quiet reopened =>
      refine ⟨announced_quiet quiet _, fun after found same closed => .inl ?_⟩
      rcases rewrites.closed consistent member found same with ⟨rfl, _⟩ | rfl
      · rw [reopened] at closed
        cases closed
      · exact closed
  | @refreshed context statusId input _ _ _ _ rewrites quiet stated =>
      refine ⟨announced_quiet quiet _, fun after found same closed => ?_⟩
      rcases rewrites.closed consistent member found same with ⟨rfl, _⟩ | rfl
      · exact .inr ⟨context, statusId, input, rfl, stated⟩
      · exact .inl closed
  | voted _ _ _ rewrites quiet _ _ closedAt =>
      refine ⟨announced_quiet quiet _, fun after found same closed => .inl ?_⟩
      rcases rewrites.closed consistent member found same with ⟨rfl, rfl⟩ | rfl
      · rwa [closedAt] at closed
      · exact closed
  | @ended _ _ before _ _ _ unsent due _ rewrites _ _ _ _ _ _ _ notifications _ about =>
      have different : before ≠ row := by
        rintro rfl
        exact admissible before member rfl unsent (pending.not_due due)
      refine ⟨announced_other notifications about fun status => different ?_,
        fun after found same closed => .inl ?_⟩
      · exact holds.sane.attached.unique before rewrites.stored row member status.symm
      · rcases rewrites.closed consistent member found same with ⟨_, same⟩ | rfl
        · exact absurd same different
        · exact closed

/-!
## After the end
-/

/-- A stored poll of a status that takes no vote from some time on. -/
def Over (db : PollDb) (pollId : Nat) (status : PollStatus) (now : Int) : Prop :=
  ∃ row ∈ db.polls, row.id = pollId ∧ row.status = status ∧
    (row.closedAt.isSome = true ∨ ∃ expiresAt ∈ row.expiresAt, expiresAt ≤ now)

private theorem Rewrites.over {db next : PollDb} {before after : PollRow}
    (rewrites : Rewrites db next before after) (consistent : Consistent db) {pollId : Nat}
    {status : PollStatus} {now : Int} (isOver : Over db pollId status now)
    (keeps : before.status = status → before.closedAt.isSome = true ∨
      (∃ expiresAt ∈ before.expiresAt, expiresAt ≤ now) → after.closedAt.isSome = true ∨
        ∃ expiresAt ∈ after.expiresAt, expiresAt ≤ now) :
    Over next pollId status now := by
  obtain ⟨row, member, owner, holds, ended⟩ := isOver
  by_cases same : row.id = before.id
  · rw [consistent.eq_of_id member rewrites.stored same] at owner holds ended
    exact ⟨after, (rewrites.polls after).mpr (.inl rfl), rewrites.sameId.trans owner,
      rewrites.sameStatus.trans holds, keeps holds ended⟩
  · exact ⟨row, (rewrites.polls row).mpr (.inr ⟨member, same⟩), owner, holds, ended⟩

theorem step_over (segmentation : Segmentation) {db : PollDb} (sane : Sane db) {call : Call}
    {pollId : Nat} {status : PollStatus} {now : Int} (other : call.renews? ≠ some status)
    (isOver : Over db pollId status now) :
    Over ((polls segmentation).step db call).1 pollId status now := by
  have consistent := sane.valid.consistent
  have effect := step_effect segmentation consistent call
  generalize ((polls segmentation).step db call).1 = next at effect ⊢
  cases effect with
  | idle => exact isOver
  | opened _ inserts =>
      obtain ⟨row, member, owner, holds, ended⟩ := isOver
      exact ⟨row, (inserts.polls row).mpr (.inr member), owner, holds, ended⟩
  | @removed _ _ _ deleted here removes =>
      obtain ⟨row, member, owner, holds, ended⟩ := isOver
      have different : row.id ≠ deleted.id := by
        intro same
        rw [consistent.eq_of_id member removes.stored same, here] at holds
        exact other (congrArg some holds)
      exact ⟨row, (removes.polls row).mpr ⟨member, different⟩, owner, holds, ended⟩
  | edited here rewrites =>
      refine rewrites.over consistent isOver fun own _ => ?_
      rw [here] at own
      exact absurd (congrArg some own) other
  | refreshed here rewrites =>
      refine rewrites.over consistent isOver fun own _ => ?_
      rw [here] at own
      exact absurd (congrArg some own) other
  | voted _ _ _ rewrites _ _ expiresAt closedAt =>
      refine rewrites.over consistent isOver fun _ ended => ?_
      rw [closedAt, expiresAt]
      exact ended
  | ended _ _ _ rewrites _ closed =>
      exact rewrites.over consistent isOver fun _ _ => .inl closed

theorem watched_run_db (segmentation : Segmentation) (watch : Watch) (calls : List Call) :
    ((watched segmentation).run watch calls).db = (polls segmentation).run watch.db calls := by
  induction calls generalizing watch with
  | nil => rfl
  | cons call calls ih => exact ih _

theorem run_over (segmentation : Segmentation) {db : PollDb} (sane : Sane db) {pollId : Nat}
    {status : PollStatus} {now : Int} {calls : List Call}
    (others : ∀ call ∈ calls, call.renews? ≠ some status) (isOver : Over db pollId status now) :
    Over ((polls segmentation).run db calls) pollId status now := by
  induction calls generalizing db with
  | nil => exact isOver
  | cons call calls ih =>
      exact ih (step_sane segmentation db call sane)
        (fun later member => others later (List.mem_cons_of_mem _ member))
        (step_over segmentation sane (others call List.mem_cons_self) isOver)

theorem Over.refuses {segmentation : Segmentation} {db : PollDb} {pollId : Nat}
    {status : PollStatus} {now : Int} (isOver : Over db pollId status now) (sane : Sane db)
    {call : Call} {time : Int} {voter : Voter} (cast : call.vote? = some (time, pollId, voter))
    (later : now ≤ time) : ((polls segmentation).step db call).2 = false := by
  have refused {context : Context} {localAccountId remoteActorId : Option AccountId}
      {choices : List UInt32} {activitypubId : Option String} (clock : now ≤ context.now) :
      (commit db (vote db context pollId localAccountId remoteActorId choices activitypubId)).2 =
        false := by
    by_contra accepted
    obtain ⟨poll, success⟩ := commit_ok (Bool.of_not_eq_false accepted)
    obtain ⟨ballot, admitted, _⟩ := bind_ok success
    obtain ⟨member, owner, _⟩ := admitVote_ok admitted
    obtain ⟨notClosed, running, _⟩ := admitVote_open admitted
    obtain ⟨row, rowMember, rowOwner, _, ended⟩ := isOver
    rw [sane.valid.consistent.eq_of_id rowMember member (rowOwner.trans owner.symm)] at ended
    rcases ended with closed | ⟨expiresAt, expires, past⟩
    · rw [notClosed] at closed
      cases closed
    · rw [Option.mem_def.mp expires] at running
      have ahead : context.now < expiresAt := by simpa using running
      omega
  cases call with
  | voteInPoll context poll accountId choices =>
      cases cast
      exact refused later
  | recordRemotePollVote context poll actorId choice activitypubId =>
      cases cast
      exact refused later
  | create => cases cast
  | replace => cases cast
  | upsertRemote => cases cast
  | expire => cases cast

theorem expirePoll_announces (segmentation : Segmentation) {db : PollDb} (sane : Sane db)
    {context : Context} {row : PollRow} (member : row ∈ db.polls) {endsAt : Int}
    (ends : endsAt ∈ row.endsAt) (past : endsAt ≤ context.now) :
    ∃ after ∈ ((polls segmentation).step db (.expire context row.id)).1.polls,
      after.id = row.id ∧ after.status = row.status ∧
        after.notificationsSentAt.isSome = true ∧
        (after.closedAt.isSome = true ∨ ∃ expiresAt ∈ after.expiresAt, expiresAt ≤ context.now) := by
  have ended : row.closedAt.isSome = true ∨ ∃ expiresAt ∈ row.expiresAt, expiresAt ≤ context.now := by
    unfold PollRow.endsAt at ends
    cases closed : row.closedAt with
    | some closedAt => exact .inl rfl
    | none =>
        rw [closed] at ends
        exact .inr ⟨endsAt, ends, past⟩
  have found : db.polls.find? (fun poll => poll.id == row.id) = some row := by
    have present : (db.polls.find? fun poll => poll.id == row.id).isSome = true :=
      List.find?_isSome.mpr ⟨row, member, beq_self_eq_true _⟩
    obtain ⟨other, finding⟩ := Option.isSome_iff_exists.mp present
    rw [finding, sane.valid.consistent.eq_of_id (List.mem_of_find?_eq_some finding) member
      (by simpa using List.find?_some finding)]
  have notAhead : ¬ (row.closedAt.or row.expiresAt).any (context.now < ·) = true := by
    change ¬ row.endsAt.any (context.now < ·) = true
    rw [Option.mem_def.mp ends]
    simpa using past
  by_cases sent : row.notificationsSentAt.isSome = true
  · have same : ((polls segmentation).step db (.expire context row.id)).1 = db := by
      change (commit db (expirePoll db context row.id)).1 = db
      unfold expirePoll
      rw [found]
      dsimp only
      rw [if_neg notAhead, if_pos sent]
      rfl
    rw [same]
    exact ⟨row, member, rfl, rfl, sent, ended⟩
  · obtain ⟨author, wrote⟩ := Option.isSome_iff_exists.mp (sane.attached.author row member)
    change ∃ after ∈ (commit db (expirePoll db context row.id)).1.polls, _
    unfold expirePoll
    rw [found]
    dsimp only
    rw [if_neg notAhead, if_neg sent, wrote]
    dsimp only
    split
    next poll _ =>
      refine ⟨_, Table.mem_updateWhere.mpr (.inr ⟨row, member, beq_self_eq_true _, rfl⟩), rfl, rfl,
        rfl, .inl ?_⟩
      cases row.closedAt <;> cases row.expiresAt <;> rfl
    next missing =>
      have absent := Option.map_eq_none_iff.mp missing
      have gone := List.find?_eq_none.mp absent _
        (Table.mem_updateWhere.mpr (.inr ⟨row, member, beq_self_eq_true _, rfl⟩))
      exact absurd (beq_self_eq_true row.id) gone

/-!
## Every admissible run
-/

theorem start_announced (localStatuses remoteStatuses : List (StatusId × AccountId))
    (notifications : List PollNotification) (jobs : List JobRow) :
    Announced (Watch.start localStatuses remoteStatuses notifications jobs) := by
  refine ⟨withoutPolls_sane localStatuses remoteStatuses notifications jobs,
    fun _ some => absurd rfl some, fun _ => List.nodup_nil, ?_, ?_⟩ <;>
    intro _ member <;> cases member

/-- In every admissible run each step obeys the law. -/
theorem expiry_lawful (segmentation : Segmentation)
    (localStatuses remoteStatuses : List (StatusId × AccountId))
    (notifications : List PollNotification) (jobs : List JobRow) (calls : List Call) (call : Call)
    (admissible : (watched segmentation).Guarded Admissible
      (Watch.start localStatuses remoteStatuses notifications jobs) (calls ++ [call])) :
    Law segmentation ((watched segmentation).run
      (Watch.start localStatuses remoteStatuses notifications jobs) calls) call := by
  have holds := (watched segmentation).guarded_invariant Announced
    (fun _ _ allowed kept => step_announced segmentation allowed kept)
    (start_announced localStatuses remoteStatuses notifications jobs) admissible.of_append
  have allowed := admissible calls call [] (by simp)
  generalize (watched segmentation).run
    (Watch.start localStatuses remoteStatuses notifications jobs) calls = watch at holds allowed ⊢
  have holdsNext := step_announced segmentation allowed holds
  have sane := holds.sane
  refine ⟨holdsNext.nodup, ?_, ?_⟩
  · intro row member pending
    exact holds.early allowed (step_effect segmentation sane.valid.consistent call) member pending
  · rintro context pollId rfl row member rfl ⟨endsAt, ends, past⟩
    obtain ⟨after, found, sameId, sameStatus, sent, ended⟩ :=
      expirePoll_announces segmentation sane member ends past
    refine ⟨?_, ?_, ?_⟩
    · intro vote voteMember owner account voter
      rw [← sameStatus]
      exact holdsNext.voters after found sent vote voteMember (owner.trans sameId.symm) account voter
    · intro statusId author isLocal wrote
      rw [← sameStatus]
      refine holdsNext.author after found sent statusId author (sameStatus.trans isLocal) ?_
      rw [sameStatus]
      have effect := step_effect segmentation sane.valid.consistent (.expire context row.id)
      exact (effect.authors row.status).trans wrote
    · intro later vote others now voter cast clock
      have isOver : Over _ row.id row.status context.now :=
        ⟨after, found, sameId, sameStatus, ended⟩
      have saneNext := step_sane segmentation watch.db (.expire context row.id) sane
      have saneLater := (polls segmentation).run_invariant Sane (step_sane segmentation) saneNext
        later
      have overLater := run_over segmentation saneNext others isOver
      rw [watched_eq]
      dsimp only
      rw [watched_run_db]
      exact overLater.refuses saneLater cast clock

namespace Ballots

def begin : Watch := Watch.start [(⟨1⟩, ⟨10⟩)] [(⟨2⟩, ⟨30⟩)] [] []

def machine : Machine Watch Call Bool := watched ⟨String.length⟩

def at_ (now : Int) (row : Nat) : Context := ⟨now * 1000000, 7, ⟨row⟩, fun offset => row + offset⟩

/-- A local poll of five minutes with one vote, and an early execution of its job. -/
def localPoll : List Call :=
  [.create (at_ 0 100) ⟨1⟩ ⟨["tea", "coffee"], 300, false, false⟩,
    .voteInPoll (at_ 1 200) 7 ⟨20⟩ [1], .expire (at_ 10 300) 7]

def document (endTime : Option Int) : RemoteStatusPoll :=
  ⟨[("tea", 0), ("coffee", 0)], false, endTime, none, none⟩

/-- A newer document takes the end time away before the job of the older one runs. -/
def withdrawn : List Call :=
  [.upsertRemote (at_ 0 100) ⟨2⟩ (document (some 60000000)),
    .upsertRemote (at_ 1 200) ⟨2⟩ (document none), .voteInPoll (at_ 2 300) 7 ⟨20⟩ [1]]

/-- A newer document lets a poll run again that was announced, and an account votes. -/
def reopened : List Call :=
  [.upsertRemote (at_ 0 100) ⟨2⟩ (document (some 60000000)), .expire (at_ 360 200) 7,
    .upsertRemote (at_ 400 300) ⟨2⟩ (document (some 500000000)),
    .voteInPoll (at_ 410 400) 7 ⟨20⟩ [1]]

end Ballots

open Ballots in
theorem localPoll_lawful :
    Law ⟨String.length⟩ (machine.run begin localPoll) (.expire (at_ 300 400) 7) :=
  expiry_lawful ⟨String.length⟩ [(⟨1⟩, ⟨10⟩)] [(⟨2⟩, ⟨30⟩)] [] [] localPoll (.expire (at_ 300 400) 7)
    (Machine.guarded_of_get _ (by decide +kernel))

open Ballots in
/-- An old job announces a poll without an end time, and the job of a poll that runs again
leaves its new voter out. -/
theorem remote_polls_unlawful :
    ¬ Law ⟨String.length⟩ (machine.run begin withdrawn) (.expire (at_ 360 400) 7) ∧
      ¬ Law ⟨String.length⟩ (machine.run begin reopened) (.expire (at_ 800 500) 7) := by
  constructor
  · intro law
    have early : ∃ row ∈ (machine.run begin withdrawn).db.polls, row.endsAt = none ∧
        announced (machine.run begin withdrawn).db
          (machine.step (machine.run begin withdrawn) (.expire (at_ 360 400) 7)).1.db
          row.status ≠ [] := by decide +kernel
    obtain ⟨row, member, endless, told⟩ := early
    refine told (law.early row member ?_).1
    intro endsAt ends
    rw [endless] at ends
    cases ends
  · intro law
    have missed : ∃ row ∈ (machine.run begin reopened).db.polls, row.id = 7 ∧
        row.endsAt = some 500000000 ∧
        ∃ vote ∈ (machine.step (machine.run begin reopened) (.expire (at_ 800 500) 7)).1.db.votes,
          vote.pollId = 7 ∧ vote.voter = .localAccount ⟨20⟩ ∧
            ⟨20⟩ ∉ (machine.step (machine.run begin reopened)
              (.expire (at_ 800 500) 7)).1.sent row.status := by decide +kernel
    obtain ⟨row, member, owner, ends, vote, cast, votePoll, voter, missing⟩ := missed
    have told := (law.final (at_ 800 500) 7 rfl row member owner
      ⟨500000000, ends, by decide⟩).1
    exact missing (told vote cast votePoll ⟨20⟩ voter)

end Roosty.Poll
