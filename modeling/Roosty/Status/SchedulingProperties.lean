import Mathlib.Algebra.Group.Nat.Defs
import Roosty.Library.UuidText
import Roosty.Status.PostingProperties
import Roosty.Status.Scheduling

/-!
# Properties of scheduling

What schedules and their publication leave of the rows, and which inputs the two entry
points of a new status accept.
-/

set_option autoImplicit false

namespace Roosty.Status.Posting

open Library
open Federation.Inbox (QuoteApprovalPolicy QuoteState)
open Poll (NewStatusPoll Segmentation validatePoll)
open Timeline (isOpen)

/-!
## Invariants
-/

theorem scheduledAttaches (id : Nat) :
    Attaches (fun index (media : LocalMediaAttachment) =>
      { media with scheduledStatusId := some id, statusOrder := index })
      fun owned => (owned.1, some id) where
  id _ _ := rfl
  accountId _ _ := rfl
  moves _ _ := rfl
  idem _ := rfl

section

variable {env : Environment} {db next : Db}

theorem Db.Shape.of_media (shaped : db.Shape)
    {owners : LocalMediaAttachment → Option StatusId × Option Nat}
    (statuses : next.statuses = db.statuses) (polls : next.polls = db.polls)
    (quotes : next.quotes = db.quotes) (moved : Reassigned owners db.media next.media)
    (keeps : ∀ media ∈ db.media, (owners media).1 = media.statusId) : next.Shape := by
  have media {id : StatusId} (has : localStatusHasMedia next id = true) :
      localStatusHasMedia db id = true := by
    obtain ⟨upload, member, attached⟩ := localStatusHasMedia_iff.mp has
    obtain ⟨source, sourceMember, _, _, owned⟩ := moved.origin member
    have status : upload.owners.1 = some id := attached
    rw [owned, keeps source sourceMember] at status
    exact localStatusHasMedia_iff.mpr ⟨source, sourceMember, status⟩
  refine ⟨?_, ?_, ?_⟩
  · intro status member both
    rw [statuses] at member
    rw [hasPoll, polls] at both
    exact shaped.mediaOrPoll status member ⟨media both.1, both.2⟩
  · intro status member both
    rw [statuses] at member
    rw [hasQuote, quotes] at both
    exact shaped.mediaOrQuote status member ⟨media both.1, both.2⟩
  · rw [statuses]
    exact shaped.policy

theorem reserveMedia_iff {account : AccountId} {mediaIds : List Nat} :
    reserveMedia db account mediaIds = true ↔
      ∀ id ∈ mediaIds, ∃ media ∈ db.media, media.id = id ∧ mediaReservable account media = true := by
  simp [reserveMedia]

theorem insertScheduledStatus_isOk_iff {new : NewScheduledStatus}
    (unique : (db.media.map LocalMediaAttachment.id).Nodup) :
    (∃ next, insertScheduledStatus env db new = .ok next) ↔
      (∀ id ∈ new.mediaIds, ∃ media ∈ db.media, media.id = id ∧
        mediaReservable new.accountId media = true) ∧
      (∀ schedule ∈ db.schedules, schedule.id ≠ new.id) ∧
      (∀ schedule ∈ db.schedules, schedule.publicationStatusId ≠ new.publicationStatusId) ∧
      PollValid env.segmentation new.poll := by
  have poll : validateScheduledPoll env.segmentation new.poll = .ok () ↔
      PollValid env.segmentation new.poll := by
    cases new.poll with
    | none => exact iff_of_true rfl nofun
    | some input => exact ⟨fun valid _ same => by cases same; exact valid, fun valid => valid _ rfl⟩
  unfold insertScheduledStatus
  simp only [bind_eq_ok_iff, exists_unit_iff, ensure_eq_ok_iff, reserveMedia_iff, poll,
    List.all_eq_true, bne_iff_ne]
  constructor
  · rintro ⟨_, reserved, unused, unpublished, valid, _⟩
    exact ⟨reserved, unused, unpublished, valid⟩
  · rintro ⟨reserved, unused, unpublished, valid⟩
    obtain ⟨media, attached⟩ : ∃ media, attachMedia "media attachment disappeared"
        (fun index (media : LocalMediaAttachment) =>
          { media with scheduledStatusId := some new.id, statusOrder := index }) 0 new.mediaIds
          db.media = .ok media := by
      refine (attachMedia_isOk_iff (scheduledAttaches new.id) unique).mpr fun id member => ?_
      obtain ⟨upload, found, same, free⟩ := reserved id member
      simp only [mediaReservable, Bool.and_eq_true, Option.isNone_iff_eq_none] at free
      exact ⟨upload, found, same, by simp [attachable, LocalMediaAttachment.owners, free.1.2]⟩
    exact ⟨_, reserved, unused, unpublished, valid, media, attached, rfl⟩

structure Scheduled (db next : Db) (new : NewScheduledStatus) : Prop where
  fresh : ∀ schedule ∈ db.schedules, schedule.id ≠ new.id
  written : ∃ media, next = { db with schedules := db.schedules ++ [new.row], media := media }
  media : Reassigned (attachedOwners (fun owned => (owned.1, some new.id)) new.mediaIds) db.media
    next.media
  free : ∀ media ∈ db.media, media.id ∈ new.mediaIds →
    mediaReservable new.accountId media = true
  named : ∀ id ∈ new.mediaIds, ∃ media ∈ db.media, media.id = id

theorem insertScheduledStatus_ok {new : NewScheduledStatus}
    (unique : (db.media.map LocalMediaAttachment.id).Nodup)
    (success : insertScheduledStatus env db new = .ok next) : Scheduled db next new := by
  obtain ⟨reserved, unused, _⟩ := (insertScheduledStatus_isOk_iff unique).mp ⟨next, success⟩
  obtain ⟨_, _, rest⟩ := bind_ok success
  obtain ⟨_, _, rest⟩ := bind_ok rest
  obtain ⟨_, _, rest⟩ := bind_ok rest
  obtain ⟨_, _, rest⟩ := bind_ok rest
  obtain ⟨media, attached, written⟩ := bind_ok rest
  cases written
  refine ⟨unused, ⟨media, rfl⟩, attachMedia_reassigned (scheduledAttaches new.id) attached, ?_, ?_⟩
  · intro upload member named
    obtain ⟨found, foundMember, same, free⟩ := reserved upload.id named
    exact List.inj_on_of_nodup_map unique foundMember member same ▸ free
  · intro id named
    obtain ⟨found, foundMember, same, _⟩ := reserved id named
    exact ⟨found, foundMember, same⟩

theorem Scheduled.keeps {new : NewScheduledStatus} (scheduled : Scheduled db next new)
    (valid : db.Valid) (shaped : db.Shape) : next.Valid ∧ next.Shape := by
  obtain ⟨fresh, ⟨media, rfl⟩, moved, free, _⟩ := scheduled
  have keepsStatus (upload : LocalMediaAttachment) :
      (attachedOwners (fun owned => (owned.1, some new.id)) new.mediaIds upload).1 =
        upload.statusId := by
    unfold attachedOwners
    split <;> rfl
  refine ⟨?_, shaped.of_media rfl rfl rfl moved fun upload _ => keepsStatus upload⟩
  refine {
    statusKeys := valid.statusKeys
    mediaKeys := moved.keys ▸ valid.mediaKeys
    scheduleKeys := ?_
    ownerCheck := ?_
    mediaStatus := ?_
    mediaSchedule := ?_
    pollStatus := valid.pollStatus
    quoteStatus := valid.quoteStatus
    content := valid.content }
  · rw [List.map_append, List.nodup_append]
    refine ⟨valid.scheduleKeys, List.nodup_singleton _, ?_⟩
    intro id member other otherMember same
    obtain ⟨schedule, scheduleMember, rfl⟩ := List.mem_map.mp member
    rw [List.map_singleton, List.mem_singleton] at otherMember
    exact fresh schedule scheduleMember (same.trans otherMember)
  · intro upload member
    obtain ⟨source, sourceMember, _, _, owned⟩ := moved.origin member
    rw [ownerCheck_eq, owned, attachedOwners]
    split
    next named =>
      have reserved := free source sourceMember named
      simp only [mediaReservable, Bool.and_eq_true, Option.isNone_iff_eq_none] at reserved
      simp [LocalMediaAttachment.owners, reserved.1.2]
    next => exact valid.ownerCheck source sourceMember
  · intro upload member id attached
    obtain ⟨source, sourceMember, _, sameAccount, owned⟩ := moved.origin member
    have status : upload.owners.1 = some id := attached
    rw [owned, keepsStatus] at status
    obtain ⟨found, foundMember, same, account⟩ := valid.mediaStatus source sourceMember id status
    exact ⟨found, foundMember, same, account.trans sameAccount.symm⟩
  · intro upload member id reserved
    obtain ⟨source, sourceMember, _, _, owned⟩ := moved.origin member
    have schedule : upload.owners.2 = some id := reserved
    rw [owned, attachedOwners] at schedule
    split at schedule
    next =>
      cases schedule
      exact ⟨new.row, List.mem_append_right _ (List.mem_singleton_self _), rfl⟩
    next =>
      obtain ⟨found, foundMember, same⟩ := valid.mediaSchedule source sourceMember id schedule
      exact ⟨found, List.mem_append_left _ foundMember, same⟩

theorem deleteScheduledStatus_keeps (valid : db.Valid) (shaped : db.Shape) (id : Nat) :
    (deleteScheduledStatus db id).Valid ∧ (deleteScheduledStatus db id).Shape := by
  have moved := deleteScheduledStatus_reassigned db id
  refine ⟨?_, shaped.of_media rfl rfl rfl moved fun _ _ => rfl⟩
  refine {
    statusKeys := valid.statusKeys
    mediaKeys := moved.keys ▸ valid.mediaKeys
    scheduleKeys := valid.scheduleKeys.sublist (List.filter_sublist.map _)
    ownerCheck := ?_
    mediaStatus := ?_
    mediaSchedule := ?_
    pollStatus := valid.pollStatus
    quoteStatus := valid.quoteStatus
    content := valid.content }
  · intro upload member
    obtain ⟨source, sourceMember, _, _, owned⟩ := moved.origin member
    rw [ownerCheck_eq, owned]
    dsimp only
    split
    · simp
    · exact valid.ownerCheck source sourceMember
  · intro upload member status attached
    obtain ⟨source, sourceMember, _, sameAccount, owned⟩ := moved.origin member
    have here : upload.owners.1 = some status := attached
    rw [owned] at here
    obtain ⟨found, foundMember, same, account⟩ :=
      valid.mediaStatus source sourceMember status here
    exact ⟨found, foundMember, same, account.trans sameAccount.symm⟩
  · intro upload member schedule reserved
    obtain ⟨source, sourceMember, _, _, owned⟩ := moved.origin member
    have here : upload.owners.2 = some schedule := reserved
    rw [owned] at here
    dsimp only at here
    split at here
    · cases here
    next other =>
      obtain ⟨found, foundMember, same⟩ := valid.mediaSchedule source sourceMember schedule here
      refine ⟨found, ?_, same⟩
      rw [here, Option.some.injEq] at other
      exact Table.mem_deleteWhere.mpr ⟨foundMember, by simpa [same] using other⟩

theorem cancelScheduledStatus_keeps (valid : db.Valid) (shaped : db.Shape) (account : AccountId)
    (id : Nat) :
    (cancelScheduledStatus db account id).Valid ∧ (cancelScheduledStatus db account id).Shape := by
  unfold cancelScheduledStatus
  split
  · exact deleteScheduledStatus_keeps valid shaped id
  · exact ⟨valid, shaped⟩

theorem reportSchedule_ok {new : NewScheduledStatus}
    (success : reportSchedule (createScheduledStatusRow env db new) = .ok next) :
    insertScheduledStatus env db new = .ok next := by
  unfold createScheduledStatusRow at success
  split_ifs at success
  · cases success
  · cases success
  · cases success
  · cases inserted : insertScheduledStatus env db new with
    | error error =>
        rw [inserted] at success
        cases success
    | ok written =>
        rw [inserted] at success
        cases success
        rfl

theorem reportSchedule_isOk_iff {new : NewScheduledStatus} :
    (∃ next, reportSchedule (createScheduledStatusRow env db new) = .ok next) ↔
      (findLocalAccountById db new.accountId).isSome = true ∧
      totalSchedules db new.accountId < env.totalLimit ∧
      dailySchedules db new.accountId (dayStart new.scheduledAt) < env.dailyLimit ∧
      ∃ next, insertScheduledStatus env db new = .ok next := by
  unfold createScheduledStatusRow
  split
  next missing =>
    refine iff_of_false (by rintro ⟨_, success⟩; cases success) fun both => ?_
    rw [Option.isNone_iff_eq_none.mp missing] at both
    exact Bool.false_ne_true both.1
  next found =>
    have exists_ : (findLocalAccountById db new.accountId).isSome = true := by
      rw [Option.isSome_iff_ne_none]
      simpa using found
    split
    next full =>
      exact iff_of_false (by rintro ⟨_, success⟩; cases success) fun all =>
        absurd all.2.1 (Nat.not_lt.mpr full)
    next room =>
      split
      next full =>
        exact iff_of_false (by rintro ⟨_, success⟩; cases success) fun all =>
          absurd all.2.2.1 (Nat.not_lt.mpr full)
      next daily =>
        have reported (result : Except RoostyError Db) :
            (∃ next, reportSchedule (result.map fun next => (.created, next)) = .ok next) ↔
              ∃ next, result = .ok next := by
          cases result with
          | ok next => exact iff_of_true ⟨next, rfl⟩ ⟨next, rfl⟩
          | error error =>
              exact iff_of_false (by rintro ⟨_, success⟩; cases success)
                (by rintro ⟨_, success⟩; cases success)
        rw [reported]
        exact ⟨fun inserted => ⟨exists_, by omega, by omega, inserted⟩, fun all => all.2.2.2⟩

theorem createScheduledStatus_ok {now : Int} {account : LocalAccount} {input : StatusInput}
    {id : Nat} {publication : StatusId}
    (success : createScheduledStatus env now db account input id publication = .ok next) :
    ∃ scheduledAt mediaIds, ∃ quoted : Option ResolvedQuoteTarget × StatusVisibility,
      ∃ quotedStatusId replyId reply,
      parseMediaIds (input.mediaIds.getD []) = .ok mediaIds ∧
      ContentsAllowed env.segmentation input.quotedStatusId.isSome mediaIds input.poll
        (input.status.getD "") (!mediaIds.isEmpty) ∧
      quoteTarget env db account.id (requestedVisibility account input) (input.status.getD "")
        input.quotedStatusId = .ok quoted ∧
      parseOptionalStatusId input.quotedStatusId = .ok quotedStatusId ∧
      parseOptionalStatusId input.inReplyToId = .ok replyId ∧
      scheduleReplyTarget db account.id replyId = .ok reply ∧
      (findLocalAccountById db account.id).isSome = true ∧
      insertScheduledStatus env db (newScheduledStatus account input id publication quoted.2 reply
        quotedStatusId scheduledAt mediaIds) = .ok next := by
  obtain ⟨scheduledAt, _, rest⟩ := bind_ok success
  obtain ⟨_, _, rest⟩ := bind_ok rest
  obtain ⟨mediaIds, parsed, rest⟩ := bind_ok rest
  obtain ⟨_, allowed, rest⟩ := bind_ok rest
  obtain ⟨quoted, resolved, rest⟩ := bind_ok rest
  obtain ⟨quotedStatusId, quotes, rest⟩ := bind_ok rest
  obtain ⟨replyId, replies, rest⟩ := bind_ok rest
  obtain ⟨reply, target, written⟩ := bind_ok rest
  obtain ⟨known, _⟩ := reportSchedule_isOk_iff.mp ⟨next, written⟩
  exact ⟨scheduledAt, mediaIds, quoted, quotedStatusId, replyId, reply, mapError_eq_ok_iff.mp parsed,
    checkContents_eq_ok_iff.mp allowed, resolved, mapError_eq_ok_iff.mp quotes,
    mapError_eq_ok_iff.mp replies, target, known, reportSchedule_ok written⟩

theorem createScheduledStatus_keeps {now : Int} {account : LocalAccount} {input : StatusInput}
    {id : Nat} {publication : StatusId} (valid : db.Valid) (shaped : db.Shape)
    (success : createScheduledStatus env now db account input id publication = .ok next) :
    next.Valid ∧ next.Shape := by
  obtain ⟨_, _, _, _, _, _, _, _, _, _, _, _, _, inserted⟩ := createScheduledStatus_ok success
  exact (insertScheduledStatus_ok valid.mediaKeys inserted).keeps valid shaped

theorem publishScheduledStatus_keeps {now : Int} {id : Nat} (valid : db.Valid) (shaped : db.Shape)
    (success : publishScheduledStatus env now db id = .ok next) : next.Valid ∧ next.Shape := by
  unfold publishScheduledStatus at success
  split at success
  · cases success
    exact ⟨valid, shaped⟩
  next schedule _ =>
    split_ifs at success
    · cases success
      exact cancelScheduledStatus_keeps valid shaped _ _
    · split at success
      · cases success
        exact ⟨valid, shaped⟩
      · split at success
        next published =>
          cases success
          exact createStatusFromInput_keeps valid shaped published
        · split_ifs at success
          cases success
          exact cancelScheduledStatus_keeps valid shaped _ _

end

/-!
## Acceptance
-/

section

variable (env : Environment) (db : Db) (account : LocalAccount) (input : StatusInput)

/-- What a new status must meet, in the terms of its input and of the state. Media may be
reserved for the schedule that is published. -/
def Postable (published : Option Nat) : Prop :=
  ∃ mediaIds, parseMediaIds (input.mediaIds.getD []) = .ok mediaIds ∧
    ContentsAllowed env.segmentation input.quotedStatusId.isSome mediaIds input.poll
      (input.status.getD "") (!mediaIds.isEmpty || input.poll.isSome) ∧
    (∃ quoted, quoteTarget env db account.id (requestedVisibility account input)
      (input.status.getD "") input.quotedStatusId = .ok quoted) ∧
    (∃ replyId, parseOptionalStatusId input.inReplyToId = .ok replyId ∧
      ∃ reply, postReplyTarget db account.id replyId = .ok reply) ∧
    (∀ id ∈ mediaIds, ∃ media ∈ db.media, media.id = id ∧
      mediaAvailable account.id published media = true) ∧
    (findLocalAccountById db account.id).isSome = true

def PollAlone : Prop :=
  input.poll.isSome = true ∧ input.mediaIds.getD [] = [] ∧ Text.trim (input.status.getD "") = ""

/-- The input replies to an open remote status of an actor that the account blocks. -/
def RepliesToBlocked : Prop :=
  ∃ id parent, parseOptionalStatusId input.inReplyToId = .ok (some id) ∧
    findLocalStatusById db id = none ∧ findRemoteStatusById db id = some parent ∧
    isOpen parent.visibility = true ∧
    Timeline.blocksRemote db.timeline account.id parent.remoteActorId = true

def InTime (now : Int) : Prop :=
  ∃ scheduledAt, parseScheduledAt env input.scheduledAt = .ok scheduledAt ∧
    now + env.minimumOffset < scheduledAt.1 ∧ totalSchedules db account.id < env.totalLimit ∧
    dailySchedules db account.id (dayStart scheduledAt) < env.dailyLimit

end

section

variable {env : Environment} {db : Db} {account : LocalAccount} {input : StatusInput}

theorem createPoll_isOk_iff {created : Db} {id : StatusId} {poll : Option NewStatusPoll} :
    (∃ polled, createPoll env.segmentation created id poll = .ok polled) ↔
      PollValid env.segmentation poll := by
  cases poll with
  | none => exact iff_of_true ⟨_, rfl⟩ nofun
  | some input =>
      simp only [createPoll, createLocalPoll, bind_eq_ok_iff, exists_unit_iff]
      constructor
      · rintro ⟨_, valid, _⟩ _ same
        cases same
        exact valid
      · exact fun valid => ⟨_, valid input rfl, rfl⟩

theorem createStatusFromInput_isOk_iff {published : Option Nat} {id : StatusId}
    (unique : (db.media.map LocalMediaAttachment.id).Nodup)
    (fresh : ∀ status ∈ db.statuses, status.id ≠ id) :
    (∃ next, createStatusFromInput env db account input published id = .ok next) ↔
      Postable env db account input published := by
  simp only [createStatusFromInput, bind_eq_ok_iff, exists_unit_iff, mapError_eq_ok_iff,
    checkContents_eq_ok_iff]
  constructor
  · rintro ⟨_, mediaIds, parsed, allowed, quoted, resolved, replyId, reply, target, found, created,
      writes, _⟩
    obtain ⟨available, _, exists_⟩ :=
      (createLocalStatusWithMedia_isOk_iff unique).mp ⟨created, writes⟩
    exact ⟨mediaIds, parsed, allowed, ⟨quoted, resolved⟩, ⟨replyId, reply, target, found⟩,
      available, exists_⟩
  · rintro ⟨mediaIds, parsed, allowed, ⟨quoted, resolved⟩, ⟨replyId, reply, target, found⟩,
      available, exists_⟩
    obtain ⟨created, writes⟩ : ∃ created, createLocalStatusWithMedia db
        (newLocalStatus account input id quoted.2 target) mediaIds published
        (explicitAudience env db input quoted.2) = .ok created :=
      (createLocalStatusWithMedia_isOk_iff unique).mpr ⟨available, fresh, exists_⟩
    obtain ⟨polled, polls⟩ : ∃ polled,
        createPoll env.segmentation created id input.poll = .ok polled :=
      createPoll_isOk_iff.mpr allowed.poll
    exact ⟨_, mediaIds, parsed, allowed, quoted, resolved, replyId, reply, target, found, created,
      writes, polled, polls, rfl⟩

theorem replyTarget_isOk_iff {viewer : AccountId} {remoteVisible : RemoteStatus → Bool}
    {id : StatusId} :
    (∃ reply, replyTarget db viewer remoteVisible (some id) = .ok reply) ↔
      (∃ parent, findLocalStatusById db id = some parent ∧
        statusVisibleToViewer db parent viewer = true) ∨
      (findLocalStatusById db id = none ∧ ∃ parent, findRemoteStatusById db id = some parent ∧
        remoteVisible parent = true) := by
  unfold replyTarget
  dsimp only
  split
  next parent localParent =>
    split
    next visible => exact iff_of_true ⟨_, rfl⟩ (.inl ⟨parent, localParent, visible⟩)
    next hidden =>
      refine iff_of_false (by rintro ⟨_, found⟩; cases found) ?_
      rintro (⟨_, same, visible⟩ | ⟨missing, _⟩)
      · rw [localParent] at same
        cases same
        exact hidden visible
      · rw [localParent] at missing
        cases missing
  next missing =>
    split
    next parent remoteParent =>
      split
      next visible => exact iff_of_true ⟨_, rfl⟩ (.inr ⟨missing, parent, remoteParent, visible⟩)
      next hidden =>
        refine iff_of_false (by rintro ⟨_, found⟩; cases found) ?_
        rintro (⟨_, same, _⟩ | ⟨_, _, same, visible⟩)
        · rw [missing] at same
          cases same
        · rw [remoteParent] at same
          cases same
          exact hidden visible
    next missingRemote =>
      refine iff_of_false (by rintro ⟨_, found⟩; cases found) ?_
      rintro (⟨_, same, _⟩ | ⟨_, _, same, _⟩)
      · rw [missing] at same
        cases same
      · rw [missingRemote] at same
        cases same

theorem remoteStatusVisibleToAccount_open {parent : RemoteStatus} {viewer : AccountId}
    (opened : isOpen parent.visibility = true) :
    remoteStatusVisibleToAccount db parent viewer =
      !Timeline.blocksRemote db.timeline viewer parent.remoteActorId := by
  rw [remoteStatusVisibleToAccount, Timeline.remoteStatusVisibleToAccount]
  cases Timeline.blocksRemote db.timeline viewer parent.remoteActorId with
  | true => rfl
  | false =>
      rw [if_neg Bool.false_ne_true]
      exact if_pos opened

theorem scheduleReplyTarget_isOk_iff {replyId : Option StatusId} :
    (∃ reply, scheduleReplyTarget db account.id replyId = .ok reply) ↔
      (∃ reply, postReplyTarget db account.id replyId = .ok reply) ∧
      ¬ ∃ id parent, replyId = some id ∧ findLocalStatusById db id = none ∧
        findRemoteStatusById db id = some parent ∧ isOpen parent.visibility = true ∧
        Timeline.blocksRemote db.timeline account.id parent.remoteActorId = true := by
  cases replyId with
  | none => exact iff_of_true ⟨_, rfl⟩ ⟨⟨_, rfl⟩, by rintro ⟨_, _, given, _⟩; cases given⟩
  | some id =>
      unfold scheduleReplyTarget postReplyTarget
      rw [replyTarget_isOk_iff, replyTarget_isOk_iff]
      constructor
      · rintro (⟨parent, here, visible⟩ | ⟨missing, parent, here, visible⟩)
        · refine ⟨.inl ⟨parent, here, visible⟩, ?_⟩
          rintro ⟨_, _, same, missing, _⟩
          cases same
          rw [here] at missing
          cases missing
        · refine ⟨.inr ⟨missing, parent, here, by rw [visible, Bool.or_true]⟩, ?_⟩
          rintro ⟨_, hidden, same, _, found, opened, blocks⟩
          cases same
          rw [here] at found
          cases found
          rw [remoteStatusVisibleToAccount_open opened, blocks] at visible
          cases visible
      · rintro ⟨⟨parent, here, visible⟩ | ⟨missing, parent, here, visible⟩, unblocked⟩
        · exact .inl ⟨parent, here, visible⟩
        · refine .inr ⟨missing, parent, here, ?_⟩
          rcases Bool.or_eq_true_iff.mp visible with opened | visible
          · rw [remoteStatusVisibleToAccount_open opened, Bool.not_eq_true', ← Bool.not_eq_true]
            exact fun blocks => unblocked ⟨id, parent, rfl, missing, here, opened, blocks⟩
          · exact visible

theorem parseOptionalStatusId_of_parseUuid {rawId : String} {id : Nat}
    (parsed : Text.parseUuid rawId = some id) :
    parseOptionalStatusId (some rawId) = .ok (some ⟨id⟩) := by
  have trimmed : ((some rawId).map Text.trim).filter (· != "") = some rawId := by
    rw [Option.map_some, Text.trim_of_parseUuid parsed, Option.filter_some_eq_some]
    simpa using Text.parseUuid_ne_empty parsed
  unfold parseOptionalStatusId
  rw [trimmed]
  dsimp only
  rw [parsed]

theorem parseOptionalStatusId_of_quoteTarget {visibility : StatusVisibility} {content : String}
    {rawId : Option String} {quoted : Option ResolvedQuoteTarget × StatusVisibility}
    (resolved : quoteTarget env db account.id visibility content rawId = .ok quoted) :
    ∃ id, parseOptionalStatusId rawId = .ok id := by
  cases rawId with
  | none => exact ⟨none, rfl⟩
  | some rawId =>
      cases parsed : Text.parseUuid rawId with
      | none =>
          simp only [quoteTarget, resolveQuoteTarget, parsed] at resolved
          cases resolved
      | some id =>
          refine ⟨some ⟨id⟩, ?_⟩
          exact parseOptionalStatusId_of_parseUuid parsed

theorem mediaAvailable_none {account : AccountId} {media : LocalMediaAttachment} :
    mediaAvailable account none media = mediaReservable account media := by
  unfold mediaAvailable mediaReservable
  cases media.scheduledStatusId <;> rfl

theorem createScheduledStatus_isOk_iff {now : Int} {id : Nat} {publication : StatusId}
    (unique : (db.media.map LocalMediaAttachment.id).Nodup)
    (inTime : InTime env db account input now)
    (fresh : ∀ schedule ∈ db.schedules, schedule.id ≠ id)
    (freshPublication : ∀ schedule ∈ db.schedules, schedule.publicationStatusId ≠ publication) :
    (∃ next, createScheduledStatus env now db account input id publication = .ok next) ↔
      Postable env db account input none ∧ ¬ PollAlone input ∧
        ¬ RepliesToBlocked db account input := by
  obtain ⟨scheduledAt, parsedTime, later, total, daily⟩ := inTime
  have blocked (replyId : Option StatusId)
      (parsed : parseOptionalStatusId input.inReplyToId = .ok replyId) :
      RepliesToBlocked db account input ↔ ∃ id parent, replyId = some id ∧
        findLocalStatusById db id = none ∧ findRemoteStatusById db id = some parent ∧
        isOpen parent.visibility = true ∧
        Timeline.blocksRemote db.timeline account.id parent.remoteActorId = true := by
    unfold RepliesToBlocked
    rw [parsed]
    simp only [Except.ok.injEq]
  simp only [createScheduledStatus, parsedTime, bind_eq_ok_iff, exists_unit_iff, ensure_eq_ok_iff,
    mapError_eq_ok_iff, checkContents_eq_ok_iff, decide_eq_true_eq, Except.ok.injEq]
  constructor
  · rintro ⟨next, _, rfl, _, mediaIds, parsed, allowed, quoted, resolved, _, _, replyId, reply,
      target, found, written⟩
    obtain ⟨exists_, _, _, inserted⟩ := reportSchedule_isOk_iff.mp ⟨next, written⟩
    obtain ⟨reserved, _⟩ := (insertScheduledStatus_isOk_iff unique).mp inserted
    obtain ⟨posted, unblocked⟩ := scheduleReplyTarget_isOk_iff.mp ⟨target, found⟩
    refine ⟨⟨mediaIds, parsed, ?_, ⟨quoted, resolved⟩, ⟨replyId, reply, posted⟩, ?_, exists_⟩, ?_,
      fun replies => unblocked ((blocked replyId reply).mp replies)⟩
    · exact { allowed with nonempty := fun blank => by rw [allowed.nonempty blank]; rfl }
    · intro mediaId member
      obtain ⟨media, mediaMember, same, free⟩ := reserved mediaId member
      exact ⟨media, mediaMember, same, mediaAvailable_none.trans free⟩
    · rintro ⟨_, noMedia, blank⟩
      have media := allowed.nonempty blank
      rw [(parseMediaIds_eq_nil_iff parsed).mpr noMedia] at media
      cases media
  · rintro ⟨⟨mediaIds, parsed, allowed, ⟨quoted, resolved⟩, ⟨replyId, reply, posted⟩, available,
      exists_⟩, textual, unblocked⟩
    obtain ⟨quotedId, quotedParsed⟩ := parseOptionalStatusId_of_quoteTarget resolved
    obtain ⟨target, found⟩ := scheduleReplyTarget_isOk_iff.mpr
      ⟨posted, fun replies => unblocked ((blocked replyId reply).mpr replies)⟩
    have inserted : ∃ next, insertScheduledStatus env db (newScheduledStatus account input id
        publication quoted.2 target quotedId scheduledAt mediaIds) = .ok next := by
      refine (insertScheduledStatus_isOk_iff unique).mpr ⟨?_, fresh, freshPublication, allowed.poll⟩
      intro mediaId member
      obtain ⟨media, mediaMember, same, free⟩ := available mediaId member
      exact ⟨media, mediaMember, same, mediaAvailable_none.symm.trans free⟩
    obtain ⟨next, written⟩ := reportSchedule_isOk_iff.mpr ⟨exists_, total, daily, inserted⟩
    refine ⟨next, scheduledAt, rfl, later, mediaIds, parsed, ?_, quoted, resolved, quotedId,
      quotedParsed, replyId, reply, target, found, written⟩
    refine { allowed with nonempty := fun blank => ?_ }
    by_contra bare
    have empty : mediaIds = [] := by simpa using bare
    have polled := allowed.nonempty blank
    rw [empty] at polled
    exact textual ⟨by simpa using polled, (parseMediaIds_eq_nil_iff parsed).mp empty, blank⟩

end

/-!
## Publication
-/

def Db.HostDomains (db : Db) : Prop :=
  ∀ actor ∈ db.actors, ∀ character ∈ actor.domain.toList, Text.isWhitespace character = false

section

variable {env : Environment} {db next : Db} {account : LocalAccount} {input : StatusInput}

theorem effectiveVisibility_idem (target requested : StatusVisibility) :
    effectiveVisibility target (effectiveVisibility target requested) =
      effectiveVisibility target requested := by
  cases target <;> cases requested <;> rfl

theorem effectiveVisibility_direct {target requested : StatusVisibility}
    (direct : effectiveVisibility target requested = .direct) : requested = .direct := by
  cases target <;> cases requested <;> first | rfl | cases direct

theorem mentionsLocalAuthor_trim (text : Content.TextContext) (username content : String) :
    mentionsLocalAuthor text username (Text.trim content) =
      mentionsLocalAuthor text username content := by
  unfold mentionsLocalAuthor
  rw [Text.toList_trim, Text.splitWhitespace_trimMatches]

theorem mentionsRemoteAuthor_trim {actor : RemoteActor} {content : String}
    (host : ∀ character ∈ actor.domain.toList, Text.isWhitespace character = false) :
    mentionsRemoteAuthor actor (Text.trim content) = mentionsRemoteAuthor actor content := by
  have marker : Text.isWhitespace '@' = false := by decide
  unfold mentionsRemoteAuthor
  rw [Text.toList_trim, decide_eq_decide]
  apply Text.infix_trimMatches
  · intro character first
    cases first
    exact marker
  · intro character last
    rw [List.getLast?_append_of_ne_nil _ (List.cons_ne_nil _ _)] at last
    rcases List.mem_cons.mp (List.mem_of_getLast? last) with rfl | inside
    · exact marker
    · exact host character inside

theorem resolveQuoteTarget_again (hosts : db.HostDomains) {viewer : AccountId}
    {requested : StatusVisibility} {content rawId : String} {id : Nat}
    (parsed : Text.parseUuid rawId = some id)
    {quoted : ResolvedQuoteTarget × StatusVisibility}
    (resolved : resolveQuoteTarget env db viewer requested content rawId = .ok quoted) :
    resolveQuoteTarget env db viewer quoted.2 (Text.trim content) (Text.uuidText id) =
      .ok quoted := by
  have still (target : StatusVisibility) (mentioned : Bool)
      (checked : (requested != .direct || mentioned) = true) :
      (effectiveVisibility target requested != .direct || mentioned) = true := by
    rcases Bool.or_eq_true_iff.mp checked with other | mentioned
    · rw [Bool.or_eq_true_iff]
      refine .inl ?_
      rw [bne_iff_ne] at other ⊢
      exact fun direct => other (effectiveVisibility_direct direct)
    · rw [mentioned, Bool.or_true]
  unfold resolveQuoteTarget at resolved ⊢
  rw [parsed] at resolved
  rw [Text.parseUuid_uuidText (Text.parseUuid_lt parsed)]
  dsimp only at resolved ⊢
  split at resolved
  next target _ =>
    obtain ⟨_, visible, rest⟩ := bind_ok resolved
    obtain ⟨author, found, rest⟩ := bind_ok rest
    obtain ⟨_, allowed, rest⟩ := bind_ok rest
    obtain ⟨_, mentioned, written⟩ := bind_ok rest
    cases written
    rw [resolveLocalQuoteTarget, visible, ok_bind, found, ok_bind, allowed, ok_bind,
      mentionsLocalAuthor_trim, still _ _ (ensure_ok mentioned), ensure_true, ok_bind,
      effectiveVisibility_idem]
  next =>
    split at resolved
    next target _ =>
      obtain ⟨_, visible, rest⟩ := bind_ok resolved
      obtain ⟨actor, found, rest⟩ := bind_ok rest
      obtain ⟨_, mentioned, rest⟩ := bind_ok rest
      obtain ⟨_, allowed, written⟩ := bind_ok rest
      cases written
      have host := hosts actor (List.mem_of_find?_eq_some (okOr_ok found))
      rw [resolveRemoteQuoteTarget, visible, ok_bind, found, ok_bind,
        mentionsRemoteAuthor_trim host, still _ _ (ensure_ok mentioned), ensure_true, ok_bind,
        allowed, ok_bind, effectiveVisibility_idem]
    next => cases resolved

theorem validatePoll_trimmed {segmentation : Segmentation} (poll : NewStatusPoll) :
    validatePoll segmentation { poll with options := poll.options.map Text.trim } =
      validatePoll segmentation poll := by
  have trimmed : (poll.options.map Text.trim).map Text.trim = poll.options.map Text.trim := by
    rw [List.map_map]
    exact List.map_congr_left fun option _ => Text.trim_trim option
  simp only [validatePoll, trimmed, List.length_map]

structure ParsedMedia (ids : List Nat) : Prop where
  few : ids.length ≤ maxMediaAttachments
  distinct : ids.Nodup
  bounded : ∀ id ∈ ids, id < 2 ^ 128

theorem parseMediaIds_parsed {values : List String} {ids : List Nat}
    (parsed : parseMediaIds values = .ok ids) : ParsedMedia ids := by
  have length := parseMediaIds_length parsed
  unfold parseMediaIds at parsed
  split at parsed
  · cases parsed
  next few =>
    have read : ids.Nodup ∧ ∀ id ∈ ids, id < 2 ^ 128 := by
      refine foldlM_ok (fun _ ids => ids.Nodup ∧ ∀ id ∈ ids, id < 2 ^ 128)
        ⟨List.nodup_nil, nofun⟩ ?_ parsed
      intro _ value ids next _ ⟨distinct, bounded⟩ round
      unfold parseMediaId at round
      split at round
      · cases round
      next id found =>
        split at round
        · cases round
        next unseen =>
          cases round
          refine ⟨?_, ?_⟩
          · rw [List.nodup_append]
            refine ⟨distinct, List.nodup_singleton _, ?_⟩
            intro one oneMember two twoMember same
            rw [List.mem_singleton] at twoMember
            exact unseen (List.contains_iff_mem.mpr (twoMember ▸ same ▸ oneMember))
          · intro other member
            rcases List.mem_append.mp member with before | here
            · exact bounded other before
            · rw [List.mem_singleton.mp here]
              exact Text.parseUuid_lt found
    exact ⟨by omega, read.1, read.2⟩

theorem parseMediaIds_uuidText {ids : List Nat} (stored : ParsedMedia ids) :
    parseMediaIds (ids.map Text.uuidText) = .ok ids := by
  have loop : ∀ (rest done : List Nat), (done ++ rest).Nodup → (∀ id ∈ rest, id < 2 ^ 128) →
      (rest.map Text.uuidText).foldlM parseMediaId done = .ok (done ++ rest) := by
    intro rest
    induction rest with
    | nil =>
        intro done _ _
        rw [List.append_nil]
        rfl
    | cons id rest ih =>
        intro done distinct bounded
        have small := bounded id List.mem_cons_self
        have read := Text.parseUuid_uuidText small
        have unseen : done.contains id = false := by
          rw [← Bool.not_eq_true, List.contains_iff_mem]
          intro seen
          exact (List.nodup_append.mp distinct).2.2 id seen id List.mem_cons_self rfl
        have round : parseMediaId done (Text.uuidText id) = .ok (done ++ [id]) := by
          unfold parseMediaId
          rw [Text.trim_of_parseUuid read, read]
          dsimp only
          rw [unseen, if_neg Bool.false_ne_true]
        rw [List.map_cons, List.foldlM_cons, round, ok_bind,
          ih (done ++ [id]) (by simpa using distinct)
            fun other member => bounded other (List.mem_cons_of_mem _ member)]
        rw [List.append_assoc, List.singleton_append]
  unfold parseMediaIds
  rw [List.length_map, if_neg (Nat.not_lt.mpr stored.few)]
  exact loop ids [] stored.distinct stored.bounded

theorem Scheduled.reserved {new : NewScheduledStatus} (scheduled : Scheduled db next new)
    (valid : db.Valid) {upload : LocalMediaAttachment} (member : upload ∈ next.media)
    (owned : upload.scheduledStatusId = some new.id) :
    upload.id ∈ new.mediaIds ∧ mediaAvailable new.accountId (some new.id) upload = true := by
  obtain ⟨source, sourceMember, sameId, sameAccount, moved⟩ := scheduled.media.origin member
  have schedule : upload.owners.2 = some new.id := owned
  rw [moved, attachedOwners] at schedule
  split at schedule
  next named =>
    have free := scheduled.free source sourceMember named
    simp only [mediaReservable, Bool.and_eq_true, beq_iff_eq, Option.isNone_iff_eq_none] at free
    have status : upload.statusId = none := by
      have first := congrArg Prod.fst moved
      rw [attachedOwners, if_pos named] at first
      exact first.trans free.1.2
    refine ⟨sameId ▸ named, ?_⟩
    simp [mediaAvailable, sameAccount, free.1.1, status, owned]
  next =>
    obtain ⟨found, foundMember, same⟩ := valid.mediaSchedule source sourceMember new.id schedule
    exact absurd same (scheduled.fresh found foundMember)

theorem mem_scheduledMedia {id : Nat} {media : LocalMediaAttachment} :
    media ∈ mediaAttachmentsForScheduledStatus db id ↔
      media ∈ db.media ∧ media.scheduledStatusId = some id := by
  rw [mediaAttachmentsForScheduledStatus, List.mem_insertionSort, List.mem_filter, beq_iff_eq]

def publishedMedia (db : Db) (id : Nat) : List Nat :=
  (mediaAttachmentsForScheduledStatus db id).map LocalMediaAttachment.id

theorem Scheduled.publishedMedia {new : NewScheduledStatus} (scheduled : Scheduled db next new)
    (valid : db.Valid) (parsed : ParsedMedia new.mediaIds) :
    ParsedMedia (publishedMedia next new.id) ∧
      (Posting.publishedMedia next new.id = [] ↔ new.mediaIds = []) ∧
      ∀ id ∈ Posting.publishedMedia next new.id, ∃ media ∈ next.media, media.id = id ∧
        mediaAvailable new.accountId (some new.id) media = true := by
  have named {id : Nat} (member : id ∈ Posting.publishedMedia next new.id) :
      id ∈ new.mediaIds ∧ ∃ media ∈ next.media, media.id = id ∧
        mediaAvailable new.accountId (some new.id) media = true := by
    obtain ⟨upload, stored, rfl⟩ := List.mem_map.mp member
    obtain ⟨uploadMember, owned⟩ := mem_scheduledMedia.mp stored
    obtain ⟨listed, available⟩ := scheduled.reserved valid uploadMember owned
    exact ⟨listed, upload, uploadMember, rfl, available⟩
  have distinct : (Posting.publishedMedia next new.id).Nodup := by
    have sorted : (Posting.publishedMedia next new.id).Perm
        ((next.media.filter fun media => media.scheduledStatusId == some new.id).map
          LocalMediaAttachment.id) :=
      (List.perm_insertionSort _ _).map _
    refine sorted.nodup_iff.mpr (List.Nodup.sublist (List.filter_sublist.map _) ?_)
    rw [scheduled.media.keys]
    exact valid.mediaKeys
  have subset : Posting.publishedMedia next new.id ⊆ new.mediaIds := fun _ member =>
    (named member).1
  refine ⟨⟨?_, distinct, fun id member => parsed.bounded id (named member).1⟩, ?_,
    fun id member => (named member).2⟩
  · exact ((List.subperm_of_subset distinct subset).length_le).trans parsed.few
  · constructor
    · intro none
      rw [List.eq_nil_iff_forall_not_mem]
      intro id member
      obtain ⟨source, sourceMember, rfl⟩ := scheduled.named id member
      obtain ⟨upload, uploadMember, _, _, moved⟩ := scheduled.media.image sourceMember
      rw [attachedOwners, if_pos member] at moved
      have stored := mem_scheduledMedia.mpr ⟨uploadMember, congrArg Prod.snd moved⟩
      have present := List.mem_map_of_mem (f := LocalMediaAttachment.id) stored
      exact List.ne_nil_of_mem present none
    · intro none
      rw [none] at subset
      exact List.subset_nil.mp subset

theorem pollValid_trimmed {segmentation : Segmentation} {poll : Option NewStatusPoll}
    (valid : PollValid segmentation poll) :
    PollValid segmentation (poll.map fun poll =>
      { poll with options := poll.options.map Text.trim }) := by
  intro trimmed same
  obtain ⟨given, here, rfl⟩ := Option.map_eq_some_iff.mp same
  rw [validatePoll_trimmed]
  exact valid given here

theorem storedReply {viewer : AccountId} {rawId : Option String} {replyId : Option StatusId}
    {reply : Option StatusId × Option StatusId}
    (parsed : parseOptionalStatusId rawId = .ok replyId)
    (target : scheduleReplyTarget db viewer replyId = .ok reply) :
    parseOptionalStatusId ((reply.1.or reply.2).map fun id => Text.uuidText id.value) =
      .ok replyId := by
  cases replyId with
  | none =>
      cases target
      rfl
  | some id =>
      have same : reply.1.or reply.2 = some id := by
        unfold scheduleReplyTarget replyTarget at target
        dsimp only at target
        split at target
        · split at target
          · cases target
            rfl
          · cases target
        · split at target
          next parent found =>
            split at target
            · cases target
              have matched := List.find?_some found
              simp only [Bool.and_eq_true, beq_iff_eq] at matched
              rw [Option.none_or, matched.1]
            · cases target
          · cases target
      have bounded : id.value < 2 ^ 128 := by
        unfold parseOptionalStatusId at parsed
        split at parsed
        · cases parsed
        · split at parsed
          · cases parsed
          next read =>
            cases parsed
            exact Text.parseUuid_lt read
      rw [same, Option.map_some]
      exact parseOptionalStatusId_of_parseUuid (Text.parseUuid_uuidText bounded)

theorem storedQuote (hosts : db.HostDomains) {viewer : AccountId} {requested : StatusVisibility}
    {content : String} {rawId : Option String}
    {quoted : Option ResolvedQuoteTarget × StatusVisibility} {quotedStatusId : Option StatusId}
    (resolved : quoteTarget env db viewer requested content rawId = .ok quoted)
    (parsed : parseOptionalStatusId rawId = .ok quotedStatusId) :
    quotedStatusId.isSome = rawId.isSome ∧
      quoteTarget env db viewer quoted.2 (Text.trim content)
        (quotedStatusId.map fun id => Text.uuidText id.value) = .ok quoted := by
  cases rawId with
  | none =>
      cases parsed
      cases resolved
      exact ⟨rfl, rfl⟩
  | some rawId =>
      cases read : Text.parseUuid rawId with
      | none =>
          simp only [quoteTarget, resolveQuoteTarget, read] at resolved
          cases resolved
      | some id =>
          rw [parseOptionalStatusId_of_parseUuid read] at parsed
          cases parsed
          refine ⟨rfl, ?_⟩
          unfold quoteTarget at resolved
          dsimp only at resolved
          split at resolved
          next target visibility found =>
            cases resolved
            have again := resolveQuoteTarget_again hosts read found
            unfold quoteTarget
            rw [Option.map_some]
            dsimp only
            rw [again]
          next => cases resolved

theorem createScheduledStatus_postable {now : Int} {id : Nat} {publication : StatusId}
    (valid : db.Valid) (hosts : db.HostDomains)
    (success : createScheduledStatus env now db account input id publication = .ok next) :
    ∃ row : ScheduledStatus, (∀ schedule ∈ db.schedules, schedule.id ≠ id) ∧
      next.schedules = db.schedules ++ [row] ∧ row.id = id ∧ row.accountId = account.id ∧
      row.publicationStatusId = publication ∧ next.statuses = db.statuses ∧
      (next.media.map LocalMediaAttachment.id).Nodup ∧
      ∃ stored, findLocalAccountById next account.id = some stored ∧
        Postable env next stored
          (row.input (mediaAttachmentsForScheduledStatus next id)) (some id) := by
  obtain ⟨scheduledAt, mediaIds, quoted, quotedStatusId, replyId, reply, parsed, allowed, resolved,
    quotes, replies, target, known, inserted⟩ := createScheduledStatus_ok success
  have scheduled := insertScheduledStatus_ok valid.mediaKeys inserted
  obtain ⟨stored, found⟩ := Option.isSome_iff_exists.mp known
  have same : stored.id = account.id := by simpa using List.find?_some found
  obtain ⟨reread, empty, available⟩ :=
    scheduled.publishedMedia valid (parseMediaIds_parsed parsed)
  obtain ⟨quotesAgain, resolvedAgain⟩ := storedQuote hosts resolved quotes
  obtain ⟨posted, _⟩ := scheduleReplyTarget_isOk_iff.mp ⟨reply, target⟩
  obtain ⟨media, written⟩ := scheduled.written
  have schedules := congrArg Db.schedules written
  have accounts : findLocalAccountById next account.id = some stored := by
    rw [written]
    exact found
  have statuses : next.statuses = db.statuses := by
    rw [written]
  have keys : (next.media.map LocalMediaAttachment.id).Nodup :=
    scheduled.media.keys ▸ valid.mediaKeys
  refine ⟨_, scheduled.fresh, schedules, rfl, rfl, rfl, statuses, keys, stored, accounts,
    Posting.publishedMedia next id, ?_, ?_, ?_, ?_, ?_, ?_⟩
  · change parseMediaIds (((mediaAttachmentsForScheduledStatus next id).map fun item =>
      Text.uuidText item.id)) = _
    have ids : (mediaAttachmentsForScheduledStatus next id).map (fun item =>
        Text.uuidText item.id) = (Posting.publishedMedia next id).map Text.uuidText := by
      rw [Posting.publishedMedia, List.map_map]
      rfl
    rw [ids]
    exact parseMediaIds_uuidText reread
  · refine {
      quoteOrMedia := fun quotesMedia => empty.mpr (allowed.quoteOrMedia ?_)
      pollOrMedia := fun polled => empty.mpr (allowed.pollOrMedia ?_)
      poll := pollValid_trimmed allowed.poll
      nonempty := fun blank => ?_
      short := ?_ }
    · rw [← quotesAgain]
      exact Option.isSome_map.symm.trans quotesMedia
    · exact Option.isSome_map.symm.trans polled
    · have attached := allowed.nonempty ((Text.trim_trim _).symm.trans blank)
      have filled : Posting.publishedMedia next id ≠ [] := fun bare => by
        have bareInput : mediaIds = [] := empty.mp bare
        rw [bareInput] at attached
        cases attached
      simp [filled]
    · change (Text.trim (Text.trim (input.status.getD ""))).length ≤ _
      rw [Text.trim_trim]
      exact allowed.short
  · refine ⟨quoted, ?_⟩
    rw [written, same]
    exact resolvedAgain
  · refine ⟨replyId, storedReply replies target, ?_⟩
    rw [written, same]
    exact posted
  · rw [same]
    exact available
  · rw [same, accounts]
    rfl

theorem publishScheduledStatus_isOk {now : Int} {id : Nat} {publication : StatusId}
    (valid : db.Valid) (hosts : db.HostDomains)
    (unused : ∀ status ∈ db.statuses, status.id ≠ publication)
    (success : createScheduledStatus env now db account input id publication = .ok next)
    {later : Int} (due : ∀ schedule ∈ next.schedules, schedule.id = id →
      schedule.scheduledAt ≤ later) :
    ∃ published, publishScheduledStatus env later next id = .ok published ∧
      (findLocalStatusById published publication).isSome = true := by
  obtain ⟨row, fresh, schedules, sameId, owner, target, statuses, keys, stored, found, postable⟩ :=
    createScheduledStatus_postable valid hosts success
  have scheduled : (next.schedules.find? fun schedule => schedule.id == id) = some row := by
    rw [schedules, List.find?_append, List.find?_eq_none.mpr (by simpa using fresh)]
    simp [sameId]
  have dueNow : ¬ later < row.scheduledAt :=
    Int.not_lt.mpr (due row (List.mem_of_find?_eq_some scheduled) sameId)
  have absent : (findLocalStatusById next publication).isSome = false := by
    rw [findLocalStatusById, statuses, Option.isSome_eq_false_iff, Option.isNone_iff_eq_none,
      List.find?_eq_none]
    intro status member
    simp [unused status member]
  have freshStatus : ∀ status ∈ next.statuses, status.id ≠ publication := statuses ▸ unused
  obtain ⟨published, posted⟩ := (createStatusFromInput_isOk_iff keys freshStatus).mpr postable
  refine ⟨published, ?_, ?_⟩
  · unfold publishScheduledStatus
    rw [scheduled]
    dsimp only
    rw [if_neg dueNow, target, absent, if_neg Bool.false_ne_true, owner, found, sameId]
    dsimp only
    rw [posted]
  · obtain ⟨_, quoted, reply, _, _, _, created⟩ := createStatusFromInput_ok keys posted
    rw [findLocalStatusById, created.statuses, List.find?_isSome]
    exact ⟨_, List.mem_append_right _ (List.mem_singleton_self _), by
      simp [NewLocalStatus.row, newLocalStatus]⟩

/-- The two entry points accept the same inputs but for two kinds, and an accepted schedule
is published in the state that it leaves. -/
theorem scheduling_admits_iff {now : Int} {id : Nat} {publication : StatusId} (valid : db.Valid)
    (hosts : db.HostDomains) (inTime : InTime env db account input now)
    (fresh : ∀ schedule ∈ db.schedules, schedule.id ≠ id)
    (unpublished : ∀ schedule ∈ db.schedules, schedule.publicationStatusId ≠ publication)
    (unused : ∀ status ∈ db.statuses, status.id ≠ publication) :
    (((∃ next, createScheduledStatus env now db account input id publication = .ok next) ↔
        ∃ next, createStatusFromInput env db account input none publication = .ok next) ∧
      ∀ next, createScheduledStatus env now db account input id publication = .ok next →
        ∀ later : Int, (∀ schedule ∈ next.schedules, schedule.id = id →
          schedule.scheduledAt ≤ later) →
        ∃ published, publishScheduledStatus env later next id = .ok published ∧
          (findLocalStatusById published publication).isSome = true) ↔
      ¬ (Postable env db account input none ∧
        (PollAlone input ∨ RepliesToBlocked db account input)) := by
  rw [createScheduledStatus_isOk_iff valid.mediaKeys inTime fresh unpublished,
    createStatusFromInput_isOk_iff valid.mediaKeys unused]
  constructor
  · rintro ⟨agree, _⟩ ⟨postable, refused⟩
    obtain ⟨_, textual, unblocked⟩ := agree.mpr postable
    exact refused.elim textual unblocked
  · intro neither
    refine ⟨⟨fun accepted => accepted.1, fun postable => ⟨postable, ?_, ?_⟩⟩, ?_⟩
    · exact fun pollAlone => neither ⟨postable, .inl pollAlone⟩
    · exact fun replies => neither ⟨postable, .inr replies⟩
    · intro next success later due
      exact publishScheduledStatus_isOk valid hosts unused success due

end

namespace Sample

def env : Environment where
  text := {
    isAlphanumeric := Char.isAlphanum
    toLowercase := fun text => text.map Char.toLower
    links := fun _ => []
    isHttpUrl := fun _ => false
    publicBaseUrl := []
    joinBaseUrl := fun _ => none }
  segmentation := ⟨String.length⟩
  parseF64 := fun _ => none
  parseRfc3339 := fun _ => some (10, 0)
  minimumOffset := 5
  totalLimit := 300
  dailyLimit := 25

def account : LocalAccount where
  id := ⟨1⟩
  suspendedAt := none
  username := "ann"
  defaultVisibility := .publicStatus
  defaultSensitive := false
  defaultLanguage := none
  defaultQuotePolicy := .everyone

def db : Db where
  accounts := [account]
  actors := []
  remoteStatuses := []
  localFollows := []
  remoteFollowings := []
  remoteStatusRecipients := []
  localAccountBlocks := []
  localRemoteAccountBlocks := []
  remoteLocalAccountBlocks := []
  statuses := []
  recipients := []
  media := [⟨7, ⟨1⟩, none, none, 0, none, none, none⟩]
  polls := []
  quotes := []
  schedules := []

def blank : StatusInput :=
  ⟨none, none, none, none, none, none, none, [], none, none, none, none⟩

def text : StatusInput :=
  { blank with status := some "first", scheduledAt := some "later" }

def pollOnly : StatusInput :=
  { blank with
    scheduledAt := some "later"
    poll := some ⟨["yes", "no"], 300, false, false⟩ }

theorem valid : db.Valid := by
  refine ⟨by decide, by decide, by decide, by decide, ?_, ?_, nofun, nofun, nofun⟩
  · intro media member id attached
    obtain rfl := List.mem_singleton.mp member
    cases attached
  · intro media member id reserved
    obtain rfl := List.mem_singleton.mp member
    cases reserved

theorem hosts : db.HostDomains := fun _ listed => absurd listed List.not_mem_nil

theorem noSchedule (fresh : ScheduledStatus → Prop) : ∀ schedule ∈ db.schedules, fresh schedule :=
  fun _ listed => absurd listed List.not_mem_nil

theorem noStatus (fresh : LocalStatus → Prop) : ∀ status ∈ db.statuses, fresh status :=
  fun _ listed => absurd listed List.not_mem_nil

theorem inTime {input : StatusInput} (scheduledAt : input.scheduledAt = some "later") :
    InTime env db account input 0 := by
  refine ⟨(10, 0), ?_, by decide, by decide, by decide⟩
  rw [scheduledAt]
  rfl

end Sample

open Sample in
/-- A poll may be posted without a text, but not scheduled. -/
theorem poll_alone_not_scheduled :
    ¬ ∀ (env : Environment) (db : Db) (account : LocalAccount) (input : StatusInput) (now : Int)
        (id : Nat) (publication : StatusId), db.Valid → db.HostDomains →
      InTime env db account input now →
      (∀ schedule ∈ db.schedules, schedule.id ≠ id) →
      (∀ schedule ∈ db.schedules, schedule.publicationStatusId ≠ publication) →
      (∀ status ∈ db.statuses, status.id ≠ publication) →
      ((∃ next, createScheduledStatus env now db account input id publication = .ok next) ↔
        ∃ next, createStatusFromInput env db account input none publication = .ok next) := by
  intro agree
  have same := agree env db account pollOnly 0 4 ⟨5⟩ valid hosts (inTime rfl)
    (noSchedule _) (noSchedule _) (noStatus _)
  have posted : (createStatusFromInput env db account pollOnly none ⟨5⟩).toOption.isSome = true := by
    decide +kernel
  have refused : (createScheduledStatus env 0 db account pollOnly 4 ⟨5⟩).toOption.isSome = false := by
    decide +kernel
  cases written : createStatusFromInput env db account pollOnly none ⟨5⟩ with
  | error error =>
      rw [written] at posted
      cases posted
  | ok created =>
      obtain ⟨next, scheduled⟩ := same.mpr ⟨created, written⟩
      rw [scheduled] at refused
      cases refused

open Sample in
theorem text_is_scheduled :
    (∃ next, createScheduledStatus env 0 db account text 4 ⟨5⟩ = .ok next) ↔
      ∃ next, createStatusFromInput env db account text none ⟨5⟩ = .ok next := by
  refine ((scheduling_admits_iff valid hosts (inTime rfl) (noSchedule _) (noSchedule _)
    (noStatus _)).mpr ?_).1
  rintro ⟨_, pollAlone | ⟨_, _, parsed, _⟩⟩
  · exact Bool.false_ne_true pollAlone.1
  · have noReply : parseOptionalStatusId text.inReplyToId = .ok none := rfl
    rw [noReply] at parsed
    cases parsed

end Roosty.Status.Posting
