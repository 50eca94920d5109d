import Roosty.Status.Editing
import Roosty.Status.SchedulingProperties

/-!
# Properties of editing

The shape of local statuses over runs of every entry point that writes them, and the edits
that are checked as a new status would be.
-/

set_option autoImplicit false

namespace Roosty.Status.Posting

open Library
open Federation.Inbox (QuoteApprovalPolicy QuoteState)
open Poll (NewStatusPoll Segmentation validatePoll)
open Timeline (isOpen)

/-!
## Media of an edited status
-/

theorem editedAttaches (id : StatusId) :
    Attaches (fun index (media : LocalMediaAttachment) =>
      { media with statusId := some id, statusOrder := index })
      fun owned => (some id, owned.2) where
  id _ _ := rfl
  accountId _ _ := rfl
  moves _ _ := rfl
  idem _ := rfl

/-- The media of a status after an edit that names them, or leaves them alone. -/
def finalMedia (db : Db) (id : StatusId) (mediaIds : Option (List Nat)) : List Nat :=
  mediaIds.getD ((mediaOfStatus db id).map LocalMediaAttachment.id)

/-- The owners of an upload after the media of a status have been replaced. -/
def replacedOwners (id : StatusId) (mediaIds : Option (List Nat)) (media : LocalMediaAttachment) :
    Option StatusId × Option Nat :=
  match mediaIds with
  | none => media.owners
  | some mediaIds =>
      (if media.id ∈ mediaIds then some id
        else if media.statusId = some id then none else media.statusId, media.scheduledStatusId)

section

variable {env : Environment} {db next : Db}

theorem mem_mediaOfStatus {id : StatusId} {media : LocalMediaAttachment} :
    media ∈ mediaOfStatus db id ↔ media ∈ db.media ∧ media.statusId = some id := by
  rw [mediaOfStatus, List.mem_insertionSort, List.mem_filter, beq_iff_eq]

theorem editedHasMedia_eq {id : StatusId} {mediaIds : Option (List Nat)} :
    editedHasMedia db id mediaIds = !(finalMedia db id mediaIds).isEmpty := by
  cases mediaIds with
  | some mediaIds => rfl
  | none =>
      rw [Bool.eq_iff_iff]
      change localStatusHasMedia db id = true ↔ _
      rw [localStatusHasMedia_iff]
      simp only [finalMedia, Option.getD_none, List.isEmpty_map, Bool.not_eq_true',
        List.isEmpty_eq_false_iff_exists_mem, mem_mediaOfStatus]

theorem detached_reassigned (db : Db) (id : StatusId) (mediaIds : List Nat) :
    Reassigned (fun media => (if media.statusId = some id ∧ media.id ∉ mediaIds then none
        else media.statusId, media.scheduledStatusId)) db.media
      (Table.updateWhere
        (fun media => media.statusId == some id && !mediaIds.contains media.id)
        (fun media => { media with statusId := none, statusOrder := 0 }) db.media) := by
  apply Reassigned.updateWhere
  · exact fun _ => ⟨rfl, rfl⟩
  · intro media _ selected
    rw [if_pos (by simpa using selected)]
    rfl
  · intro media _ other
    rw [if_neg (by simpa using other)]
    rfl

theorem replaceMedia_reassigned {account : AccountId} {id : StatusId}
    {mediaIds : Option (List Nat)} {media : List LocalMediaAttachment}
    (success : replaceMedia db account id mediaIds = .ok media) :
    Reassigned (replacedOwners id mediaIds) db.media media := by
  cases mediaIds with
  | none =>
      cases success
      exact Reassigned.refl fun _ _ => rfl
  | some mediaIds =>
      obtain ⟨_, _, attached⟩ := bind_ok success
      refine (detached_reassigned db id mediaIds).trans
        (attachMedia_reassigned (editedAttaches id) attached) ?_
      intro source _ moved _ sameId _ owned
      rw [attachedOwners, sameId, owned, replacedOwners]
      by_cases named : source.id ∈ mediaIds
      · rw [if_pos named, if_pos named]
      · rw [if_neg named, if_neg named]
        simp only [named, not_false_eq_true, and_true]

/-- Whether an upload may become media of an edited status: its reservation counts. -/
def EditMediaAllowed (db : Db) (account : AccountId) (id : StatusId)
    (mediaIds : Option (List Nat)) : Prop :=
  ∀ named, mediaIds = some named → ∀ mediaId ∈ named, ∃ media ∈ db.media, media.id = mediaId ∧
    editMediaAvailable account id media = true ∧ media.scheduledStatusId = none

theorem replaceMedia_isOk_iff (unique : (db.media.map LocalMediaAttachment.id).Nodup)
    {account : AccountId} {id : StatusId} {mediaIds : Option (List Nat)} :
    (∃ media, replaceMedia db account id mediaIds = .ok media) ↔
      EditMediaAllowed db account id mediaIds := by
  cases mediaIds with
  | none => exact iff_of_true ⟨_, rfl⟩ nofun
  | some mediaIds =>
      have detached := detached_reassigned db id mediaIds
      have attachable_iff (row : LocalMediaAttachment) :
          attachable (fun owned => (some id, owned.2)) row = true ↔ row.owners.2 = none := by
        simp [attachable]
      simp only [replaceMedia, bind_eq_ok_iff, exists_unit_iff]
      rw [exists_and_left, attachMedia_isOk_iff (editedAttaches id) (detached.keys ▸ unique),
        checkMedia_eq_ok_iff unique]
      constructor
      · rintro ⟨available, attaches⟩ named same mediaId member
        cases same
        obtain ⟨media, mediaMember, sameId, passes⟩ := available mediaId member
        obtain ⟨row, rowMember, rowSame, free⟩ := attaches mediaId member
        obtain ⟨source, sourceMember, sourceId, _, owned⟩ := detached.origin rowMember
        have here : source = media := List.inj_on_of_nodup_map unique sourceMember mediaMember
          (sourceId.symm.trans (rowSame.trans sameId.symm))
        subst here
        have unscheduled : row.owners.2 = none := (attachable_iff row).mp free
        rw [owned] at unscheduled
        exact ⟨source, mediaMember, sameId, passes, unscheduled⟩
      · intro allowed
        refine ⟨fun mediaId member => ?_, fun mediaId member => ?_⟩
        · obtain ⟨media, found, same, passes, _⟩ := allowed mediaIds rfl mediaId member
          exact ⟨media, found, same, passes⟩
        · obtain ⟨media, found, same, _, unscheduled⟩ := allowed mediaIds rfl mediaId member
          obtain ⟨row, rowMember, rowSame, _, owned⟩ := detached.image found
          refine ⟨row, rowMember, rowSame.trans same, (attachable_iff row).mpr ?_⟩
          rw [owned]
          exact unscheduled

/-!
## Attributes
-/

theorem updateAttribute_isOk_iff {account : AccountId} {id : StatusId}
    {media : List LocalMediaAttachment} {item : LocalStatusMediaAttributeUpdate} :
    (∃ updated, updateAttribute account id media item = .ok updated) ↔
      ∃ row ∈ media, row.id = item.mediaId ∧ row.accountId = account ∧ row.statusId = some id := by
  unfold updateAttribute
  split
  next present =>
    refine iff_of_true ⟨_, rfl⟩ ?_
    simpa [and_assoc] using present
  next absent =>
    refine iff_of_false (by rintro ⟨_, success⟩; cases success) ?_
    simpa [and_assoc] using absent

theorem updateAttribute_reassigned {account : AccountId} {id : StatusId}
    {media updated : List LocalMediaAttachment} {item : LocalStatusMediaAttributeUpdate}
    (success : updateAttribute account id media item = .ok updated) :
    Reassigned LocalMediaAttachment.owners media updated := by
  unfold updateAttribute at success
  split at success
  · cases success
    exact Reassigned.updateWhere (fun _ => ⟨rfl, rfl⟩) (fun _ _ _ => rfl) fun _ _ _ => rfl
  · cases success

theorem updateAttributes_reassigned {account : AccountId} {id : StatusId}
    {items : List LocalStatusMediaAttributeUpdate} {media updated : List LocalMediaAttachment}
    (success : items.foldlM (updateAttribute account id) media = .ok updated) :
    Reassigned LocalMediaAttachment.owners media updated := by
  refine foldlM_ok (fun _ reached => Reassigned LocalMediaAttachment.owners media reached)
    (Reassigned.refl fun _ _ => rfl) ?_ success
  intro _ item reached written _ moved round
  exact moved.trans (updateAttribute_reassigned round) fun _ _ _ _ _ _ owned => owned

theorem updateAttributes_isOk_iff {account : AccountId} {id : StatusId}
    {items : List LocalStatusMediaAttributeUpdate} {media : List LocalMediaAttachment} :
    (∃ updated, items.foldlM (updateAttribute account id) media = .ok updated) ↔
      ∀ item ∈ items, ∃ row ∈ media, row.id = item.mediaId ∧ row.accountId = account ∧
        row.statusId = some id := by
  induction items generalizing media with
  | nil => exact ⟨fun _ _ member => absurd member List.not_mem_nil, fun _ => ⟨media, rfl⟩⟩
  | cons item items ih =>
      rw [List.forall_mem_cons, ← updateAttribute_isOk_iff]
      have stays {written : List LocalMediaAttachment}
          (first : updateAttribute account id media item = .ok written) (mediaId : Nat) :
          (∃ row ∈ written, row.id = mediaId ∧ row.accountId = account ∧
            row.statusId = some id) ↔
          ∃ row ∈ media, row.id = mediaId ∧ row.accountId = account ∧ row.statusId = some id := by
        have moved := updateAttribute_reassigned first
        constructor
        · rintro ⟨row, member, rfl, rfl, status⟩
          obtain ⟨source, sourceMember, sameId, sameAccount, owned⟩ := moved.origin member
          exact ⟨source, sourceMember, sameId.symm, sameAccount.symm,
            (congrArg Prod.fst owned).symm.trans status⟩
        · rintro ⟨source, sourceMember, rfl, rfl, status⟩
          obtain ⟨row, member, sameId, sameAccount, owned⟩ := moved.image sourceMember
          exact ⟨row, member, sameId, sameAccount, (congrArg Prod.fst owned).trans status⟩
      constructor
      · rintro ⟨updated, success⟩
        rw [List.foldlM_cons] at success
        obtain ⟨written, first, rest⟩ := bind_ok success
        exact ⟨⟨written, first⟩, fun other member =>
          (stays first other.mediaId).mp (ih.mp ⟨updated, rest⟩ other member)⟩
      · rintro ⟨⟨written, first⟩, rest⟩
        obtain ⟨updated, success⟩ := (@ih written).mpr fun other member =>
          (stays first other.mediaId).mpr (rest other member)
        exact ⟨updated, by rw [List.foldlM_cons, first, ok_bind, success]⟩

/-!
## Polls
-/

theorem replaceLocalPoll_isOk_iff {segmentation : Segmentation} {polls : List StatusPoll}
    {id : StatusId} {poll : Option NewStatusPoll} :
    (∃ replaced, replaceLocalPoll segmentation polls id poll = .ok replaced) ↔
      PollValid segmentation poll := by
  cases poll with
  | none => exact iff_of_true ⟨_, rfl⟩ nofun
  | some input =>
      simp only [replaceLocalPoll, bind_eq_ok_iff, exists_unit_iff]
      constructor
      · rintro ⟨_, valid, _⟩ other same
        cases same
        exact valid
      · exact fun valid => ⟨_, valid input rfl, rfl⟩

theorem replaceLocalPoll_polls {segmentation : Segmentation} {polls replaced : List StatusPoll}
    {id : StatusId} {poll : Option NewStatusPoll}
    (success : replaceLocalPoll segmentation polls id poll = .ok replaced) (other : StatusId) :
    (∃ row ∈ replaced, row.localStatusId = other) ↔
      if other = id then poll.isSome = true else ∃ row ∈ polls, row.localStatusId = other := by
  cases poll with
  | none =>
      cases success
      simp only [Table.mem_deleteWhere, beq_eq_false_iff_ne, Option.isSome_none]
      split
      next same =>
        refine iff_of_false ?_ Bool.false_ne_true
        rintro ⟨row, ⟨_, different⟩, here⟩
        exact different (here.trans same)
      next different =>
        constructor
        · rintro ⟨row, ⟨member, _⟩, here⟩
          exact ⟨row, member, here⟩
        · rintro ⟨row, member, here⟩
          exact ⟨row, ⟨member, fun same => different (here.symm.trans same)⟩, here⟩
  | some input =>
      obtain ⟨_, _, written⟩ := bind_ok success
      cases written
      simp only [Option.isSome_some]
      split
      next existing =>
        simp only [List.any_eq_true, beq_iff_eq] at existing
        obtain ⟨row, member, here⟩ := existing
        simp only [Table.mem_updateWhere, beq_eq_false_iff_ne, beq_iff_eq]
        split
        next same =>
          refine iff_of_true ⟨pollRow id input, .inr ⟨row, member, here, rfl⟩, same.symm⟩ trivial
        next different =>
          constructor
          · rintro ⟨found, ⟨kept, _⟩ | ⟨_, _, _, rfl⟩, isOther⟩
            · exact ⟨found, kept, isOther⟩
            · exact absurd isOther.symm different
          · rintro ⟨found, kept, rfl⟩
            exact ⟨found, .inl ⟨kept, different⟩, rfl⟩
      next missing =>
        simp only [List.mem_append, List.mem_singleton]
        split
        next same => exact iff_of_true ⟨pollRow id input, .inr rfl, same.symm⟩ trivial
        next different =>
          constructor
          · rintro ⟨found, kept | rfl, isOther⟩
            · exact ⟨found, kept, isOther⟩
            · exact absurd isOther.symm different
          · rintro ⟨found, kept, rfl⟩
            exact ⟨found, .inl kept, rfl⟩

/-!
## Edits
-/

theorem ownedStatus_eq_some_iff (valid : db.Valid) {id : StatusId} {account : AccountId}
    {status : LocalStatus} :
    ownedStatus db id account = some status ↔ status ∈ db.statuses ∧ status.id = id ∧
      status.accountId = account ∧ status.deletedAt = none := by
  have found := @Table.find?_key_eq_some_iff _ _ _ (fun status : LocalStatus => status.id)
    (fun status => status.accountId == account && status.deletedAt.isNone) db.statuses
    valid.statusKeys id status
  simp only [Bool.and_eq_true, beq_iff_eq, Option.isNone_iff_eq_none] at found
  rw [← found, ownedStatus]
  simp only [Bool.and_assoc]

structure Edited (db next : Db) (status : LocalStatus) (update : LocalStatusUpdate)
    (mediaIds : Option (List Nat)) : Prop where
  statuses : next.statuses =
    Table.updateWhere (fun row => row.id == status.id) update.apply db.statuses
  media : Reassigned (replacedOwners status.id mediaIds) db.media next.media
  allowed : ∀ named, mediaIds = some named → ∀ media ∈ db.media, media.id ∈ named →
    editMediaAvailable status.accountId status.id media = true ∧ media.scheduledStatusId = none
  polls : ∀ id, hasPoll next id = true ↔
    if id = status.id then update.poll.isSome = true else hasPoll db id = true
  quotes : next.quotes = db.quotes
  schedules : next.schedules = db.schedules

theorem writeLocalStatusUpdate_ok (unique : (db.media.map LocalMediaAttachment.id).Nodup)
    {status : LocalStatus} {update : LocalStatusUpdate} {mediaIds : Option (List Nat)}
    {items : List LocalStatusMediaAttributeUpdate} {recipients : List AccountId}
    (success : writeLocalStatusUpdate env db status update mediaIds items recipients = .ok next) :
    Edited db next status update mediaIds := by
  obtain ⟨replaced, replaces, rest⟩ := bind_ok success
  obtain ⟨media, describes, rest⟩ := bind_ok rest
  obtain ⟨polls, polled, written⟩ := bind_ok rest
  cases written
  refine ⟨rfl, ?_, ?_, ?_, rfl, rfl⟩
  · exact (replaceMedia_reassigned replaces).trans (updateAttributes_reassigned describes)
      fun _ _ _ _ _ _ owned => owned
  · intro named given media member present
    obtain ⟨found, foundMember, same, free⟩ :=
      (replaceMedia_isOk_iff unique).mp ⟨replaced, replaces⟩ named given media.id present
    exact List.inj_on_of_nodup_map unique foundMember member same ▸ free
  · intro id
    rw [hasPoll_iff, hasPoll_iff]
    exact replaceLocalPoll_polls polled id

namespace Edited

variable {status : LocalStatus} {update : LocalStatusUpdate} {mediaIds : Option (List Nat)}

theorem origin (edited : Edited db next status update mediaIds) {row : LocalStatus}
    (member : row ∈ next.statuses) :
    ∃ source ∈ db.statuses, row.id = source.id ∧ row.accountId = source.accountId ∧
      row.visibility = source.visibility ∧
      row.quoteApprovalPolicy = source.quoteApprovalPolicy ∧
      row.content = if source.id = status.id then update.content.getD source.content
        else source.content := by
  rw [edited.statuses, Table.mem_updateWhere] at member
  rcases member with ⟨member, other⟩ | ⟨source, member, chosen, rfl⟩
  · exact ⟨row, member, rfl, rfl, rfl, rfl, (if_neg (by simpa using other)).symm⟩
  · exact ⟨source, member, rfl, rfl, rfl, rfl, (if_pos (by simpa using chosen)).symm⟩

theorem image (edited : Edited db next status update mediaIds) {source : LocalStatus}
    (member : source ∈ db.statuses) :
    ∃ row ∈ next.statuses, row.id = source.id ∧ row.accountId = source.accountId := by
  rw [edited.statuses]
  by_cases chosen : (source.id == status.id) = true
  · exact ⟨update.apply source, Table.mem_updateWhere.mpr (.inr ⟨source, member, chosen, rfl⟩), rfl,
      rfl⟩
  · exact ⟨source, Table.mem_updateWhere.mpr (.inl ⟨member, by simpa using chosen⟩), rfl, rfl⟩

theorem mediaStatus (edited : Edited db next status update mediaIds)
    {upload : LocalMediaAttachment} (member : upload ∈ next.media) {id : StatusId}
    (attached : upload.statusId = some id) :
    ∃ source ∈ db.media, upload.accountId = source.accountId ∧
      (source.statusId = some id ∧ (id = status.id → ∀ named, mediaIds = some named →
          source.id ∈ named) ∨
        id = status.id ∧ source.accountId = status.accountId ∧
          ∃ named, mediaIds = some named ∧ source.id ∈ named) := by
  obtain ⟨source, sourceMember, sameId, sameAccount, owned⟩ := edited.media.origin member
  refine ⟨source, sourceMember, sameAccount, ?_⟩
  have here : upload.owners.1 = some id := attached
  rw [owned] at here
  cases mediaIds with
  | none => exact .inl ⟨here, fun _ _ same => by cases same⟩
  | some named =>
      dsimp only [replacedOwners] at here
      split_ifs at here with present detached
      · cases here
        obtain ⟨available, _⟩ := edited.allowed named rfl source sourceMember present
        simp only [editMediaAvailable, Bool.and_eq_true, beq_iff_eq] at available
        exact .inr ⟨rfl, available.2, named, rfl, present⟩
      · refine .inl ⟨here, fun same => absurd (same ▸ here) detached⟩

theorem valid (edited : Edited db next status update mediaIds) (valid : db.Valid)
    (member : status ∈ db.statuses)
    (short : ∀ content, update.content = some content →
      (Text.trim content).length ≤ maxStatusChars) : next.Valid where
  statusKeys := by
    have keys : (Table.updateWhere (fun row => row.id == status.id) update.apply
        db.statuses).map (fun row => row.id) = db.statuses.map fun row => row.id :=
      Table.map_updateWhere fun _ _ _ => rfl
    rw [edited.statuses, keys]
    exact valid.statusKeys
  mediaKeys := edited.media.keys ▸ valid.mediaKeys
  scheduleKeys := edited.schedules ▸ valid.scheduleKeys
  ownerCheck := by
    intro media mediaMember
    obtain ⟨source, sourceMember, _, _, owned⟩ := edited.media.origin mediaMember
    rw [ownerCheck_eq, owned]
    cases mediaIds with
    | none => exact valid.ownerCheck source sourceMember
    | some named =>
        have checked := valid.ownerCheck source sourceMember
        rw [Posting.ownerCheck] at checked
        unfold replacedOwners
        dsimp only
        split
        next present =>
          rw [(edited.allowed named rfl source sourceMember present).2]
          rfl
        next =>
          split
          · rfl
          · exact checked
  mediaStatus := by
    intro media mediaMember id attached
    obtain ⟨source, sourceMember, sameAccount, ⟨before, _⟩ | ⟨rfl, account, _⟩⟩ :=
      edited.mediaStatus mediaMember attached
    · obtain ⟨found, foundMember, same, account⟩ := valid.mediaStatus source sourceMember id before
      obtain ⟨row, rowMember, rowSame, rowAccount⟩ := edited.image foundMember
      exact ⟨row, rowMember, rowSame.trans same,
        rowAccount.trans (account.trans sameAccount.symm)⟩
    · obtain ⟨row, rowMember, rowSame, rowAccount⟩ := edited.image member
      exact ⟨row, rowMember, rowSame, rowAccount.trans (account.symm.trans sameAccount.symm)⟩
  mediaSchedule := by
    intro media mediaMember id reserved
    obtain ⟨source, sourceMember, _, _, owned⟩ := edited.media.origin mediaMember
    have here : media.owners.2 = some id := reserved
    rw [owned] at here
    have before : source.scheduledStatusId = some id := by
      cases mediaIds <;> exact here
    rw [edited.schedules]
    exact valid.mediaSchedule source sourceMember id before
  pollStatus := by
    intro row rowMember
    have polled : hasPoll next row.localStatusId = true := hasPoll_iff.mpr ⟨row, rowMember, rfl⟩
    rw [edited.polls] at polled
    split at polled
    next same =>
      obtain ⟨kept, keptMember, keptSame, _⟩ := edited.image member
      exact ⟨kept, keptMember, keptSame.trans same.symm⟩
    next =>
      obtain ⟨found, foundMember, same⟩ := valid.hasPoll_exists polled
      obtain ⟨kept, keptMember, keptSame, _⟩ := edited.image foundMember
      exact ⟨kept, keptMember, keptSame.trans same⟩
  quoteStatus := by
    intro row rowMember
    rw [edited.quotes] at rowMember
    obtain ⟨found, foundMember, same⟩ := valid.quoteStatus row rowMember
    obtain ⟨kept, keptMember, keptSame, _⟩ := edited.image foundMember
    exact ⟨kept, keptMember, keptSame.trans same⟩
  content := by
    intro row rowMember
    obtain ⟨source, sourceMember, _, _, _, _, content⟩ := edited.origin rowMember
    have stored := valid.content source sourceMember
    rw [content]
    split
    · cases given : update.content with
      | none => exact stored
      | some content => exact short content given
    · exact stored

theorem shape (edited : Edited db next status update mediaIds) (shaped : db.Shape)
    (pollOrMedia : update.poll.isSome = true → finalMedia db status.id mediaIds = [])
    (quoteOrMedia : ∀ named, mediaIds = some named → hasQuote db status.id = true → named = []) :
    next.Shape := by
  have media {id : StatusId} (has : localStatusHasMedia next id = true) :
      localStatusHasMedia db id = true ∧
          (id = status.id → ∀ named, mediaIds = some named → named ≠ []) ∨
        id = status.id ∧ ∃ named, mediaIds = some named ∧ named ≠ [] := by
    obtain ⟨upload, uploadMember, attached⟩ := localStatusHasMedia_iff.mp has
    obtain ⟨source, sourceMember, _, ⟨before, still⟩ | ⟨same, _, named, given, present⟩⟩ :=
      edited.mediaStatus uploadMember attached
    · exact .inl ⟨localStatusHasMedia_iff.mpr ⟨source, sourceMember, before⟩,
        fun same named given => List.ne_nil_of_mem (still same named given)⟩
    · exact .inr ⟨same, named, given, List.ne_nil_of_mem present⟩
  have final (has : localStatusHasMedia next status.id = true) :
      finalMedia db status.id mediaIds ≠ [] := by
    cases mediaIds with
    | none =>
        rcases media has with ⟨before, _⟩ | ⟨_, _, given, _⟩
        · obtain ⟨upload, uploadMember, attached⟩ := localStatusHasMedia_iff.mp before
          exact List.ne_nil_of_mem (List.mem_map_of_mem
            (mem_mediaOfStatus.mpr ⟨uploadMember, attached⟩))
        · cases given
    | some named =>
        rcases media has with ⟨_, still⟩ | ⟨_, _, given, present⟩
        · exact still rfl named rfl
        · cases given
          exact present
  refine ⟨?_, ?_, ?_⟩
  · rintro row rowMember ⟨has, polled⟩
    obtain ⟨source, sourceMember, same, _⟩ := edited.origin rowMember
    rw [edited.polls] at polled
    split at polled
    next here => exact final (here ▸ has) (pollOrMedia polled)
    next other =>
      rcases media has with ⟨before, _⟩ | ⟨here, _⟩
      · exact shaped.mediaOrPoll source sourceMember ⟨same ▸ before, same ▸ polled⟩
      · exact other here
  · rintro row rowMember ⟨has, quoted⟩
    obtain ⟨source, sourceMember, same, _⟩ := edited.origin rowMember
    rw [hasQuote, edited.quotes] at quoted
    change hasQuote db row.id = true at quoted
    rcases media has with ⟨before, _⟩ | ⟨here, named, given, present⟩
    · exact shaped.mediaOrQuote source sourceMember ⟨same ▸ before, same ▸ quoted⟩
    · exact present (quoteOrMedia named given (here ▸ quoted))
  · intro row rowMember closed
    obtain ⟨source, sourceMember, _, _, visibility, policy, _⟩ := edited.origin rowMember
    rw [policy]
    exact shaped.policy source sourceMember (visibility ▸ closed)

end Edited

theorem updateLocalStatusQuotePolicy_keeps (valid : db.Valid) (shaped : db.Shape) {id : StatusId}
    {account : AccountId} {policy : QuoteApprovalPolicy}
    (success : updateLocalStatusQuotePolicy db id account policy = some next) :
    next.Valid ∧ next.Shape := by
  obtain ⟨status, _, rfl⟩ := Option.map_eq_some_iff.mp success
  have origin {row : LocalStatus} (member : row ∈ Table.updateWhere (fun row => row.id == status.id)
      (fun row => { row with quoteApprovalPolicy := effectivePolicy row.visibility policy })
      db.statuses) : ∃ source ∈ db.statuses, row.id = source.id ∧ row.content = source.content ∧
        (isOpen row.visibility = false → row.quoteApprovalPolicy = .nobody) := by
    rcases Table.mem_updateWhere.mp member with ⟨kept, _⟩ | ⟨source, sourceMember, _, rfl⟩
    · exact ⟨row, kept, rfl, rfl, shaped.policy row kept⟩
    · exact ⟨source, sourceMember, rfl, rfl, effectivePolicy_closed⟩
  have image {source : LocalStatus} (member : source ∈ db.statuses) :
      ∃ row ∈ Table.updateWhere (fun row => row.id == status.id)
        (fun row => { row with quoteApprovalPolicy := effectivePolicy row.visibility policy })
        db.statuses, row.id = source.id ∧ row.accountId = source.accountId := by
    by_cases chosen : (source.id == status.id) = true
    · exact ⟨_, Table.mem_updateWhere.mpr (.inr ⟨source, member, chosen, rfl⟩), rfl, rfl⟩
    · exact ⟨source, Table.mem_updateWhere.mpr (.inl ⟨member, by simpa using chosen⟩), rfl, rfl⟩
  have keys : (Table.updateWhere (fun row => row.id == status.id)
      (fun row => { row with quoteApprovalPolicy := effectivePolicy row.visibility policy })
      db.statuses).map (fun row => row.id) = db.statuses.map fun row => row.id :=
    Table.map_updateWhere fun _ _ _ => rfl
  refine ⟨?_, ?_⟩
  · refine { valid with statusKeys := ?_, mediaStatus := ?_, pollStatus := ?_, quoteStatus := ?_,
                        content := ?_ }
    · dsimp only
      rw [keys]
      exact valid.statusKeys
    · intro media member id attached
      obtain ⟨found, foundMember, same, account⟩ := valid.mediaStatus media member id attached
      obtain ⟨row, rowMember, rowSame, rowAccount⟩ := image foundMember
      exact ⟨row, rowMember, rowSame.trans same, rowAccount.trans account⟩
    · intro poll member
      obtain ⟨found, foundMember, same⟩ := valid.pollStatus poll member
      obtain ⟨row, rowMember, rowSame, _⟩ := image foundMember
      exact ⟨row, rowMember, rowSame.trans same⟩
    · intro quote member
      obtain ⟨found, foundMember, same⟩ := valid.quoteStatus quote member
      obtain ⟨row, rowMember, rowSame, _⟩ := image foundMember
      exact ⟨row, rowMember, rowSame.trans same⟩
    · intro row member
      obtain ⟨source, sourceMember, _, same, _⟩ := origin member
      rw [same]
      exact valid.content source sourceMember
  · refine ⟨?_, ?_, ?_⟩
    · rintro row member both
      obtain ⟨source, sourceMember, same, _⟩ := origin member
      exact shaped.mediaOrPoll source sourceMember (same ▸ both)
    · rintro row member both
      obtain ⟨source, sourceMember, same, _⟩ := origin member
      exact shaped.mediaOrQuote source sourceMember (same ▸ both)
    · intro row member
      obtain ⟨_, _, _, _, policy⟩ := origin member
      exact policy

theorem updateLocalStatusQuotePolicy_isSome {id : StatusId} {account : AccountId}
    {policy : QuoteApprovalPolicy} :
    (updateLocalStatusQuotePolicy db id account policy).isSome =
      (ownedStatus db id account).isSome := by
  rw [updateLocalStatusQuotePolicy, Option.isSome_map]

/-!
## Checks of an edit
-/

theorem parseEditedMedia_eq_ok_iff {values : Option (List String)}
    {mediaIds : Option (List Nat)} :
    parseEditedMedia values = .ok mediaIds ↔
      (values = none ∧ mediaIds = none) ∨
        ∃ given ids, values = some given ∧ mediaIds = some ids ∧ parseMediaIds given = .ok ids := by
  cases values with
  | none =>
      constructor
      · intro success
        cases success
        exact .inl ⟨rfl, rfl⟩
      · rintro (⟨_, rfl⟩ | ⟨_, _, given, _⟩)
        · rfl
        · cases given
  | some given =>
      cases parsed : parseMediaIds given with
      | error error =>
          refine iff_of_false ?_ ?_
          · rw [parseEditedMedia, parsed]
            exact nofun
          · rintro (⟨given, _⟩ | ⟨_, _, same, _, success⟩)
            · cases given
            · cases same
              rw [parsed] at success
              cases success
      | ok ids =>
          rw [parseEditedMedia, parsed]
          constructor
          · intro success
            cases success
            exact .inr ⟨given, ids, rfl, rfl, parsed⟩
          · rintro (⟨given, _⟩ | ⟨_, _, same, rfl, success⟩)
            · cases given
            · cases same
              rw [parsed] at success
              cases success
              rfl

theorem checkEditedPoll_eq_ok_iff {segmentation : Segmentation} {hasMedia : Bool}
    {poll : Option NewStatusPoll} :
    checkEditedPoll segmentation hasMedia poll = .ok () ↔
      (poll.isSome = true → hasMedia = false) ∧ PollValid segmentation poll := by
  cases poll with
  | none => exact iff_of_true rfl ⟨nofun, nofun⟩
  | some input =>
      simp only [checkEditedPoll, bind_eq_ok_iff, exists_unit_iff, ensure_eq_ok_iff,
        mapError_eq_ok_iff, Bool.not_eq_true', Option.isSome_some, forall_const]
      refine and_congr_right fun _ => ⟨fun valid _ same => ?_, fun valid => valid input rfl⟩
      cases same
      exact valid

theorem checkEditedText_eq_ok_iff {hasMedia : Bool} {text : Option String} :
    checkEditedText hasMedia text = .ok () ↔ ∀ given, text = some given →
      (Text.trim given = "" → hasMedia = true) ∧ (Text.trim given).length ≤ maxStatusChars := by
  cases text with
  | none => exact iff_of_true rfl nofun
  | some given =>
      rw [checkEditedText, mapError_eq_ok_iff, validateStatusText_eq_ok_iff]
      constructor
      · intro checked _ same
        cases same
        exact checked
      · exact fun checked => checked given rfl

theorem updateChanges_eq_false {status : LocalStatus} {update : LocalStatusUpdate}
    {mediaIds : Option (List Nat)} {items : List LocalStatusMediaAttributeUpdate}
    {metadataChanged : Bool}
    (same : updateChanges db status update mediaIds items metadataChanged = false) :
    finalMedia db status.id mediaIds = (mediaOfStatus db status.id).map LocalMediaAttachment.id ∧
      (∀ item ∈ items, item.mediaId ∈ finalMedia db status.id mediaIds) ∧
      hasPoll db status.id = false ∧ update.poll = none := by
  simp only [updateChanges, Bool.or_eq_false_iff, bne_eq_false_iff_eq] at same
  obtain ⟨⟨⟨⟨_, media⟩, attributes⟩, _⟩, polled, poll⟩ := same
  refine ⟨media, ?_, polled, by simpa using poll⟩
  intro item member
  have known := List.any_eq_false.mp attributes item member
  unfold attributeChanged at known
  split at known
  · exact absurd rfl known
  next found lookup =>
    rw [finalMedia, media]
    have here : found.id = item.mediaId := by simpa using List.find?_some lookup
    exact List.mem_map.mpr ⟨found, List.mem_of_find?_eq_some lookup, here⟩

theorem Db.Valid.status_unique (valid : db.Valid) {one two : LocalStatus}
    (oneMember : one ∈ db.statuses) (twoMember : two ∈ db.statuses) (same : one.id = two.id) :
    one = two :=
  List.inj_on_of_nodup_map valid.statusKeys oneMember twoMember same

theorem Db.Valid.attached_account (valid : db.Valid) {status : LocalStatus}
    (member : status ∈ db.statuses) {media : LocalMediaAttachment} (mediaMember : media ∈ db.media)
    (attached : media.statusId = some status.id) : media.accountId = status.accountId := by
  obtain ⟨found, foundMember, same, account⟩ := valid.mediaStatus media mediaMember _ attached
  rw [← account, valid.status_unique foundMember member same]

theorem Db.Valid.attached_unscheduled (valid : db.Valid) {media : LocalMediaAttachment}
    (member : media ∈ db.media) {id : StatusId} (attached : media.statusId = some id) :
    media.scheduledStatusId = none := by
  have checked := valid.ownerCheck media member
  rw [Posting.ownerCheck, attached] at checked
  simpa using checked

theorem describable_iff (valid : db.Valid) {status : LocalStatus} (member : status ∈ db.statuses)
    {mediaIds : Option (List Nat)} {replaced : List LocalMediaAttachment}
    (replaces : replaceMedia db status.accountId status.id mediaIds = .ok replaced)
    {mediaId : Nat} :
    (∃ row ∈ replaced, row.id = mediaId ∧ row.accountId = status.accountId ∧
        row.statusId = some status.id) ↔
      mediaId ∈ finalMedia db status.id mediaIds := by
  cases mediaIds with
  | none =>
      cases replaces
      simp only [finalMedia, Option.getD_none, List.mem_map, mem_mediaOfStatus]
      constructor
      · rintro ⟨row, rowMember, same, _, attached⟩
        exact ⟨row, ⟨rowMember, attached⟩, same⟩
      · rintro ⟨row, ⟨rowMember, attached⟩, same⟩
        exact ⟨row, rowMember, same, valid.attached_account member rowMember attached, attached⟩
  | some named =>
      have moved := replaceMedia_reassigned replaces
      have allowed := (replaceMedia_isOk_iff valid.mediaKeys).mp ⟨replaced, replaces⟩
      change _ ↔ mediaId ∈ named
      constructor
      · rintro ⟨row, rowMember, rfl, _, attached⟩
        obtain ⟨source, _, same, _, owned⟩ := moved.origin rowMember
        have here : row.owners.1 = some status.id := attached
        rw [owned, replacedOwners] at here
        dsimp only at here
        split_ifs at here with present before
        · exact same ▸ present
        · exact absurd here before
      · intro present
        obtain ⟨source, sourceMember, rfl, available, _⟩ := allowed named rfl mediaId present
        simp only [editMediaAvailable, Bool.and_eq_true, beq_iff_eq] at available
        obtain ⟨row, rowMember, same, account, owned⟩ := moved.image sourceMember
        refine ⟨row, rowMember, same, account.trans available.2, ?_⟩
        have attached : row.owners.1 = some status.id := by
          rw [owned, replacedOwners]
          exact if_pos present
        exact attached

theorem updateOwnedLocalStatus_isOk_iff (valid : db.Valid) {id : StatusId} {account : AccountId}
    {status : LocalStatus} (owned : ownedStatus db id account = some status)
    {update : LocalStatusUpdate} {mediaIds : Option (List Nat)}
    {items : List LocalStatusMediaAttributeUpdate} {recipients : List AccountId}
    {metadataChanged : Bool} :
    (∃ result, updateOwnedLocalStatus env db id account update mediaIds items recipients
        metadataChanged = .ok (some result)) ↔
      EditMediaAllowed db account id mediaIds ∧
      (∀ item ∈ items, item.mediaId ∈ finalMedia db id mediaIds) ∧
      PollValid env.segmentation update.poll := by
  obtain ⟨member, rfl, rfl, _⟩ := (ownedStatus_eq_some_iff valid).mp owned
  unfold updateOwnedLocalStatus
  rw [owned]
  dsimp only
  cases changes : updateChanges db status update mediaIds items metadataChanged with
  | false =>
      obtain ⟨media, attributes, _, poll⟩ := updateChanges_eq_false changes
      refine iff_of_true ⟨db, rfl⟩ ⟨?_, attributes, by rw [poll]; exact nofun⟩
      intro named given mediaId present
      rw [given, finalMedia, Option.getD_some] at media
      rw [media, List.mem_map] at present
      obtain ⟨upload, stored, same⟩ := present
      obtain ⟨uploadMember, attached⟩ := mem_mediaOfStatus.mp stored
      refine ⟨upload, uploadMember, same, ?_, valid.attached_unscheduled uploadMember attached⟩
      simp [editMediaAvailable, attached, valid.attached_account member uploadMember attached]
  | true =>
      rw [if_pos rfl]
      have written (result : Db) : (writeLocalStatusUpdate env db status update mediaIds items
            recipients).map some = .ok (some result) ↔
          writeLocalStatusUpdate env db status update mediaIds items recipients = .ok result := by
        cases writeLocalStatusUpdate env db status update mediaIds items recipients with
        | error => exact ⟨nofun, nofun⟩
        | ok value => exact ⟨fun same => by cases same; rfl, fun same => by cases same; rfl⟩
      simp only [written]
      rw [← replaceMedia_isOk_iff valid.mediaKeys,
        ← @replaceLocalPoll_isOk_iff _ db.polls status.id update.poll]
      simp only [writeLocalStatusUpdate, bind_eq_ok_iff]
      constructor
      · rintro ⟨_, replaced, replaces, media, describes, polls, polled, _⟩
        refine ⟨⟨replaced, replaces⟩, fun item itemMember => ?_, ⟨polls, polled⟩⟩
        exact (describable_iff valid member replaces).mp
          (updateAttributes_isOk_iff.mp ⟨media, describes⟩ item itemMember)
      · rintro ⟨⟨replaced, replaces⟩, attributes, polls, polled⟩
        obtain ⟨media, describes⟩ := updateAttributes_isOk_iff.mpr fun item itemMember =>
          (describable_iff valid member replaces).mpr (attributes item itemMember)
        exact ⟨_, replaced, replaces, media, describes, polls, polled, rfl⟩

theorem existing_eq_owned (valid : db.Valid) (id : StatusId) (account : AccountId) :
    ((findLocalStatusById db id).filter fun status =>
      status.accountId == account && status.deletedAt.isNone) = ownedStatus db id account := by
  apply Option.ext
  intro status
  have found := @Table.find?_key_eq_some_iff _ _ _ (fun status : LocalStatus => status.id)
    (fun status => status.deletedAt.isNone) db.statuses valid.statusKeys id status
  have lookup : findLocalStatusById db id = some status ↔ status ∈ db.statuses ∧ status.id = id ∧
      status.deletedAt.isNone = true := found
  rw [Option.filter_eq_some_iff, lookup, ownedStatus_eq_some_iff valid]
  simp only [Bool.and_eq_true, beq_iff_eq, Option.isNone_iff_eq_none]
  tauto

theorem ownedStatus_isSome_iff {id : StatusId} {account : AccountId} :
    (ownedStatus db id account).isSome = true ↔ ∃ status ∈ db.statuses, status.id = id ∧
      status.accountId = account ∧ status.deletedAt = none := by
  simp [ownedStatus, List.find?_isSome, and_assoc]

theorem updateOwnedLocalStatus_owned {id : StatusId} {account : AccountId}
    {update : LocalStatusUpdate} {mediaIds : Option (List Nat)}
    {items : List LocalStatusMediaAttributeUpdate} {recipients : List AccountId}
    {metadataChanged : Bool}
    (success : updateOwnedLocalStatus env db id account update mediaIds items recipients
      metadataChanged = .ok (some next)) :
    (ownedStatus next id account).isSome = true := by
  unfold updateOwnedLocalStatus at success
  split at success
  · cases success
  next status owned =>
    have before := List.find?_some owned
    have member := List.mem_of_find?_eq_some owned
    simp only [Bool.and_eq_true, beq_iff_eq, Option.isNone_iff_eq_none] at before
    obtain ⟨⟨rfl, rfl⟩, live⟩ := before
    split at success
    · cases written : writeLocalStatusUpdate env db status update mediaIds items recipients with
      | error error =>
          rw [written] at success
          cases success
      | ok result =>
          rw [written] at success
          cases success
          obtain ⟨_, _, rest⟩ := bind_ok written
          obtain ⟨_, _, rest⟩ := bind_ok rest
          obtain ⟨_, _, rest⟩ := bind_ok rest
          cases rest
          exact ownedStatus_isSome_iff.mpr ⟨update.apply status,
            Table.mem_updateWhere.mpr (.inr ⟨status, member, by simp, rfl⟩), rfl, rfl, live⟩
    · cases success
      exact ownedStatus_isSome_iff.mpr ⟨status, member, rfl, rfl, live⟩

theorem updatePolicy_isOk {account : LocalAccount} {input : StatusInput} {id : StatusId}
    (owned : (ownedStatus db id account.id).isSome = true) :
    ∃ next, updatePolicy account input db id = .ok next := by
  unfold updatePolicy
  split
  · exact ⟨db, rfl⟩
  next policy _ =>
    have changed : (updateLocalStatusQuotePolicy db id account.id policy).isSome = true := by
      rw [updateLocalStatusQuotePolicy_isSome, owned]
    obtain ⟨next, here⟩ := Option.isSome_iff_exists.mp changed
    exact ⟨next, okOr_eq_ok_iff.mpr here⟩

theorem updateStatus_isOk_iff (valid : db.Valid) {account : LocalAccount} {id : StatusId}
    {status : LocalStatus} (owned : ownedStatus db id account.id = some status)
    {input : StatusInput} {metadataChanged : Bool} :
    (∃ next, updateStatus env db account input id metadataChanged = .ok next) ↔
      input.quotedStatusId = none ∧ ∃ mediaIds items,
        parseEditedMedia input.mediaIds = .ok mediaIds ∧
        parseMediaAttributes env.parseF64 input.mediaAttributes = .ok items ∧
        checkEditedPoll env.segmentation (editedHasMedia db id mediaIds) input.poll = .ok () ∧
        checkEditedText (editedHasMedia db id mediaIds || input.poll.isSome) input.status = .ok () ∧
        EditMediaAllowed db account.id id mediaIds ∧
        ∀ item ∈ items, item.mediaId ∈ finalMedia db id mediaIds := by
  simp only [updateStatus, existing_eq_owned valid, owned, bind_eq_ok_iff, exists_unit_iff,
    ensure_eq_ok_iff, mapError_eq_ok_iff, okOr_eq_ok_iff, Option.isNone_iff_eq_none,
    Option.some.injEq]
  constructor
  · rintro ⟨next, _, rfl, quote, mediaIds, parsed, items, described, poll, text, _, result, updated,
      rfl, _⟩
    obtain ⟨allowed, attributes, _⟩ :=
      (updateOwnedLocalStatus_isOk_iff valid owned).mp ⟨updated, result⟩
    exact ⟨quote, mediaIds, items, parsed, described, poll, text, allowed, attributes⟩
  · rintro ⟨quote, mediaIds, items, parsed, described, poll, text, allowed, attributes⟩
    obtain ⟨updated, result⟩ : ∃ updated, updateOwnedLocalStatus env db id account.id
        (localStatusUpdate input) mediaIds items (editedAudience env db account input status)
        metadataChanged = .ok (some updated) :=
      (updateOwnedLocalStatus_isOk_iff valid owned).mpr
        ⟨allowed, attributes, (checkEditedPoll_eq_ok_iff.mp poll).2⟩
    obtain ⟨next, policy⟩ := @updatePolicy_isOk updated account input id
      (updateOwnedLocalStatus_owned result)
    exact ⟨next, status, rfl, quote, mediaIds, parsed, items, described, poll, text, some updated,
      result, updated, rfl, policy⟩

/-!
## Edits and creations
-/

/-- The checks of a new status on what an edit composes of given and stored parts. Media of
the status itself are available. -/
structure CreationAllows (env : Environment) (db : Db) (status : LocalStatus) (input : StatusInput)
    (mediaIds : Option (List Nat)) : Prop where
  contents : checkContents env.segmentation (hasQuote db status.id)
    (finalMedia db status.id mediaIds) input.poll (input.status.getD status.content)
    (!(finalMedia db status.id mediaIds).isEmpty || input.poll.isSome) = .ok ()
  media : ∀ mediaId ∈ finalMedia db status.id mediaIds, ∃ media ∈ db.media, media.id = mediaId ∧
    (mediaAvailable status.accountId none media = true ∨ media.statusId = some status.id)

/-- An edit passes the checks of a new status. Only edits describe media, those of the status,
and a quote target is given at creation. -/
def EditAllowed (env : Environment) (db : Db) (status : LocalStatus) (input : StatusInput) : Prop :=
  input.quotedStatusId = none ∧ ∃ mediaIds items,
    parseEditedMedia input.mediaIds = .ok mediaIds ∧
    parseMediaAttributes env.parseF64 input.mediaAttributes = .ok items ∧
    CreationAllows env db status input mediaIds ∧
    ∀ item ∈ items, item.mediaId ∈ finalMedia db status.id mediaIds

/-- An edit of a quote names no media, and an edit that gives neither text nor poll leaves a
blank status some media. -/
def Call.Careful (db : Db) : Call → Prop
  | .edit account id input _ => ∀ status, ownedStatus db id account.id = some status →
      (hasQuote db id = true → input.mediaIds.getD [] = []) ∧
      (input.status = none → input.poll = none → Text.trim status.content = "" →
        match input.mediaIds with
        | none => localStatusHasMedia db id = true
        | some mediaIds => mediaIds ≠ [])
  | _ => True

theorem Call.Careful.quoteOrMedia {account : LocalAccount} {id : StatusId} {input : StatusInput}
    {metadataChanged : Bool} {status : LocalStatus}
    (careful : (Call.edit account id input metadataChanged).Careful db)
    (owned : ownedStatus db id account.id = some status) {mediaIds : Option (List Nat)}
    (parsed : parseEditedMedia input.mediaIds = .ok mediaIds) :
    ∀ named, mediaIds = some named → hasQuote db id = true → named = [] := by
  rintro named rfl quoted
  rcases parseEditedMedia_eq_ok_iff.mp parsed with ⟨_, given⟩ | ⟨given, ids, here, same, success⟩
  · cases given
  · cases same
    have nothing := (careful status owned).1 quoted
    rw [here, Option.getD_some] at nothing
    exact (parseMediaIds_eq_nil_iff success).mpr nothing

theorem Call.Careful.nonempty {account : LocalAccount} {id : StatusId} {input : StatusInput}
    {metadataChanged : Bool} {status : LocalStatus}
    (careful : (Call.edit account id input metadataChanged).Careful db)
    (owned : ownedStatus db id account.id = some status) {mediaIds : Option (List Nat)}
    (parsed : parseEditedMedia input.mediaIds = .ok mediaIds) (textless : input.status = none)
    (blank : Text.trim status.content = "") :
    (editedHasMedia db id mediaIds || input.poll.isSome) = true := by
  cases poll : input.poll with
  | some poll => simp
  | none =>
      have remains := (careful status owned).2 textless poll blank
      rw [Option.isSome_none, Bool.or_false]
      rcases parseEditedMedia_eq_ok_iff.mp parsed with
        ⟨missing, rfl⟩ | ⟨given, ids, here, rfl, success⟩
      · rw [missing] at remains
        exact remains
      · rw [here] at remains
        have named : ids ≠ [] := fun none => remains ((parseMediaIds_eq_nil_iff success).mp none)
        simpa [editedHasMedia] using named

theorem editMediaAllowed_iff (valid : db.Valid) {status : LocalStatus}
    (member : status ∈ db.statuses) {mediaIds : Option (List Nat)} :
    EditMediaAllowed db status.accountId status.id mediaIds ↔
      ∀ mediaId ∈ finalMedia db status.id mediaIds, ∃ media ∈ db.media, media.id = mediaId ∧
        (mediaAvailable status.accountId none media = true ∨ media.statusId = some status.id) := by
  cases mediaIds with
  | none =>
      refine iff_of_true nofun fun mediaId present => ?_
      obtain ⟨media, stored, same⟩ := List.mem_map.mp present
      obtain ⟨mediaMember, attached⟩ := mem_mediaOfStatus.mp stored
      exact ⟨media, mediaMember, same, .inr attached⟩
  | some named =>
      have usable {media : LocalMediaAttachment} (mediaMember : media ∈ db.media) :
          editMediaAvailable status.accountId status.id media = true ∧
              media.scheduledStatusId = none ↔
            mediaAvailable status.accountId none media = true ∨
              media.statusId = some status.id := by
        cases attached : media.statusId with
        | none => simp [editMediaAvailable, mediaAvailable, attached]
        | some other =>
            have free := valid.attached_unscheduled mediaMember attached
            simp only [editMediaAvailable, mediaAvailable, attached, free, Option.all_some,
              Bool.and_eq_true, beq_iff_eq, Option.isNone_some, Bool.and_false, Bool.false_and,
              Bool.false_eq_true, false_or, and_true, Option.some.injEq]
            refine ⟨And.left, fun same => ⟨same, ?_⟩⟩
            exact valid.attached_account member mediaMember (same ▸ attached)
      constructor
      · intro allowed mediaId present
        obtain ⟨media, mediaMember, same, free⟩ := allowed named rfl mediaId present
        exact ⟨media, mediaMember, same, (usable mediaMember).mp free⟩
      · intro allowed other same mediaId present
        cases same
        obtain ⟨media, mediaMember, same, free⟩ := allowed mediaId present
        exact ⟨media, mediaMember, same, (usable mediaMember).mpr free⟩

theorem editChecks_iff (valid : db.Valid) (shaped : db.Shape) {account : LocalAccount}
    {status : LocalStatus} (owned : ownedStatus db status.id account.id = some status)
    {input : StatusInput} {metadataChanged : Bool}
    (careful : (Call.edit account status.id input metadataChanged).Careful db)
    {mediaIds : Option (List Nat)} (parsed : parseEditedMedia input.mediaIds = .ok mediaIds) :
    (checkEditedPoll env.segmentation (editedHasMedia db status.id mediaIds) input.poll = .ok () ∧
      checkEditedText (editedHasMedia db status.id mediaIds || input.poll.isSome) input.status =
        .ok () ∧
      EditMediaAllowed db account.id status.id mediaIds) ↔
      CreationAllows env db status input mediaIds := by
  obtain ⟨member, _, author, _⟩ := (ownedStatus_eq_some_iff valid).mp owned
  have unquoted : hasQuote db status.id = true → finalMedia db status.id mediaIds = [] := by
    intro quoted
    cases mediaIds with
    | some named => exact careful.quoteOrMedia owned parsed named rfl quoted
    | none =>
        have bare : localStatusHasMedia db status.id = false := by
          rw [← Bool.not_eq_true]
          exact fun has => shaped.mediaOrQuote status member ⟨has, quoted⟩
        have missing := @editedHasMedia_eq db status.id none
        rw [editedHasMedia, bare] at missing
        simpa using missing.symm
  have text : checkEditedText (editedHasMedia db status.id mediaIds || input.poll.isSome)
        input.status = .ok () ↔
      (Text.trim (input.status.getD status.content) = "" →
        (editedHasMedia db status.id mediaIds || input.poll.isSome) = true) ∧
      (Text.trim (input.status.getD status.content)).length ≤ maxStatusChars := by
    rw [checkEditedText_eq_ok_iff]
    cases given : input.status with
    | some content => simp
    | none =>
        exact iff_of_true nofun
          ⟨careful.nonempty owned parsed given, valid.content status member⟩
  rw [checkEditedPoll_eq_ok_iff, text, ← author, editMediaAllowed_iff valid member,
    editedHasMedia_eq]
  constructor
  · rintro ⟨⟨pollOrMedia, poll⟩, ⟨nonempty, short⟩, media⟩
    refine ⟨checkContents_eq_ok_iff.mpr ⟨unquoted, ?_, poll, nonempty, short⟩, media⟩
    intro given
    simpa using pollOrMedia given
  · rintro ⟨contents, media⟩
    obtain ⟨_, pollOrMedia, poll, nonempty, short⟩ := checkContents_eq_ok_iff.mp contents
    refine ⟨⟨fun given => ?_, poll⟩, ⟨nonempty, short⟩, media⟩
    rw [pollOrMedia given]
    rfl

theorem updateStatus_isOk_iff_editAllowed (valid : db.Valid) (shaped : db.Shape)
    {account : LocalAccount} {id : StatusId} {status : LocalStatus}
    (owned : ownedStatus db id account.id = some status) {input : StatusInput}
    {metadataChanged : Bool}
    (careful : (Call.edit account id input metadataChanged).Careful db) :
    (∃ next, updateStatus env db account input id metadataChanged = .ok next) ↔
      EditAllowed env db status input := by
  rw [updateStatus_isOk_iff valid owned]
  obtain ⟨_, rfl, _⟩ := (ownedStatus_eq_some_iff valid).mp owned
  refine and_congr_right fun _ => exists₂_congr fun mediaIds items => ?_
  refine and_congr_right fun parsed => and_congr_right fun _ => ?_
  rw [← editChecks_iff valid shaped owned careful parsed]
  tauto

theorem updateOwnedLocalStatus_keeps (valid : db.Valid) (shaped : db.Shape) {id : StatusId}
    {account : AccountId} {update : LocalStatusUpdate} {mediaIds : Option (List Nat)}
    {items : List LocalStatusMediaAttributeUpdate} {recipients : List AccountId}
    {metadataChanged : Bool}
    (short : ∀ content, update.content = some content →
      (Text.trim content).length ≤ maxStatusChars)
    (pollOrMedia : update.poll.isSome = true → finalMedia db id mediaIds = [])
    (quoteOrMedia : ∀ named, mediaIds = some named → hasQuote db id = true → named = [])
    (success : updateOwnedLocalStatus env db id account update mediaIds items recipients
      metadataChanged = .ok (some next)) : next.Valid ∧ next.Shape := by
  unfold updateOwnedLocalStatus at success
  split at success
  · cases success
  next status owned =>
    obtain ⟨member, rfl, _⟩ := (ownedStatus_eq_some_iff valid).mp owned
    split at success
    · cases written : writeLocalStatusUpdate env db status update mediaIds items recipients with
      | error error =>
          rw [written] at success
          cases success
      | ok result =>
          rw [written] at success
          cases success
          have edited := writeLocalStatusUpdate_ok valid.mediaKeys written
          exact ⟨edited.valid valid member short, edited.shape shaped pollOrMedia quoteOrMedia⟩
    · cases success
      exact ⟨valid, shaped⟩

theorem updateStatus_keeps (valid : db.Valid) (shaped : db.Shape) {account : LocalAccount}
    {id : StatusId} {input : StatusInput} {metadataChanged : Bool}
    (careful : (Call.edit account id input metadataChanged).Careful db)
    (success : updateStatus env db account input id metadataChanged = .ok next) :
    next.Valid ∧ next.Shape := by
  obtain ⟨status, found, rest⟩ := bind_ok success
  obtain ⟨_, _, rest⟩ := bind_ok rest
  obtain ⟨mediaIds, parsed, rest⟩ := bind_ok rest
  obtain ⟨items, _, rest⟩ := bind_ok rest
  obtain ⟨_, poll, rest⟩ := bind_ok rest
  obtain ⟨_, text, rest⟩ := bind_ok rest
  obtain ⟨result, writes, rest⟩ := bind_ok rest
  obtain ⟨updated, present, policy⟩ := bind_ok rest
  cases okOr_ok present
  have owned := (existing_eq_owned valid id account.id).symm.trans (okOr_ok found)
  have kept : updated.Valid ∧ updated.Shape := by
    refine updateOwnedLocalStatus_keeps valid shaped ?_ ?_
      (careful.quoteOrMedia owned (mapError_eq_ok_iff.mp parsed)) (mapError_eq_ok_iff.mp writes)
    · intro content trimmed
      obtain ⟨given, here, rfl⟩ := Option.map_eq_some_iff.mp trimmed
      rw [Text.trim_trim]
      exact (checkEditedText_eq_ok_iff.mp text given here).2
    · intro given
      have bare := (checkEditedPoll_eq_ok_iff.mp poll).1 given
      rw [editedHasMedia_eq] at bare
      simpa using bare
  unfold updatePolicy at policy
  split at policy
  · cases policy
    exact kept
  · exact updateLocalStatusQuotePolicy_keeps kept.1 kept.2 (okOr_ok policy)

/-!
## Runs
-/

theorem updateInteractionPolicy_keeps (valid : db.Valid) (shaped : db.Shape)
    {account : LocalAccount} {id : StatusId} {input : StatusInput}
    (success : updateInteractionPolicy db account input id = .ok next) :
    next.Valid ∧ next.Shape := by
  obtain ⟨policy, _, rest⟩ := bind_ok success
  obtain ⟨_, _, changed⟩ := bind_ok rest
  exact updateLocalStatusQuotePolicy_keeps valid shaped (okOr_ok changed)

theorem perform_keeps (valid : db.Valid) (shaped : db.Shape) {call : Call}
    (careful : call.Careful db) (success : perform env db call = .ok next) :
    next.Valid ∧ next.Shape := by
  cases call with
  | create => exact createStatusFromInput_keeps valid shaped success
  | schedule => exact createScheduledStatus_keeps valid shaped success
  | publish => exact publishScheduledStatus_keeps valid shaped (mapError_eq_ok_iff.mp success)
  | cancel =>
      cases success
      exact cancelScheduledStatus_keeps valid shaped _ _
  | edit => exact updateStatus_keeps valid shaped careful success
  | updatePolicy => exact updateInteractionPolicy_keeps valid shaped success
  | relate =>
      cases success
      exact ⟨{ valid with }, { shaped with }⟩

theorem run_keeps (valid : db.Valid) (shaped : db.Shape) {calls : List Call}
    (careful : (machine env).Guarded Call.Careful db calls) :
    ((machine env).run db calls).Valid ∧ ((machine env).run db calls).Shape := by
  refine (machine env).guarded_invariant (fun db => db.Valid ∧ db.Shape) ?_ ⟨valid, shaped⟩ careful
  intro state call allowed ⟨valid, shaped⟩
  cases outcome : perform env state call with
  | error error =>
      simp only [machine, outcome]
      exact ⟨valid, shaped⟩
  | ok next =>
      simp only [machine, outcome]
      exact perform_keeps valid shaped allowed outcome

/-- In every run whose edits are careful, every state reached has the shape, and every edit
of an owned status is accepted exactly when the checks of a new status accept what it
composes. -/
theorem shape_kept_and_edits_checked (env : Environment) {db : Db} (valid : db.Valid)
    (shaped : db.Shape) {calls : List Call}
    (careful : (machine env).Guarded Call.Careful db calls) :
    (∀ before after, calls = before ++ after → ((machine env).run db before).Shape) ∧
      ∀ before account id input metadataChanged after status,
        calls = before ++ Call.edit account id input metadataChanged :: after →
        ownedStatus ((machine env).run db before) id account.id = some status →
        ((∃ next, updateStatus env ((machine env).run db before) account input id
            metadataChanged = .ok next) ↔
          EditAllowed env ((machine env).run db before) status input) := by
  constructor
  · rintro before after rfl
    exact (run_keeps valid shaped careful.of_append).2
  · rintro before account id input metadataChanged after status rfl owned
    obtain ⟨reached, kept⟩ := run_keeps valid shaped careful.of_append
    exact updateStatus_isOk_iff_editAllowed reached kept owned
      (careful before (Call.edit account id input metadataChanged) after rfl)

end

/-!
### An account with one upload
-/

namespace Sample

def post : StatusInput := { blank with status := some "first" }

def quote : StatusInput :=
  { blank with status := some "second", quotedStatusId := some (Text.uuidText 1) }

def posts : List Call := [.create account post ⟨1⟩, .create account quote ⟨2⟩]

def addMedia : Call :=
  .edit account ⟨2⟩ { blank with mediaIds := some [Text.uuidText 7] } false

def correct : Call := .edit account ⟨2⟩ { blank with status := some "third" } false

theorem shape : db.Shape := ⟨nofun, nofun, nofun⟩

end Sample

open Sample in
/-- The edit of a quote may give it media. -/
theorem edited_quote_gains_media :
    ¬ ∀ (env : Environment) (db : Db), db.Valid → db.Shape →
      ∀ calls, ((machine env).run db calls).Shape := by
  intro always
  have shaped := always env db valid shape (posts ++ [addMedia])
  have gained : (((machine env).run db (posts ++ [addMedia])).statuses.any fun status =>
      localStatusHasMedia ((machine env).run db (posts ++ [addMedia])) status.id &&
        hasQuote ((machine env).run db (posts ++ [addMedia])) status.id) = true := by
    decide +kernel
  obtain ⟨status, member, both⟩ := List.any_eq_true.mp gained
  exact shaped.mediaOrQuote status member (by simpa using both)

open Sample in
theorem corrected_quote_keeps_shape : ((machine env).run db (posts ++ [correct])).Shape := by
  have careful : (machine env).Guarded Call.Careful db (posts ++ [correct]) := by
    refine Machine.guarded_cons trivial (Machine.guarded_cons trivial
      (Machine.guarded_cons ?_ Machine.guarded_nil))
    exact fun _ _ => ⟨fun _ => rfl, nofun⟩
  exact (shape_kept_and_edits_checked env valid shape careful).1 _ [] (List.append_nil _).symm

end Roosty.Status.Posting
