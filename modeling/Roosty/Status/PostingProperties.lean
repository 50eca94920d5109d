import Roosty.Library.Trim
import Roosty.Status.Posting

/-!
# Properties of posting

When uploads are attached and a status is created, and what a creation leaves of the rows.
-/

set_option autoImplicit false

namespace Roosty.Status.Posting

open Library
open Federation.Inbox (QuoteApprovalPolicy QuoteState)
open Poll (NewStatusPoll Segmentation validatePoll)
open Timeline (isOpen)

/-!
## Uploads
-/

def LocalMediaAttachment.owners (media : LocalMediaAttachment) : Option StatusId × Option Nat :=
  (media.statusId, media.scheduledStatusId)

/-- Uploads keep their identity and account, and change owners as told. -/
def Reassigned (owners : LocalMediaAttachment → Option StatusId × Option Nat)
    (before after : List LocalMediaAttachment) : Prop :=
  ∃ change : LocalMediaAttachment → LocalMediaAttachment, after = before.map change ∧
    ∀ media ∈ before, (change media).id = media.id ∧
      (change media).accountId = media.accountId ∧ (change media).owners = owners media

namespace Reassigned

variable {owners : LocalMediaAttachment → Option StatusId × Option Nat}
  {before between after : List LocalMediaAttachment}

theorem refl (same : ∀ media ∈ before, owners media = media.owners) :
    Reassigned owners before before :=
  ⟨id, (List.map_id before).symm, fun media member => ⟨rfl, rfl, (same media member).symm⟩⟩

theorem updateWhere {selected : LocalMediaAttachment → Bool}
    {change : LocalMediaAttachment → LocalMediaAttachment}
    (identity : ∀ media, (change media).id = media.id ∧
      (change media).accountId = media.accountId)
    (chosen : ∀ media ∈ before, selected media = true → (change media).owners = owners media)
    (rest : ∀ media ∈ before, selected media = false → media.owners = owners media) :
    Reassigned owners before (Table.updateWhere selected change before) := by
  refine ⟨fun media => if selected media then change media else media, rfl, ?_⟩
  intro media member
  dsimp only
  split
  next picked => exact ⟨(identity media).1, (identity media).2, chosen media member picked⟩
  next other => exact ⟨rfl, rfl, rest media member (by simpa using other)⟩

theorem trans {later final : LocalMediaAttachment → Option StatusId × Option Nat}
    (first : Reassigned owners before between) (second : Reassigned later between after)
    (composed : ∀ media ∈ before, ∀ moved ∈ between, moved.id = media.id →
      moved.accountId = media.accountId → moved.owners = owners media →
      later moved = final media) :
    Reassigned final before after := by
  obtain ⟨change, rfl, kept⟩ := first
  obtain ⟨next, rfl, keptNext⟩ := second
  refine ⟨next ∘ change, by rw [List.map_map], ?_⟩
  intro media member
  have moved := List.mem_map_of_mem (f := change) member
  obtain ⟨id, account, owned⟩ := kept media member
  obtain ⟨idNext, accountNext, ownedNext⟩ := keptNext _ moved
  refine ⟨idNext.trans id, accountNext.trans account, ?_⟩
  exact ownedNext.trans (composed media member _ moved id account owned)

theorem origin (moved : Reassigned owners before after) {media : LocalMediaAttachment}
    (member : media ∈ after) :
    ∃ source ∈ before, media.id = source.id ∧ media.accountId = source.accountId ∧
      media.owners = owners source := by
  obtain ⟨change, rfl, kept⟩ := moved
  obtain ⟨source, sourceMember, rfl⟩ := List.mem_map.mp member
  exact ⟨source, sourceMember, kept source sourceMember⟩

theorem image (moved : Reassigned owners before after) {source : LocalMediaAttachment}
    (member : source ∈ before) :
    ∃ media ∈ after, media.id = source.id ∧ media.accountId = source.accountId ∧
      media.owners = owners source := by
  obtain ⟨change, rfl, kept⟩ := moved
  exact ⟨change source, List.mem_map_of_mem member, kept source member⟩

theorem keys (moved : Reassigned owners before after) :
    after.map LocalMediaAttachment.id = before.map LocalMediaAttachment.id := by
  obtain ⟨change, rfl, kept⟩ := moved
  rw [List.map_map]
  exact List.map_congr_left fun media member => (kept media member).1

end Reassigned

def attachedOwners (owners : Option StatusId × Option Nat → Option StatusId × Option Nat)
    (ids : List Nat) (media : LocalMediaAttachment) : Option StatusId × Option Nat :=
  if media.id ∈ ids then owners media.owners else media.owners

section

variable {missing : String} {change : Nat → LocalMediaAttachment → LocalMediaAttachment}
  {owners : Option StatusId × Option Nat → Option StatusId × Option Nat}

/-- An attachment gives an upload its owners and keeps its identity. -/
structure Attaches (change : Nat → LocalMediaAttachment → LocalMediaAttachment)
    (owners : Option StatusId × Option Nat → Option StatusId × Option Nat) : Prop where
  id : ∀ index media, (change index media).id = media.id
  accountId : ∀ index media, (change index media).accountId = media.accountId
  moves : ∀ index media, (change index media).owners = owners media.owners
  idem : ∀ owned, owners (owners owned) = owners owned

theorem ownerCheck_eq {media : LocalMediaAttachment} :
    ownerCheck media = !(media.owners.1.isSome && media.owners.2.isSome) := rfl

theorem updateMedia_reassigned (attaches : Attaches change owners) {index id : Nat}
    {media updated : List LocalMediaAttachment}
    (success : updateMedia missing id (change index) media = .ok updated) :
    Reassigned (attachedOwners owners [id]) media updated := by
  unfold updateMedia at success
  split at success
  · cases success
  next found _ =>
    split at success
    · cases success
      apply Reassigned.updateWhere
        (fun row => ⟨attaches.id index row, attaches.accountId index row⟩)
      · intro row _ selected
        rw [attaches.moves, attachedOwners, if_pos (by simpa using selected)]
      · intro row _ other
        rw [attachedOwners, if_neg (by simpa using other)]
    · cases success

theorem attachMedia_reassigned (attaches : Attaches change owners) {index : Nat} {ids : List Nat}
    {media updated : List LocalMediaAttachment}
    (success : attachMedia missing change index ids media = .ok updated) :
    Reassigned (attachedOwners owners ids) media updated := by
  induction ids generalizing index media with
  | nil =>
      cases success
      exact Reassigned.refl fun media _ => if_neg List.not_mem_nil
  | cons id ids ih =>
      obtain ⟨written, first, rest⟩ := bind_ok success
      refine (updateMedia_reassigned attaches first).trans (ih rest) ?_
      intro media _ moved _ sameId _ owned
      unfold attachedOwners at owned ⊢
      rw [sameId, owned]
      by_cases here : media.id = id
      · rw [if_pos (List.mem_singleton.mpr here), if_pos (List.mem_cons.mpr (.inl here))]
        split
        · exact attaches.idem media.owners
        · rfl
      · rw [if_neg (fun member => here (List.mem_singleton.mp member))]
        have same : media.id ∈ id :: ids ↔ media.id ∈ ids := by
          rw [List.mem_cons, or_iff_right here]
        simp only [same]

/-- An upload can be attached where its owners then pass the check. -/
def attachable (owners : Option StatusId × Option Nat → Option StatusId × Option Nat)
    (media : LocalMediaAttachment) : Bool :=
  !((owners media.owners).1.isSome && (owners media.owners).2.isSome)

theorem updateMedia_isOk_iff (attaches : Attaches change owners) {index id : Nat}
    {media : List LocalMediaAttachment} (unique : (media.map LocalMediaAttachment.id).Nodup) :
    (∃ updated, updateMedia missing id (change index) media = .ok updated) ↔
      ∃ row ∈ media, row.id = id ∧ attachable owners row = true := by
  have lookup (row : LocalMediaAttachment) :
      media.find? (fun row => row.id == id) = some row ↔ row ∈ media ∧ row.id = id := by
    have found := @Table.find?_key_eq_some_iff _ _ _ LocalMediaAttachment.id (fun _ => true) media
      unique id row
    simpa using found
  have checked (row : LocalMediaAttachment) :
      ownerCheck (change index row) = attachable owners row := by
    rw [ownerCheck_eq, attaches.moves]
    rfl
  unfold updateMedia
  split
  next none =>
    refine iff_of_false (by rintro ⟨_, success⟩; cases success) ?_
    rintro ⟨row, member, same, _⟩
    rw [(lookup row).mpr ⟨member, same⟩] at none
    cases none
  next found some =>
    obtain ⟨member, same⟩ := (lookup found).mp some
    rw [checked found]
    constructor
    · rintro ⟨updated, success⟩
      split at success
      next passes => exact ⟨found, member, same, passes⟩
      next => cases success
    · rintro ⟨row, rowMember, rowSame, passes⟩
      have here := (lookup row).mpr ⟨rowMember, rowSame⟩
      rw [some] at here
      cases here
      exact ⟨_, if_pos passes⟩

theorem attachMedia_isOk_iff (attaches : Attaches change owners) {index : Nat} {ids : List Nat}
    {media : List LocalMediaAttachment} (unique : (media.map LocalMediaAttachment.id).Nodup) :
    (∃ updated, attachMedia missing change index ids media = .ok updated) ↔
      ∀ id ∈ ids, ∃ row ∈ media, row.id = id ∧ attachable owners row = true := by
  induction ids generalizing index media with
  | nil => exact ⟨fun _ _ member => absurd member List.not_mem_nil, fun _ => ⟨media, rfl⟩⟩
  | cons id ids ih =>
      rw [List.forall_mem_cons, ← updateMedia_isOk_iff attaches unique]
      have moves {written : List LocalMediaAttachment}
          (first : updateMedia missing id (change index) media = .ok written) :
          (∀ other ∈ ids, ∃ row ∈ written, row.id = other ∧ attachable owners row = true) ↔
            ∀ other ∈ ids, ∃ row ∈ media, row.id = other ∧ attachable owners row = true := by
        have moved := updateMedia_reassigned attaches first
        have kept {source row : LocalMediaAttachment}
            (owned : row.owners = attachedOwners owners [id] source) :
            attachable owners row = attachable owners source := by
          unfold attachable
          rw [owned, attachedOwners]
          split
          · rw [attaches.idem]
          · rfl
        refine forall₂_congr fun other _ => ⟨?_, ?_⟩
        · rintro ⟨row, member, rfl, passes⟩
          obtain ⟨source, sourceMember, same, _, owned⟩ := moved.origin member
          exact ⟨source, sourceMember, same.symm, kept owned ▸ passes⟩
        · rintro ⟨source, sourceMember, rfl, passes⟩
          obtain ⟨row, member, same, _, owned⟩ := moved.image sourceMember
          exact ⟨row, member, same, kept owned ▸ passes⟩
      constructor
      · rintro ⟨updated, success⟩
        obtain ⟨written, first, rest⟩ := bind_ok success
        have unmoved := (updateMedia_reassigned attaches first).keys ▸ unique
        exact ⟨⟨written, first⟩, (moves first).mp ((ih unmoved).mp ⟨updated, rest⟩)⟩
      · rintro ⟨⟨written, first⟩, rest⟩
        have unmoved := (updateMedia_reassigned attaches first).keys ▸ unique
        obtain ⟨updated, success⟩ : ∃ updated,
            attachMedia missing change (index + 1) ids written = .ok updated :=
          (ih unmoved).mpr ((moves first).mpr rest)
        exact ⟨updated, by rw [attachMedia, first, ok_bind, success]⟩

end

theorem checkMedia_eq_ok_iff {db : Db} {available : LocalMediaAttachment → Bool} {ids : List Nat}
    (unique : (db.media.map LocalMediaAttachment.id).Nodup) :
    checkMedia db available ids = .ok () ↔
      ∀ id ∈ ids, ∃ media ∈ db.media, media.id = id ∧ available media = true := by
  induction ids with
  | nil => exact ⟨fun _ _ member => absurd member List.not_mem_nil, fun _ => rfl⟩
  | cons id ids ih =>
      have lookup (media : LocalMediaAttachment) :
          findMediaById db id = some media ↔ media ∈ db.media ∧ media.id = id := by
        have found := @Table.find?_key_eq_some_iff _ _ _ LocalMediaAttachment.id (fun _ => true)
          db.media unique id media
        simpa [findMediaById] using found
      rw [List.forall_mem_cons, ← ih, checkMedia]
      split
      next none =>
        refine iff_of_false nofun ?_
        rintro ⟨⟨media, member, same, _⟩, _⟩
        rw [(lookup media).mpr ⟨member, same⟩] at none
        cases none
      next found some =>
        obtain ⟨member, same⟩ := (lookup found).mp some
        have passes : (∃ media ∈ db.media, media.id = id ∧ available media = true) ↔
            available found = true := by
          constructor
          · rintro ⟨media, mediaMember, mediaSame, passes⟩
            have here := (lookup media).mpr ⟨mediaMember, mediaSame⟩
            rw [some] at here
            cases here
            exact passes
          · exact fun passes => ⟨found, member, same, passes⟩
        rw [passes]
        split
        next available => simp [available]
        next unavailable => exact iff_of_false nofun fun both => unavailable both.1

/-!
## Checks of the input
-/

theorem parseMediaIds_length {values : List String} {ids : List Nat}
    (parsed : parseMediaIds values = .ok ids) : ids.length = values.length := by
  unfold parseMediaIds at parsed
  split at parsed
  · cases parsed
  · refine foldlM_ok (fun done ids => ids.length = done.length) rfl ?_ parsed
    intro done value ids next _ same round
    unfold parseMediaId at round
    split at round
    · cases round
    · split at round
      · cases round
      · cases round
        rw [List.length_append, List.length_append, same]
        rfl

theorem parseMediaIds_eq_nil_iff {values : List String} {ids : List Nat}
    (parsed : parseMediaIds values = .ok ids) : ids = [] ↔ values = [] := by
  rw [← List.length_eq_zero_iff, ← List.length_eq_zero_iff, parseMediaIds_length parsed]

theorem validateStatusText_eq_ok_iff {text : String} {hasMedia : Bool} :
    validateStatusText text hasMedia = .ok () ↔
      (Text.trim text = "" → hasMedia = true) ∧ (Text.trim text).length ≤ maxStatusChars := by
  unfold validateStatusText
  dsimp only
  split
  next blank =>
    obtain ⟨empty, bare⟩ : Text.trim text = "" ∧ hasMedia = false := by simpa using blank
    exact iff_of_false nofun fun both => by simp [bare] at both; exact both.1 empty
  next content =>
    have present : Text.trim text = "" → hasMedia = true := by simpa using content
    split
    next long => exact iff_of_false nofun fun both => by omega
    next short => exact iff_of_true rfl ⟨present, by omega⟩

theorem validatePoll_error {segmentation : Segmentation} {poll : NewStatusPoll}
    {error : RoostyError} (failed : validatePoll segmentation poll = .error error) :
    ∃ reason, error = .invalidInput reason := by
  unfold validatePoll at failed
  dsimp only at failed
  split_ifs at failed
  all_goals
    cases failed
    exact ⟨_, rfl⟩

def PollValid (segmentation : Segmentation) (poll : Option NewStatusPoll) : Prop :=
  ∀ input, poll = some input → validatePoll segmentation input = .ok ()

theorem checkPoll_eq_ok_iff {segmentation : Segmentation} {poll : Option NewStatusPoll} :
    checkPoll segmentation poll = .ok () ↔ PollValid segmentation poll := by
  cases poll with
  | none => exact iff_of_true rfl nofun
  | some input =>
      have only : PollValid segmentation (some input) ↔ validatePoll segmentation input = .ok () :=
        ⟨fun valid => valid input rfl, fun valid _ same => by cases same; exact valid⟩
      rw [only, checkPoll]
      cases result : validatePoll segmentation input with
      | ok value => exact iff_of_true rfl rfl
      | error error =>
          obtain ⟨reason, rfl⟩ := validatePoll_error result
          exact iff_of_false nofun nofun

structure ContentsAllowed (segmentation : Segmentation) (quotes : Bool) (mediaIds : List Nat)
    (poll : Option NewStatusPoll) (text : String) (hasMedia : Bool) : Prop where
  quoteOrMedia : quotes = true → mediaIds = []
  pollOrMedia : poll.isSome = true → mediaIds = []
  poll : PollValid segmentation poll
  nonempty : Text.trim text = "" → hasMedia = true
  short : (Text.trim text).length ≤ maxStatusChars

theorem checkContents_eq_ok_iff {segmentation : Segmentation} {quotes : Bool}
    {mediaIds : List Nat} {poll : Option NewStatusPoll} {text : String} {hasMedia : Bool} :
    checkContents segmentation quotes mediaIds poll text hasMedia = .ok () ↔
      ContentsAllowed segmentation quotes mediaIds poll text hasMedia := by
  unfold checkContents
  simp only [bind_eq_ok_iff, exists_unit_iff, ensure_eq_ok_iff, mapError_eq_ok_iff,
    checkPoll_eq_ok_iff, validateStatusText_eq_ok_iff]
  have excludes (present : Bool) :
      (!(present && !mediaIds.isEmpty)) = true ↔ (present = true → mediaIds = []) := by
    cases present <;> simp
  rw [excludes, excludes]
  constructor
  · rintro ⟨quote, media, valid, nonempty, short⟩
    exact ⟨quote, media, valid, nonempty, short⟩
  · rintro ⟨quote, media, valid, nonempty, short⟩
    exact ⟨quote, media, valid, nonempty, short⟩

/-!
## The rows of a new status
-/

theorem createdAttaches (id : StatusId) :
    Attaches (fun index (media : LocalMediaAttachment) =>
      { media with
        statusId := some id
        scheduledStatusId := none
        statusOrder := index }) fun _ => (some id, none) where
  id _ _ := rfl
  accountId _ _ := rfl
  moves _ _ := rfl
  idem _ := rfl

/-- The owners of an upload after a creation, which releases the media of the schedule that
it publishes. -/
def createdOwners (id : StatusId) (mediaIds : List Nat) (published : Option Nat)
    (media : LocalMediaAttachment) : Option StatusId × Option Nat :=
  if media.id ∈ mediaIds then (some id, none)
  else (media.statusId,
    if media.scheduledStatusId = published then none else media.scheduledStatusId)

theorem deleteScheduledStatus_reassigned (db : Db) (id : Nat) :
    Reassigned (fun media => (media.statusId,
        if media.scheduledStatusId = some id then none else media.scheduledStatusId))
      db.media (deleteScheduledStatus db id).media := by
  unfold deleteScheduledStatus
  apply Reassigned.updateWhere
  · exact fun _ => ⟨rfl, rfl⟩
  · intro media _ selected
    rw [if_pos (by simpa using selected)]
    rfl
  · intro media _ other
    rw [if_neg (by simpa using other)]
    rfl

section

variable {env : Environment} {db next : Db}

theorem createLocalStatusWithMedia_isOk_iff {new : NewLocalStatus} {mediaIds : List Nat}
    {scheduled : Option Nat} {recipients : List AccountId}
    (unique : (db.media.map LocalMediaAttachment.id).Nodup) :
    (∃ created, createLocalStatusWithMedia db new mediaIds scheduled recipients = .ok created) ↔
      (∀ id ∈ mediaIds, ∃ media ∈ db.media, media.id = id ∧
        mediaAvailable new.accountId scheduled media = true) ∧
      (∀ status ∈ db.statuses, status.id ≠ new.id) ∧
      (findLocalAccountById db new.accountId).isSome = true := by
  have fresh : (db.statuses.all fun status => status.id != new.id) = true ↔
      ∀ status ∈ db.statuses, status.id ≠ new.id := by
    simp
  rw [← checkMedia_eq_ok_iff unique, ← fresh]
  unfold createLocalStatusWithMedia
  simp only [bind_eq_ok_iff, exists_unit_iff, ensure_eq_ok_iff]
  constructor
  · rintro ⟨_, checked, unused, account, _⟩
    exact ⟨checked, unused, account⟩
  · rintro ⟨checked, unused, account⟩
    obtain ⟨media, attached⟩ := (attachMedia_isOk_iff (createdAttaches _) unique).mpr
      fun id member =>
        let ⟨media, found, same, _⟩ := (checkMedia_eq_ok_iff unique).mp checked id member
        ⟨media, found, same, rfl⟩
    exact ⟨_, checked, unused, account, media, attached, rfl⟩

structure Created (db next : Db) (new : NewLocalStatus) (mediaIds : List Nat)
    (poll : Option NewStatusPoll) (target : Option ResolvedQuoteTarget)
    (published : Option Nat) : Prop where
  fresh : ∀ status ∈ db.statuses, status.id ≠ new.id
  statuses : next.statuses = db.statuses ++ [new.row]
  media : Reassigned (createdOwners new.id mediaIds published) db.media next.media
  accounts : ∀ media ∈ db.media, media.id ∈ mediaIds → media.accountId = new.accountId
  polls : next.polls = db.polls ++ (poll.map (pollRow new.id)).toList
  quotes : next.quotes = db.quotes ++
    (target.map fun target => ⟨new.id, target.target, target.state⟩).toList
  schedules : next.schedules = db.schedules.filter fun schedule => some schedule.id != published

theorem createPoll_ok {id : StatusId} {poll : Option NewStatusPoll}
    (success : createPoll env.segmentation db id poll = .ok next) :
    next = { db with polls := db.polls ++ (poll.map (pollRow id)).toList } := by
  cases poll with
  | none =>
      cases success
      simp
  | some poll =>
      obtain ⟨_, _, written⟩ := bind_ok success
      cases written
      rfl

theorem createQuote_eq (db : Db) (id : StatusId) (target : Option ResolvedQuoteTarget) :
    createQuote db id target = { db with
      quotes := db.quotes ++
        (target.map fun target => ⟨id, target.target, target.state⟩).toList } := by
  cases target with
  | none => simp [createQuote]
  | some target => rfl

theorem finishSchedule_schedules (db : Db) (published : Option Nat) :
    (finishSchedule db published).schedules =
      db.schedules.filter fun schedule => some schedule.id != published := by
  cases published with
  | none =>
      symm
      exact List.filter_eq_self.mpr fun _ _ => rfl
  | some id =>
      change Table.deleteWhere _ _ = _
      unfold Table.deleteWhere
      apply List.filter_congr
      intro schedule _
      rfl

theorem finishSchedule_reassigned {id : StatusId} {mediaIds : List Nat}
    (attached : Reassigned (attachedOwners (fun _ => (some id, none)) mediaIds) db.media next.media)
    (published : Option Nat) :
    Reassigned (createdOwners id mediaIds published) db.media
      (finishSchedule next published).media := by
  have released : Reassigned (fun media => (media.statusId,
      if media.scheduledStatusId = published then none else media.scheduledStatusId))
      next.media (finishSchedule next published).media := by
    cases published with
    | none =>
        apply Reassigned.refl
        intro media _
        cases scheduled : media.scheduledStatusId <;>
          simp [LocalMediaAttachment.owners, scheduled]
    | some schedule => exact deleteScheduledStatus_reassigned next schedule
  refine attached.trans released ?_
  intro source _ moved _ _ _ owned
  unfold attachedOwners at owned
  unfold createdOwners
  by_cases named : source.id ∈ mediaIds
  · rw [if_pos named, LocalMediaAttachment.owners, Prod.mk.injEq] at owned
    rw [if_pos named, owned.1, owned.2, ite_self]
  · rw [if_neg named, LocalMediaAttachment.owners, LocalMediaAttachment.owners,
      Prod.mk.injEq] at owned
    rw [if_neg named, owned.1, owned.2]

theorem quoteTarget_isSome {account : AccountId} {visibility : StatusVisibility}
    {content : String} {rawId : Option String}
    {quoted : Option ResolvedQuoteTarget × StatusVisibility}
    (success : quoteTarget env db account visibility content rawId = .ok quoted) :
    quoted.1.isSome = rawId.isSome := by
  cases rawId with
  | none =>
      cases success
      rfl
  | some rawId =>
      unfold quoteTarget at success
      dsimp only at success
      split at success
      · cases success
        rfl
      · cases success

variable {account : LocalAccount} {input : StatusInput} {published : Option Nat} {id : StatusId}

theorem createLocalStatusWithMedia_ok {new : NewLocalStatus} {mediaIds : List Nat}
    {recipients : List AccountId} (unique : (db.media.map LocalMediaAttachment.id).Nodup)
    (success : createLocalStatusWithMedia db new mediaIds published recipients = .ok next) :
    ((∀ status ∈ db.statuses, status.id ≠ new.id) ∧
      ∀ media ∈ db.media, media.id ∈ mediaIds → media.accountId = new.accountId) ∧
    ∃ media addressed, next = { db with
        statuses := db.statuses ++ [new.row], media := media, recipients := addressed } ∧
      Reassigned (attachedOwners (fun _ => (some new.id, none)) mediaIds) db.media media := by
  obtain ⟨available, unused, _⟩ := (createLocalStatusWithMedia_isOk_iff unique).mp ⟨next, success⟩
  refine ⟨⟨unused, ?_⟩, ?_⟩
  · intro media member named
    obtain ⟨found, foundMember, same, owned⟩ := available media.id named
    have here : found = media :=
      List.inj_on_of_nodup_map unique foundMember member same
    subst here
    simp only [mediaAvailable, Bool.and_eq_true, beq_iff_eq] at owned
    exact owned.1.1
  · obtain ⟨_, _, rest⟩ := bind_ok success
    obtain ⟨_, _, rest⟩ := bind_ok rest
    obtain ⟨_, _, rest⟩ := bind_ok rest
    obtain ⟨media, attached, written⟩ := bind_ok rest
    cases written
    exact ⟨media, _, rfl, attachMedia_reassigned (createdAttaches new.id) attached⟩

theorem createStatusFromInput_ok (unique : (db.media.map LocalMediaAttachment.id).Nodup)
    (success : createStatusFromInput env db account input published id = .ok next) :
    ∃ mediaIds, ∃ quoted : Option ResolvedQuoteTarget × StatusVisibility, ∃ reply,
      parseMediaIds (input.mediaIds.getD []) = .ok mediaIds ∧
      ContentsAllowed env.segmentation input.quotedStatusId.isSome mediaIds input.poll
        (input.status.getD "") (!mediaIds.isEmpty || input.poll.isSome) ∧
      quoted.1.isSome = input.quotedStatusId.isSome ∧
      Created db next (newLocalStatus account input id quoted.2 reply) mediaIds input.poll quoted.1
        published := by
  obtain ⟨mediaIds, parsed, rest⟩ := bind_ok success
  obtain ⟨_, checked, rest⟩ := bind_ok rest
  obtain ⟨quoted, resolved, rest⟩ := bind_ok rest
  obtain ⟨replyId, _, rest⟩ := bind_ok rest
  obtain ⟨reply, _, rest⟩ := bind_ok rest
  obtain ⟨created, writes, rest⟩ := bind_ok rest
  obtain ⟨polled, polls, written⟩ := bind_ok rest
  obtain ⟨⟨unused, owned⟩, media, addressed, rfl, attached⟩ :=
    createLocalStatusWithMedia_ok unique (mapError_eq_ok_iff.mp writes)
  obtain rfl := createPoll_ok (mapError_eq_ok_iff.mp polls)
  cases written
  refine ⟨mediaIds, quoted, reply, mapError_eq_ok_iff.mp parsed, checkContents_eq_ok_iff.mp checked,
    quoteTarget_isSome resolved, unused, ?_, ?_, owned, ?_, ?_, ?_⟩
  · rw [createQuote_eq]
    cases published <;> rfl
  · rw [createQuote_eq]
    exact finishSchedule_reassigned attached published
  · rw [createQuote_eq]
    cases published <;> rfl
  · rw [createQuote_eq]
    cases published <;> rfl
  · rw [createQuote_eq, finishSchedule_schedules]

end

/-!
## Invariants
-/

/-- The keys, foreign keys and checks of the tables, and the bound on stored texts. -/
structure Db.Valid (db : Db) : Prop where
  statusKeys : (db.statuses.map fun status => status.id).Nodup
  mediaKeys : (db.media.map LocalMediaAttachment.id).Nodup
  scheduleKeys : (db.schedules.map ScheduledStatus.id).Nodup
  ownerCheck : ∀ media ∈ db.media, ownerCheck media = true
  mediaStatus : ∀ media ∈ db.media, ∀ id, media.statusId = some id →
    ∃ status ∈ db.statuses, status.id = id ∧ status.accountId = media.accountId
  mediaSchedule : ∀ media ∈ db.media, ∀ id, media.scheduledStatusId = some id →
    ∃ schedule ∈ db.schedules, schedule.id = id
  pollStatus : ∀ poll ∈ db.polls, ∃ status ∈ db.statuses, status.id = poll.localStatusId
  quoteStatus : ∀ quote ∈ db.quotes,
    ∃ status ∈ db.statuses, status.id = quote.localQuotingStatusId
  content : ∀ status ∈ db.statuses, (Text.trim status.content).length ≤ maxStatusChars

structure Db.Shape (db : Db) : Prop where
  mediaOrPoll : ∀ status ∈ db.statuses,
    ¬ (localStatusHasMedia db status.id = true ∧ hasPoll db status.id = true)
  mediaOrQuote : ∀ status ∈ db.statuses,
    ¬ (localStatusHasMedia db status.id = true ∧ hasQuote db status.id = true)
  policy : ∀ status ∈ db.statuses,
    isOpen status.visibility = false → status.quoteApprovalPolicy = .nobody

section

variable {db next : Db}

theorem localStatusHasMedia_iff {id : StatusId} :
    localStatusHasMedia db id = true ↔ ∃ media ∈ db.media, media.statusId = some id := by
  simp [localStatusHasMedia]

theorem hasPoll_iff {id : StatusId} :
    hasPoll db id = true ↔ ∃ poll ∈ db.polls, poll.localStatusId = id := by
  simp [hasPoll]

theorem hasQuote_iff {id : StatusId} :
    hasQuote db id = true ↔ ∃ quote ∈ db.quotes, quote.localQuotingStatusId = id := by
  simp [hasQuote]

theorem Db.Valid.hasMedia_exists (valid : db.Valid) {id : StatusId}
    (media : localStatusHasMedia db id = true) : ∃ status ∈ db.statuses, status.id = id := by
  obtain ⟨upload, member, attached⟩ := localStatusHasMedia_iff.mp media
  obtain ⟨status, statusMember, same, _⟩ := valid.mediaStatus upload member id attached
  exact ⟨status, statusMember, same⟩

theorem Db.Valid.hasPoll_exists (valid : db.Valid) {id : StatusId}
    (polled : hasPoll db id = true) : ∃ status ∈ db.statuses, status.id = id := by
  obtain ⟨poll, member, rfl⟩ := hasPoll_iff.mp polled
  exact valid.pollStatus poll member

theorem Db.Valid.hasQuote_exists (valid : db.Valid) {id : StatusId}
    (quoted : hasQuote db id = true) : ∃ status ∈ db.statuses, status.id = id := by
  obtain ⟨quote, member, rfl⟩ := hasQuote_iff.mp quoted
  exact valid.quoteStatus quote member

theorem effectivePolicy_closed {visibility : StatusVisibility} {policy : QuoteApprovalPolicy}
    (closed : isOpen visibility = false) : effectivePolicy visibility policy = .nobody := by
  rw [effectivePolicy, closed]
  exact if_neg Bool.false_ne_true

namespace Created

variable {new : NewLocalStatus} {mediaIds : List Nat} {poll : Option NewStatusPoll}
  {target : Option ResolvedQuoteTarget} {published : Option Nat}

theorem mem_statuses (created : Created db next new mediaIds poll target published)
    {status : LocalStatus} :
    status ∈ next.statuses ↔ status ∈ db.statuses ∨ status = new.row := by
  rw [created.statuses, List.mem_append, List.mem_singleton]

theorem hasMedia_iff (created : Created db next new mediaIds poll target published) (id : StatusId)
    (media : localStatusHasMedia next id = true) :
    (id = new.id ∧ mediaIds ≠ []) ∨ localStatusHasMedia db id = true := by
  obtain ⟨upload, member, attached⟩ := localStatusHasMedia_iff.mp media
  obtain ⟨source, sourceMember, _, _, owned⟩ := created.media.origin member
  have status : upload.owners.1 = some id := attached
  rw [owned, createdOwners] at status
  split at status
  next named =>
    cases status
    exact .inl ⟨rfl, List.ne_nil_of_mem named⟩
  next => exact .inr (localStatusHasMedia_iff.mpr ⟨source, sourceMember, status⟩)

theorem hasPoll_iff (created : Created db next new mediaIds poll target published) {id : StatusId} :
    hasPoll next id = true ↔ hasPoll db id = true ∨ (id = new.id ∧ poll.isSome = true) := by
  rw [Posting.hasPoll_iff, Posting.hasPoll_iff, created.polls]
  cases poll with
  | none => simp
  | some poll => simp [or_and_right, exists_or, pollRow, eq_comm]

theorem hasQuote_iff (created : Created db next new mediaIds poll target published)
    {id : StatusId} :
    hasQuote next id = true ↔ hasQuote db id = true ∨ (id = new.id ∧ target.isSome = true) := by
  rw [Posting.hasQuote_iff, Posting.hasQuote_iff, created.quotes]
  cases target with
  | none => simp
  | some target => simp [or_and_right, exists_or, eq_comm]

theorem valid (created : Created db next new mediaIds poll target published)
    (valid : db.Valid) (short : (Text.trim new.content).length ≤ maxStatusChars) : next.Valid where
  statusKeys := by
    rw [created.statuses, List.map_append, List.nodup_append]
    refine ⟨valid.statusKeys, List.nodup_singleton _, ?_⟩
    intro id member other otherMember same
    obtain ⟨status, statusMember, rfl⟩ := List.mem_map.mp member
    rw [List.map_singleton, List.mem_singleton] at otherMember
    exact created.fresh status statusMember (same.trans otherMember)
  mediaKeys := created.media.keys ▸ valid.mediaKeys
  scheduleKeys := by
    rw [created.schedules]
    exact valid.scheduleKeys.sublist (List.filter_sublist.map _)
  ownerCheck := by
    intro media member
    obtain ⟨source, sourceMember, _, _, owned⟩ := created.media.origin member
    have checked := valid.ownerCheck source sourceMember
    rw [ownerCheck_eq, owned, createdOwners]
    split
    · rfl
    · dsimp only
      split
      · simp
      · exact checked
  mediaStatus := by
    intro media member id attached
    obtain ⟨source, sourceMember, sameId, sameAccount, owned⟩ := created.media.origin member
    have status : media.owners.1 = some id := attached
    rw [owned, createdOwners] at status
    split at status
    next named =>
      cases status
      refine ⟨new.row, created.mem_statuses.mpr (.inr rfl), rfl, ?_⟩
      rw [sameAccount, created.accounts source sourceMember named]
      rfl
    next =>
      obtain ⟨found, foundMember, same, account⟩ := valid.mediaStatus source sourceMember id status
      exact ⟨found, created.mem_statuses.mpr (.inl foundMember), same,
        account.trans sameAccount.symm⟩
  mediaSchedule := by
    intro media member id attached
    obtain ⟨source, sourceMember, _, _, owned⟩ := created.media.origin member
    have schedule : media.owners.2 = some id := attached
    rw [owned, createdOwners] at schedule
    split at schedule
    · cases schedule
    · dsimp only at schedule
      split at schedule
      · cases schedule
      next kept =>
        obtain ⟨found, foundMember, same⟩ := valid.mediaSchedule source sourceMember id schedule
        refine ⟨found, ?_, same⟩
        rw [created.schedules, List.mem_filter, bne_iff_ne, same, ← schedule]
        exact ⟨foundMember, kept⟩
  pollStatus := by
    intro row member
    have polled : hasPoll next row.localStatusId = true := Posting.hasPoll_iff.mpr ⟨row, member, rfl⟩
    rcases created.hasPoll_iff.mp polled with before | ⟨same, _⟩
    · obtain ⟨status, statusMember, same⟩ := valid.hasPoll_exists before
      exact ⟨status, created.mem_statuses.mpr (.inl statusMember), same⟩
    · exact ⟨new.row, created.mem_statuses.mpr (.inr rfl), same.symm⟩
  quoteStatus := by
    intro row member
    have quoted : hasQuote next row.localQuotingStatusId = true :=
      Posting.hasQuote_iff.mpr ⟨row, member, rfl⟩
    rcases created.hasQuote_iff.mp quoted with before | ⟨same, _⟩
    · obtain ⟨status, statusMember, same⟩ := valid.hasQuote_exists before
      exact ⟨status, created.mem_statuses.mpr (.inl statusMember), same⟩
    · exact ⟨new.row, created.mem_statuses.mpr (.inr rfl), same.symm⟩
  content := by
    intro status member
    rcases created.mem_statuses.mp member with before | rfl
    · exact valid.content status before
    · exact short

theorem shape (created : Created db next new mediaIds poll target published) (valid : db.Valid)
    (shaped : db.Shape) (pollOrMedia : poll.isSome = true → mediaIds = [])
    (quoteOrMedia : target.isSome = true → mediaIds = [])
    (policy : isOpen new.visibility = false → new.quoteApprovalPolicy = .nobody) :
    next.Shape := by
  have old {status : LocalStatus} (member : status ∈ db.statuses)
      (media : localStatusHasMedia next status.id = true) :
      localStatusHasMedia db status.id = true := by
    rcases created.hasMedia_iff _ media with ⟨same, _⟩ | before
    · exact absurd same (created.fresh status member)
    · exact before
  have named (media : localStatusHasMedia next new.id = true) : mediaIds ≠ [] := by
    rcases created.hasMedia_iff _ media with ⟨_, named⟩ | before
    · exact named
    · obtain ⟨status, member, same⟩ := valid.hasMedia_exists before
      exact absurd same (created.fresh status member)
  refine ⟨?_, ?_, ?_⟩
  · rintro status member ⟨media, polled⟩
    rcases created.mem_statuses.mp member with before | rfl
    · rcases created.hasPoll_iff.mp polled with polledBefore | ⟨same, _⟩
      · exact shaped.mediaOrPoll status before ⟨old before media, polledBefore⟩
      · exact created.fresh status before same
    · rcases created.hasPoll_iff.mp polled with polledBefore | ⟨_, given⟩
      · obtain ⟨status, before, same⟩ := valid.hasPoll_exists polledBefore
        exact created.fresh status before same
      · exact named media (pollOrMedia given)
  · rintro status member ⟨media, quoted⟩
    rcases created.mem_statuses.mp member with before | rfl
    · rcases created.hasQuote_iff.mp quoted with quotedBefore | ⟨same, _⟩
      · exact shaped.mediaOrQuote status before ⟨old before media, quotedBefore⟩
      · exact created.fresh status before same
    · rcases created.hasQuote_iff.mp quoted with quotedBefore | ⟨_, given⟩
      · obtain ⟨status, before, same⟩ := valid.hasQuote_exists quotedBefore
        exact created.fresh status before same
      · exact named media (quoteOrMedia given)
  · intro status member closed
    rcases created.mem_statuses.mp member with before | rfl
    · exact shaped.policy status before closed
    · exact policy closed

end Created

theorem createStatusFromInput_keeps {env : Environment} {account : LocalAccount}
    {input : StatusInput} {published : Option Nat} {id : StatusId} (valid : db.Valid)
    (shaped : db.Shape)
    (success : createStatusFromInput env db account input published id = .ok next) :
    next.Valid ∧ next.Shape := by
  obtain ⟨mediaIds, quoted, reply, _, allowed, target, created⟩ :=
    createStatusFromInput_ok valid.mediaKeys success
  refine ⟨created.valid valid ?_, created.shape valid shaped allowed.pollOrMedia ?_ ?_⟩
  · change (Text.trim (Text.trim (input.status.getD ""))).length ≤ _
    rw [Text.trim_trim]
    exact allowed.short
  · exact fun given => allowed.quoteOrMedia (target ▸ given)
  · exact effectivePolicy_closed

end

end Roosty.Status.Posting
