import Mathlib.Data.Fintype.EquivFin
import Roosty.Federation.InboxProperties
import Roosty.Federation.QuoteProperties
import Roosty.Federation.RemoteStatus
import Roosty.Library.Register
import Roosty.Poll.RemoteProperties

/-!
# Convergence of remote edits

The cached row of a Note is a register of edits: an edit replaces the stored one
when it is newer and shows another view. The poll is overwritten by every edit
that carries one.
-/

set_option autoImplicit false

namespace Roosty.Federation.Status

open Library Inbox

structure Projection where
  content : String
  visibility : StatusVisibility
  object : Json
  inReplyTo : Option String
  attachments : List NewRemoteMediaAttachment
  tags : List String
  poll : Option Poll.PollContent
deriving DecidableEq

def RemoteMediaAttachment.declared (row : RemoteMediaAttachment) : NewRemoteMediaAttachment :=
  ⟨row.remoteUrl, row.contentType, row.description⟩

def Db.tagNames (db : Db) (statusId : StatusId) : List String :=
  (db.tags.filter fun row => row.1 == statusId).map Prod.snd

def Db.projection (db : Db) (noteId : String) : Option Projection :=
  (findRow db noteId).map fun row =>
    { content := row.content
      visibility := row.visibility
      object := row.object
      inReplyTo := row.inReplyTo
      attachments := (currentMedia db row.id).map RemoteMediaAttachment.declared
      tags := db.tagNames row.id
      poll := db.pollDb.content (.remoteStatus row.id) }

def Edit.pollContent (edit : Edit) : Option Poll.PollContent :=
  edit.poll.map Poll.RemoteStatusPoll.content

def Edit.projection (server : Server) (edit : Edit) : Projection where
  content := edit.note.content
  visibility := edit.audience.visibility
  object := edit.note.toValue
  inReplyTo := edit.note.inReplyTo
  attachments := edit.note.attachments
  tags := storedTagNames server (remoteHashtagNames server.toNoteContext edit.note.tag)
  poll := edit.pollContent

structure View where
  content : String
  summary : Option Json
  sensitive : Option Json
  tag : Option Json
  attachment : Option Json
  quote : Option Json
  quoteUri : Option Json
  quoteAuthorization : Option Json
  automaticPolicy : List String
  manualPolicy : List String
  attachments : List NewRemoteMediaAttachment
deriving DecidableEq

def Edit.view (edit : Edit) : View :=
  let object := edit.note.toValue
  { content := edit.note.content
    summary := object.get? "summary"
    sensitive := object.get? "sensitive"
    tag := object.get? "tag"
    attachment := object.get? "attachment"
    quote := object.get? "quote"
    quoteUri := object.get? "quoteUri"
    quoteAuthorization := object.get? "quoteAuthorization"
    automaticPolicy := edit.note.quoteAutomaticPolicy
    manualPolicy := edit.note.quoteManualPolicy
    attachments := edit.note.attachments }

/-- The instant that is read back for a timestamp, in nanoseconds. -/
def Server.readBack (server : Server) (time : Int) : Int := server.timestamptz time * 1000

/-- A stored edit gives way to one that is newer and shows another view. -/
def Replaces (server : Server) (stored arriving : Edit) : Prop :=
  server.readBack stored.updatedAt < arriving.updatedAt ∧ stored.view ≠ arriving.view

instance (server : Server) : DecidableRel (Replaces server) := fun stored arriving =>
  inferInstanceAs (Decidable (server.readBack stored.updatedAt < arriving.updatedAt ∧ _))

variable {server : Server} {db : Db} {generated : Generated} {edit : Edit} {actor : RemoteActor}
variable {noteId : String}

/-!
## The row of a Note
-/

/-- The row and its attachments and hashtags are those of an edit. -/
structure Holds (server : Server) (db : Db) (actor : RemoteActor) (row : RemoteStatus)
    (edit : Edit) : Prop where
  author : row.remoteActorId = actor.id
  content : row.content = edit.note.content
  visibility : row.visibility = edit.audience.visibility
  updatedAt : row.updatedAt = server.timestamptz edit.updatedAt
  inReplyTo : row.inReplyTo = edit.note.inReplyTo
  object : row.object = edit.note.toValue
  automaticPolicy : row.quoteAutomaticPolicy = edit.note.quoteAutomaticPolicy
  manualPolicy : row.quoteManualPolicy = edit.note.quoteManualPolicy
  media : (currentMedia db row.id).map RemoteMediaAttachment.declared = edit.note.attachments
  tags : db.tagNames row.id =
    storedTagNames server (remoteHashtagNames server.toNoteContext edit.note.tag)

theorem Holds.of_tables {next : Db} {row : RemoteStatus} (holds : Holds server db actor row edit)
    (media : next.media = db.media) (tags : next.tags = db.tags) :
    Holds server next actor row edit where
  author := holds.author
  content := holds.content
  visibility := holds.visibility
  updatedAt := holds.updatedAt
  inReplyTo := holds.inReplyTo
  object := holds.object
  automaticPolicy := holds.automaticPolicy
  manualPolicy := holds.manualPolicy
  media := by
    unfold currentMedia
    rw [media]
    exact holds.media
  tags := by
    unfold Db.tagNames
    rw [tags]
    exact holds.tags

private theorem mediaChanged_iff (current : List RemoteMediaAttachment)
    (attachments : List NewRemoteMediaAttachment) :
    mediaChanged current attachments = false ↔
      current.map RemoteMediaAttachment.declared = attachments := by
  induction current generalizing attachments with
  | nil =>
      cases attachments with
      | nil => simp [mediaChanged]
      | cons head rest => simp [mediaChanged]
  | cons row rows ih =>
      cases attachments with
      | nil => simp [mediaChanged]
      | cons head rest =>
          have tail := ih rest
          have headSame : row.declared = head ↔ row.remoteUrl = head.remoteUrl ∧
              row.contentType = head.contentType ∧ row.description = head.description := by
            cases head
            simp [RemoteMediaAttachment.declared]
          rw [List.map_cons, List.cons.injEq, ← tail, headSame]
          simp only [mediaChanged, List.length_cons, List.zip_cons_cons, List.any_cons,
            Bool.or_eq_false_iff, bne_eq_false_iff_eq, Nat.add_right_cancel_iff]
          tauto

theorem unchanged_iff {row : RemoteStatus} {held : Edit} (lookup : Inbox.Db)
    (holds : Holds server db actor row held) :
    (!projectionChanged row (edit.status server lookup actor) &&
        !mediaChanged (currentMedia db row.id) edit.note.attachments) = true ↔
      held.view = edit.view := by
  have media := mediaChanged_iff (currentMedia db row.id) edit.note.attachments
  rw [holds.media] at media
  rw [Bool.and_eq_true, Bool.not_eq_true', Bool.not_eq_true', media]
  unfold projectionChanged Edit.view Edit.status
  simp only [Bool.or_eq_false_iff, bne_eq_false_iff_eq, holds.content, holds.object,
    holds.automaticPolicy, holds.manualPolicy, View.mk.injEq]
  tauto

theorem find?_replaced {Row : Type} {selected found : Row → Bool} {row existing : Row}
    {rows : List Row} (first : rows.find? found = some existing)
    (chosen : selected existing = true) (matching : found row = true) :
    (Table.updateWhere selected (fun _ => row) rows).find? found = some row := by
  induction rows with
  | nil => cases first
  | cons head tail ih =>
      unfold Table.updateWhere at ih ⊢
      rw [List.map_cons, List.find?_cons]
      by_cases headChosen : selected head = true
      · rw [if_pos headChosen, matching]
      · rw [if_neg headChosen]
        rw [List.find?_cons] at first
        cases headFound : found head with
        | true =>
            rw [headFound] at first
            have same : head = existing := Option.some.inj first
            rw [same] at headChosen
            exact absurd chosen headChosen
        | false =>
            rw [headFound] at first
            exact ih first

private theorem currentMedia_replaced (db : Db) (statusId : StatusId)
    (attachments : List NewRemoteMediaAttachment) :
    (currentMedia (replaceRemoteMediaAttachments db statusId attachments) statusId).map
      RemoteMediaAttachment.declared = attachments := by
  have own : ∀ row ∈ attachments.mapIdx (fun order attachment =>
      (⟨statusId, order, attachment.remoteUrl, attachment.contentType, attachment.description⟩ :
        RemoteMediaAttachment)), (row.remoteStatusId == statusId) = true := by
    intro row member
    obtain ⟨index, bound, rfl⟩ := List.mem_mapIdx.mp member
    exact beq_self_eq_true statusId
  have sorted : (attachments.mapIdx (fun order attachment =>
      (⟨statusId, order, attachment.remoteUrl, attachment.contentType, attachment.description⟩ :
        RemoteMediaAttachment))).Pairwise fun left right =>
          left.statusOrder ≤ right.statusOrder := by
    rw [List.pairwise_iff_getElem]
    intro first second _ _ before
    rw [List.getElem_mapIdx, List.getElem_mapIdx]
    exact before.le
  unfold currentMedia replaceRemoteMediaAttachments
  dsimp only
  rw [Table.filter_replaced own, sorted.insertionSort_eq]
  apply List.ext_getElem
  · simp
  · intro index _ _
    simp [RemoteMediaAttachment.declared]

private theorem tagNames_replaced (server : Server) (db : Db) (statusId : StatusId)
    (names : List String) :
    (replaceRemoteStatusTags server db statusId names).tagNames statusId =
      storedTagNames server names := by
  have own : ∀ row ∈ (storedTagNames server names).map (statusId, ·),
      (row.1 == statusId) = true := by
    intro row member
    obtain ⟨name, _, rfl⟩ := List.mem_map.mp member
    exact beq_self_eq_true statusId
  unfold Db.tagNames replaceRemoteStatusTags
  dsimp only
  rw [Table.filter_replaced own, List.map_map]
  exact List.map_id _

theorem holds_written (db : Db) (lookup : Inbox.Db) (statusId : StatusId) :
    Holds server (replaceRemoteStatusTags server
        (replaceRemoteMediaAttachments db statusId edit.note.attachments) statusId
        (edit.status server lookup actor).tagNames) actor
      ((edit.status server lookup actor).row server statusId) edit where
  author := rfl
  content := rfl
  visibility := rfl
  updatedAt := rfl
  inReplyTo := rfl
  object := rfl
  automaticPolicy := rfl
  manualPolicy := rfl
  media := currentMedia_replaced db statusId edit.note.attachments
  tags := tagNames_replaced server _ statusId _

/-!
## One activity
-/

structure Frame (db next : Db) : Prop where
  markers : next.markers = db.markers
  following : next.relations.following = db.relations.following
  blocks : next.relations.blocks = db.relations.blocks
  localAccounts : next.localAccounts = db.localAccounts
  localBlocks : next.localBlocks = db.localBlocks

theorem Frame.trans {mid next : Db} (first : Frame db mid) (second : Frame mid next) :
    Frame db next where
  markers := second.markers.trans first.markers
  following := second.following.trans first.following
  blocks := second.blocks.trans first.blocks
  localAccounts := second.localAccounts.trans first.localAccounts
  localBlocks := second.localBlocks.trans first.localBlocks

/-- The quotes and the actors are as before, cached statuses stay, and the row of
a Note is the same or new. -/
structure SameQuotes (db next : Db) (noteId : String) (actor : RemoteActor) : Prop where
  quotes : next.relations.quotes = db.relations.quotes
  actors : next.remoteActors = db.remoteActors
  kept : ∀ status ∈ db.remoteStatuses, ∃ other ∈ next.remoteStatuses, other.id = status.id
  authors : ∀ status ∈ next.remoteStatuses, status.remoteActorId = actor.id ∨
    ∃ old ∈ db.remoteStatuses, old.remoteActorId = status.remoteActorId
  row : (findRow next noteId).map RemoteStatus.id = (findRow db noteId).map RemoteStatus.id ∨
    (findRow db noteId = none ∧ ∀ status, findRow next noteId = some status →
      ∀ old ∈ db.remoteStatuses, old.id ≠ status.id)

theorem SameQuotes.of_rows {next : Db} (quotes : next.relations.quotes = db.relations.quotes)
    (actors : next.remoteActors = db.remoteActors)
    (rows : next.remoteStatuses = db.remoteStatuses) : SameQuotes db next noteId actor where
  quotes := quotes
  actors := actors
  kept status member := ⟨status, rows ▸ member, rfl⟩
  authors status member := .inr ⟨status, rows ▸ member, rfl⟩
  row := by
    unfold findRow
    rw [rows]
    exact .inl rfl

theorem SameQuotes.trans {mid next : Db} (first : SameQuotes db mid noteId actor)
    (second : SameQuotes mid next noteId actor)
    (row : (findRow next noteId).map RemoteStatus.id = (findRow mid noteId).map RemoteStatus.id) :
    SameQuotes db next noteId actor where
  quotes := second.quotes.trans first.quotes
  actors := second.actors.trans first.actors
  kept status member := by
    obtain ⟨middle, middleMember, same⟩ := first.kept status member
    obtain ⟨other, otherMember, sameAgain⟩ := second.kept middle middleMember
    exact ⟨other, otherMember, sameAgain.trans same⟩
  authors status member := by
    rcases second.authors status member with own | ⟨middle, middleMember, same⟩
    · exact .inl own
    · rw [← same]
      exact first.authors middle middleMember
  row := by
    rcases first.row with same | ⟨absent, fresh⟩
    · exact .inl (row.trans same)
    · refine .inr ⟨absent, ?_⟩
      intro status found old member
      rw [found, Option.map_some] at row
      obtain ⟨middle, foundMiddle, sameId⟩ := Option.map_eq_some_iff.mp row.symm
      rw [← sameId]
      exact fresh middle foundMiddle old member

structure SamePolls (db next : Db) : Prop where
  polls : next.polls = db.polls
  options : next.options = db.options
  jobs : next.jobs = db.jobs

theorem SamePolls.content {next : Db} (same : SamePolls db next) (status : Poll.PollStatus) :
    next.pollDb.content status = db.pollDb.content status := by
  unfold Poll.PollDb.content Poll.findPollRow Poll.pollOptions Db.pollDb
  rw [same.polls, same.options]

structure FreshIds (db : Db) (generated : Generated) : Prop where
  status : ∀ row ∈ db.remoteStatuses, row.id ≠ generated.statusId
  pollStatus : ∀ row ∈ db.polls, row.status ≠ .remoteStatus generated.statusId
  poll : ∀ row ∈ db.polls, row.id ≠ generated.poll.pollId
  job : ∀ row ∈ db.jobs, row.id ≠ generated.poll.jobId
  quote : ∀ row ∈ db.relations.quotes, row.id ≠ generated.quote.quoteId
  authorization : ∀ row ∈ db.relations.quotes,
    row.authorizationId ≠ some generated.quote.authorizationUrl

/-- What is cached for a Note: the edit that its row holds, and its poll. -/
def Cached (server : Server) (db : Db) (noteId : String) (actor : RemoteActor) :
    Option Edit → Option Poll.PollContent → Prop
  | none, poll => findRow db noteId = none ∧ poll = none
  | some held, poll => ∃ row, findRow db noteId = some row ∧ Holds server db actor row held ∧
      db.pollDb.content (.remoteStatus row.id) = poll

private structure Upserted (server : Server) (db next : Db) (noteId : String) (actor : RemoteActor)
    (row : RemoteStatus) (held : Option Edit) (poll : Option Poll.PollContent) : Prop where
  found : findRow next noteId = some row
  holds : ∃ edit, held = some edit ∧ Holds server next actor row edit
  poll : next.pollDb.content (.remoteStatus row.id) = poll
  frame : Frame db next
  polls : SamePolls db next
  quotes : SameQuotes db next noteId actor

variable {register : Option Edit} {poll : Option Poll.PollContent}

private theorem storeRemoteStatus_new (lookup : Inbox.Db) (about : edit.note.id = noteId)
    (fresh : FreshIds db generated) (absent : findRow db noteId = none) :
    ∃ next row, storeRemoteStatus server db generated (edit.status server lookup actor)
        edit.note.attachments = .ok (next, row) ∧
      Upserted server db next noteId actor row (some edit) none := by
  subst about
  have unused : (db.remoteStatuses.any fun other => other.id == generated.statusId) = false := by
    rw [List.any_eq_false]
    intro row member same
    exact fresh.status row member (by simpa using same)
  have named : (edit.status server lookup actor).activitypubId = edit.note.id := rfl
  unfold storeRemoteStatus upsertRemoteStatusOn
  rw [named, absent]
  dsimp only
  rw [unused, if_neg Bool.false_ne_true, ok_bind]
  have found : (db.remoteStatuses ++
      [(edit.status server lookup actor).row server generated.statusId]).find?
        (fun status => status.activitypubId == edit.note.id) =
      some ((edit.status server lookup actor).row server generated.statusId) := by
    unfold findRow at absent
    rw [List.find?_append, absent, Option.none_or, List.find?_singleton]
    exact if_pos (beq_self_eq_true edit.note.id)
  refine ⟨_, _, rfl, ⟨found, ⟨edit, rfl, holds_written _ lookup generated.statusId⟩, ?_,
    ⟨rfl, rfl, rfl, rfl, rfl⟩, ⟨rfl, rfl, rfl⟩, ⟨rfl, rfl, ?_, ?_, .inr ⟨absent, ?_⟩⟩⟩⟩
  · have none : Poll.findPollRow db.pollDb (.remoteStatus generated.statusId) = none := by
      unfold Poll.findPollRow
      rw [List.find?_eq_none]
      intro row member same
      exact fresh.pollStatus row member (by simpa using same)
    change (Poll.findPollRow db.pollDb (.remoteStatus generated.statusId)).map _ = _
    rw [none, Option.map_none]
  · exact fun status member => ⟨status, List.mem_append_left _ member, rfl⟩
  · intro status member
    rcases List.mem_append.mp member with old | new
    · exact .inr ⟨status, old, rfl⟩
    · rw [List.mem_singleton.mp new]
      exact .inl rfl
  · intro status inserted old member
    cases found.symm.trans inserted
    exact fresh.status old member

private theorem storeRemoteStatus_existing (lookup : Inbox.Db) (about : edit.note.id = noteId)
    {existing : RemoteStatus} (found : findRow db noteId = some existing)
    (author : existing.remoteActorId = actor.id)
    (stored : db.pollDb.content (.remoteStatus existing.id) = poll) :
    ∃ next row, storeRemoteStatus server db generated (edit.status server lookup actor)
        edit.note.attachments = .ok (next, row) ∧
      Upserted server db next noteId actor row (some edit) poll := by
  subst about
  have named : (edit.status server lookup actor).activitypubId = edit.note.id := rfl
  have sameAuthor : ¬ existing.remoteActorId ≠ (edit.status server lookup actor).remoteActorId :=
    not_not.mpr author
  unfold storeRemoteStatus upsertRemoteStatusOn
  rw [named, found]
  dsimp only
  rw [if_neg sameAuthor, ok_bind]
  have replaced : (Table.updateWhere (fun other => other.id == existing.id)
      (fun _ => (edit.status server lookup actor).row server existing.id)
      db.remoteStatuses).find? (fun status => status.activitypubId == edit.note.id) =
        some ((edit.status server lookup actor).row server existing.id) :=
    find?_replaced found (beq_self_eq_true _) (beq_self_eq_true _)
  refine ⟨_, _, rfl, ⟨?_, ⟨edit, rfl, holds_written _ lookup existing.id⟩, stored,
    ⟨rfl, rfl, rfl, rfl, rfl⟩, ⟨rfl, rfl, rfl⟩, ⟨rfl, rfl, ?_, ?_, .inl ?_⟩⟩⟩
  · exact replaced
  · intro status member
    by_cases same : (status.id == existing.id) = true
    · exact ⟨_, Table.mem_updateWhere.mpr (.inr ⟨status, member, same, rfl⟩),
        (beq_iff_eq.mp same).symm⟩
    · exact ⟨status, Table.mem_updateWhere.mpr (.inl ⟨member, by simpa using same⟩), rfl⟩
  · intro status member
    rcases Table.mem_updateWhere.mp member with ⟨old, _⟩ | ⟨_, _, _, rfl⟩
    · exact .inr ⟨status, old, rfl⟩
    · exact .inl rfl
  · rw [found]
    exact (congrArg (Option.map RemoteStatus.id) replaced).trans rfl

private theorem processRemoteStatusUpsert_upserted (lookup : Inbox.Db)
    (about : edit.note.id = noteId) (fresh : FreshIds db generated)
    (cached : Cached server db noteId actor register poll) :
    ∃ next upsert, processRemoteStatusUpsert server db generated (edit.status server lookup actor)
        edit.note.attachments = .ok (next, upsert) ∧
      Upserted server db next noteId actor upsert.status
        (Register.write (Replaces server) register edit) poll := by
  have named : (edit.status server lookup actor).activitypubId = noteId := about
  unfold processRemoteStatusUpsert
  rw [named]
  cases register with
  | none =>
      obtain ⟨absent, rfl⟩ := cached
      obtain ⟨next, row, stored, upserted⟩ :=
        storeRemoteStatus_new lookup about fresh absent
      rw [absent]
      dsimp only
      rw [stored, ok_bind]
      exact ⟨next, .created row, rfl, upserted⟩
  | some held =>
      obtain ⟨existing, found, holds, content⟩ := cached
      have sameAuthor : ¬ existing.remoteActorId ≠
          (edit.status server lookup actor).remoteActorId := not_not.mpr holds.author
      have kept : ((edit.status server lookup actor).updatedAt ≤ existing.updatedAt * 1000 ∨
          (!projectionChanged existing (edit.status server lookup actor) &&
            !mediaChanged (currentMedia db existing.id) edit.note.attachments) = true) ↔
          ¬ Replaces server held edit := by
        have older : (edit.status server lookup actor).updatedAt ≤ existing.updatedAt * 1000 ↔
            ¬ server.readBack held.updatedAt < edit.updatedAt := by
          rw [holds.updatedAt]
          exact not_lt.symm
        rw [older, unchanged_iff lookup holds]
        unfold Replaces
        tauto
      rw [found]
      dsimp only
      rw [if_neg sameAuthor]
      by_cases replaced : Replaces server held edit
      · obtain ⟨next, row, stored, upserted⟩ :=
          storeRemoteStatus_existing lookup about found holds.author content
        rw [if_neg fun unchanged => kept.mp unchanged replaced, stored, ok_bind,
          Register.write_replaced replaced]
        exact ⟨next, .updated row, rfl, upserted⟩
      · rw [if_pos (kept.mpr replaced), Register.write_kept replaced]
        exact ⟨db, .unchanged existing, rfl, found, ⟨held, rfl, holds⟩, content,
          ⟨rfl, rfl, rfl, rfl, rfl⟩, ⟨rfl, rfl, rfl⟩, .of_rows rfl rfl rfl⟩

private theorem findRow_link (db : Db) (parent : RemoteStatus) (noteId : String) :
    findRow (linkUnresolvedRemoteRepliesToParent db parent) noteId =
      (findRow db noteId).map fun row => if row.inReplyTo == some parent.activitypubId &&
        row.inReplyToLocalStatusId.isNone && row.inReplyToRemoteStatusId.isNone &&
        row.deletedAt.isNone then { row with inReplyToRemoteStatusId := some parent.id }
        else row := by
  unfold findRow linkUnresolvedRemoteRepliesToParent
  exact Table.find?_updateWhere fun row _ _ => rfl

private theorem Cached.link (cached : Cached server db noteId actor register poll)
    (parent : RemoteStatus) :
    Cached server (linkUnresolvedRemoteRepliesToParent db parent) noteId actor register poll := by
  have found := findRow_link db parent noteId
  cases register with
  | none =>
      obtain ⟨absent, none⟩ := cached
      refine ⟨?_, none⟩
      rw [found, absent, Option.map_none]
  | some held =>
      obtain ⟨row, stored, holds, content⟩ := cached
      rw [stored, Option.map_some] at found
      refine ⟨_, found, ?_⟩
      split
      · exact ⟨⟨holds.author, holds.content, holds.visibility, holds.updatedAt, holds.inReplyTo,
          holds.object, holds.automaticPolicy, holds.manualPolicy, holds.media, holds.tags⟩, content⟩
      · exact ⟨holds.of_tables rfl rfl, content⟩

private theorem SameQuotes.link {next : Db} (same : SameQuotes db next noteId actor)
    (parent : RemoteStatus) :
    SameQuotes db (linkUnresolvedRemoteRepliesToParent next parent) noteId actor ∧
      (findRow (linkUnresolvedRemoteRepliesToParent next parent) noteId).map RemoteStatus.id =
        (findRow next noteId).map RemoteStatus.id := by
  have row : (findRow (linkUnresolvedRemoteRepliesToParent next parent) noteId).map
      RemoteStatus.id = (findRow next noteId).map RemoteStatus.id := by
    rw [findRow_link, Option.map_map]
    apply Option.map_congr
    intro status _
    dsimp only [Function.comp]
    split
    next => rfl
    next => rfl
  refine ⟨same.trans ⟨rfl, rfl, ?_, ?_, .inl row⟩ row, row⟩
  · intro status member
    refine ⟨_, List.mem_map_of_mem member, ?_⟩
    split
    next => rfl
    next => rfl
  · intro status member
    rcases Table.mem_updateWhere.mp member with ⟨old, _⟩ | ⟨old, oldMember, _, rfl⟩
    · exact .inr ⟨status, old, rfl⟩
    · exact .inr ⟨old, oldMember, rfl⟩

private theorem Cached.of_tables {next : Db}
    (cached : Cached server db noteId actor register poll)
    (rows : next.remoteStatuses = db.remoteStatuses) (media : next.media = db.media)
    (tags : next.tags = db.tags) (polls : SamePolls db next) :
    Cached server next noteId actor register poll := by
  cases register with
  | none =>
      unfold Cached findRow
      rw [rows]
      exact cached
  | some held =>
      obtain ⟨row, stored, holds, content⟩ := cached
      unfold Cached findRow
      rw [rows]
      exact ⟨row, stored, holds.of_tables media tags, (polls.content _).trans content⟩

private theorem storePoll_cached {next : Db} {row : RemoteStatus} {held : Option Edit}
    (storable : ∀ carried ∈ edit.poll, carried.Storable) (fresh : FreshIds db generated)
    (upserted : Upserted server db next noteId actor row held poll) :
    ∃ polled, storePoll next generated row.id edit.poll = .ok polled ∧
      Cached server polled noteId actor held (edit.pollContent.or poll) ∧ Frame db polled ∧
      SameQuotes db polled noteId actor ∧ (findRow polled noteId).map RemoteStatus.id = some row.id
      := by
  obtain ⟨written, rfl, holds⟩ := upserted.holds
  unfold Edit.pollContent
  cases carried : edit.poll with
  | none =>
      refine ⟨next, rfl, ⟨row, upserted.found, holds, upserted.poll⟩, upserted.frame,
        upserted.quotes, ?_⟩
      rw [upserted.found, Option.map_some]
  | some input =>
      have member : row ∈ next.remoteStatuses := List.mem_of_find?_eq_some upserted.found
      have referenced : ∃ status ∈ next.pollDb.remoteStatuses, status.1 = row.id :=
        ⟨(row.id, row.remoteActorId), List.mem_map.mpr ⟨row, member, rfl⟩, rfl⟩
      have freshPoll : ∀ other ∈ next.pollDb.polls, other.id ≠ generated.poll.pollId := by
        intro other otherMember
        exact fresh.poll other (upserted.polls.polls ▸ otherMember)
      have freshJob : ∀ other ∈ next.pollDb.jobs, other.id ≠ generated.poll.jobId := by
        intro other otherMember
        exact fresh.job other (upserted.polls.jobs ▸ otherMember)
      obtain ⟨tables, _, stored, content⟩ := Poll.upsertRemotePoll_stores
        (storable input (by rw [carried]; rfl)) freshPoll freshJob referenced
      unfold storePoll
      dsimp only
      rw [stored, ok_bind]
      have same : SameQuotes next (next.withPollDb tables) noteId actor := .of_rows rfl rfl rfl
      refine ⟨_, rfl, ⟨row, upserted.found, holds.of_tables rfl rfl, content⟩,
        upserted.frame.trans ⟨rfl, rfl, rfl, rfl, rfl⟩, upserted.quotes.trans same rfl, ?_⟩
      exact congrArg (Option.map RemoteStatus.id) upserted.found

/-!
## Quotes of one Note
-/

/-- The quote table refers to cached statuses of known authors. The edits name one
quote, which is the target of a stored quote of the Note; an authorization that
they carry is stored for the Note or not at all. -/
structure Quotes (db : Db) (noteId : String) (edits : List Edit) : Prop where
  schema : QuoteSchema db.relations.quotes
  referenced : ∀ quote ∈ db.relations.quotes, ∀ id, quote.quotingStatus = .remoteStatus id →
    ∃ status ∈ db.remoteStatuses, status.id = id
  authors : ∀ status ∈ db.remoteStatuses,
    ∃ other ∈ db.remoteActors, other.id = status.remoteActorId
  same : ∀ one ∈ edits, ∀ two ∈ edits, one.note.quote = two.note.quote
  target : ∀ id, (findRow db noteId).map RemoteStatus.id = some id →
    ∀ quote ∈ db.relations.quotes, quote.quotingStatus = .remoteStatus id →
    ∀ edit ∈ edits, edit.note.quote = some quote.quotedActivitypubId
  authorized : ∀ quote ∈ db.relations.quotes, quote.authorizationId.isSome = true →
    ∀ edit ∈ edits, edit.note.quoteAuthorization = quote.authorizationId →
    ∃ id, (findRow db noteId).map RemoteStatus.id = some id ∧
      quote.quotingStatus = .remoteStatus id

section

variable {next : Db} {edits : List Edit} {statusId : StatusId} {quote : ResolvedInboundQuote}

private theorem Quotes.of_same (quotes : Quotes db noteId edits)
    (same : SameQuotes db next noteId actor)
    (known : ∃ other ∈ db.remoteActors, other.id = actor.id) : Quotes next noteId edits where
  schema := same.quotes ▸ quotes.schema
  referenced stored member id quoting := by
    rw [same.quotes] at member
    obtain ⟨status, cached, named⟩ := quotes.referenced stored member id quoting
    obtain ⟨other, kept, sameId⟩ := same.kept status cached
    exact ⟨other, kept, sameId.trans named⟩
  authors status member := by
    rw [same.actors]
    rcases same.authors status member with own | ⟨old, oldMember, sameAuthor⟩
    · rw [own]
      exact known
    · rw [← sameAuthor]
      exact quotes.authors old oldMember
  same := quotes.same
  target id found stored member quoting := by
    rw [same.quotes] at member
    rcases same.row with kept | ⟨_, fresh⟩
    · exact quotes.target id (kept.symm.trans found) stored member quoting
    · -- no quote refers to a row that is new
      obtain ⟨status, row, rfl⟩ := Option.map_eq_some_iff.mp found
      obtain ⟨old, oldMember, sameId⟩ := quotes.referenced stored member status.id quoting
      exact absurd sameId (fresh status row old oldMember)
  authorized stored member present edit edited carried := by
    rw [same.quotes] at member
    obtain ⟨id, found, quoting⟩ := quotes.authorized stored member present edit edited carried
    rcases same.row with kept | ⟨absent, _⟩
    · exact ⟨id, kept.trans found, quoting⟩
    · rw [absent] at found
      cases found

theorem Quotes.of_subset {fewer : List Edit} (quotes : Quotes db noteId edits)
    (subset : fewer ⊆ edits) : Quotes db noteId fewer where
  schema := quotes.schema
  referenced := quotes.referenced
  authors := quotes.authors
  same one oneMember two twoMember := quotes.same one (subset oneMember) two (subset twoMember)
  target id found stored member quoting edit edited :=
    quotes.target id found stored member quoting edit (subset edited)
  authorized stored member present edit edited :=
    quotes.authorized stored member present edit (subset edited)

private theorem Quotes.not_taken (quotes : Quotes db noteId edits) (member : edit ∈ edits)
    (found : (findRow db noteId).map RemoteStatus.id = some statusId)
    (unused : ∀ row ∈ db.relations.quotes,
      row.authorizationId ≠ some generated.quote.authorizationUrl)
    (names : quote.Names edit.note generated.quote.authorizationUrl) {rowId : Nat}
    (own : ∀ row ∈ db.relations.quotes, row.quotingStatus = .remoteStatus statusId →
      row.id = rowId) :
    authorizationTaken db.relations.quotes rowId quote.authorizationId = false := by
  unfold authorizationTaken
  cases given : quote.authorizationId with
  | none => rfl
  | some authorization =>
      rw [Option.isSome_some, Bool.true_and, List.any_eq_false]
      intro row stored taken
      rw [Bool.and_eq_true, bne_iff_ne, beq_iff_eq] at taken
      obtain ⟨other, held⟩ := taken
      rcases names.2 with new | carried
      · exact unused row stored (held.trans (given.symm.trans new))
      · obtain ⟨id, foundId, quoting⟩ := quotes.authorized row stored (by rw [held]; rfl) edit
          member (carried.symm.trans (given.trans held.symm))
        cases found.symm.trans foundId
        exact other (own row stored quoting)

private theorem Quotes.of_written (quotes : Quotes db noteId edits) (member : edit ∈ edits)
    (found : (findRow db noteId).map RemoteStatus.id = some statusId)
    (names : quote.Names edit.note generated.quote.authorizationUrl) {rows : List StatusQuote}
    (schema : QuoteSchema rows)
    (written : ∀ row ∈ rows, row ∈ db.relations.quotes ∨
      (row.quotingStatus = .remoteStatus statusId ∧
        row.quotedActivitypubId = quote.activitypubId)) :
    Quotes { db with relations := { db.relations with quotes := rows } } noteId edits where
  schema := schema
  referenced row stored id quoting := by
    rcases written row stored with old | ⟨own, _⟩
    · exact quotes.referenced row old id quoting
    · rw [own] at quoting
      cases quoting
      obtain ⟨status, cached, sameId⟩ := Option.map_eq_some_iff.mp found
      exact ⟨status, List.mem_of_find?_eq_some cached, sameId⟩
  authors := quotes.authors
  same := quotes.same
  target id foundId row stored quoting other otherMember := by
    rcases written row stored with old | ⟨_, sameTarget⟩
    · exact quotes.target id foundId row old quoting other otherMember
    · rw [quotes.same other otherMember edit member, names.1, sameTarget]
  authorized row stored present other otherMember carried := by
    rcases written row stored with old | ⟨own, _⟩
    · exact quotes.authorized row old present other otherMember carried
    · exact ⟨statusId, found, own⟩

private theorem Quotes.stored (quotes : Quotes db noteId edits) (member : edit ∈ edits)
    (found : (findRow db noteId).map RemoteStatus.id = some statusId)
    (newId : ∀ row ∈ db.relations.quotes, row.id ≠ generated.quote.quoteId)
    (unused : ∀ row ∈ db.relations.quotes,
      row.authorizationId ≠ some generated.quote.authorizationUrl)
    {resolved : Option ResolvedInboundQuote}
    (names : ∀ quote ∈ resolved, quote.Names edit.note generated.quote.authorizationUrl) :
    ∃ rows, storeQuote db generated statusId resolved =
        .ok { db with relations := { db.relations with quotes := rows } } ∧
      Quotes { db with relations := { db.relations with quotes := rows } } noteId edits := by
  cases resolved with
  | none => exact ⟨db.relations.quotes, rfl, quotes⟩
  | some quote =>
      have names := names quote rfl
      have cached : (db.remoteStatuses.any fun status => status.id == statusId) = true := by
        obtain ⟨status, stored, sameId⟩ := Option.map_eq_some_iff.mp found
        exact List.any_eq_true.mpr ⟨status, List.mem_of_find?_eq_some stored, beq_iff_eq.mpr sameId⟩
      unfold storeQuote upsertRemoteStatusQuote
      dsimp only
      rw [cached, Bool.not_true, if_neg Bool.false_ne_true]
      cases lookup : quoteOf db.relations (.remoteStatus statusId) with
      | some existing =>
          obtain ⟨stored, quoting⟩ := quoteOf_some lookup
          have sameTarget : ¬ existing.quotedActivitypubId ≠ quote.activitypubId := by
            rw [not_not]
            exact Option.some.inj
              ((quotes.target statusId found existing stored quoting edit member).symm.trans names.1)
          have own : ∀ row ∈ db.relations.quotes, row.quotingStatus = .remoteStatus statusId →
              row.id = existing.id := by
            intro row rowMember rowQuoting
            rw [quotes.schema.quoting.eq_of_key rowMember stored (congrArg some rowQuoting)
              (congrArg some quoting)]
          dsimp only
          rw [if_neg sameTarget, quotes.not_taken member found unused names own,
            if_neg Bool.false_ne_true, ok_bind]
          refine ⟨_, rfl, quotes.of_written member found names
            (quotes.schema.updateWhere (fun _ => rfl) fun _ => rfl) ?_⟩
          intro row written
          rcases Table.mem_updateWhere.mp written with ⟨old, _⟩ | ⟨before, old, chosen, rfl⟩
          · exact .inl old
          · rw [quotes.schema.same_id old stored (beq_iff_eq.mp chosen)]
            exact .inr ⟨quoting, not_not.mp sameTarget⟩
      | none =>
          have first : ∀ row ∈ db.relations.quotes,
              row.quotingStatus ≠ .remoteStatus statusId := by
            intro row rowMember same
            exact List.find?_eq_none.mp lookup row rowMember (beq_iff_eq.mpr same)
          have insertable : insertStatusQuote db.relations ⟨generated.quote.quoteId,
              .remoteStatus statusId, some quote.target, quote.activitypubId, quote.state, none,
              quote.authorizationId⟩ = .ok { db.relations with
                quotes := db.relations.quotes ++ [⟨generated.quote.quoteId,
                  .remoteStatus statusId, some quote.target, quote.activitypubId, quote.state,
                  none, quote.authorizationId⟩] } := by
            have ids : (db.relations.quotes.any fun other =>
                other.id == generated.quote.quoteId) = false := by
              rw [List.any_eq_false]
              exact fun row rowMember same => newId row rowMember (beq_iff_eq.mp same)
            have statuses : (db.relations.quotes.any fun other =>
                other.quotingStatus == .remoteStatus statusId) = false := by
              rw [List.any_eq_false]
              exact fun row rowMember same => first row rowMember (beq_iff_eq.mp same)
            unfold insertStatusQuote
            dsimp only
            rw [ids, if_neg Bool.false_ne_true, statuses, if_neg Bool.false_ne_true,
              Option.isSome_none, Bool.false_and, if_neg Bool.false_ne_true,
              quotes.not_taken member found unused names fun row rowMember quoting =>
                absurd quoting (first row rowMember), if_neg Bool.false_ne_true]
          dsimp only
          rw [insertable, ok_bind]
          refine ⟨_, rfl, quotes.of_written member found names
            (insertStatusQuote_schema insertable quotes.schema) ?_⟩
          intro row written
          rcases List.mem_append.mp written with old | new
          · exact .inl old
          · rw [List.mem_singleton.mp new]
            exact .inr ⟨rfl, rfl⟩

theorem applyEdit_cached (about : edit.note.id = noteId)
    (storable : ∀ carried ∈ edit.poll, carried.Storable) (fresh : FreshIds db generated)
    (quotes : Quotes db noteId edits) (member : edit ∈ edits)
    (known : ∃ other ∈ db.remoteActors, other.id = actor.id)
    {resolved : Option ResolvedInboundQuote}
    (names : ∀ quote ∈ resolved, quote.Names edit.note generated.quote.authorizationUrl)
    (cached : Cached server db noteId actor register poll) :
    ∃ next change, applyEdit server db generated edit actor resolved = .ok (next, change) ∧
      Cached server next noteId actor (Register.write (Replaces server) register edit)
        (edit.pollContent.or poll) ∧ Frame db next ∧ Quotes next noteId edits ∧
      next.remoteActors = db.remoteActors := by
  obtain ⟨stored, upsert, processed, upserted⟩ :=
    processRemoteStatusUpsert_upserted db.toDb about fresh cached
  obtain ⟨polled, polling, cachedPoll, frame, samePolled, row⟩ :=
    storePoll_cached storable fresh upserted
  have linked := cachedPoll.link upsert.status
  have sameLinked := samePolled.link upsert.status
  have rowLinked := (sameLinked.2).trans row
  have quotesLinked := quotes.of_same sameLinked.1 known
  unfold applyEdit
  rw [processed, ok_bind]
  dsimp only
  rw [polling, ok_bind]
  have framed : ∀ next : Db, next.markers = polled.markers →
      next.relations.following = polled.relations.following →
      next.relations.blocks = polled.relations.blocks →
      next.localAccounts = polled.localAccounts → next.localBlocks = polled.localBlocks →
      Frame db next := by
    intro next markers following blocks accounts localBlocks
    exact frame.trans ⟨markers, following, blocks, accounts, localBlocks⟩
  -- a created or updated status takes its recipients and its quote
  have addressed : Quotes (replaceRemoteStatusLocalRecipients
      (linkUnresolvedRemoteRepliesToParent polled upsert.status) upsert.status.id
      edit.audience.explicitRecipients) noteId edits :=
    quotesLinked.of_same (.of_rows rfl rfl rfl) (sameLinked.1.actors ▸ known)
  have sameQuotes : polled.relations.quotes = db.relations.quotes := samePolled.quotes
  obtain ⟨rows, storing, quoted⟩ := addressed.stored member rowLinked
    (fun row stored => fresh.quote row (sameQuotes ▸ stored))
    (fun row stored => fresh.authorization row (sameQuotes ▸ stored)) names
  cases upsert with
  | unchanged row =>
      exact ⟨_, _, rfl, linked, framed _ rfl rfl rfl rfl rfl, quotesLinked, samePolled.actors⟩
  | created row =>
      dsimp only [RemoteStatusUpsertResult.status] at storing ⊢
      rw [storing, ok_bind]
      exact ⟨_, _, rfl, linked.of_tables rfl rfl rfl ⟨rfl, rfl, rfl⟩, framed _ rfl rfl rfl rfl rfl,
        quoted, samePolled.actors⟩
  | updated row =>
      dsimp only [RemoteStatusUpsertResult.status] at storing ⊢
      rw [storing, ok_bind]
      exact ⟨_, _, rfl, linked.of_tables rfl rfl rfl ⟨rfl, rfl, rfl⟩, framed _ rfl rfl rfl rfl rfl,
        quoted, samePolled.actors⟩

end

/-!
## Deliveries
-/

structure Delivery where
  id : String
  activity : Json
  edit : Edit

structure Delivery.Valid (server : Server) (db : Inbox.Db) (actor : RemoteActor)
    (noteId : String) (delivery : Delivery) : Prop where
  identified : activityId delivery.activity = some delivery.id
  origin : server.sameUrlOrigin delivery.id actor.activitypubId = true
  read : readStatusActivity server db delivery.activity actor = .ok delivery.edit
  about : delivery.edit.note.id = noteId
  storable : ∀ poll ∈ delivery.edit.poll, poll.Storable

variable {delivery : Delivery}

private theorem readStatusActivity_frame {next : Inbox.Db} {other : Inbox.Db} {activity : Json}
    (following : next.relations.following = other.relations.following)
    (blocks : next.relations.blocks = other.relations.blocks)
    (localAccounts : next.localAccounts = other.localAccounts)
    (localBlocks : next.localBlocks = other.localBlocks) :
    readStatusActivity server next activity actor =
      readStatusActivity server other activity actor := by
  unfold readStatusActivity acceptedLocalFollowersOfRemoteActor localRemoteAccountsAreBlocked
  rw [following, blocks, localAccounts, localBlocks]

private theorem Delivery.Valid.fresh (valid : delivery.Valid server db.toDb actor noteId)
    (unseen : ∀ marker ∈ db.markers, marker.activityId ≠ delivery.id) :
    ∃ kind, Fresh db.toDb delivery.activity kind delivery.id := by
  have typed : ∃ kind, (inboundActivityType delivery.activity).bind
      InboundActivityType.persisted = some kind := by
    obtain ⟨inbound, _, read⟩ := bind_ok valid.read
    obtain ⟨_, ensured, _⟩ := bind_ok read
    have same := ensure_ok ensured
    unfold sameStatusType at same
    split at same
    next created _ =>
      rw [created]
      exact ⟨_, rfl⟩
    next updated _ =>
      rw [updated]
      exact ⟨_, rfl⟩
    next => cases same
  have object : ∃ members, delivery.activity.asObject? = some members := by
    have identified := valid.identified
    cases shape : delivery.activity with
    | object members => exact ⟨members, rfl⟩
    | _ =>
        rw [shape] at identified
        cases identified
  obtain ⟨kind, typed⟩ := typed
  exact ⟨kind, valid.identified, typed, object, unseen⟩

theorem processRemoteStatusActivity_cached {edits : List Edit}
    (valid : delivery.Valid server db.toDb actor noteId)
    (unseen : ∀ marker ∈ db.markers, marker.activityId ≠ delivery.id)
    (fresh : FreshIds db generated) (quotes : Quotes db noteId edits)
    (member : delivery.edit ∈ edits) (known : ∃ other ∈ db.remoteActors, other.id = actor.id)
    (cached : Cached server db noteId actor register poll) :
    ∃ next change, processRemoteStatusActivity server db generated delivery.id delivery.activity
        actor = .ok (next, change) ∧
      Cached server next noteId actor (Register.write (Replaces server) register delivery.edit)
        (delivery.edit.pollContent.or poll) ∧
      (∃ marker, Frame { db with markers := db.markers ++ [marker] } next ∧
        marker.activityId = delivery.id) ∧
      Quotes next noteId edits ∧ next.remoteActors = db.remoteActors := by
  obtain ⟨kind, freshActivity⟩ := valid.fresh unseen
  obtain ⟨marker, isNew, named, _⟩ := freshActivity.isNew server.toContext actor.id
    generated.poll.now
  have registered : Cached server { db with markers := db.markers ++ [marker] } noteId actor
      register poll := cached.of_tables rfl rfl rfl ⟨rfl, rfl, rfl⟩
  have freshNext : FreshIds { db with markers := db.markers ++ [marker] } generated :=
    ⟨fresh.status, fresh.pollStatus, fresh.poll, fresh.job, fresh.quote, fresh.authorization⟩
  have quotesNext : Quotes { db with markers := db.markers ++ [marker] } noteId edits :=
    quotes.of_same (.of_rows rfl rfl rfl) known
  obtain ⟨resolved, resolving, names⟩ := resolveInboundQuote_names quotes.authors
  obtain ⟨next, change, applied, cachedNext, frame, quoted, actors⟩ :=
    applyEdit_cached valid.about valid.storable freshNext quotesNext member known
      (fun quote given => (names quote given).2) registered
  refine ⟨next, change, ?_, cachedNext, ⟨marker, frame, named⟩, quoted, actors⟩
  unfold processRemoteStatusActivity
  rw [valid.origin, Bool.not_true, if_neg Bool.false_ne_true, valid.read, ok_bind, resolving,
    ok_bind, isNew]
  exact applied

inductive Runs (server : Server) (actor : RemoteActor) : Db → List Delivery → Db → Prop
  | done (db : Db) : Runs server actor db [] db
  | deliver {db next final : Db} {generated : Generated} {change : RemoteStatusChange}
      {delivery : Delivery} {rest : List Delivery} (fresh : FreshIds db generated)
      (processed : processRemoteStatusActivity server db generated delivery.id delivery.activity
        actor = .ok (next, change))
      (continued : Runs server actor next rest final) :
      Runs server actor db (delivery :: rest) final

private theorem exists_unused {Value : Type} [Infinite Value] [DecidableEq Value]
    (used : List Value) : ∃ value, value ∉ used := by
  obtain ⟨value, unused⟩ := Infinite.exists_notMem_finset used.toFinset
  exact ⟨value, fun member => unused (List.mem_toFinset.mpr member)⟩

private def pollStatusId : Poll.PollStatus → Nat
  | .remoteStatus id => id.value
  | .localStatus id => id.value

private theorem exists_fresh (db : Db) : ∃ generated, FreshIds db generated := by
  obtain ⟨status, unusedStatus⟩ := exists_unused
    (db.remoteStatuses.map (fun row => row.id.value) ++
      db.polls.map fun row => pollStatusId row.status)
  obtain ⟨pollId, unusedPoll⟩ := exists_unused (db.polls.map Poll.PollRow.id)
  obtain ⟨job, unusedJob⟩ := exists_unused (db.jobs.map fun row => row.id.value)
  obtain ⟨quote, unusedQuote⟩ := exists_unused (db.relations.quotes.map StatusQuote.id)
  obtain ⟨url, unusedUrl⟩ := exists_unused (db.relations.quotes.filterMap StatusQuote.authorizationId)
  simp only [List.mem_append, List.mem_map, List.mem_filterMap, not_or, not_exists, not_and]
    at unusedStatus unusedPoll unusedJob unusedQuote unusedUrl
  refine ⟨⟨⟨status⟩, ⟨0, pollId, ⟨job⟩, fun value => value⟩, ⟨quote, url, 0, fun _ => none⟩⟩,
    ?_, ?_, unusedPoll, ?_, unusedQuote, unusedUrl⟩
  · intro row member same
    exact unusedStatus.1 row member (by rw [same])
  · intro row member same
    exact unusedStatus.2 row member (by rw [same, pollStatusId])
  · intro row member same
    exact unusedJob row member (by rw [same])

def pollAfter (poll : Option Poll.PollContent) (edits : List Edit) : Option Poll.PollContent :=
  edits.foldl (fun poll edit => edit.pollContent.or poll) poll

/-- A set of valid activities of one actor for one Note that are not yet seen. They
quote the same object, if any: the target of a quote cannot change. -/
structure Deliverable (server : Server) (db : Db) (actor : RemoteActor) (noteId : String)
    (deliveries : List Delivery) : Prop where
  valid : ∀ delivery ∈ deliveries, delivery.Valid server db.toDb actor noteId
  unseen : ∀ delivery ∈ deliveries, ∀ marker ∈ db.markers, marker.activityId ≠ delivery.id
  distinct : (deliveries.map Delivery.id).Nodup
  known : ∃ other ∈ db.remoteActors, other.id = actor.id
  quotes : Quotes db noteId (deliveries.map Delivery.edit)

private theorem Deliverable.next {next : Db} {rest : List Delivery}
    {marker : ProcessedInboxActivity}
    (deliverable : Deliverable server db actor noteId (delivery :: rest))
    (frame : Frame { db with markers := db.markers ++ [marker] } next)
    (named : marker.activityId = delivery.id)
    (quotes : Quotes next noteId ((delivery :: rest).map Delivery.edit))
    (actors : next.remoteActors = db.remoteActors) : Deliverable server next actor noteId rest := by
  have distinct := deliverable.distinct
  rw [List.map_cons, List.nodup_cons] at distinct
  refine ⟨?_, ?_, distinct.2, actors ▸ deliverable.known,
    quotes.of_subset (List.subset_cons_self _ _)⟩
  · intro other member
    have valid := deliverable.valid other (List.mem_cons_of_mem _ member)
    refine ⟨valid.identified, valid.origin, ?_, valid.about, valid.storable⟩
    rw [readStatusActivity_frame frame.following frame.blocks frame.localAccounts
      frame.localBlocks]
    exact valid.read
  · intro other member stored storedMember
    rw [frame.markers] at storedMember
    rcases List.mem_append.mp storedMember with old | new
    · exact deliverable.unseen other (List.mem_cons_of_mem _ member) stored old
    · intro same
      rw [List.mem_singleton.mp new, named] at same
      exact distinct.1 (List.mem_map.mpr ⟨other, member, same.symm⟩)

theorem Deliverable.runs {order : List Delivery}
    (deliverable : Deliverable server db actor noteId order)
    (cached : Cached server db noteId actor register poll) :
    (∃ final, Runs server actor db order final) ∧
      ∀ final, Runs server actor db order final → Cached server final noteId actor
        (Register.writes (Replaces server) register (order.map Delivery.edit))
        (pollAfter poll (order.map Delivery.edit)) := by
  induction order generalizing db register poll with
  | nil =>
      refine ⟨⟨db, .done db⟩, ?_⟩
      intro final ran
      cases ran
      exact cached
  | cons delivery rest ih =>
      have valid := deliverable.valid delivery List.mem_cons_self
      have unseen := deliverable.unseen delivery List.mem_cons_self
      constructor
      · obtain ⟨generated, fresh⟩ := exists_fresh db
        obtain ⟨next, change, processed, cachedNext, ⟨marker, frame, named⟩, quotes, actors⟩ :=
          processRemoteStatusActivity_cached valid unseen fresh deliverable.quotes
            List.mem_cons_self deliverable.known cached
        obtain ⟨⟨final, continued⟩, _⟩ :=
          ih (deliverable.next frame named quotes actors) cachedNext
        exact ⟨final, .deliver fresh processed continued⟩
      · intro final ran
        cases ran with
        | deliver fresh processed continued =>
            obtain ⟨next, change, result, cachedNext, ⟨marker, frame, named⟩, quotes, actors⟩ :=
              processRemoteStatusActivity_cached valid unseen fresh deliverable.quotes
                List.mem_cons_self deliverable.known cached
            rw [result] at processed
            cases processed
            exact (ih (deliverable.next frame named quotes actors) cachedNext).2 final continued

/-!
## Convergence
-/

private theorem get?_published (note : InboundNote) :
    note.toValue.get? "published" = some (.string note.published) := by
  simp [InboundNote.toValue, Json.get?]

private theorem get?_updated (note : InboundNote) :
    note.toValue.get? "updated" = some (nullable .string note.updated) := by
  cases stored : note.replies with
  | none => simp [InboundNote.toValue, Json.get?, stored]
  | some replies => simp [InboundNote.toValue, Json.get?, stored]

theorem nullable_injective {Value : Type} {toValue : Value → Json}
    (injective : Function.Injective toValue) (present : ∀ value, toValue value ≠ .null) :
    Function.Injective (nullable toValue) := by
  intro left right same
  cases left with
  | none =>
      cases right with
      | none => rfl
      | some value => exact absurd same.symm (present value)
  | some value =>
      cases right with
      | none => exact absurd same (present value)
      | some other => exact congrArg some (injective same)

theorem string_injective : Function.Injective Json.string :=
  fun _ _ same => Json.string.inj same

private theorem Delivery.Valid.updatedAt {lookup : Inbox.Db}
    (valid : delivery.Valid server lookup actor noteId) :
    ∃ publishedAt, server.parseTimestamp delivery.edit.note.published = some publishedAt ∧
      (match delivery.edit.note.updated with
        | none => some publishedAt
        | some updated => server.parseTimestamp updated) = some delivery.edit.updatedAt := by
  obtain ⟨inbound, _, read⟩ := bind_ok valid.read
  obtain ⟨_, _, read⟩ := bind_ok read
  dsimp only at read
  obtain ⟨_, _, read⟩ := bind_ok read
  obtain ⟨_, _, read⟩ := bind_ok read
  obtain ⟨_, _, read⟩ := bind_ok read
  obtain ⟨publishedAt, published, read⟩ := bind_ok read
  obtain ⟨updatedAt, updated, read⟩ := bind_ok read
  rw [← Except.ok.inj read]
  exact ⟨publishedAt, okOr_ok published, okOr_ok updated⟩

private theorem updatedAt_of_object {other : Delivery} {lookup : Inbox.Db}
    (valid : delivery.Valid server lookup actor noteId)
    (otherValid : other.Valid server lookup actor noteId)
    (same : delivery.edit.note.toValue = other.edit.note.toValue) :
    delivery.edit.updatedAt = other.edit.updatedAt := by
  have published : delivery.edit.note.published = other.edit.note.published := by
    have member := get?_published delivery.edit.note
    rw [same, get?_published] at member
    exact (Json.string.inj (Option.some.inj member)).symm
  have updated : delivery.edit.note.updated = other.edit.note.updated := by
    have member := get?_updated delivery.edit.note
    rw [same, get?_updated] at member
    exact (nullable_injective string_injective (fun _ => Json.noConfusion)
      (Option.some.inj member)).symm
  obtain ⟨publishedAt, parsed, time⟩ := valid.updatedAt
  obtain ⟨otherPublishedAt, otherParsed, otherTime⟩ := otherValid.updatedAt
  rw [published, otherParsed] at parsed
  cases parsed
  rw [updated, otherTime] at time
  exact (Option.some.inj time).symm

private theorem Cached.projection {held : Edit}
    (cached : Cached server db noteId actor (some held) poll) :
    db.projection noteId = some { held.projection server with poll := poll } := by
  obtain ⟨row, stored, holds, content⟩ := cached
  unfold Db.projection Edit.projection
  rw [stored, Option.map_some, holds.content, holds.visibility, holds.object, holds.inReplyTo,
    holds.media, holds.tags, content]

private theorem pollAfter_agree {target start : Option Poll.PollContent} {edits : List Edit}
    (agree : ∀ edit ∈ edits, edit.pollContent = none ∨ edit.pollContent = target)
    (settled : start = target) : pollAfter start edits = target := by
  induction edits generalizing start with
  | nil => exact settled
  | cons edit rest ih =>
      refine ih (fun other member => agree other (List.mem_cons_of_mem _ member)) ?_
      change edit.pollContent.or start = target
      rcases agree edit List.mem_cons_self with none | same
      · rw [none, Option.none_or, settled]
      · rw [same, settled, Option.or_self]

private theorem pollAfter_latest {latest : Edit} {edits : List Edit} (member : latest ∈ edits)
    (agree : ∀ edit ∈ edits, edit.pollContent = none ∨ edit.pollContent = latest.pollContent) :
    pollAfter none edits = latest.pollContent := by
  cases carried : latest.pollContent with
  | none =>
      rw [carried] at agree
      exact pollAfter_agree agree rfl
  | some content =>
      rw [carried] at agree
      obtain ⟨before, after, rfl⟩ := List.append_of_mem member
      have split : pollAfter none (before ++ latest :: after) =
          pollAfter (latest.pollContent.or (pollAfter none before)) after := by
        unfold pollAfter
        rw [List.foldl_append, List.foldl_cons]
      rw [split, carried, Option.some_or]
      exact pollAfter_agree (fun edit inside => agree edit (by simp [inside])) rfl

/-- The view of every other edit differs from that of the latest, their
timestamps are told apart by the timestamp column, and they carry no poll or the
same. -/
def Separated (server : Server) (latest other : Edit) : Prop :=
  other.view ≠ latest.view ∧
    server.readBack other.updatedAt < latest.updatedAt ∧
    other.updatedAt ≤ server.readBack latest.updatedAt ∧
    (other.pollContent = none ∨ other.pollContent = latest.pollContent)

private def held (server : Server) (order : List Delivery) : Option Delivery :=
  Register.writes (fun old new => Replaces server old.edit new.edit) none order

section

variable {start final : Db} {deliveries order : List Delivery} {latest : Delivery}

private theorem Deliverable.perm (deliverable : Deliverable server db actor noteId deliveries)
    (rearranged : order.Perm deliveries) : Deliverable server db actor noteId order where
  valid delivery member := deliverable.valid delivery (rearranged.mem_iff.mp member)
  unseen delivery member := deliverable.unseen delivery (rearranged.mem_iff.mp member)
  distinct := (rearranged.map Delivery.id).nodup_iff.mpr deliverable.distinct
  known := deliverable.known
  quotes := deliverable.quotes.of_subset (rearranged.map Delivery.edit).subset

private theorem Deliverable.held (uncached : findRow start noteId = none)
    (deliverable : Deliverable server start actor noteId order)
    (ran : Runs server actor start order final) :
    Cached server final noteId actor ((Status.held server order).map Delivery.edit)
      (pollAfter none (order.map Delivery.edit)) := by
  have empty : Cached server start noteId actor none none := ⟨uncached, rfl⟩
  have cached := (deliverable.runs empty).2 final ran
  have image := Register.writes_map (Replaces server) Delivery.edit none order
  rw [Option.map_none] at image
  rw [image] at cached
  exact cached

private theorem held_of_projection (uncached : findRow start noteId = none)
    (deliverable : Deliverable server start actor noteId order)
    (times : (order.map fun delivery => delivery.edit.updatedAt).Nodup) (member : latest ∈ order)
    (ran : Runs server actor start order final)
    (shown : final.projection noteId = some (latest.edit.projection server)) :
    Status.held server order = some latest ∧
      pollAfter none (order.map Delivery.edit) = latest.edit.pollContent := by
  have cached := deliverable.held uncached ran
  cases stored : Status.held server order with
  | none =>
      rw [stored, Option.map_none] at cached
      unfold Db.projection at shown
      rw [cached.1] at shown
      cases shown
  | some winner =>
      rw [stored, Option.map_some] at cached
      have projections := Option.some.inj (cached.projection.symm.trans shown)
      have object := congrArg Projection.object projections
      have poll := congrArg Projection.poll projections
      have arrived : winner ∈ order := by
        rcases Register.writes_origin stored with before | found
        · cases before
        · exact found
      have sameTime := updatedAt_of_object (deliverable.valid winner arrived)
        (deliverable.valid latest member) object
      exact ⟨congrArg some (List.inj_on_of_nodup_map times arrived member sameTime), poll⟩

/-- Edits of an uncached Note that arrive in any order are all stored. They
leave one of them, such as the one with the greatest timestamp, in every order
exactly when the others are separated from it. -/
theorem remote_edits_converge_iff (uncached : findRow start noteId = none)
    (deliverable : Deliverable server start actor noteId deliveries)
    (times : (deliveries.map fun delivery => delivery.edit.updatedAt).Nodup)
    (member : latest ∈ deliveries) :
    (∀ order, order.Perm deliveries → ∃ final, Runs server actor start order final) ∧
    ((∀ order, order.Perm deliveries → ∀ final, Runs server actor start order final →
        final.projection noteId = some (latest.edit.projection server)) ↔
      ∀ other ∈ deliveries, other ≠ latest → Separated server latest.edit other.edit) := by
  have empty : Cached server start noteId actor none none := ⟨uncached, rfl⟩
  have irreflexive : ¬ Replaces server latest.edit latest.edit := fun newer => newer.2 rfl
  have distinct : deliveries.Nodup := List.Nodup.of_map _ times
  refine ⟨fun order rearranged => ((deliverable.perm rearranged).runs empty).1, ?_, ?_⟩
  · intro always
    have settled : ∀ order, order.Perm deliveries → held server order = some latest ∧
        pollAfter none (order.map Delivery.edit) = latest.edit.pollContent := by
      intro order rearranged
      obtain ⟨final, ran⟩ := ((deliverable.perm rearranged).runs empty).1
      exact held_of_projection uncached (deliverable.perm rearranged)
        ((rearranged.map _).nodup_iff.mpr times) (rearranged.mem_iff.mpr member) ran
        (always order rearranged final ran)
    intro other otherMember different
    have dominant := (Register.writes_dominant_iff member distinct irreflexive).mp
      (fun order rearranged => (settled order rearranged).1) other otherMember different
    refine ⟨dominant.1.2, dominant.1.1, ?_, ?_⟩
    · by_contra newer
      exact dominant.2 ⟨not_le.mp newer, dominant.1.2.symm⟩
    · -- the poll of an edit that arrives last is the one that stays
      obtain ⟨before, after, rfl⟩ := List.append_of_mem otherMember
      have last : ((before ++ after) ++ [other]).Perm (before ++ other :: after) := by
        rw [List.append_assoc]
        exact List.Perm.append_left before List.perm_append_comm
      have stays := (settled _ last).2
      unfold pollAfter at stays
      rw [List.map_append, List.foldl_append] at stays
      change other.edit.pollContent.or _ = _ at stays
      cases carried : other.edit.pollContent with
      | none => exact .inl rfl
      | some content =>
          rw [carried, Option.some_or] at stays
          exact .inr stays
  · intro separated order rearranged final ran
    have cached := (deliverable.perm rearranged).held uncached ran
    have winner : held server order = some latest := by
      apply Register.writes_dominant (rearranged.mem_iff.mpr member) ?_ irreflexive
      intro other otherMember different
      obtain ⟨view, older, below, _⟩ := separated other (rearranged.mem_iff.mp otherMember) different
      exact ⟨⟨older, view⟩, fun newer => absurd newer.1 (not_lt.mpr below)⟩
    have poll : pollAfter none (order.map Delivery.edit) = latest.edit.pollContent := by
      apply pollAfter_latest (List.mem_map.mpr ⟨latest, rearranged.mem_iff.mpr member, rfl⟩)
      intro edit inside
      obtain ⟨other, otherMember, rfl⟩ := List.mem_map.mp inside
      by_cases same : other = latest
      · rw [same]
        exact .inr rfl
      · exact (separated other (rearranged.mem_iff.mp otherMember) same).2.2.2
    rw [winner, Option.map_some, poll] at cached
    exact cached.projection

end

namespace Sample

def noteUri : String := "https://remote.example/notes/1"

def publishedText : String := "2026-07-01T00:00:00Z"

def updatedText : String := "2026-07-01T00:05:00Z"

/-- A public Question of Alice with two options and their counts. -/
def question (text : String) (edited : Option String) (tea coffee : UInt64) : InboundNote where
  id := noteUri
  type := .question
  attributedTo := Inbox.Sample.alice.activitypubId
  content := text
  summary := none
  sensitive := false
  published := publishedText
  updated := edited
  sentTo := [publicAudience]
  cc := []
  inReplyTo := none
  replies := none
  tag := []
  attachment := []
  interactionPolicy := none
  quote := none
  quoteAuthorization := none
  poll := ⟨[⟨"Tea", tea⟩, ⟨"Coffee", coffee⟩], [], none, none, none⟩

def questionJson (text : String) (edited : Option String) (tea coffee : UInt64) : Json := .object
  ([("id", .string noteUri), ("type", .string "Question"),
    ("attributedTo", .string Inbox.Sample.alice.activitypubId), ("content", .string text),
    ("published", .string publishedText), ("to", strings [publicAudience]),
    ("oneOf", .array [InboundPollOption.toValue ⟨"Tea", tea⟩,
      InboundPollOption.toValue ⟨"Coffee", coffee⟩])] ++
    (edited.map fun time => ("updated", Json.string time)).toList)

structure Said where
  update : Bool
  text : String
  tea : UInt64
  coffee : UInt64

def Said.edited (said : Said) : Option String := if said.update then some updatedText else none

def Said.id (said : Said) : String :=
  if said.update then "https://remote.example/update/1" else "https://remote.example/create/1"

def Said.json (said : Said) : Json := .object
  [("id", .string said.id), ("type", .string (if said.update then "Update" else "Create")),
    ("actor", .string Inbox.Sample.alice.activitypubId),
    ("object", questionJson said.text said.edited said.tea said.coffee)]

def Said.parsed (said : Said) : InboundStatusActivity where
  type := if said.update then .update else .create
  actor := Inbox.Sample.alice.activitypubId
  object := question said.text said.edited said.tea said.coffee

def created : Said := ⟨false, "<p>Tea or coffee?</p>", 1, 0⟩

/-- Only the counts have moved on. -/
def counted : Said := ⟨true, "<p>Tea or coffee?</p>", 5, 3⟩

def reworded : Said := ⟨true, "<p>Coffee or tea?</p>", 1, 0⟩

def receiver : Server :=
  { Inbox.Sample.server with
    statusActivity := fun activity =>
      ([created, counted, reworded].find? fun said => said.json == activity).map Said.parsed
    inboundNote := fun note =>
      ([created, counted, reworded].find? fun said => said.json.get? "object" == some note).map
        fun said => said.parsed.object
    parseTimestamp := fun text =>
      if text = publishedText then some 1782864000000000000
      else if text = updatedText then some 1782864300000000000
      else none
    timestamptz := fun time => time.tdiv 1000
    toLowercase := fun text => String.ofList (Text.toAsciiLowercase text.toList)
    isAlphanumeric := Char.isAlphanum }

def start : Db :=
  { Inbox.Sample.start with
    remoteActors := [Inbox.Sample.alice]
    media := [], tags := [], recipients := [], polls := [], options := [], votes := []
    pollNotifications := [], jobs := [] }

def Said.delivered (said : Said) : Delivery where
  id := said.id
  activity := said.json
  edit :=
    { note := said.parsed.object
      poll := some ⟨[("Tea", said.tea.toNat), ("Coffee", said.coffee.toNat)], false, none, none,
        none⟩
      audience := .everyone
      publishedAt := 1782864000000000000
      updatedAt := if said.update then 1782864300000000000 else 1782864000000000000 }

theorem Said.valid {said : Said} (known : said = created ∨ said = counted ∨ said = reworded) :
    said.delivered.Valid receiver start.toDb Inbox.Sample.alice noteUri := by
  have storable : ∀ poll ∈ said.delivered.edit.poll, poll.Storable := by
    intro poll carried
    cases carried
    refine ⟨le_refl 2, show 2 ≤ 500 by decide, ?_, fun _ counted => by cases counted⟩
    intro entry member
    simp only [List.mem_cons, List.not_mem_nil, or_false] at member
    rcases known with rfl | rfl | rfl <;> rcases member with rfl | rfl <;> decide
  rcases known with rfl | rfl | rfl
  · exact ⟨rfl, by decide +kernel, by decide +kernel, rfl, storable⟩
  · exact ⟨rfl, by decide +kernel, by decide +kernel, rfl, storable⟩
  · exact ⟨rfl, by decide +kernel, by decide +kernel, rfl, storable⟩

theorem deliverable_pair {said : Said} (known : said = counted ∨ said = reworded) :
    Deliverable receiver start Inbox.Sample.alice noteUri
      [created.delivered, said.delivered] := by
  refine ⟨?_, ?_, ?_, ⟨Inbox.Sample.alice, List.mem_singleton_self _, rfl⟩, ?_⟩
  · intro delivered member
    simp only [List.mem_cons, List.not_mem_nil, or_false] at member
    rcases member with rfl | rfl
    · exact Said.valid (.inl rfl)
    · exact Said.valid (.inr known)
  · intro delivered _ marker stored
    cases stored
  · rcases known with rfl | rfl <;> decide
  · -- nothing is quoted, and no quote is stored
    refine ⟨⟨Table.UniqueOn.nil _, Table.UniqueOn.nil _⟩, ?_, ?_, ?_, ?_, ?_⟩
    · intro quote stored
      cases stored
    · intro status cached
      cases cached
    · intro one oneMember two twoMember
      simp only [List.map_cons, List.map_nil, List.mem_cons, List.not_mem_nil, or_false]
        at oneMember twoMember
      rcases oneMember with rfl | rfl <;> rcases twoMember with rfl | rfl <;> rfl
    · intro id _ quote stored
      cases stored
    · intro quote stored
      cases stored

end Sample

open Sample in
theorem remote_edits_converge_reworded :
    created.delivered.edit.updatedAt < reworded.delivered.edit.updatedAt ∧
    ∀ order, order.Perm [created.delivered, reworded.delivered] → ∀ final,
      Runs receiver Inbox.Sample.alice start order final →
        final.projection noteUri = some (reworded.delivered.edit.projection receiver) := by
  refine ⟨by decide, ?_⟩
  have uncached : findRow start noteUri = none := rfl
  refine (remote_edits_converge_iff uncached (deliverable_pair (.inr rfl)) (by decide)
    (by simp)).2.mpr ?_
  intro other member different
  simp only [List.mem_cons, List.not_mem_nil, or_false] at member
  rcases member with rfl | rfl
  · exact ⟨by decide, by decide, by decide, .inr rfl⟩
  · exact absurd rfl different

open Sample in
/-- Two edits that differ in their counts only: in one order the stored object
stays behind, in the other the poll goes back to the older counts. -/
theorem remote_edits_diverge :
    Deliverable receiver start Inbox.Sample.alice noteUri
      [created.delivered, counted.delivered] ∧
    created.delivered.edit.updatedAt < counted.delivered.edit.updatedAt ∧
    (∃ final, Runs receiver Inbox.Sample.alice start [created.delivered, counted.delivered] final ∧
      (final.projection noteUri).map Projection.object =
        some created.delivered.edit.note.toValue) ∧
    (∃ final, Runs receiver Inbox.Sample.alice start [counted.delivered, created.delivered] final ∧
      ((final.projection noteUri).bind Projection.poll).map Poll.PollContent.options =
        some [("Tea", 1), ("Coffee", 0)]) ∧
    (counted.delivered.edit.projection receiver).object ≠ created.delivered.edit.note.toValue ∧
    ((counted.delivered.edit.projection receiver).poll).map Poll.PollContent.options =
      some [("Tea", 5), ("Coffee", 3)] := by
  have deliverable := deliverable_pair (.inl rfl)
  have empty : Cached receiver start noteUri Inbox.Sample.alice none none := ⟨rfl, rfl⟩
  refine ⟨deliverable, by decide, ?_, ?_, by decide, by decide⟩
  · obtain ⟨⟨final, ran⟩, cached⟩ := deliverable.runs empty
    refine ⟨final, ran, ?_⟩
    have skipped : Register.writes (Replaces receiver) none
        ([created.delivered, counted.delivered].map Delivery.edit) =
          some created.delivered.edit := by decide
    have stored := cached final ran
    rw [skipped] at stored
    rw [stored.projection]
    rfl
  · obtain ⟨⟨final, ran⟩, cached⟩ := (deliverable.perm (List.Perm.swap _ _ [])).runs empty
    refine ⟨final, ran, ?_⟩
    have kept : Register.writes (Replaces receiver) none
        ([counted.delivered, created.delivered].map Delivery.edit) =
          some counted.delivered.edit := by decide
    have stored := cached final ran
    rw [kept] at stored
    rw [stored.projection]
    decide

end Roosty.Federation.Status
