import Mathlib.Data.List.Chain
import Roosty.Federation.EditHistory
import Roosty.Federation.RemoteStatusProperties

/-!
# The history tells every version

Whatever activities about a Note arrive, and in whatever order, its history is empty as long
as one version was stored, and holds every stored version otherwise.
-/

set_option autoImplicit false

namespace Roosty.Federation.Status.History

open Library Inbox

/-!
## Runs
-/

/-- An activity that arrives, with the identifiers that its transaction generates. -/
structure Delivery where
  edit : Edit
  generated : Generated
  ids : EditIds

structure Stored where
  row : RemoteStatus
  media : List NewRemoteMediaAttachment
deriving DecidableEq

def stored (db : HistoryDb) (noteId : String) : Option Stored :=
  (findRow db.cache noteId).map fun row =>
    ⟨row, (currentMedia db.cache row.id).map RemoteMediaAttachment.declared⟩

/-- The stored status of a Note is noted down when it is another one. -/
def observe (noteId : String) (seen : List Stored) (db : HistoryDb) : List Stored :=
  match stored db noteId with
  | none => seen
  | some version => if seen.getLast? = some version then seen else seen ++ [version]

section

variable (server : Server) (actor : RemoteActor) (noteId : String)

/-- One transaction, which is rolled back when it fails. -/
def deliver (db : HistoryDb) (delivery : Delivery) : HistoryDb :=
  match processRemoteStatusUpsert server db delivery.generated delivery.ids
      (delivery.edit.status server db.cache.toDb actor) delivery.edit.note.attachments with
  | .ok (next, _) => next
  | .error _ => db

/-- The tables after a run, and the statuses that were stored one after the other. -/
def run (db : HistoryDb) (seen : List Stored) : List Delivery → HistoryDb × List Stored
  | [] => (db, seen)
  | delivery :: deliveries =>
      let next := deliver server actor db delivery
      run next (observe noteId seen next) deliveries

end

/-!
## Histories
-/

def Stored.revision (version : Stored) : Revision where
  content := version.row.content
  spoilerText := remoteObjectSpoilerText version.row.object
  sensitive := remoteObjectSensitive version.row.object
  object := version.row.object
  pollOptions := remoteObjectPollOptions version.row.object
  createdAt := version.row.updatedAt
  media := version.media

/-- A history of the statuses that were stored one after the other. -/
structure EditHistory (edits : List Revision) (seen : List Stored) (current : Stored) : Prop where
  unchanged : edits = [] ↔ seen = [current]
  first : edits ≠ [] → edits.head? = seen.head?.map Stored.revision
  last : edits ≠ [] → edits.getLast? = some current.revision
  increasing : edits.Pairwise fun earlier later => earlier.createdAt < later.createdAt
  consecutive : edits.IsChain fun earlier later =>
    earlier.object ≠ later.object ∨ earlier.media ≠ later.media

structure Recorded (db : HistoryDb) (noteId : String) (seen : List Stored) : Prop where
  current : stored db noteId = seen.getLast?
  history : ∀ current, stored db noteId = some current →
    EditHistory (remoteStatusEdits db current.row.id) seen current

structure HistoryDb.Keyed (db : HistoryDb) : Prop where
  edits : ∀ edit ∈ db.edits, ∃ row ∈ db.cache.remoteStatuses, row.id = edit.remoteStatusId
  media : ∀ item ∈ db.editMedia, ∃ edit ∈ db.edits, edit.id = item.remoteStatusEditId

/-- A timestamp column rounds to microseconds. -/
structure Rounds (server : Server) : Prop where
  monotone : ∀ earlier later, earlier ≤ later → server.timestamptz earlier ≤ server.timestamptz later
  exact : ∀ micros, server.timestamptz (micros * 1000) = micros

/-!
## Snapshots
-/

section

variable {db next : HistoryDb} {editId : Nat} {status : RemoteStatus} {createdAt : Int}

/-- The revisions of a status in the order in which they were stored. -/
def history (db : HistoryDb) (statusId : StatusId) : List Revision :=
  (db.edits.filter fun edit => edit.remoteStatusId == statusId).map (revision db)

def rowVersion (cache : Db) (row : RemoteStatus) : Stored :=
  ⟨row, (currentMedia cache row.id).map RemoteMediaAttachment.declared⟩

theorem stored_eq (db : HistoryDb) (noteId : String) :
    stored db noteId = (findRow db.cache noteId).map (rowVersion db.cache) := rfl

theorem revisionMedia_withSnapshot_other {other : Nat} (apart : other ≠ editId) :
    revisionMedia (withSnapshot db editId status createdAt) other = revisionMedia db other := by
  have none : ((currentMedia db.cache status.id).mapIdx fun order item =>
      (⟨editId, order, item.remoteUrl, item.contentType, item.description⟩ :
        RemoteStatusEditMedia)).filter (fun item => item.remoteStatusEditId == other) = [] := by
    refine List.filter_eq_nil_iff.mpr fun item member => ?_
    obtain ⟨index, bound, rfl⟩ := List.mem_mapIdx.mp member
    simpa using apart.symm
  rw [revisionMedia, revisionMedia, withSnapshot, List.filter_append, none, List.append_nil]

theorem revisionMedia_withSnapshot (fresh : ∀ item ∈ db.editMedia, item.remoteStatusEditId ≠ editId) :
    revisionMedia (withSnapshot db editId status createdAt) editId =
      (currentMedia db.cache status.id).map RemoteMediaAttachment.declared := by
  have old : db.editMedia.filter (fun item => item.remoteStatusEditId == editId) = [] :=
    List.filter_eq_nil_iff.mpr fun item member => by simpa using fresh item member
  let media := (currentMedia db.cache status.id).mapIdx fun order item =>
    (⟨editId, order, item.remoteUrl, item.contentType, item.description⟩ : RemoteStatusEditMedia)
  have new : media.filter (fun item => item.remoteStatusEditId == editId) = media := by
    refine List.filter_eq_self.mpr fun item member => ?_
    obtain ⟨index, bound, rfl⟩ := List.mem_mapIdx.mp member
    exact beq_self_eq_true editId
  have sorted : media.Pairwise fun left right => left.statusOrder ≤ right.statusOrder := by
    rw [List.pairwise_iff_getElem]
    intro first second _ _ before
    rw [List.getElem_mapIdx, List.getElem_mapIdx]
    exact before.le
  rw [revisionMedia, withSnapshot, List.filter_append, old, List.nil_append, new,
    sorted.insertionSort_eq]
  apply List.ext_getElem
  · simp [media]
  · intro index _ _
    simp [media, RemoteMediaAttachment.declared]

theorem remoteStatusSnapshot_ok (keyed : db.Keyed)
    (success : remoteStatusSnapshot db editId status createdAt = .ok next)
    (listed : ∃ row ∈ db.cache.remoteStatuses, row.id = status.id) :
    next.cache = db.cache ∧ next.Keyed ∧
      (∀ revision ∈ history db status.id, revision.createdAt ≠ createdAt) ∧
      history next status.id = history db status.id ++
        [{ (rowVersion db.cache status).revision with createdAt := createdAt }] := by
  unfold remoteStatusSnapshot at success
  obtain ⟨unused, success⟩ := guard_ok success
  obtain ⟨apart, success⟩ := guard_ok success
  cases success
  have freshEdit : ∀ edit ∈ db.edits, edit.id ≠ editId := by
    intro edit member same
    exact unused (List.any_eq_true.mpr ⟨edit, member, beq_iff_eq.mpr same⟩)
  have freshMedia : ∀ item ∈ db.editMedia, item.remoteStatusEditId ≠ editId := by
    intro item member same
    obtain ⟨edit, stored, own⟩ := keyed.media item member
    exact freshEdit edit stored (own.trans same)
  refine ⟨rfl, ⟨?_, ?_⟩, ?_, ?_⟩
  · intro edit member
    rcases List.mem_append.mp member with old | new
    · exact keyed.edits edit old
    · rw [List.mem_singleton.mp new]
      exact listed
  · intro item member
    rcases List.mem_append.mp member with old | new
    · obtain ⟨edit, stored, own⟩ := keyed.media item old
      exact ⟨edit, List.mem_append_left _ stored, own⟩
    · obtain ⟨index, bound, rfl⟩ := List.mem_mapIdx.mp new
      exact ⟨_, List.mem_append_right _ (List.mem_singleton_self _), rfl⟩
  · intro revision member same
    obtain ⟨edit, inside, rfl⟩ := List.mem_map.mp member
    obtain ⟨stored, own⟩ := List.mem_filter.mp inside
    refine apart (List.any_eq_true.mpr ⟨edit, stored, ?_⟩)
    rw [own, Bool.true_and]
    exact beq_iff_eq.mpr same
  · have kept : ∀ edit ∈ db.edits, revision (withSnapshot db editId status createdAt) edit =
        revision db edit := by
      intro edit member
      rw [revision, revisionMedia_withSnapshot_other (freshEdit edit member)]
      rfl
    have media := @revisionMedia_withSnapshot db editId status createdAt freshMedia
    unfold history
    change ((db.edits ++ [_]).filter _).map _ = _
    rw [List.filter_append, List.map_append]
    refine congrArg₂ _ (List.map_congr_left fun edit member => ?_) ?_
    · exact kept edit (List.mem_filter.mp member).1
    · simp only [List.filter_cons, beq_self_eq_true, if_true, List.filter_nil, List.map_singleton,
        revision, media]
      rfl

end

/-!
## Objects of edits
-/

private theorem audienceValues_injective : Function.Injective InboundAudienceValues.toValue := by
  have lists : Function.Injective (List.map Json.string) :=
    List.map_injective_iff.mpr string_injective
  intro left right same
  cases left with
  | one value =>
      cases right with
      | one other => exact congrArg _ (string_injective same)
      | many others => cases same
      | missing => cases same
  | many values =>
      cases right with
      | one other => cases same
      | many others => exact congrArg _ (lists (Json.array.inj same))
      | missing => cases same
  | missing =>
      cases right with
      | one other => cases same
      | many others => cases same
      | missing => rfl

private theorem quotePolicy_injective : Function.Injective InboundQuotePolicy.toValue := by
  intro left right same
  unfold InboundQuotePolicy.toValue at same
  simp only [Json.object.injEq, List.cons.injEq, Prod.mk.injEq, true_and, and_true] at same
  cases left
  cases right
  rw [InboundQuotePolicy.mk.injEq]
  exact ⟨audienceValues_injective same.1, audienceValues_injective same.2⟩

private theorem get?_content (note : InboundNote) :
    note.toValue.get? "content" = some (.string note.content) := by
  simp [InboundNote.toValue, Json.get?]

private theorem get?_interactionPolicy (note : InboundNote) :
    note.toValue.get? "interactionPolicy" = some (nullable (fun policy =>
      .object [("canQuote", nullable InboundQuotePolicy.toValue policy)]) note.interactionPolicy) := by
  simp [InboundNote.toValue, Json.get?]

theorem view_eq {edit other : Edit} (object : edit.note.toValue = other.note.toValue)
    (attachments : edit.note.attachments = other.note.attachments) : edit.view = other.view := by
  have content : edit.note.content = other.note.content := by
    have member := get?_content edit.note
    rw [object, get?_content] at member
    exact (string_injective (Option.some.inj member)).symm
  have policy : edit.note.interactionPolicy = other.note.interactionPolicy := by
    have member := get?_interactionPolicy edit.note
    rw [object, get?_interactionPolicy] at member
    refine (nullable_injective ?_ (fun _ => Json.noConfusion) (Option.some.inj member)).symm
    intro left right same
    simp only [Json.object.injEq, List.cons.injEq, Prod.mk.injEq, true_and, and_true] at same
    exact nullable_injective quotePolicy_injective (fun _ => Json.noConfusion) same
  unfold Edit.view InboundNote.quoteAutomaticPolicy InboundNote.quoteManualPolicy
  rw [object, attachments, content, policy]

/-!
## One activity
-/

section

variable {server : Server} {actor : RemoteActor} {noteId : String} {edit : Edit}

structure Written (server : Server) (actor : RemoteActor) (cache next : Db) (noteId : String)
    (edit : Edit) (row : RemoteStatus) : Prop where
  found : findRow next noteId = some row
  read : (next.remoteStatuses.find? fun other => other.id == row.id) = some row
  holds : Holds server next actor row edit
  kept : ∀ status ∈ cache.remoteStatuses, ∃ other ∈ next.remoteStatuses, other.id = status.id
  identity : ∀ existing, findRow cache noteId = some existing → row.id = existing.id
  fresh : findRow cache noteId = none → ∀ other ∈ cache.remoteStatuses, other.id ≠ row.id

theorem storeRemoteStatus_written {cache next : Db} {generated : Generated} {row : RemoteStatus}
    {lookup : Inbox.Db} (about : edit.note.id = noteId)
    (success : storeRemoteStatus server cache generated (edit.status server lookup actor)
      edit.note.attachments = .ok (next, row)) : Written server actor cache next noteId edit row := by
  subst about
  obtain ⟨⟨upserted, persisted⟩, upsert, success⟩ := bind_ok success
  cases success
  have named : (edit.status server lookup actor).activitypubId = edit.note.id := rfl
  rcases upsertRemoteStatusOn_cases upsert with
    ⟨existing, found, author, rfl, rfl⟩ | ⟨absent, fresh, rfl, rfl⟩
  · rw [named] at found
    have listed : (cache.remoteStatuses.find? fun other => other.id == existing.id).isSome := by
      rw [List.find?_isSome]
      exact ⟨existing, List.mem_of_find?_eq_some found, beq_self_eq_true existing.id⟩
    obtain ⟨first, byId⟩ := Option.isSome_iff_exists.mp listed
    have chosen := List.find?_some byId
    refine ⟨find?_replaced found (beq_self_eq_true _) (beq_self_eq_true _),
      find?_replaced byId chosen (beq_self_eq_true _),
      holds_written _ lookup existing.id, ?_, ?_, ?_⟩
    · intro status member
      by_cases same : (status.id == existing.id) = true
      · exact ⟨_, Table.mem_updateWhere.mpr (.inr ⟨status, member, same, rfl⟩),
          (beq_iff_eq.mp same).symm⟩
      · exact ⟨status, Table.mem_updateWhere.mpr (.inl ⟨member, by simpa using same⟩), rfl⟩
    · intro other stored
      cases found.symm.trans stored
      rfl
    · intro absent
      cases found.symm.trans absent
  · rw [named] at absent
    refine ⟨?_, ?_, holds_written _ lookup generated.statusId, ?_, ?_, fun _ => fresh⟩
    · unfold findRow at absent ⊢
      change (_ ++ [_]).find? _ = _
      rw [List.find?_append, absent, Option.none_or, List.find?_singleton]
      exact if_pos (beq_self_eq_true edit.note.id)
    · have none : (cache.remoteStatuses.find? fun other => other.id == generated.statusId) = none :=
        List.find?_eq_none.mpr fun other member same => fresh other member (beq_iff_eq.mp same)
      change (cache.remoteStatuses ++ [_]).find?
        (fun other : RemoteStatus => other.id == generated.statusId) = _
      rw [List.find?_append, none, Option.none_or, List.find?_singleton]
      exact if_pos (beq_self_eq_true _)
    · exact fun status member => ⟨status, List.mem_append_left _ member, rfl⟩
    · intro existing stored
      cases absent.symm.trans stored

theorem processRemoteStatusUpsert_cases {db next : HistoryDb} {generated : Generated}
    {ids : EditIds} {status : NewRemoteStatus} {attachments : List NewRemoteMediaAttachment}
    {result : RemoteStatusUpsertResult}
    (success : processRemoteStatusUpsert server db generated ids status attachments =
      .ok (next, result)) :
    (∃ cache row, findRow db.cache status.activitypubId = none ∧
      storeRemoteStatus server db.cache generated status attachments = .ok (cache, row) ∧
      next = { db with cache := cache } ∧ result = .created row) ∨
    (∃ existing, findRow db.cache status.activitypubId = some existing ∧
      existing.remoteActorId = status.remoteActorId ∧
      (status.updatedAt ≤ existing.updatedAt * 1000 ∨
        (!projectionChanged existing status &&
          !mediaChanged (currentMedia db.cache existing.id) attachments) = true) ∧
      next = db ∧ result = .unchanged existing) ∨
    ∃ existing kept cache row current, findRow db.cache status.activitypubId = some existing ∧
      existing.remoteActorId = status.remoteActorId ∧
      ¬ (status.updatedAt ≤ existing.updatedAt * 1000 ∨
        (!projectionChanged existing status &&
          !mediaChanged (currentMedia db.cache existing.id) attachments) = true) ∧
      originalSnapshot db ids.original existing = .ok kept ∧
      storeRemoteStatus server kept.cache generated status attachments = .ok (cache, row) ∧
      (cache.remoteStatuses.find? fun other => other.id == row.id) = some current ∧
      remoteStatusSnapshot { kept with cache := cache } ids.revision current
        (server.timestamptz status.updatedAt) = .ok next ∧
      result = .updated row := by
  unfold processRemoteStatusUpsert at success
  cases found : findRow db.cache status.activitypubId with
  | none =>
      rw [found] at success
      obtain ⟨⟨cache, row⟩, stored, success⟩ := bind_ok success
      cases success
      exact .inl ⟨cache, row, rfl, stored, rfl, rfl⟩
  | some existing =>
      rw [found] at success
      obtain ⟨author, success⟩ := guard_ok success
      by_cases skipped : status.updatedAt ≤ existing.updatedAt * 1000 ∨
          (!projectionChanged existing status &&
            !mediaChanged (currentMedia db.cache existing.id) attachments) = true
      · rw [if_pos skipped] at success
        cases success
        exact .inr (.inl ⟨existing, rfl, not_not.mp author, skipped, rfl, rfl⟩)
      · rw [if_neg skipped] at success
        obtain ⟨kept, original, success⟩ := bind_ok success
        obtain ⟨⟨cache, row⟩, stored, success⟩ := bind_ok success
        obtain ⟨current, read, success⟩ := bind_ok success
        obtain ⟨last, revision, success⟩ := bind_ok success
        cases success
        exact .inr (.inr ⟨existing, kept, cache, row, current, rfl, not_not.mp author, skipped,
          original, stored, okOr_ok read, revision, rfl⟩)

theorem remoteStatusSnapshot_cache {db next : HistoryDb} {editId : Nat} {status : RemoteStatus}
    {createdAt : Int} (success : remoteStatusSnapshot db editId status createdAt = .ok next) :
    next.cache = db.cache := by
  unfold remoteStatusSnapshot at success
  obtain ⟨_, success⟩ := guard_ok success
  obtain ⟨_, success⟩ := guard_ok success
  cases success
  rfl

theorem originalSnapshot_cache {db next : HistoryDb} {editId : Nat} {existing : RemoteStatus}
    (success : originalSnapshot db editId existing = .ok next) : next.cache = db.cache := by
  unfold originalSnapshot at success
  split at success
  next =>
      cases success
      rfl
  next => exact remoteStatusSnapshot_cache success

theorem originalSnapshot_ok {db kept : HistoryDb} {editId : Nat} {existing : RemoteStatus}
    (keyed : db.Keyed) (success : originalSnapshot db editId existing = .ok kept)
    (listed : existing ∈ db.cache.remoteStatuses) :
    kept.Keyed ∧ history kept existing.id =
      if history db existing.id = [] then [(rowVersion db.cache existing).revision]
      else history db existing.id := by
  unfold originalSnapshot at success
  have empty : history db existing.id = [] ↔
      ¬ (db.edits.any fun edit => edit.remoteStatusId == existing.id) = true := by
    unfold history
    rw [List.map_eq_nil_iff, List.filter_eq_nil_iff, List.any_eq_true]
    exact ⟨fun none ⟨edit, member, own⟩ => none edit member own,
      fun none edit member own => none ⟨edit, member, own⟩⟩
  split at success
  next recorded =>
      cases success
      rw [if_neg fun none => empty.mp none recorded]
      exact ⟨keyed, rfl⟩
  next unrecorded =>
      have timestamp : (if existing.updatedAt = existing.publishedAt then existing.publishedAt
          else existing.updatedAt) = existing.updatedAt := by
        split
        next same => exact same.symm
        next => rfl
      dsimp only at success
      rw [timestamp] at success
      obtain ⟨_, next, _, extended⟩ := remoteStatusSnapshot_ok keyed success ⟨existing, listed, rfl⟩
      rw [empty.mpr unrecorded] at extended
      rw [if_pos (empty.mpr unrecorded), extended, List.nil_append]
      exact ⟨next, rfl⟩

/-!
## Runs keep the history
-/

/-- The statuses of a Note that were stored, and what its history tells of them. -/
structure Tracks (server : Server) (actor : RemoteActor) (noteId : String) (db : HistoryDb)
    (seen : List Stored) : Prop where
  keyed : db.Keyed
  current : stored db noteId = seen.getLast?
  held : ∀ row, findRow db.cache noteId = some row → ∃ edit, Holds server db.cache actor row edit
  entries : ∀ row, findRow db.cache noteId = some row →
    history db row.id = if seen.length ≤ 1 then [] else seen.map Stored.revision
  increasing : seen.Pairwise fun earlier later => earlier.row.updatedAt < later.row.updatedAt
  consecutive : seen.IsChain fun earlier later =>
    earlier.row.object ≠ later.row.object ∨ earlier.media ≠ later.media

theorem observe_same {db : HistoryDb} {seen : List Stored}
    (current : stored db noteId = seen.getLast?) : observe noteId seen db = seen := by
  unfold observe
  cases found : stored db noteId with
  | none => rfl
  | some version => exact if_pos (current.symm.trans found)

theorem observe_new {db : HistoryDb} {seen : List Stored} {version : Stored}
    (current : stored db noteId = some version) (new : seen.getLast? ≠ some version) :
    observe noteId seen db = seen ++ [version] := by
  unfold observe
  rw [current]
  exact if_neg new

theorem HistoryDb.Keyed.cached {db : HistoryDb} (keyed : db.Keyed) {cache : Db}
    (kept : ∀ status ∈ db.cache.remoteStatuses, ∃ other ∈ cache.remoteStatuses,
      other.id = status.id) : HistoryDb.Keyed { db with cache := cache } where
  edits edit member := by
    obtain ⟨status, stored, own⟩ := keyed.edits edit member
    obtain ⟨other, still, same⟩ := kept status stored
    exact ⟨other, still, same.trans own⟩
  media := keyed.media

section

variable {db next : HistoryDb} {seen : List Stored} {generated : Generated} {ids : EditIds}

theorem Tracks.created (tracks : Tracks server actor noteId db seen) {cache : Db}
    {row : RemoteStatus} (absent : findRow db.cache noteId = none)
    (written : Written server actor db.cache cache noteId edit row) :
    Tracks server actor noteId { db with cache := cache }
      (observe noteId seen { db with cache := cache }) := by
  have unseen : seen = [] := by
    have current := tracks.current
    rw [stored_eq, absent, Option.map_none] at current
    exact List.getLast?_eq_none_iff.mp current.symm
  subst unseen
  have shown : stored { db with cache := cache } noteId = some (rowVersion cache row) := by
    rw [stored_eq, written.found, Option.map_some]
  rw [observe_new shown (fun same => by cases same), List.nil_append]
  refine ⟨tracks.keyed.cached written.kept, shown, ?_, ?_, List.pairwise_singleton _ _,
    List.isChain_singleton _⟩
  · intro other found
    cases written.found.symm.trans found
    exact ⟨edit, written.holds⟩
  · intro other found
    cases written.found.symm.trans found
    rw [List.length_singleton, if_pos (le_refl 1)]
    refine List.map_eq_nil_iff.mpr (List.filter_eq_nil_iff.mpr fun entry member => ?_)
    obtain ⟨status, listed, own⟩ := tracks.keyed.edits entry member
    have apart := written.fresh absent status listed
    rw [own] at apart
    simpa using apart

theorem Tracks.updated (rounds : Rounds server)
    (tracks : Tracks server actor noteId db seen) {kept : HistoryDb} {lookup : Inbox.Db}
    {existing row : RemoteStatus} {cache : Db} (found : findRow db.cache noteId = some existing)
    (newer : existing.updatedAt * 1000 < edit.updatedAt)
    (changed : ¬ (!projectionChanged existing (edit.status server lookup actor) &&
      !mediaChanged (currentMedia db.cache existing.id) edit.note.attachments) = true)
    (original : originalSnapshot db ids.original existing = .ok kept)
    (written : Written server actor db.cache cache noteId edit row)
    (revision : remoteStatusSnapshot { kept with cache := cache } ids.revision row
      (server.timestamptz edit.updatedAt) = .ok next) :
    Tracks server actor noteId next (observe noteId seen next) := by
  have listed : existing ∈ db.cache.remoteStatuses := List.mem_of_find?_eq_some found
  have identity : row.id = existing.id := written.identity existing found
  have last : seen.getLast? = some (rowVersion db.cache existing) := by
    rw [← tracks.current, stored_eq, found, Option.map_some]
  obtain ⟨front, whole⟩ := List.getLast?_eq_some_iff.mp last
  obtain ⟨keyed, told⟩ := originalSnapshot_ok tracks.keyed original listed
  -- whether or not there was a history before, it now ends with the stored status
  have before : history kept row.id = seen.map Stored.revision := by
    rw [identity, told, tracks.entries existing found]
    by_cases single : seen.length ≤ 1
    · have alone : front = [] := by
        rw [whole, List.length_append, List.length_singleton] at single
        exact List.length_eq_zero_iff.mp (by omega)
      rw [if_pos single, if_pos rfl, whole, alone, List.nil_append, List.map_singleton]
    · have told : seen.map Stored.revision ≠ [] := by
        rw [whole]
        simp
      rw [if_neg single, if_neg told]
  have sameCache : kept.cache = db.cache := originalSnapshot_cache original
  have member : row ∈ cache.remoteStatuses := List.mem_of_find?_eq_some written.found
  obtain ⟨nextCache, nextKeyed, unused, extended⟩ := remoteStatusSnapshot_ok
    (keyed.cached (sameCache ▸ written.kept)) revision ⟨row, member, rfl⟩
  change next.cache = cache at nextCache
  change ∀ revision ∈ history kept row.id, _ at unused
  change history next row.id = history kept row.id ++ _ at extended
  have later : existing.updatedAt < row.updatedAt := by
    rw [written.holds.updatedAt]
    have atLeast := rounds.monotone _ _ newer.le
    rw [rounds.exact] at atLeast
    refine lt_of_le_of_ne atLeast fun same => ?_
    refine unused (rowVersion db.cache existing).revision ?_ same
    rw [before, whole]
    exact List.mem_map_of_mem (List.mem_append_right _ (List.mem_singleton_self _))
  have shown : stored next noteId = some (rowVersion cache row) := by
    rw [stored_eq, nextCache, written.found, Option.map_some]
  have new : seen.getLast? ≠ some (rowVersion cache row) := by
    rw [last]
    intro same
    exact later.ne (congrArg (fun version => version.row.updatedAt) (Option.some.inj same))
  rw [observe_new shown new]
  refine ⟨nextKeyed, ?_, ?_, ?_, ?_, ?_⟩
  · rw [shown, List.getLast?_concat]
  · intro other stored
    rw [nextCache] at stored ⊢
    cases written.found.symm.trans stored
    exact ⟨edit, written.holds⟩
  · intro other stored
    rw [nextCache] at stored
    cases written.found.symm.trans stored
    have long : ¬ (seen ++ [rowVersion cache row]).length ≤ 1 := by
      rw [whole]
      simp
    rw [if_neg long, extended, before, List.map_append, List.map_singleton,
      ← written.holds.updatedAt]
    rfl
  · refine List.pairwise_append.mpr ⟨tracks.increasing, List.pairwise_singleton _ _, ?_⟩
    intro earlier earlierMember version versionMember
    rw [List.mem_singleton.mp versionMember]
    have increasing := tracks.increasing
    rw [whole] at earlierMember increasing
    rcases List.mem_append.mp earlierMember with inside | atEnd
    · exact ((List.pairwise_append.mp increasing).2.2 earlier inside _
        (List.mem_singleton_self _)).trans later
    · rw [List.mem_singleton.mp atEnd]
      exact later
  · refine tracks.consecutive.append (List.isChain_singleton _) ?_
    intro earlier earlierLast version versionFirst
    rw [last] at earlierLast
    cases earlierLast
    cases versionFirst
    obtain ⟨held, holds⟩ := tracks.held existing found
    by_contra same
    obtain ⟨object, media⟩ := not_or.mp same
    refine changed ((unchanged_iff lookup holds).mpr (view_eq ?_ ?_))
    · exact holds.object.symm.trans ((not_not.mp object).trans written.holds.object)
    · exact holds.media.symm.trans ((not_not.mp media).trans written.holds.media)

theorem Tracks.deliver (rounds : Rounds server) {delivery : Delivery}
    (about : delivery.edit.note.id = noteId) (tracks : Tracks server actor noteId db seen) :
    Tracks server actor noteId (deliver server actor db delivery)
      (observe noteId seen (deliver server actor db delivery)) := by
  unfold History.deliver
  cases processed : processRemoteStatusUpsert server db delivery.generated delivery.ids
      (delivery.edit.status server db.cache.toDb actor) delivery.edit.note.attachments with
  | error error =>
      rw [observe_same tracks.current]
      exact tracks
  | ok output =>
      obtain ⟨next, result⟩ := output
      have named : (delivery.edit.status server db.cache.toDb actor).activitypubId = noteId := about
      rcases processRemoteStatusUpsert_cases processed with
        ⟨cache, row, absent, stored, rfl, _⟩ | ⟨existing, _, _, _, rfl, _⟩ |
        ⟨existing, kept, cache, row, current, found, _, changed, original, stored, read, revision,
          _⟩
      · rw [named] at absent
        exact tracks.created absent (storeRemoteStatus_written about stored)
      · dsimp only
        rw [observe_same tracks.current]
        exact tracks
      · rw [named] at found
        rw [originalSnapshot_cache original] at stored
        have written := storeRemoteStatus_written about stored
        cases written.read.symm.trans read
        obtain ⟨older, unchanged⟩ := not_or.mp changed
        exact tracks.updated rounds found (not_le.mp older) unchanged original written revision

theorem Tracks.run (rounds : Rounds server) {deliveries : List Delivery}
    (about : ∀ delivery ∈ deliveries, delivery.edit.note.id = noteId)
    (tracks : Tracks server actor noteId db seen) :
    Tracks server actor noteId (run server actor noteId db seen deliveries).1
      (run server actor noteId db seen deliveries).2 := by
  induction deliveries generalizing db seen with
  | nil => exact tracks
  | cons delivery rest ih =>
      exact ih (fun other member => about other (List.mem_cons_of_mem _ member))
        (tracks.deliver rounds (about delivery List.mem_cons_self))

end

end

/-!
## The stored history
-/

section

variable {server : Server} {actor : RemoteActor} {noteId : String} {db : HistoryDb}
variable {seen : List Stored}

theorem remoteStatusEdits_eq {statusId : StatusId}
    (increasing : (history db statusId).Pairwise fun earlier later =>
      earlier.createdAt < later.createdAt) :
    remoteStatusEdits db statusId = history db statusId := by
  unfold remoteStatusEdits history
  refine congrArg _ (Keyset.arrange_eq ?_ (List.Perm.refl _))
  refine (List.pairwise_map.mp increasing).imp fun {earlier later} before => ?_
  exact Prod.Lex.toLex_lt_toLex.mpr (.inl before)

theorem Tracks.recorded (tracks : Tracks server actor noteId db seen) :
    Recorded db noteId seen := by
  refine ⟨tracks.current, fun current found => ?_⟩
  have last : seen.getLast? = some current := tracks.current.symm.trans found
  rw [stored_eq] at found
  obtain ⟨row, cached, rfl⟩ := Option.map_eq_some_iff.mp found
  have entries := tracks.entries row cached
  by_cases single : seen.length ≤ 1
  · -- one version only
    have alone : seen = [rowVersion db.cache row] := by
      obtain ⟨front, rfl⟩ := List.getLast?_eq_some_iff.mp last
      rw [List.length_append, List.length_singleton] at single
      have none : front = [] := List.length_eq_zero_iff.mp (by omega)
      rw [none, List.nil_append]
    rw [if_pos single] at entries
    have read : remoteStatusEdits db row.id = [] := by
      rw [remoteStatusEdits_eq (entries ▸ List.Pairwise.nil), entries]
    change EditHistory (remoteStatusEdits db row.id) _ _
    rw [read]
    exact ⟨iff_of_true rfl alone, fun told => absurd rfl told, fun told => absurd rfl told,
      List.Pairwise.nil, List.IsChain.nil⟩
  · rw [if_neg single] at entries
    have increasing : (seen.map Stored.revision).Pairwise fun earlier later =>
        earlier.createdAt < later.createdAt := List.pairwise_map.mpr tracks.increasing
    have read : remoteStatusEdits db row.id = seen.map Stored.revision := by
      rw [remoteStatusEdits_eq (entries ▸ increasing), entries]
    change EditHistory (remoteStatusEdits db row.id) _ _
    rw [read]
    refine ⟨iff_of_false ?_ ?_, fun _ => List.head?_map, fun _ => ?_, increasing,
      (List.isChain_map _).mpr tracks.consecutive⟩
    · intro empty
      rw [List.map_eq_nil_iff.mp empty] at single
      exact single (Nat.zero_le 1)
    · intro alone
      rw [alone] at single
      exact single (le_refl 1)
    · rw [List.getLast?_map, last, Option.map_some]

/-- Activities about a Note that is not cached, in any order, leave a history of
everything that was stored for it. -/
theorem edit_history (rounds : Rounds server) (keyed : db.Keyed)
    (absent : findRow db.cache noteId = none) (deliveries : List Delivery)
    (about : ∀ delivery ∈ deliveries, delivery.edit.note.id = noteId) :
    Recorded (run server actor noteId db [] deliveries).1 noteId
      (run server actor noteId db [] deliveries).2 := by
  have empty : Tracks server actor noteId db [] := by
    have none : ∀ row, findRow db.cache noteId ≠ some row := by
      intro row found
      cases absent.symm.trans found
    refine ⟨keyed, ?_, fun row found => absurd found (none row),
      fun row found => absurd found (none row), List.Pairwise.nil, List.IsChain.nil⟩
    rw [stored_eq, absent]
    rfl
  exact (empty.run rounds about).recorded

end

namespace Sample

def start : HistoryDb := ⟨Status.Sample.start, [], []⟩

def delivered (said : Status.Sample.Said) (number : Nat) : Delivery where
  edit := said.delivered.edit
  generated :=
    ⟨⟨number⟩, ⟨0, number, ⟨number⟩, fun index => index⟩,
      ⟨number, "https://roosty.example/authorization", number, fun _ => none⟩⟩
  ids := ⟨2 * number, 2 * number + 1⟩

/-- A Question, another wording of it, and the first wording once more. -/
def deliveries : List Delivery :=
  [delivered Status.Sample.created 1, delivered Status.Sample.reworded 2,
    delivered Status.Sample.created 3]

theorem rounds : Rounds Status.Sample.receiver where
  monotone _ _ before := Int.tdiv_le_tdiv (by decide) before
  exact micros := Int.mul_tdiv_cancel micros (by decide)

theorem keyed : start.Keyed where
  edits _ member := by cases member
  media _ member := by cases member

/-- The tables after the activities, and the statuses that were stored. -/
def outcome : HistoryDb × List Stored :=
  run Status.Sample.receiver Inbox.Sample.alice Status.Sample.noteUri start [] deliveries

end Sample

theorem sample_edit_history :
    Recorded Sample.outcome.1 Status.Sample.noteUri Sample.outcome.2 ∧
    (remoteStatusEdits Sample.outcome.1 ⟨1⟩).map Revision.content =
      ["<p>Tea or coffee?</p>", "<p>Coffee or tea?</p>"] := by
  refine ⟨edit_history Sample.rounds Sample.keyed rfl Sample.deliveries ?_, by decide +kernel⟩
  intro delivery member
  simp only [Sample.deliveries, List.mem_cons, List.not_mem_nil, or_false] at member
  rcases member with rfl | rfl | rfl
  · rfl
  · rfl
  · rfl

end Roosty.Federation.Status.History
