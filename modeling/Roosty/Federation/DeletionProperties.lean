import Roosty.Federation.RemoteStatusProperties
import Roosty.Library.Machine

/-!
# Deleted Notes

A Delete marks the cached row of a Note. Nothing else remembers it, and an
upsert that writes the row clears the mark: a Note stays deleted as long as every
later Create, Update or fetch meets its row and leaves it unchanged.
-/

set_option autoImplicit false

namespace Roosty.Federation.Status

open Library Inbox

/-- The Note is cached and not deleted. -/
def Live (db : Db) (noteId : String) : Prop :=
  ∃ row ∈ db.remoteStatuses, row.activitypubId = noteId ∧ row.deletedAt = none

/-- The unique columns of the status table. -/
structure Schema (db : Db) : Prop where
  ids : Table.UniqueOn (fun row : RemoteStatus => some row.id) db.remoteStatuses
  notes : Table.UniqueOn (fun row : RemoteStatus => some row.activitypubId) db.remoteStatuses

def Owned (db : Db) (author : AccountId) (noteId : String) : Prop :=
  ∀ row ∈ db.remoteStatuses, row.activitypubId = noteId → row.remoteActorId = author

/-- What reaches the cache from one author: signed activities and documents that
are fetched for threads, with the answers of the network. -/
inductive Step where
  | upsert (generated : Generated) (id : String) (activity : Json)
  | delete (generated : Generated) (id : String) (activity : Json)
  | fetch (generated : Generated) (url : String) (parent : Option String) (document : Json)
      (authorDeleted : Bool)

def committed {Value : Type} (db : Db) : Except RoostyError (Db × Value) → Db
  | .ok (next, _) => next
  | .error _ => db

def receive (server : Server) (author : RemoteActor) (db : Db) : Step → Db
  | .upsert generated id activity =>
      committed db (processRemoteStatusActivity server db generated id activity author)
  | .delete generated id activity =>
      committed db (processRemoteDeleteActivity server db generated id activity author)
  | .fetch generated url parent document authorDeleted =>
      committed db (fetchPublicRemoteStatus server db generated url parent document author
        authorDeleted)

def cache (server : Server) (author : RemoteActor) : Machine Db Step Unit :=
  ⟨fun db step => (receive server author db step, ())⟩

/-- A status meets a row of its Note that is as new or shows the same. -/
def Kept (db : Db) (status : NewRemoteStatus) (attachments : List NewRemoteMediaAttachment) :
    Prop :=
  ∃ row, findRow db status.activitypubId = some row ∧
    (status.updatedAt ≤ row.updatedAt * 1000 ∨
      (!projectionChanged row status && !mediaChanged (currentMedia db row.id) attachments) = true)

/-- A step does not bring a Note back: it is about another Note, is not
accepted, was seen before, or meets a row that it leaves unchanged. -/
def Stale (server : Server) (author : RemoteActor) (noteId : String) (db : Db) : Step → Prop
  | .delete _ _ _ => True
  | .upsert generated _ activity => ∀ edit,
      readStatusActivity server db.toDb activity author = .ok edit → edit.note.id = noteId →
      (isNewInboxActivity server.format server.sha256 db.markers activity author.id
        generated.poll.now).2 = .ok true →
      Kept db (edit.status server db.toDb author) edit.note.attachments
  | .fetch _ url parent document authorDeleted => ∀ edit,
      readFetchedStatus server db.toDb url parent document author authorDeleted = .ok edit →
      edit.note.id = noteId →
      Kept db (edit.fetchedStatus server db.toDb author document) edit.note.attachments

structure Deletes (server : Server) (author : RemoteActor) (noteId : String) (db : Db)
    (id : String) (activity : Json) : Prop where
  fresh : Fresh db.toDb activity .delete id
  origin : server.sameUrlOrigin id author.activitypubId = true
  signed : actorOf activity = some author.activitypubId
  object : (activity.get? "object").bind reference = some noteId
  secure : startsWithHttps noteId = true
  sameOrigin : server.sameUrlOrigin noteId author.activitypubId = true

variable {server : Server} {author : RemoteActor} {noteId : String} {db next : Db}
variable {generated : Generated}

/-!
## Rows after one statement
-/

/-- Every row of a state is an earlier row, deleted or not as before or deleted
since, or is one that was written. -/
def RowsFrom (db next : Db) (written : RemoteStatus → Prop) : Prop :=
  ∀ row ∈ next.remoteStatuses,
    (∃ old ∈ db.remoteStatuses, old.id = row.id ∧ old.activitypubId = row.activitypubId ∧
      old.remoteActorId = row.remoteActorId ∧ (row.deletedAt = none → old.deletedAt = none)) ∨
    written row

theorem RowsFrom.of_rows {written : RemoteStatus → Prop}
    (same : next.remoteStatuses = db.remoteStatuses) : RowsFrom db next written := by
  intro row member
  rw [same] at member
  exact .inl ⟨row, member, rfl, rfl, rfl, fun live => live⟩

theorem RowsFrom.trans {mid : Db} {written : RemoteStatus → Prop}
    (first : RowsFrom db mid written) (second : RowsFrom mid next fun _ => False)
    (stays : ∀ one two : RemoteStatus, one.activitypubId = two.activitypubId →
      one.remoteActorId = two.remoteActorId → written one → written two) :
    RowsFrom db next written := by
  intro row member
  rcases second row member with ⟨middle, middleMember, id, note, actor, live⟩ | impossible
  · rcases first middle middleMember with ⟨old, oldMember, oldId, oldNote, oldActor, oldLive⟩ | new
    · exact .inl ⟨old, oldMember, oldId.trans id, oldNote.trans note, oldActor.trans actor,
        fun gone => oldLive (live gone)⟩
    · exact .inr (stays middle row note actor new)
  · exact impossible.elim

private theorem rowsFrom_updateWhere {selected : RemoteStatus → Bool}
    {change : RemoteStatus → RemoteStatus}
    (rows : next.remoteStatuses = Table.updateWhere selected change db.remoteStatuses)
    (id : ∀ row, (change row).id = row.id)
    (note : ∀ row, (change row).activitypubId = row.activitypubId)
    (actor : ∀ row, (change row).remoteActorId = row.remoteActorId)
    (live : ∀ row, (change row).deletedAt = none → row.deletedAt = none) :
    RowsFrom db next fun _ => False := by
  intro row member
  rw [rows] at member
  rcases Table.mem_updateWhere.mp member with ⟨kept, _⟩ | ⟨old, oldMember, _, rfl⟩
  · exact .inl ⟨row, kept, rfl, rfl, rfl, fun gone => gone⟩
  · exact .inl ⟨old, oldMember, (id old).symm, (note old).symm, (actor old).symm, live old⟩

private theorem Schema.updateWhere (schema : Schema db) {selected : RemoteStatus → Bool}
    {change : RemoteStatus → RemoteStatus}
    (rows : next.remoteStatuses = Table.updateWhere selected change db.remoteStatuses)
    (id : ∀ row, (change row).id = row.id)
    (note : ∀ row, (change row).activitypubId = row.activitypubId) : Schema next := by
  constructor
  · rw [rows]
    exact schema.ids.updateWhere fun row _ _ => .inl (by rw [id])
  · rw [rows]
    exact schema.notes.updateWhere fun row _ _ => .inl (by rw [note])

private theorem Schema.of_rows (schema : Schema db)
    (same : next.remoteStatuses = db.remoteStatuses) : Schema next := by
  constructor
  · rw [same]
    exact schema.ids
  · rw [same]
    exact schema.notes

private def Written (status : NewRemoteStatus) (row : RemoteStatus) : Prop :=
  row.activitypubId = status.activitypubId ∧ row.remoteActorId = status.remoteActorId

private theorem Written.stays {status : NewRemoteStatus} (one two : RemoteStatus)
    (note : one.activitypubId = two.activitypubId) (actor : one.remoteActorId = two.remoteActorId)
    (written : Written status one) : Written status two :=
  ⟨note.symm.trans written.1, actor.symm.trans written.2⟩

private theorem upsertRemoteStatusOn_rows {status : NewRemoteStatus} {row : RemoteStatus}
    (success : upsertRemoteStatusOn server db generated status = .ok (next, row)) :
    RowsFrom db next (Written status) ∧ (Schema db → Schema next) := by
  unfold upsertRemoteStatusOn at success
  cases found : findRow db status.activitypubId with
  | some existing =>
      rw [found] at success
      obtain ⟨_, success⟩ := guard_ok success
      cases success
      have existingMember : existing ∈ db.remoteStatuses := List.mem_of_find?_eq_some found
      have named : existing.activitypubId = status.activitypubId := by
        simpa using List.find?_some found
      constructor
      · intro stored member
        rcases Table.mem_updateWhere.mp member with ⟨kept, _⟩ | ⟨_, _, _, rfl⟩
        · exact .inl ⟨stored, kept, rfl, rfl, rfl, fun live => live⟩
        · exact .inr ⟨rfl, rfl⟩
      · intro schema
        have only : ∀ other ∈ db.remoteStatuses, (other.id == existing.id) = true →
            other = existing := by
          intro other otherMember same
          exact schema.ids.eq_of_key otherMember existingMember rfl
            (congrArg some (beq_iff_eq.mp same).symm)
        constructor
        · refine schema.ids.updateWhere ?_
          intro other otherMember same
          rw [only other otherMember same]
          exact .inl rfl
        · refine schema.notes.updateWhere ?_
          intro other otherMember same
          rw [only other otherMember same]
          exact .inl (congrArg some named.symm)
  | none =>
      rw [found] at success
      obtain ⟨unused, success⟩ := guard_ok success
      cases success
      constructor
      · intro stored member
        rcases List.mem_append.mp member with old | new
        · exact .inl ⟨stored, old, rfl, rfl, rfl, fun live => live⟩
        · rw [List.mem_singleton.mp new]
          exact .inr ⟨rfl, rfl⟩
      · intro schema
        constructor
        · refine schema.ids.insert ?_
          intro value key other member same
          have equal : other.id = generated.statusId := Option.some.inj (same.trans key.symm)
          exact unused (List.any_eq_true.mpr ⟨other, member, by simpa using equal⟩)
        · refine schema.notes.insert ?_
          intro value key other member same
          have equal : other.activitypubId = status.activitypubId :=
            Option.some.inj (same.trans key.symm)
          have different := List.find?_eq_none.mp found other member
          exact different (by simpa using equal)

/-!
## Rows after one activity
-/

private theorem processRemoteStatusUpsert_rows {status : NewRemoteStatus}
    {attachments : List NewRemoteMediaAttachment} {upsert : RemoteStatusUpsertResult}
    (success : processRemoteStatusUpsert server db generated status attachments =
      .ok (next, upsert)) :
    RowsFrom db next (fun row => Written status row ∧ ¬ Kept db status attachments) ∧
      (Schema db → Schema next) := by
  have stores : ∀ {row : RemoteStatus},
      storeRemoteStatus server db generated status attachments = .ok (next, row) →
      RowsFrom db next (Written status) ∧ (Schema db → Schema next) := by
    intro row stored
    obtain ⟨⟨inserted, row⟩, upserted, stored⟩ := bind_ok stored
    cases stored
    obtain ⟨rows, schema⟩ := upsertRemoteStatusOn_rows upserted
    exact ⟨rows, fun valid => (schema valid).of_rows rfl⟩
  unfold processRemoteStatusUpsert at success
  cases found : findRow db status.activitypubId with
  | none =>
      rw [found] at success
      obtain ⟨⟨stored, row⟩, storing, success⟩ := bind_ok success
      cases success
      obtain ⟨rows, schema⟩ := stores storing
      refine ⟨?_, schema⟩
      intro written member
      rcases rows written member with old | new
      · exact .inl old
      · refine .inr ⟨new, ?_⟩
        rintro ⟨existing, present, _⟩
        rw [found] at present
        cases present
  | some existing =>
      rw [found] at success
      obtain ⟨_, success⟩ := guard_ok success
      split at success
      next =>
        cases success
        exact ⟨.of_rows rfl, fun valid => valid⟩
      next changed =>
        obtain ⟨⟨stored, row⟩, storing, success⟩ := bind_ok success
        cases success
        obtain ⟨rows, schema⟩ := stores storing
        refine ⟨?_, schema⟩
        intro written member
        rcases rows written member with old | new
        · exact .inl old
        · refine .inr ⟨new, ?_⟩
          rintro ⟨other, present, unchanged⟩
          rw [found] at present
          cases present
          exact changed unchanged

theorem storePoll_rows {statusId : StatusId} {poll : Option Poll.RemoteStatusPoll}
    (success : storePoll db generated statusId poll = .ok next) :
    next.remoteStatuses = db.remoteStatuses := by
  cases poll with
  | none =>
      cases success
      rfl
  | some input =>
      obtain ⟨⟨tables, _⟩, _, success⟩ := bind_ok success
      cases success
      rfl

private theorem storeQuote_rows {statusId : StatusId} {quote : Option ResolvedInboundQuote}
    (success : storeQuote db generated statusId quote = .ok next) :
    next.remoteStatuses = db.remoteStatuses := by
  cases quote with
  | none =>
      cases success
      rfl
  | some quote =>
      obtain ⟨relations, _, success⟩ := bind_ok success
      cases success
      rfl

private theorem applyEdit_rows {edit : Edit} {quote : Option ResolvedInboundQuote}
    {change : RemoteStatusChange}
    (success : applyEdit server db generated edit author quote = .ok (next, change)) :
    ∃ stored upsert polled,
      processRemoteStatusUpsert server db generated (edit.status server db.toDb author)
        edit.note.attachments = .ok (stored, upsert) ∧
      storePoll stored generated upsert.status.id edit.poll = .ok polled ∧
      next.remoteStatuses =
        (linkUnresolvedRemoteRepliesToParent polled upsert.status).remoteStatuses := by
  obtain ⟨⟨stored, upsert⟩, upserted, success⟩ := bind_ok success
  obtain ⟨polled, polling, success⟩ := bind_ok success
  refine ⟨stored, upsert, polled, upserted, polling, ?_⟩
  cases upsert with
  | unchanged _ =>
      cases success
      rfl
  | created _ =>
      obtain ⟨quoted, quoting, success⟩ := bind_ok success
      cases success
      exact (storeQuote_rows quoting).trans rfl
  | updated _ =>
      obtain ⟨quoted, quoting, success⟩ := bind_ok success
      cases success
      exact (storeQuote_rows quoting).trans rfl

theorem link_rows (db : Db) (parent : RemoteStatus) :
    RowsFrom db (linkUnresolvedRemoteRepliesToParent db parent) (fun _ => False) ∧
      (Schema db → Schema (linkUnresolvedRemoteRepliesToParent db parent)) :=
  ⟨rowsFrom_updateWhere rfl (fun _ => rfl) (fun _ => rfl) (fun _ => rfl) fun _ live => live,
    fun schema => schema.updateWhere rfl (fun _ => rfl) fun _ => rfl⟩

private theorem stored_rows {status : NewRemoteStatus} {stored polled : Db}
    {attachments : List NewRemoteMediaAttachment} {upsert : RemoteStatusUpsertResult}
    {poll : Option Poll.RemoteStatusPoll}
    (upserted : processRemoteStatusUpsert server db generated status attachments =
      .ok (stored, upsert))
    (polling : storePoll stored generated upsert.status.id poll = .ok polled)
    (rows : next.remoteStatuses =
      (linkUnresolvedRemoteRepliesToParent polled upsert.status).remoteStatuses) :
    RowsFrom db next (fun row => Written status row ∧ ¬ Kept db status attachments) ∧
      (Schema db → Schema next) := by
  obtain ⟨storedRows, storedSchema⟩ := processRemoteStatusUpsert_rows upserted
  obtain ⟨linkedRows, linkedSchema⟩ := link_rows polled upsert.status
  have same := storePoll_rows polling
  have polledRows : RowsFrom db polled
      (fun row => Written status row ∧ ¬ Kept db status attachments) := by
    intro row member
    rw [same] at member
    exact storedRows row member
  have stays : ∀ one two : RemoteStatus, one.activitypubId = two.activitypubId →
      one.remoteActorId = two.remoteActorId →
      Written status one ∧ ¬ Kept db status attachments →
      Written status two ∧ ¬ Kept db status attachments :=
    fun one two note actor written => ⟨Written.stays one two note actor written.1, written.2⟩
  have linked := polledRows.trans linkedRows stays
  constructor
  · intro row member
    rw [rows] at member
    exact linked row member
  · intro schema
    exact (linkedSchema ((storedSchema schema).of_rows same)).of_rows rows

private theorem upsert_rows {id : String} {activity : Json} {change : RemoteStatusChange}
    (success : processRemoteStatusActivity server db generated id activity author =
      .ok (next, change)) :
    RowsFrom db next (fun row => ∃ edit,
        readStatusActivity server db.toDb activity author = .ok edit ∧
        (isNewInboxActivity server.format server.sha256 db.markers activity author.id
          generated.poll.now).2 = .ok true ∧
        Written (edit.status server db.toDb author) row ∧
        ¬ Kept db (edit.status server db.toDb author) edit.note.attachments) ∧
      (Schema db → Schema next) := by
  unfold processRemoteStatusActivity at success
  obtain ⟨_, success⟩ := guard_ok success
  obtain ⟨edit, read, success⟩ := bind_ok success
  obtain ⟨quote, _, success⟩ := bind_ok success
  cases registered : isNewInboxActivity server.format server.sha256 db.markers activity author.id
      generated.poll.now with
  | mk marker answer =>
      rw [registered] at success
      cases answer with
      | error error => cases success
      | ok isNew =>
          cases isNew with
          | false =>
              cases success
              exact ⟨.of_rows rfl, fun schema => schema⟩
          | true =>
              obtain ⟨stored, upsert, polled, upserted, polling, rows⟩ := applyEdit_rows success
              obtain ⟨storedRows, schema⟩ := stored_rows upserted polling rows
              refine ⟨?_, fun valid => schema (valid.of_rows rfl)⟩
              intro row member
              rcases storedRows row member with old | ⟨written, changed⟩
              · exact .inl old
              · exact .inr ⟨edit, read, rfl, written, changed⟩

theorem fetch_rows {url : String} {parent : Option String} {document : Json}
    {authorDeleted : Bool} {status : RemoteStatus}
    (success : fetchPublicRemoteStatus server db generated url parent document author
      authorDeleted = .ok (next, status)) :
    RowsFrom db next (fun row => ∃ edit, readFetchedStatus server db.toDb url parent document
          author authorDeleted = .ok edit ∧
        Written (edit.fetchedStatus server db.toDb author document) row ∧
        ¬ Kept db (edit.fetchedStatus server db.toDb author document) edit.note.attachments) ∧
      (Schema db → Schema next) := by
  obtain ⟨edit, read, success⟩ := bind_ok success
  obtain ⟨⟨stored, upsert⟩, upserted, success⟩ := bind_ok success
  obtain ⟨polled, polling, success⟩ := bind_ok success
  cases success
  obtain ⟨storedRows, schema⟩ := stored_rows upserted polling rfl
  refine ⟨?_, schema⟩
  intro row member
  rcases storedRows row member with old | ⟨written, changed⟩
  · exact .inl old
  · exact .inr ⟨edit, read, written, changed⟩

private def markDeleted (db : Db) (status : RemoteStatus) (now : Int) : Db :=
  { db with
    remoteStatuses := Table.updateWhere (fun row => row.id == status.id)
      (fun row => { row with deletedAt := some now }) db.remoteStatuses }

private theorem repair_rows (db : Db) (status : RemoteStatus) (now : Int) :
    RowsFrom db (repairOneRemoteStatusDelete db status now) (fun _ => False) ∧
      (Schema db → Schema (repairOneRemoteStatusDelete db status now)) := by
  have first : RowsFrom db (markDeleted db status now) fun _ => False :=
    rowsFrom_updateWhere rfl (fun _ => rfl) (fun _ => rfl) (fun _ => rfl) fun _ live => by cases live
  have second : RowsFrom (markDeleted db status now) (repairOneRemoteStatusDelete db status now)
      fun _ => False :=
    rowsFrom_updateWhere rfl (fun _ => rfl) (fun _ => rfl) (fun _ => rfl) fun _ live => live
  refine ⟨first.trans second (fun _ _ _ _ written => written), ?_⟩
  intro schema
  have schemaMarked : Schema (markDeleted db status now) :=
    schema.updateWhere rfl (fun _ => rfl) fun _ => rfl
  exact schemaMarked.updateWhere rfl (fun _ => rfl) fun _ => rfl

private theorem processRemoteStatusDelete_rows (db : Db) (actor : AccountId) (note : String)
    (now : Int) :
    RowsFrom db (processRemoteStatusDelete db actor note now).1 (fun _ => False) ∧
      (Schema db → Schema (processRemoteStatusDelete db actor note now).1) := by
  unfold processRemoteStatusDelete
  split
  next => exact ⟨.of_rows rfl, fun schema => schema⟩
  next status _ => exact repair_rows db status now

private theorem delete_rows {id : String} {activity : Json} {change : RemoteStatusChange}
    (success : processRemoteDeleteActivity server db generated id activity author =
      .ok (next, change)) :
    RowsFrom db next (fun _ => False) ∧ (Schema db → Schema next) := by
  unfold processRemoteDeleteActivity at success
  obtain ⟨_, success⟩ := guard_ok success
  split at success
  next objectId _ _ =>
    obtain ⟨_, success⟩ := guard_ok success
    obtain ⟨_, success⟩ := guard_ok success
    obtain ⟨_, success⟩ := guard_ok success
    split at success
    next => cases success
    next =>
      cases success
      exact ⟨.of_rows rfl, fun schema => schema⟩
    next marker _ =>
      obtain ⟨rows, schema⟩ := processRemoteStatusDelete_rows
        { db with markers := db.markers ++ marker.toList } author.id objectId generated.poll.now
      split at success
      next processed _ deleted =>
        rw [deleted] at rows schema
        cases success
        exact ⟨rows, fun valid => schema (valid.of_rows rfl)⟩
      next processed _ deleted =>
        rw [deleted] at rows schema
        cases success
        exact ⟨rows, fun valid => schema (valid.of_rows rfl)⟩
  next => cases success

/-!
## Runs
-/

private theorem receive_rows (noteId : String) (db : Db) (step : Step) :
    RowsFrom db (receive server author db step) (fun row => row.remoteActorId = author.id ∧
        (row.activitypubId = noteId → ¬ Stale server author noteId db step)) ∧
      (Schema db → Schema (receive server author db step)) := by
  cases step with
  | upsert generated id activity =>
      dsimp only [receive]
      cases result : processRemoteStatusActivity server db generated id activity author with
      | error error => exact ⟨.of_rows rfl, fun schema => schema⟩
      | ok value =>
          obtain ⟨rows, schema⟩ := upsert_rows result
          refine ⟨?_, schema⟩
          intro row member
          rcases rows row member with old | ⟨edit, read, isNew, written, changed⟩
          · exact .inl old
          · refine .inr ⟨written.2, ?_⟩
            intro named stale
            exact changed (stale edit read (written.1.symm.trans named) isNew)
  | delete generated id activity =>
      dsimp only [receive]
      cases result : processRemoteDeleteActivity server db generated id activity author with
      | error error => exact ⟨.of_rows rfl, fun schema => schema⟩
      | ok value =>
          obtain ⟨rows, schema⟩ := delete_rows result
          refine ⟨?_, schema⟩
          intro row member
          rcases rows row member with old | impossible
          · exact .inl old
          · exact impossible.elim
  | fetch generated url parent document authorDeleted =>
      dsimp only [receive]
      cases result : fetchPublicRemoteStatus server db generated url parent document author
          authorDeleted with
      | error error => exact ⟨.of_rows rfl, fun schema => schema⟩
      | ok value =>
          obtain ⟨rows, schema⟩ := fetch_rows result
          refine ⟨?_, schema⟩
          intro row member
          rcases rows row member with old | ⟨edit, read, written, changed⟩
          · exact .inl old
          · refine .inr ⟨written.2, ?_⟩
            intro named stale
            exact changed (stale edit read (written.1.symm.trans named))

private theorem receive_owned {step : Step} (owned : Owned db author.id noteId) :
    Owned (receive server author db step) author.id noteId := by
  intro row member named
  rcases (receive_rows noteId db step).1 row member with
    ⟨old, oldMember, _, note, actor, _⟩ | ⟨written, _⟩
  · rw [← actor]
    exact owned old oldMember (note.trans named)
  · exact written

private theorem receive_quiet {step : Step} (gone : ¬ Live db noteId)
    (stale : Stale server author noteId db step) :
    ¬ Live (receive server author db step) noteId := by
  rintro ⟨row, member, named, live⟩
  rcases (receive_rows noteId db step).1 row member with
    ⟨old, oldMember, _, note, _, alive⟩ | ⟨_, changed⟩
  · exact gone ⟨old, oldMember, note.trans named, alive live⟩
  · exact changed named stale

private theorem processRemoteStatusDelete_gone (schema : Schema db)
    (owned : Owned db author.id noteId) (now : Int) :
    ¬ Live (processRemoteStatusDelete db author.id noteId now).1 noteId := by
  unfold processRemoteStatusDelete
  split
  next absent =>
    rintro ⟨row, member, named, live⟩
    have other := List.find?_eq_none.mp absent row member
    simp [named, live, owned row member named] at other
  next status found =>
    have matched := List.find?_some found
    simp only [Bool.and_eq_true, beq_iff_eq] at matched
    rintro ⟨row, member, named, live⟩
    have marked : ∃ before ∈ (markDeleted db status now).remoteStatuses,
        before.activitypubId = noteId ∧ before.deletedAt = none := by
      rcases Table.mem_updateWhere.mp member with ⟨kept, _⟩ | ⟨before, kept, _, rfl⟩
      · exact ⟨row, kept, named, live⟩
      · exact ⟨before, kept, named, live⟩
    obtain ⟨before, kept, beforeNamed, beforeLive⟩ := marked
    rcases Table.mem_updateWhere.mp kept with ⟨old, other⟩ | ⟨old, _, _, rfl⟩
    · -- the live row of the Note is the one that was found
      have same := schema.notes.eq_of_key old (List.mem_of_find?_eq_some found) rfl
        (congrArg some (matched.1.1.trans beforeNamed.symm))
      rw [same] at other
      simp at other
    · cases beforeLive

private theorem receive_deletes {id : String} {activity : Json}
    (schema : Schema db) (owned : Owned db author.id noteId)
    (deletes : Deletes server author noteId db id activity) :
    ¬ Live (receive server author db (.delete generated id activity)) noteId := by
  obtain ⟨marker, isNew, _⟩ := deletes.fresh.isNew server.toContext author.id generated.poll.now
  have registered : Schema { db with markers := db.markers ++ (some marker).toList } :=
    schema.of_rows rfl
  have ownedNext : Owned { db with markers := db.markers ++ (some marker).toList } author.id
    noteId := owned
  have gone := processRemoteStatusDelete_gone registered ownedNext generated.poll.now
  dsimp only [receive, processRemoteDeleteActivity]
  rw [deletes.origin, deletes.signed, deletes.object]
  dsimp only
  rw [deletes.secure, deletes.sameOrigin, isNew]
  simp only [Bool.not_true, Bool.false_eq_true, if_false, bne_self_eq_false]
  split
  next next deleted =>
    rw [deleted] at gone
    exact gone
  next next status deleted =>
    rw [deleted] at gone
    exact gone

/-- The step was processed without an error. -/
def Commits (server : Server) (author : RemoteActor) (db : Db) : Step → Prop
  | .upsert generated id activity => ∃ result,
      processRemoteStatusActivity server db generated id activity author = .ok result
  | .delete generated id activity => ∃ result,
      processRemoteDeleteActivity server db generated id activity author = .ok result
  | .fetch generated url parent document authorDeleted => ∃ result,
      fetchPublicRemoteStatus server db generated url parent document author authorDeleted =
        .ok result

private theorem storeRemoteStatus_live {status : NewRemoteStatus} {row : RemoteStatus}
    {attachments : List NewRemoteMediaAttachment}
    (stored : storeRemoteStatus server db generated status attachments = .ok (next, row)) :
    Live next status.activitypubId := by
  obtain ⟨⟨inserted, row⟩, upserted, stored⟩ := bind_ok stored
  cases stored
  unfold upsertRemoteStatusOn at upserted
  cases found : findRow db status.activitypubId with
  | some existing =>
      rw [found] at upserted
      obtain ⟨_, upserted⟩ := guard_ok upserted
      cases upserted
      exact ⟨_, Table.mem_updateWhere.mpr (.inr ⟨existing, List.mem_of_find?_eq_some found,
        beq_self_eq_true _, rfl⟩), rfl, rfl⟩
  | none =>
      rw [found] at upserted
      obtain ⟨_, upserted⟩ := guard_ok upserted
      cases upserted
      exact ⟨_, List.mem_append_right _ (List.mem_singleton_self _), rfl, rfl⟩

private theorem processRemoteStatusUpsert_live {status : NewRemoteStatus}
    {attachments : List NewRemoteMediaAttachment} {upsert : RemoteStatusUpsertResult}
    (success : processRemoteStatusUpsert server db generated status attachments =
      .ok (next, upsert)) (changed : ¬ Kept db status attachments) :
    Live next status.activitypubId := by
  unfold processRemoteStatusUpsert at success
  cases found : findRow db status.activitypubId with
  | none =>
      rw [found] at success
      obtain ⟨_, storing, success⟩ := bind_ok success
      cases success
      exact storeRemoteStatus_live storing
  | some existing =>
      rw [found] at success
      obtain ⟨_, success⟩ := guard_ok success
      split at success
      next unchanged => exact absurd ⟨existing, found, unchanged⟩ changed
      next =>
        obtain ⟨_, storing, success⟩ := bind_ok success
        cases success
        exact storeRemoteStatus_live storing

private theorem Live.link (live : Live db noteId) (parent : RemoteStatus) :
    Live (linkUnresolvedRemoteRepliesToParent db parent) noteId := by
  obtain ⟨row, member, named, alive⟩ := live
  refine ⟨_, List.mem_map.mpr ⟨row, member, rfl⟩, ?_⟩
  split
  · exact ⟨named, alive⟩
  · exact ⟨named, alive⟩

private theorem Live.of_rows (live : Live db noteId)
    (same : next.remoteStatuses = db.remoteStatuses) : Live next noteId := by
  obtain ⟨row, member, described⟩ := live
  exact ⟨row, same ▸ member, described⟩

private theorem receive_live {step : Step} (commits : Commits server author db step)
    (changed : ¬ Stale server author noteId db step) :
    Live (receive server author db step) noteId := by
  cases step with
  | delete generated id activity => exact absurd trivial changed
  | upsert generated id activity =>
      obtain ⟨⟨next, change⟩, result⟩ := commits
      dsimp only [receive]
      rw [result]
      unfold Stale at changed
      push Not at changed
      obtain ⟨edit, read, rfl, isNew, changed⟩ := changed
      unfold processRemoteStatusActivity at result
      obtain ⟨_, result⟩ := guard_ok result
      obtain ⟨other, otherRead, result⟩ := bind_ok result
      cases otherRead.symm.trans read
      obtain ⟨quote, _, result⟩ := bind_ok result
      cases registered : isNewInboxActivity server.format server.sha256 db.markers activity
          author.id generated.poll.now with
      | mk marker answer =>
          rw [registered] at result isNew
          dsimp only at isNew
          rw [isNew] at result
          obtain ⟨stored, upsert, polled, upserted, polling, rows⟩ := applyEdit_rows result
          have live := processRemoteStatusUpsert_live upserted changed
          have linked := (live.of_rows (storePoll_rows polling)).link upsert.status
          exact linked.of_rows rows
  | fetch generated url parent document authorDeleted =>
      obtain ⟨⟨next, status⟩, result⟩ := commits
      dsimp only [receive]
      rw [result]
      unfold Stale at changed
      push Not at changed
      obtain ⟨edit, read, rfl, changed⟩ := changed
      obtain ⟨other, otherRead, result⟩ := bind_ok result
      cases otherRead.symm.trans read
      obtain ⟨⟨stored, upsert⟩, upserted, result⟩ := bind_ok result
      obtain ⟨polled, polling, result⟩ := bind_ok result
      cases result
      have live := processRemoteStatusUpsert_live upserted changed
      exact (live.of_rows (storePoll_rows polling)).link upsert.status

/-- In every run that contains a Delete of a Note by its author, the Note is not
live afterwards as long as every later step is stale for it; a step that is not
stale and commits brings it back. -/
theorem deletion_final {start : Db} (schema : Schema start) (owned : Owned start author.id noteId)
    (before after : List Step) {id : String} {activity : Json}
    (deletes : Deletes server author noteId ((cache server author).run start before) id activity) :
    ((∀ earlier step later, after = earlier ++ step :: later → Stale server author noteId
        ((cache server author).run start (before ++ .delete generated id activity :: earlier))
        step) →
      ∀ earlier later, after = earlier ++ later → ¬ Live
        ((cache server author).run start (before ++ .delete generated id activity :: earlier))
        noteId) ∧
    ∀ db step, Commits server author db step → ¬ Stale server author noteId db step →
      Live (receive server author db step) noteId := by
  refine ⟨?_, fun db step => receive_live⟩
  intro stale earlier
  have schemaBefore := (cache server author).run_invariant Schema
    (fun db step => (receive_rows noteId db step).2) schema before
  have ownedBefore := (cache server author).run_invariant (Owned · author.id noteId)
    (fun db step => receive_owned) owned before
  induction earlier using List.reverseRecOn with
  | nil =>
      intro later _
      rw [Machine.run_snoc]
      exact receive_deletes schemaBefore ownedBefore deletes
  | append_singleton earlier step ih =>
      intro later split
      have shape : after = earlier ++ step :: later := by rw [split, List.append_assoc]; rfl
      have quiet := ih (step :: later) shape
      rw [← List.cons_append, ← List.append_assoc, Machine.run_snoc]
      exact receive_quiet quiet (stale earlier step later shape)

instance (db : Db) (note : String) : Decidable (Live db note) :=
  inferInstanceAs (Decidable (∃ row ∈ db.remoteStatuses, _))

namespace Sample

def ids : Generated :=
  ⟨⟨100⟩, ⟨1782864600000000, 200, ⟨300⟩, fun row => row⟩,
    ⟨400, "https://roosty.test/quote-authorizations/400", 401, fun _ => none⟩⟩

def deleteId : String := "https://remote.example/delete/1"

def deleteJson : Json := .object
  [("id", .string deleteId), ("type", .string "Delete"),
    ("actor", .string Inbox.Sample.alice.activitypubId), ("object", .string noteUri)]

def deleteNote : Step := .delete ids deleteId deleteJson

def Said.step (said : Said) : Step := .upsert ids said.id said.json

def after (steps : List Step) : Db := (cache receiver Inbox.Sample.alice).run start steps

end Sample

open Sample in
theorem deletion_final_counted :
    ¬ Live (after [created.step, deleteNote, counted.step]) noteUri := by
  have schema : Schema start := ⟨by decide, by decide⟩
  have owned : Owned start Inbox.Sample.alice.id noteUri := by
    intro row member
    cases member
  have fresh : Fresh (after [created.step]).toDb deleteJson .delete deleteId :=
    ⟨rfl, rfl, ⟨_, rfl⟩, by decide +kernel⟩
  have deletes : Deletes receiver Inbox.Sample.alice noteUri (after [created.step]) deleteId
      deleteJson := ⟨fresh, by decide +kernel, rfl, rfl, by decide +kernel, by decide +kernel⟩
  have read : readStatusActivity receiver (after [created.step, deleteNote]).toDb counted.json
      Inbox.Sample.alice = .ok counted.delivered.edit := by decide +kernel
  have kept : Kept (after [created.step, deleteNote])
      (counted.delivered.edit.status receiver (after [created.step, deleteNote]).toDb
        Inbox.Sample.alice) counted.delivered.edit.note.attachments := by
    have same : (findRow (after [created.step, deleteNote]) noteUri).any (fun row =>
        !projectionChanged row (counted.delivered.edit.status receiver
          (after [created.step, deleteNote]).toDb Inbox.Sample.alice) &&
        !mediaChanged (currentMedia (after [created.step, deleteNote]) row.id)
          counted.delivered.edit.note.attachments) = true := by decide +kernel
    obtain ⟨row, found, unchanged⟩ := (Option.any_eq_true _ _).mp same
    exact ⟨row, found, .inr unchanged⟩
  refine (deletion_final schema owned [created.step] [counted.step] deletes).1 ?_ [counted.step] []
    rfl
  intro earlier step later split
  cases earlier with
  | nil =>
      cases split
      intro edit sameRead _ _
      cases read.symm.trans sameRead
      exact kept
  | cons _ rest => cases rest <;> cases split

open Sample in
/-- A later Update brings a deleted Note back, and so does a Create that the
Delete overtook. -/
theorem deletion_undone :
    Live (after [created.step]) noteUri ∧ ¬ Live (after [created.step, deleteNote]) noteUri ∧
    Live (after [created.step, deleteNote, reworded.step]) noteUri ∧
    ¬ Live (after [deleteNote]) noteUri ∧ Live (after [deleteNote, created.step]) noteUri := by
  refine ⟨?_, ?_, ?_, ?_, ?_⟩
  · decide +kernel
  · decide +kernel
  · decide +kernel
  · decide +kernel
  · decide +kernel

end Roosty.Federation.Status
