import Mathlib.Data.Prod.Lex
import Roosty.Federation.RemoteStatus
import Roosty.Library.Keyset

/-!
# The edit history of cached statuses

Revisions of a cached Note. Its first edit also stores the version before it, and later
edits append to these. A version is stored once for each timestamp: the table refuses
another one, and the transaction of the activity is rolled back. The cached files of
attachments are left out.
-/

set_option autoImplicit false

namespace Roosty.Federation.Status

open Library Inbox

namespace History

/-!
## Tables
-/

structure RemoteStatusEdit where
  id : Nat
  remoteStatusId : StatusId
  content : String
  spoilerText : String
  sensitive : Bool
  object : Json
  pollOptions : Option (List String)
  createdAt : Int

structure RemoteStatusEditMedia where
  remoteStatusEditId : Nat
  statusOrder : Nat
  remoteUrl : String
  contentType : Option String
  description : Option String

structure HistoryDb where
  cache : Db
  edits : List RemoteStatusEdit
  editMedia : List RemoteStatusEditMedia

/-- The identifiers of the snapshots that one transaction may store. -/
structure EditIds where
  original : Nat
  revision : Nat

/-!
## Snapshots
-/

def remoteObjectSpoilerText (object : Json) : String :=
  ((object.get? "summary").bind Json.asStr?).getD ""

def remoteObjectSensitive (object : Json) : Bool :=
  match object.get? "sensitive" with
  | some (.bool value) => value
  | _ => false

def remoteObjectPollOptions (object : Json) : Option (List String) :=
  match (object.get? "oneOf").or (object.get? "anyOf") with
  | some (.array options) =>
      some (options.filterMap fun option => (option.get? "name").bind Json.asStr?)
  | _ => none

def withSnapshot (db : HistoryDb) (editId : Nat) (status : RemoteStatus) (createdAt : Int) :
    HistoryDb :=
  let edit : RemoteStatusEdit :=
    ⟨editId, status.id, status.content, remoteObjectSpoilerText status.object,
      remoteObjectSensitive status.object, status.object, remoteObjectPollOptions status.object,
      createdAt⟩
  let media : List RemoteStatusEditMedia := (currentMedia db.cache status.id).mapIdx
    fun order item => ⟨editId, order, item.remoteUrl, item.contentType, item.description⟩
  { db with edits := db.edits ++ [edit], editMedia := db.editMedia ++ media }

def remoteStatusSnapshot (db : HistoryDb) (editId : Nat) (status : RemoteStatus) (createdAt : Int) :
    Except RoostyError HistoryDb :=
  if db.edits.any fun edit => edit.id == editId then .error (.database "remote_status_edit_pkey")
  else if db.edits.any fun edit => edit.remoteStatusId == status.id && edit.createdAt == createdAt then
    .error (.database "remote_status_edit_remote_status_id_created_at_key")
  else .ok (withSnapshot db editId status createdAt)

def originalSnapshot (db : HistoryDb) (editId : Nat) (existing : RemoteStatus) :
    Except RoostyError HistoryDb :=
  if db.edits.any fun edit => edit.remoteStatusId == existing.id then .ok db
  else
    let timestamp :=
      if existing.updatedAt = existing.publishedAt then existing.publishedAt else existing.updatedAt
    remoteStatusSnapshot db editId existing timestamp

variable (server : Server)

def processRemoteStatusUpsert (db : HistoryDb) (generated : Generated) (ids : EditIds)
    (status : NewRemoteStatus) (attachments : List NewRemoteMediaAttachment) :
    Except RoostyError (HistoryDb × RemoteStatusUpsertResult) :=
  match findRow db.cache status.activitypubId with
  | none => do
      let (stored, row) ← storeRemoteStatus server db.cache generated status attachments
      return ({ db with cache := stored }, .created row)
  | some existing =>
      if existing.remoteActorId ≠ status.remoteActorId then
        .error (.invalidInput "remote status author does not match cached author")
      else if status.updatedAt ≤ existing.updatedAt * 1000 ∨
          (!projectionChanged existing status &&
            !mediaChanged (currentMedia db.cache existing.id) attachments) = true then
        .ok (db, .unchanged existing)
      else do
        let kept ← originalSnapshot db ids.original existing
        let (stored, row) ← storeRemoteStatus server kept.cache generated status attachments
        let current ← okOr (stored.remoteStatuses.find? fun other => other.id == row.id)
          (.invalidInput "remote status disappeared")
        let next ← remoteStatusSnapshot { kept with cache := stored } ids.revision current
          (server.timestamptz status.updatedAt)
        return (next, .updated row)

/-!
## Reading a history
-/

structure Revision where
  content : String
  spoilerText : String
  sensitive : Bool
  object : Json
  pollOptions : Option (List String)
  createdAt : Int
  media : List NewRemoteMediaAttachment
deriving DecidableEq

def revisionMedia (db : HistoryDb) (editId : Nat) : List NewRemoteMediaAttachment :=
  ((db.editMedia.filter fun item => item.remoteStatusEditId == editId).insertionSort
    fun left right => left.statusOrder ≤ right.statusOrder).map
      fun item => ⟨item.remoteUrl, item.contentType, item.description⟩

def revision (db : HistoryDb) (edit : RemoteStatusEdit) : Revision :=
  ⟨edit.content, edit.spoilerText, edit.sensitive, edit.object, edit.pollOptions, edit.createdAt,
    revisionMedia db edit.id⟩

def remoteStatusEdits (db : HistoryDb) (statusId : StatusId) : List Revision :=
  (Keyset.arrange (fun edit => toLex (edit.createdAt, edit.id))
    (db.edits.filter fun edit => edit.remoteStatusId == statusId)).map (revision db)

end History

end Roosty.Federation.Status
