import Mathlib.Algebra.Group.Nat.Defs
import Roosty.Library.Paging
import Roosty.Library.Text
import Roosty.Timeline.Visibility

/-!
# Statuses of one account

The profile timelines of local accounts and cached remote actors. The condition trees of
their queries state again who may read a status.
-/

set_option autoImplicit false

namespace Roosty.Timeline

open Library

/-!
## Pages
-/

structure TimelineCursor where
  maxId : Option StatusId
  sinceId : Option StatusId
  minId : Option StatusId
deriving DecidableEq

def timelineLimit (limit : Option Nat) : Nat :=
  min (max (limit.getD 20) 1) 40

/-- `limit.saturating_add(1)` of a `u64`. -/
def pageQueryLimit (limit : Nat) : Nat :=
  min (limit + 1) (2 ^ 64 - 1)

def applyTimelineCursor (cursor : TimelineCursor) (id : StatusId) : Bool :=
  cursor.maxId.all (fun bound => id.value < bound.value) &&
    cursor.sinceId.all (fun bound => bound.value < id.value) &&
    cursor.minId.all (fun bound => bound.value < id.value)

structure LocalTag where
  id : Nat
  name : String
deriving DecidableEq

structure AccountDb extends Db where
  localMedia : List StatusId
  remoteMedia : List StatusId
  localTags : List LocalTag
  localStatusTags : List (StatusId × Nat)
  remoteStatusTags : List (StatusId × Nat)

structure AccountStatusTimelineOptions where
  excludeReplies : Bool
  onlyMedia : Bool
  tagged : Option String
deriving DecidableEq

def AccountStatusTimelineOptions.unfiltered : AccountStatusTimelineOptions :=
  ⟨false, false, none⟩

/-- `toLowercase` is `str::to_lowercase`. -/
def normalizeTagName (toLowercase : String → String) (name : String) : String :=
  toLowercase (String.ofList ((Text.trim name).toList.dropWhile (· == '#')))

variable (toLowercase : String → String) (db : AccountDb)

def findLocalTagByName (name : String) : Option LocalTag :=
  let name := normalizeTagName toLowercase name
  if name.isEmpty then none else db.localTags.find? fun tag => tag.name == name

/-!
## Queries
-/

def localStatusListed (accountId : AccountId) (viewer : Option AccountId) (status : LocalStatus) :
    Bool :=
  viewer == some accountId || isOpen status.visibility ||
    viewer.any fun viewer =>
      (status.visibility == .privateStatus &&
        (addresses db.localStatusRecipients status.id viewer ||
          follows db.toDb viewer status.accountId)) ||
      (status.visibility == .direct && addresses db.localStatusRecipients status.id viewer)

def remoteStatusListed (viewer : Option AccountId) (status : RemoteStatus) : Bool :=
  isOpen status.visibility ||
    viewer.any fun viewer =>
      status.visibility == .privateStatus &&
        (addresses db.remoteStatusRecipients status.id viewer ||
          followsRemote db.toDb viewer status.remoteActorId)

def localStatusesByAccount (accountId : AccountId) (viewer : Option AccountId) (limit : Nat)
    (cursor : TimelineCursor) (options : AccountStatusTimelineOptions) : Paging.Page LocalStatus :=
  let query := db.localStatuses.filter fun status =>
    status.accountId == accountId && status.deletedAt.isNone &&
      localStatusListed db accountId viewer status &&
      (!options.excludeReplies ||
        (status.inReplyToId.isNone && status.inReplyToRemoteStatusId.isNone)) &&
      (!options.onlyMedia || db.localMedia.contains status.id)
  let load := fun query : List LocalStatus =>
    Paging.page (fun status => status.id.value) limit (pageQueryLimit limit)
      (query.filter fun status => applyTimelineCursor cursor status.id)
  match options.tagged with
  | none => load query
  | some tag =>
      match findLocalTagByName toLowercase db tag with
      | none => .empty
      | some tag => load (query.filter fun status => db.localStatusTags.contains (status.id, tag.id))

def remoteStatusesByAccount (accountId : AccountId) (viewer : Option AccountId) (limit : Nat)
    (cursor : TimelineCursor) (options : AccountStatusTimelineOptions) : Paging.Page RemoteStatus :=
  let query := db.remoteStatuses.filter fun status =>
    status.remoteActorId == accountId && status.deletedAt.isNone &&
      remoteStatusListed db viewer status &&
      applyTimelineCursor cursor status.id &&
      (!options.excludeReplies || status.inReplyTo.isNone) &&
      (!options.onlyMedia || db.remoteMedia.contains status.id)
  let load := Paging.page (fun status : RemoteStatus => status.id.value) limit (pageQueryLimit limit)
  match options.tagged with
  | none => load query
  | some tag =>
      match findLocalTagByName toLowercase db tag with
      | none => .empty
      | some tag =>
          load (query.filter fun status => db.remoteStatusTags.contains (status.id, tag.id))

/-!
## Whole timelines
-/

/-- A timeline read to its end, each page below the last status of the one before. -/
def walkTimeline {Status : Type} (load : TimelineCursor → Paging.Page Status) (rounds : Nat) :
    Option (List Status) :=
  Paging.walk (fun cursor => load ⟨cursor.map StatusId.mk, none, none⟩) rounds none

def allLocalStatusesByAccount (accountId : AccountId) (viewer : Option AccountId)
    (limit : Option Nat) : Option (List LocalStatus) :=
  walkTimeline (fun cursor =>
    localStatusesByAccount toLowercase db accountId viewer (timelineLimit limit) cursor .unfiltered)
    (db.localStatuses.length + 1)

def allRemoteStatusesByAccount (accountId : AccountId) (viewer : Option AccountId)
    (limit : Option Nat) : Option (List RemoteStatus) :=
  walkTimeline (fun cursor =>
    remoteStatusesByAccount toLowercase db accountId viewer (timelineLimit limit) cursor .unfiltered)
    (db.remoteStatuses.length + 1)

end Roosty.Timeline
