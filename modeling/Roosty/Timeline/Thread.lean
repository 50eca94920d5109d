import Roosty.Timeline.Visibility

/-!
# Thread context

The ancestors and descendants of a status, over local and cached remote statuses. Both
walks are bounded: a walk upwards adds an ancestor in each round, and every entry of the
queue of the walk downwards but the first stands for a collected descendant.
-/

set_option autoImplicit false

namespace Roosty.Timeline

inductive StatusContextItem where
  | localItem (status : LocalStatus)
  | remoteItem (status : RemoteStatus)
deriving DecidableEq

namespace StatusContextItem

def id : StatusContextItem → StatusId
  | .localItem status => status.id
  | .remoteItem status => status.id

def reference : StatusContextItem → StatusReference
  | .localItem status => .localStatus status.id
  | .remoteItem status => .remoteStatus status.id

end StatusContextItem

structure StatusContextLimits where
  ancestors : Nat
  descendants : Nat
  descendantsDepth : Option Nat
deriving DecidableEq

def StatusContextLimits.forViewer (viewer : Option AccountId) : StatusContextLimits :=
  if viewer.isSome then ⟨4096, 4096, none⟩ else ⟨40, 60, some 20⟩

def statusContextParent : StatusContextItem → Option StatusReference
  | .localItem status =>
      (status.inReplyToId.map .localStatus).or (status.inReplyToRemoteStatusId.map .remoteStatus)
  | .remoteItem status =>
      (status.inReplyToLocalStatusId.map .localStatus).or
        (status.inReplyToRemoteStatusId.map .remoteStatus)

variable (db : Db)

def findStatusContextItem (id : StatusId) : Option StatusContextItem :=
  ((findLocalStatusById db id).map .localItem).or ((findRemoteStatusById db id).map .remoteItem)

def findStatusContextParent : StatusReference → Option StatusContextItem
  | .localStatus id => (findLocalStatusById db id).map .localItem
  | .remoteStatus id => (findRemoteStatusById db id).map .remoteItem

def statusContextItemVisible (viewer : Option AccountId) : StatusContextItem → Bool
  | .localItem status =>
      match findLocalAccountById db status.accountId with
      | none => false
      | some author =>
          if author.suspendedAt.isSome then false else statusVisibleToViewerOn db status viewer
  | .remoteItem status =>
      match findRemoteActorById db status.remoteActorId with
      | none => false
      | some author =>
          if author.deletedAt.isSome || author.suspendedAt.isSome || author.dataPurgedAt.isSome ||
              db.domainIsSuspended author.domain then false
          else
            match viewer with
            | some viewer => remoteStatusVisibleToAccount db status viewer
            | none => isOpen status.visibility

def LocalStatus.repliesTo (status : LocalStatus) : StatusReference → Bool
  | .localStatus id => status.inReplyToId == some id
  | .remoteStatus id => status.inReplyToRemoteStatusId == some id

def RemoteStatus.repliesTo (status : RemoteStatus) : StatusReference → Bool
  | .localStatus id => status.inReplyToLocalStatusId == some id
  | .remoteStatus id => status.inReplyToRemoteStatusId == some id

def statusContextReplies (parent : StatusReference) : List StatusContextItem :=
  let locals := db.localStatuses.filter fun status =>
    status.repliesTo parent && status.deletedAt.isNone
  let remotes := db.remoteStatuses.filter fun status =>
    status.repliesTo parent && status.deletedAt.isNone
  (locals.map StatusContextItem.localItem ++ remotes.map StatusContextItem.remoteItem)
    |>.insertionSort fun left right => left.id.value ≤ right.id.value

/-!
## Ancestors
-/

/-- The loop of `status_ancestors`, for a number of ancestors still to collect. -/
def collectAncestors (viewer : Option AccountId) :
    Nat → List StatusReference → Option StatusReference → List StatusContextItem
  | 0, _, _ => []
  | _ + 1, _, none => []
  | remaining + 1, seen, some parentId =>
      if seen.contains parentId then []
      else
        match findStatusContextParent db parentId with
        | none => []
        | some parent =>
            if statusContextItemVisible db viewer parent then
              parent :: collectAncestors viewer remaining (parentId :: seen)
                (statusContextParent parent)
            else []

/-- Walk visible cached parent statuses from root ancestor to direct parent. -/
def statusAncestors (status : StatusContextItem) (viewer : Option AccountId)
    (limits : StatusContextLimits) : List StatusContextItem :=
  (collectAncestors db viewer limits.ancestors [] (statusContextParent status)).reverse

/-!
## Descendants
-/

structure Descent where
  queue : List (StatusReference × Nat)
  descendants : List StatusContextItem
deriving DecidableEq

/-- The loop over the replies of one status; it may end the whole walk. -/
def collectReplies (viewer : Option AccountId) (limits : StatusContextLimits)
    (seen : List StatusReference) (depth : Nat) :
    List StatusContextItem → Descent → Descent × Bool
  | [], descent => (descent, false)
  | reply :: replies, descent =>
      if limits.descendants ≤ descent.descendants.length then (descent, true)
      else if seen.contains reply.reference || !statusContextItemVisible db viewer reply then
        collectReplies viewer limits seen depth replies descent
      else
        collectReplies viewer limits seen depth replies
          ⟨descent.queue ++ [(reply.reference, depth + 1)], descent.descendants ++ [reply]⟩

/-- The loop over the queue, for a number of rounds; `none` when they do not suffice. -/
def collectDescendants (viewer : Option AccountId) (limits : StatusContextLimits) :
    Nat → List StatusReference → Descent → Option (List StatusContextItem)
  | rounds, seen, ⟨queue, descendants⟩ =>
      match rounds, queue with
      | _, [] => some descendants
      | 0, _ :: _ => none
      | rounds + 1, (parentId, depth) :: queue =>
          if seen.contains parentId then
            collectDescendants viewer limits rounds seen ⟨queue, descendants⟩
          else if limits.descendantsDepth.any (· ≤ depth) then
            collectDescendants viewer limits rounds (parentId :: seen) ⟨queue, descendants⟩
          else
            match collectReplies db viewer limits (parentId :: seen) depth
                (statusContextReplies db parentId) ⟨queue, descendants⟩ with
            | (descent, true) => some descent.descendants
            | (descent, false) =>
                collectDescendants viewer limits rounds (parentId :: seen) descent

/-- Collect visible cached replies below a status in conversation order. -/
def statusDescendants (status : StatusContextItem) (viewer : Option AccountId)
    (limits : StatusContextLimits) : Option (List StatusContextItem) :=
  collectDescendants db viewer limits (limits.descendants + 1) [] ⟨[(status.reference, 0)], []⟩

def visibleStatusThreadOn (statusId : StatusId) (viewer : Option AccountId) :
    Option (StatusContextItem × List StatusContextItem × Option (List StatusContextItem)) :=
  match findStatusContextItem db statusId with
  | none => none
  | some status =>
      if statusContextItemVisible db viewer status then
        let limits := StatusContextLimits.forViewer viewer
        some (status, statusAncestors db status viewer limits,
          statusDescendants db status viewer limits)
      else none

end Roosty.Timeline
