import Roosty.Status.Scheduling

/-!
# Editing statuses

Edits of local statuses and of their quote policies, and the runs of every entry point
that writes a local status. Edit histories are left out.
-/

set_option autoImplicit false

namespace Roosty.Status.Posting

open Library
open Federation.Inbox (QuoteApprovalPolicy QuoteState)
open Poll (NewStatusPoll Segmentation validatePoll)
open Timeline (isOpen)

structure LocalStatusUpdate where
  content : Option String
  sensitive : Option Bool
  spoilerText : Option String
  language : Option (Option String)
  poll : Option NewStatusPoll

def LocalStatusUpdate.scalarChanged (update : LocalStatusUpdate) (status : LocalStatus) : Bool :=
  update.content.any (· != status.content) || update.sensitive.any (· != status.sensitive) ||
    update.spoilerText.any (· != status.spoilerText) ||
    update.language.any (· != status.language)

def LocalStatusUpdate.apply (update : LocalStatusUpdate) (status : LocalStatus) : LocalStatus :=
  { status with
    content := update.content.getD status.content
    sensitive := update.sensitive.getD status.sensitive
    spoilerText := update.spoilerText.getD status.spoilerText
    language := update.language.getD status.language }

/-- Whether an attribute names media that the status lacks, or says something new. -/
def attributeChanged (current : List LocalMediaAttachment)
    (item : LocalStatusMediaAttributeUpdate) : Bool :=
  match current.find? fun media => media.id == item.mediaId with
  | none => true
  | some media => item.description.any (· != media.description) ||
      item.focus.any fun (x, y) => media.focusX != some x || media.focusY != some y

/-- Whether an upload may become media of an edited status. A reservation is not looked
at. -/
def editMediaAvailable (account : AccountId) (statusId : StatusId)
    (media : LocalMediaAttachment) : Bool :=
  media.statusId.all (· == statusId) && media.accountId == account

def replaceMedia (db : Db) (account : AccountId) (statusId : StatusId) :
    Option (List Nat) → Except RoostyError (List LocalMediaAttachment)
  | none => .ok db.media
  | some mediaIds => do
      checkMedia db (editMediaAvailable account statusId) mediaIds
      attachMedia "media attachment not found" (fun index media =>
        { media with statusId := some statusId, statusOrder := index }) 0 mediaIds
        (Table.updateWhere
          (fun media => media.statusId == some statusId && !mediaIds.contains media.id)
          (fun media => { media with statusId := none, statusOrder := 0 }) db.media)

def LocalStatusMediaAttributeUpdate.apply (item : LocalStatusMediaAttributeUpdate)
    (media : LocalMediaAttachment) : LocalMediaAttachment :=
  { media with
    description := item.description.getD media.description
    focusX := (item.focus.map Prod.fst).or media.focusX
    focusY := (item.focus.map Prod.snd).or media.focusY }

def updateAttribute (account : AccountId) (statusId : StatusId)
    (media : List LocalMediaAttachment) (item : LocalStatusMediaAttributeUpdate) :
    Except RoostyError (List LocalMediaAttachment) :=
  if media.any fun row => row.id == item.mediaId && row.accountId == account &&
      row.statusId == some statusId then
    .ok (Table.updateWhere (fun row => row.id == item.mediaId) item.apply media)
  else .error (.invalidInput "media attachment is not available")

def replaceLocalPoll (segmentation : Segmentation) (polls : List StatusPoll) (statusId : StatusId) :
    Option NewStatusPoll → Except RoostyError (List StatusPoll)
  | none => .ok (Table.deleteWhere (fun poll => poll.localStatusId == statusId) polls)
  | some input => do
      validatePoll segmentation input
      .ok (if polls.any fun poll => poll.localStatusId == statusId then
        Table.updateWhere (fun poll => poll.localStatusId == statusId)
          (fun _ => pollRow statusId input) polls
        else polls ++ [pollRow statusId input])

def replaceRecipients (recipients : List Timeline.Recipient) (statusId : StatusId)
    (localRecipientIds : List AccountId) : List Timeline.Recipient :=
  Table.deleteWhere (fun row => row.statusId == statusId) recipients ++
    localRecipientIds.eraseDups.map fun account => ⟨statusId, account⟩

def writeLocalStatusUpdate (env : Environment) (db : Db) (status : LocalStatus)
    (update : LocalStatusUpdate) (mediaIds : Option (List Nat))
    (mediaAttributes : List LocalStatusMediaAttributeUpdate) (localRecipientIds : List AccountId) :
    Except RoostyError Db := do
  let replaced ← replaceMedia db status.accountId status.id mediaIds
  let media ← mediaAttributes.foldlM (updateAttribute status.accountId status.id) replaced
  let polls ← replaceLocalPoll env.segmentation db.polls status.id update.poll
  .ok { db with
    statuses := Table.updateWhere (fun row => row.id == status.id) update.apply db.statuses
    media := media
    polls := polls
    recipients := if status.visibility == .direct then
        replaceRecipients db.recipients status.id localRecipientIds
      else db.recipients }

/-- Whether an edit changes what is stored. `metadataChanged` compares the tags and remote
mentions of the text with the stored ones. -/
def updateChanges (db : Db) (status : LocalStatus) (update : LocalStatusUpdate)
    (mediaIds : Option (List Nat)) (mediaAttributes : List LocalStatusMediaAttributeUpdate)
    (metadataChanged : Bool) : Bool :=
  let currentMedia := mediaOfStatus db status.id
  let currentIds := currentMedia.map fun media => media.id
  update.scalarChanged status || mediaIds.getD currentIds != currentIds ||
    mediaAttributes.any (attributeChanged currentMedia) || metadataChanged ||
    (hasPoll db status.id || update.poll.isSome)

/-- An owned status that is not deleted. -/
def ownedStatus (db : Db) (statusId : StatusId) (account : AccountId) : Option LocalStatus :=
  db.statuses.find? fun status =>
    status.id == statusId && status.accountId == account && status.deletedAt.isNone

def updateOwnedLocalStatus (env : Environment) (db : Db) (statusId : StatusId)
    (account : AccountId) (update : LocalStatusUpdate) (mediaIds : Option (List Nat))
    (mediaAttributes : List LocalStatusMediaAttributeUpdate) (localRecipientIds : List AccountId)
    (metadataChanged : Bool) : Except RoostyError (Option Db) :=
  match ownedStatus db statusId account with
  | none => .ok none
  | some status =>
      if updateChanges db status update mediaIds mediaAttributes metadataChanged then
        (writeLocalStatusUpdate env db status update mediaIds mediaAttributes
          localRecipientIds).map some
      else .ok (some db)

/-- Change the policy on an owned status while serializing concurrent updates. -/
def updateLocalStatusQuotePolicy (db : Db) (statusId : StatusId) (account : AccountId)
    (policy : QuoteApprovalPolicy) : Option Db :=
  (ownedStatus db statusId account).map fun status =>
    { db with
      statuses := Table.updateWhere (fun row => row.id == status.id) (fun row =>
        { row with quoteApprovalPolicy := effectivePolicy row.visibility policy }) db.statuses }

def parseEditedMedia : Option (List String) → Except StatusInputError (Option (List Nat))
  | none => .ok none
  | some values => (parseMediaIds values).map some

def checkEditedPoll (segmentation : Segmentation) (hasMedia : Bool) :
    Option NewStatusPoll → Except ErrorResponse Unit
  | none => .ok ()
  | some poll => do
      ensure (!hasMedia) (.badRequest "a status cannot contain both media and a poll")
      (validatePoll segmentation poll).mapError fun
        | .invalidInput error => .badRequest ("invalid input: " ++ error)
        | .database error => .badRequest ("database error: " ++ error)

def checkEditedText (hasMedia : Bool) : Option String → Except ErrorResponse Unit
  | none => .ok ()
  | some status => (validateStatusText status hasMedia).mapError inputError

section

variable (env : Environment) (db : Db) (account : LocalAccount) (input : StatusInput)

def localStatusUpdate : LocalStatusUpdate where
  content := input.status.map Text.trim
  sensitive := input.sensitive
  spoilerText := input.spoilerText
  language := input.language.map some
  poll := input.poll

/-- The local accounts that an edited private or direct status addresses. -/
def editedAudience (existing : LocalStatus) : List AccountId :=
  if isOpen existing.visibility then []
  else
    (localTextMentions db env.text ((localStatusUpdate input).content.getD existing.content)).filter
      (· != account.id)

def editedHasMedia (statusId : StatusId) : Option (List Nat) → Bool
  | some mediaIds => !mediaIds.isEmpty
  | none => localStatusHasMedia db statusId

def updatePolicy (updated : Db) (statusId : StatusId) : Except ErrorResponse Db :=
  match input.quoteApprovalPolicy with
  | none => .ok updated
  | some policy =>
      okOr (updateLocalStatusQuotePolicy updated statusId account.id policy) .notFound

def updateStatus (statusId : StatusId) (metadataChanged : Bool) : Except ErrorResponse Db := do
  let existing ← okOr ((findLocalStatusById db statusId).filter fun status =>
    status.accountId == account.id && status.deletedAt.isNone) .notFound
  ensure input.quotedStatusId.isNone
    (.badRequest "a quote target cannot be added or changed after publication")
  let mediaIds ← (parseEditedMedia input.mediaIds).mapError inputError
  let mediaAttributes ←
    (parseMediaAttributes env.parseF64 input.mediaAttributes).mapError inputError
  let hasMedia := editedHasMedia db statusId mediaIds
  checkEditedPoll env.segmentation hasMedia input.poll
  checkEditedText (hasMedia || input.poll.isSome) input.status
  let result ← (updateOwnedLocalStatus env db statusId account.id (localStatusUpdate input) mediaIds
    mediaAttributes (editedAudience env db account input existing) metadataChanged).mapError
      reportError
  let updated ← okOr result .notFound
  updatePolicy account input updated statusId

def updateInteractionPolicy (statusId : StatusId) : Except ErrorResponse Db := do
  let policy ← okOr input.quoteApprovalPolicy (.badRequest "quote_approval_policy is required")
  let _ ← okOr ((findLocalStatusById db statusId).filter fun status =>
    status.accountId == account.id) .notFound
  okOr (updateLocalStatusQuotePolicy db statusId account.id policy) .notFound

end

/-!
## Runs
-/

inductive Call where
  | create (account : LocalAccount) (input : StatusInput) (id : StatusId)
  | schedule (now : Int) (account : LocalAccount) (input : StatusInput) (id : Nat)
      (publicationStatusId : StatusId)
  | publish (now : Int) (id : Nat)
  | cancel (account : LocalAccount) (id : Nat)
  | edit (account : LocalAccount) (statusId : StatusId) (input : StatusInput)
      (metadataChanged : Bool)
  | updatePolicy (account : LocalAccount) (statusId : StatusId) (input : StatusInput)
  | relate (relations : Relations)

def perform (env : Environment) (db : Db) : Call → Except ErrorResponse Db
  | .create account input id => createStatusFromInput env db account input none id
  | .schedule now account input id publicationStatusId =>
      createScheduledStatus env now db account input id publicationStatusId
  | .publish now id => (publishScheduledStatus env now db id).mapError .serverError
  | .cancel account id => .ok (cancelScheduledStatus db account.id id)
  | .edit account statusId input metadataChanged =>
      updateStatus env db account input statusId metadataChanged
  | .updatePolicy account statusId input => updateInteractionPolicy db account input statusId
  | .relate relations => .ok { db with toRelations := relations }

/-- Requests do not overlap, although `update_status` checks media against a poll before
`update_owned_local_status` locks the status. A request that fails changes nothing. -/
def machine (env : Environment) : Machine Db Call (Except ErrorResponse Unit) where
  step db call := match perform env db call with
    | .ok next => (next, .ok ())
    | .error error => (db, .error error)

end Roosty.Status.Posting
