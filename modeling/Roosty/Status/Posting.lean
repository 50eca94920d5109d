import Mathlib.Data.List.Infix
import Mathlib.Data.List.Sort
import Roosty.Content.Links
import Roosty.Federation.Inbox
import Roosty.Library.Machine
import Roosty.Library.Result
import Roosty.Library.Uuid
import Roosty.Poll.Tables
import Roosty.Timeline.Visibility

/-!
# Posting statuses

The creation of local statuses, in one transaction that a failure rolls back.
Conversations, tags, remote mentions, notifications, previews, deliveries and responses
are left out: none of them refuses a status.
-/

set_option autoImplicit false

namespace Roosty.Status.Posting

open Library
open Federation.Inbox (QuoteApprovalPolicy QuoteState)
open Poll (NewStatusPoll Segmentation validatePoll)
open Timeline (isOpen)

/-!
## Tables
-/

structure LocalAccount extends Timeline.LocalAccount where
  username : String
  defaultVisibility : StatusVisibility
  defaultSensitive : Bool
  defaultLanguage : Option String
  defaultQuotePolicy : QuoteApprovalPolicy
deriving DecidableEq

structure RemoteActor extends Timeline.RemoteActor where
  username : String
  followersUrl : Option String
deriving DecidableEq

structure LocalStatus extends Timeline.LocalStatus where
  content : String
  sensitive : Bool
  spoilerText : String
  language : Option String
  quoteApprovalPolicy : QuoteApprovalPolicy
deriving DecidableEq

structure RemoteStatus extends Timeline.RemoteStatus where
  quoteAutomaticPolicy : List String
  quoteManualPolicy : List String
deriving DecidableEq

structure LocalMediaAttachment where
  id : Nat
  accountId : AccountId
  statusId : Option StatusId
  scheduledStatusId : Option Nat
  statusOrder : Nat
  description : Option String
  focusX : Option Rat
  focusY : Option Rat
deriving DecidableEq

structure StatusPoll where
  localStatusId : StatusId
  options : List String
  multiple : Bool
  hideTotals : Bool
deriving DecidableEq

structure StatusQuote where
  localQuotingStatusId : StatusId
  quotedStatus : StatusReference
  state : QuoteState
deriving DecidableEq

structure ScheduledStatus where
  id : Nat
  accountId : AccountId
  publicationStatusId : StatusId
  content : String
  visibility : StatusVisibility
  sensitive : Bool
  spoilerText : String
  language : Option String
  inReplyToId : Option StatusId
  inReplyToRemoteStatusId : Option StatusId
  quotedStatusId : Option StatusId
  quoteApprovalPolicy : QuoteApprovalPolicy
  scheduledAt : Int
  poll : Option NewStatusPoll

/-- The rows that only other parts of the program write. -/
structure Relations where
  accounts : List LocalAccount
  actors : List RemoteActor
  remoteStatuses : List RemoteStatus
  localFollows : List Timeline.LocalFollow
  remoteFollowings : List Timeline.RemoteFollowing
  remoteStatusRecipients : List Timeline.Recipient
  localAccountBlocks : List Timeline.AccountPair
  localRemoteAccountBlocks : List Timeline.AccountPair
  /-- Remote actors that block a local account: the account and the actor. -/
  remoteLocalAccountBlocks : List Timeline.AccountPair

structure Db extends Relations where
  statuses : List LocalStatus
  recipients : List Timeline.Recipient
  media : List LocalMediaAttachment
  polls : List StatusPoll
  quotes : List StatusQuote
  schedules : List ScheduledStatus

structure Environment where
  text : Content.TextContext
  segmentation : Segmentation
  /-- `str::parse::<f64>`, of finite numbers. -/
  parseF64 : String → Option Rat
  /-- `OffsetDateTime::parse` for RFC 3339: an instant and the offset from UTC. -/
  parseRfc3339 : String → Option (Int × Int)
  minimumOffset : Int
  totalLimit : Nat
  dailyLimit : Nat

/-- The rows that decide who sees a status. No check below reads domain policies. -/
def Db.timeline (db : Db) : Timeline.Db where
  localAccounts := db.accounts.map LocalAccount.toLocalAccount
  remoteActors := db.actors.map RemoteActor.toRemoteActor
  localStatuses := db.statuses.map LocalStatus.toLocalStatus
  remoteStatuses := db.remoteStatuses.map RemoteStatus.toRemoteStatus
  localFollows := db.localFollows
  remoteFollowings := db.remoteFollowings
  localStatusRecipients := db.recipients
  remoteStatusRecipients := db.remoteStatusRecipients
  localAccountBlocks := db.localAccountBlocks
  localRemoteAccountBlocks := db.localRemoteAccountBlocks
  domainIsSuspended := fun _ => false

section

variable (db : Db)

def findLocalAccountById (id : AccountId) : Option LocalAccount :=
  db.accounts.find? fun account => account.id == id

def findRemoteActorById (id : AccountId) : Option RemoteActor :=
  db.actors.find? fun actor => actor.id == id

def findLocalStatusById (id : StatusId) : Option LocalStatus :=
  db.statuses.find? fun status => status.id == id && status.deletedAt.isNone

def findRemoteStatusById (id : StatusId) : Option RemoteStatus :=
  db.remoteStatuses.find? fun status => status.id == id && status.deletedAt.isNone

def findMediaById (id : Nat) : Option LocalMediaAttachment :=
  db.media.find? fun media => media.id == id

def statusVisibleToViewer (status : LocalStatus) (viewer : AccountId) : Bool :=
  Timeline.statusVisibleToViewerOn db.timeline status.toLocalStatus (some viewer)

def remoteStatusVisibleToAccount (status : RemoteStatus) (account : AccountId) : Bool :=
  Timeline.remoteStatusVisibleToAccount db.timeline status.toRemoteStatus account

def localRemoteAccountsAreBlocked (account actor : AccountId) : Bool :=
  Timeline.blocksRemote db.timeline account actor ||
    db.remoteLocalAccountBlocks.any fun row => row.accountId == account && row.targetId == actor

/-- Resolve local `@username` references present in status text. -/
def localTextMentions (text : Content.TextContext) (content : String) : List AccountId :=
  (Content.mentionUsernames text content.toList).eraseDups.filterMap fun username =>
    (db.accounts.find? fun account => account.username.toList == username).map
      fun account => account.id

def mediaOfStatus (status : StatusId) : List LocalMediaAttachment :=
  (db.media.filter fun media => media.statusId == some status).insertionSort
    fun one two => one.statusOrder ≤ two.statusOrder

def mediaAttachmentsForScheduledStatus (id : Nat) : List LocalMediaAttachment :=
  (db.media.filter fun media => media.scheduledStatusId == some id).insertionSort
    fun one two => one.statusOrder ≤ two.statusOrder

def localStatusHasMedia (status : StatusId) : Bool :=
  db.media.any fun media => media.statusId == some status

def hasPoll (status : StatusId) : Bool :=
  db.polls.any fun poll => poll.localStatusId == status

def hasQuote (status : StatusId) : Bool :=
  db.quotes.any fun quote => quote.localQuotingStatusId == status

end

/-!
## Inputs
-/

structure MediaAttributeInput where
  id : String
  description : Option String
  focus : Option String
deriving DecidableEq

structure StatusInput where
  status : Option String
  visibility : Option StatusVisibility
  sensitive : Option Bool
  spoilerText : Option String
  language : Option String
  inReplyToId : Option String
  mediaIds : Option (List String)
  mediaAttributes : List MediaAttributeInput
  quotedStatusId : Option String
  quoteApprovalPolicy : Option QuoteApprovalPolicy
  scheduledAt : Option String
  poll : Option NewStatusPoll

/-- The failures of validation, after the body has been parsed. -/
inductive StatusInputError where
  | empty
  | tooLong
  | statusId
  | mediaId
  | tooManyMedia
  | mediaAttribute
deriving DecidableEq

def StatusInputError.message : StatusInputError → String
  | .empty => "status must not be empty"
  | .tooLong => "status is too long"
  | .statusId => "status id is invalid"
  | .mediaId => "media id is invalid"
  | .tooManyMedia => "too many media attachments"
  | .mediaAttribute => "media attribute is invalid"

inductive ErrorResponse where
  | badRequest (description : String)
  | unprocessable (description : String)
  | notFound
  | serverError (error : RoostyError)
deriving DecidableEq

def ErrorResponse.isClientError : ErrorResponse → Bool
  | .serverError _ => false
  | _ => true

def inputError (error : StatusInputError) : ErrorResponse := .badRequest error.message

/-- Invalid input is the client's, and any other failure the server's. -/
def reportError : RoostyError → ErrorResponse
  | .invalidInput reason => .badRequest reason
  | error => .serverError error

def maxStatusChars : Nat := 500

def maxMediaAttachments : Nat := 4

def parseMediaId (mediaIds : List Nat) (value : String) : Except StatusInputError (List Nat) :=
  match Text.parseUuid (Text.trim value) with
  | none => .error .mediaId
  | some id => if mediaIds.contains id then .error .mediaId else .ok (mediaIds ++ [id])

def parseMediaIds (values : List String) : Except StatusInputError (List Nat) :=
  if maxMediaAttachments < values.length then .error .tooManyMedia
  else values.foldlM parseMediaId []

def parseOptionalStatusId (value : Option String) : Except StatusInputError (Option StatusId) :=
  match (value.map Text.trim).filter (· != "") with
  | none => .ok none
  | some value => match Text.parseUuid value with
    | none => .error .statusId
    | some id => .ok (some ⟨id⟩)

def validateStatusText (status : String) (hasMedia : Bool) : Except StatusInputError Unit :=
  let trimmed := Text.trim status
  if trimmed == "" && !hasMedia then .error .empty
  else if maxStatusChars < trimmed.length then .error .tooLong
  else .ok ()

structure LocalStatusMediaAttributeUpdate where
  mediaId : Nat
  description : Option (Option String)
  focus : Option (Rat × Rat)
deriving DecidableEq

def normalizeMediaDescription (value : String) : Option (Option String) :=
  if 1500 < value.length then none
  else
    let value := Text.trim value
    some (if value == "" then none else some value)

def parseDescription : Option String → Option (Option (Option String))
  | none => some none
  | some description => (normalizeMediaDescription description).map some

/-- The first failure of the field is `none`, a field without a value `some none`. -/
def parseMediaFocus (parseF64 : String → Option Rat) (value : Option String) :
    Option (Option (Rat × Rat)) :=
  match (value.map Text.trim).filter (· != "") with
  | none => some none
  | some value => do
      let (x, y) ← Text.splitOnce ',' value.toList
      let x ← parseF64 (Text.trim (String.ofList x))
      let y ← parseF64 (Text.trim (String.ofList y))
      if -1 ≤ x ∧ x ≤ 1 ∧ -1 ≤ y ∧ y ≤ 1 then some (some (x, y)) else none

def parseMediaAttribute (parseF64 : String → Option Rat)
    (attributes : List LocalStatusMediaAttributeUpdate) (value : MediaAttributeInput) :
    Except StatusInputError (List LocalStatusMediaAttributeUpdate) := do
  let mediaId ← okOr (Text.parseUuid (Text.trim value.id)) .mediaAttribute
  ensure (!attributes.any fun seen => seen.mediaId == mediaId) .mediaAttribute
  let description ← okOr (parseDescription value.description) .mediaAttribute
  let focus ← okOr (parseMediaFocus parseF64 value.focus) .mediaAttribute
  .ok (attributes ++ [⟨mediaId, description, focus⟩])

def parseMediaAttributes (parseF64 : String → Option Rat) (values : List MediaAttributeInput) :
    Except StatusInputError (List LocalStatusMediaAttributeUpdate) :=
  values.foldlM (parseMediaAttribute parseF64) []

/-- A poll that a new status or schedule cannot have is unprocessable. -/
def checkPoll (segmentation : Segmentation) : Option NewStatusPoll → Except ErrorResponse Unit
  | none => .ok ()
  | some poll => match validatePoll segmentation poll with
    | .error (.invalidInput error) => .error (.unprocessable error)
    | _ => .ok ()

/-- The checks of a new status or schedule that read its input alone. -/
def checkContents (segmentation : Segmentation) (quotes : Bool) (mediaIds : List Nat)
    (poll : Option NewStatusPoll) (text : String) (hasMedia : Bool) :
    Except ErrorResponse Unit := do
  ensure (!(quotes && !mediaIds.isEmpty)) (.badRequest "quote posts cannot include media attachments")
  ensure (!(poll.isSome && !mediaIds.isEmpty))
    (.unprocessable "polls cannot be combined with media attachments")
  checkPoll segmentation poll
  (validateStatusText text hasMedia).mapError inputError

/-!
## Quote and reply targets
-/

structure ResolvedQuoteTarget where
  target : StatusReference
  state : QuoteState
deriving DecidableEq

def effectiveVisibility (target requested : StatusVisibility) : StatusVisibility :=
  if target == .privateStatus && isOpen requested then .privateStatus else requested

/-- A word that is `@username` between other characters. -/
def mentionsLocalAuthor (text : Content.TextContext) (username content : String) : Bool :=
  (Text.splitWhitespace content.toList).any fun word =>
    Text.trimMatches (fun character =>
      !text.isAlphanumeric character && character != '@' && character != '_') word ==
        '@' :: username.toList

def mentionsRemoteAuthor (actor : RemoteActor) (content : String) : Bool :=
  decide (('@' :: actor.username.toList ++ '@' :: actor.domain.toList) <:+: content.toList)

/-- Whether the policy of a local status lets an account quote it. -/
def allowsLocalQuote (db : Db) (quotingAccount : AccountId) (target : LocalStatus) : Bool :=
  target.accountId == quotingAccount ||
    match target.quoteApprovalPolicy with
    | .everyone => true
    | .followers => Timeline.follows db.timeline quotingAccount target.accountId
    | .nobody => false

def publicCollection : String := "https://www.w3.org/ns/activitystreams#Public"

def findRemoteFollowing (db : Db) (account actor : AccountId) : Option Timeline.RemoteFollowing :=
  db.remoteFollowings.find? fun row =>
    row.localAccountId == account && row.remoteActorId == actor && row.deactivatedAt.isNone

def audienceMatches (actor : RemoteActor) (follows : Bool) (values : List String) : Bool :=
  values.any fun value =>
    value == publicCollection ||
      actor.followersUrl.any fun followers => follows && value == followers

def allowsRemoteQuote (db : Db) (quotingAccount : AccountId) (actor : RemoteActor)
    (target : RemoteStatus) : Bool :=
  let follows := (findRemoteFollowing db quotingAccount target.remoteActorId).any
    fun follow => follow.state == .accepted
  audienceMatches actor follows target.quoteAutomaticPolicy ||
    audienceMatches actor follows target.quoteManualPolicy || !target.quoteManualPolicy.isEmpty

section

variable (env : Environment) (db : Db) (quotingAccount : AccountId)
  (requestedVisibility : StatusVisibility) (content : String)

def resolveLocalQuoteTarget (target : LocalStatus) :
    Except RoostyError (ResolvedQuoteTarget × StatusVisibility) := do
  ensure (statusVisibleToViewer db target quotingAccount && target.visibility != .direct &&
      !Timeline.localAccountsAreBlocked db.timeline quotingAccount target.accountId)
    (.invalidInput "quoted status does not exist or quoting is denied")
  let author ← okOr (findLocalAccountById db target.accountId)
    (.invalidInput "quoted status author does not exist")
  ensure (allowsLocalQuote db quotingAccount target)
    (.invalidInput "quoted status does not allow this quote")
  ensure (requestedVisibility != .direct || mentionsLocalAuthor env.text author.username content)
    (.invalidInput "direct quote posts must mention the quoted author")
  .ok (⟨.localStatus target.id, .accepted⟩,
    effectiveVisibility target.visibility requestedVisibility)

def resolveRemoteQuoteTarget (target : RemoteStatus) :
    Except RoostyError (ResolvedQuoteTarget × StatusVisibility) := do
  ensure (remoteStatusVisibleToAccount db target quotingAccount && target.visibility != .direct &&
      !localRemoteAccountsAreBlocked db quotingAccount target.remoteActorId)
    (.invalidInput "quoted status does not exist or quoting is denied")
  let actor ← okOr (findRemoteActorById db target.remoteActorId)
    (.invalidInput "quoted status author does not exist")
  ensure (requestedVisibility != .direct || mentionsRemoteAuthor actor content)
    (.invalidInput "direct quote posts must mention the quoted author")
  ensure (allowsRemoteQuote db quotingAccount actor target)
    (.invalidInput "quoted status does not allow this quote")
  .ok (⟨.remoteStatus target.id, .pending⟩,
    effectiveVisibility target.visibility requestedVisibility)

def resolveQuoteTarget (rawId : String) :
    Except RoostyError (ResolvedQuoteTarget × StatusVisibility) :=
  match Text.parseUuid rawId with
  | none => .error (.invalidInput "quoted status does not exist")
  | some id => match findLocalStatusById db ⟨id⟩ with
    | some target =>
        resolveLocalQuoteTarget env db quotingAccount requestedVisibility content target
    | none => match findRemoteStatusById db ⟨id⟩ with
      | some target => resolveRemoteQuoteTarget db quotingAccount requestedVisibility content target
      | none => .error (.invalidInput "quoted status does not exist")

/-- The quote target of an input, with the visibility that it leaves. -/
def quoteTarget (rawId : Option String) :
    Except ErrorResponse (Option ResolvedQuoteTarget × StatusVisibility) :=
  match rawId with
  | none => .ok (none, requestedVisibility)
  | some rawId =>
      match resolveQuoteTarget env db quotingAccount requestedVisibility content rawId with
      | .ok (target, visibility) => .ok (some target, visibility)
      | .error error => .error (reportError error)

end

def replyTarget (db : Db) (account : AccountId) (remoteVisible : RemoteStatus → Bool) :
    Option StatusId → Except ErrorResponse (Option StatusId × Option StatusId)
  | none => .ok (none, none)
  | some id => match findLocalStatusById db id with
    | some parent => if statusVisibleToViewer db parent account then .ok (some id, none)
        else .error (.badRequest "reply target status does not exist")
    | none => match findRemoteStatusById db id with
      | some parent => if remoteVisible parent then .ok (none, some parent.id)
          else .error (.badRequest "reply target status does not exist")
      | none => .error (.badRequest "reply target status does not exist")

def postReplyTarget (db : Db) (account : AccountId) :
    Option StatusId → Except ErrorResponse (Option StatusId × Option StatusId) :=
  replyTarget db account fun parent =>
    isOpen parent.visibility || remoteStatusVisibleToAccount db parent account

/-- A schedule may reply to remote statuses that the account sees. -/
def scheduleReplyTarget (db : Db) (account : AccountId) :
    Option StatusId → Except ErrorResponse (Option StatusId × Option StatusId) :=
  replyTarget db account fun parent => remoteStatusVisibleToAccount db parent account

def effectivePolicy (visibility : StatusVisibility) (policy : QuoteApprovalPolicy) :
    QuoteApprovalPolicy :=
  if isOpen visibility then policy else .nobody

/-!
## Writes
-/

/-- The check `local_media_attachment_owner_check`. -/
def ownerCheck (media : LocalMediaAttachment) : Bool :=
  !(media.statusId.isSome && media.scheduledStatusId.isSome)

/-- Update one upload, which violates the owner check or has been found. -/
def updateMedia (missing : String) (id : Nat)
    (change : LocalMediaAttachment → LocalMediaAttachment) (media : List LocalMediaAttachment) :
    Except RoostyError (List LocalMediaAttachment) :=
  match media.find? fun row => row.id == id with
  | none => .error (.invalidInput missing)
  | some found =>
      if ownerCheck (change found) then
        .ok (Table.updateWhere (fun row => row.id == id) change media)
      else .error (.database "local_media_attachment_owner_check")

def attachMedia (missing : String)
    (change : Nat → LocalMediaAttachment → LocalMediaAttachment) :
    Nat → List Nat → List LocalMediaAttachment → Except RoostyError (List LocalMediaAttachment)
  | _, [], media => .ok media
  | index, id :: ids, media => do
      let updated ← updateMedia missing id (change index) media
      attachMedia missing change (index + 1) ids updated

structure NewLocalStatus where
  id : StatusId
  accountId : AccountId
  content : String
  visibility : StatusVisibility
  sensitive : Bool
  spoilerText : String
  language : Option String
  inReplyToId : Option StatusId
  inReplyToRemoteStatusId : Option StatusId
  quoteApprovalPolicy : QuoteApprovalPolicy
deriving DecidableEq

def NewLocalStatus.row (new : NewLocalStatus) : LocalStatus where
  id := new.id
  accountId := new.accountId
  visibility := new.visibility
  inReplyToId := new.inReplyToId
  inReplyToRemoteStatusId := new.inReplyToRemoteStatusId
  deletedAt := none
  content := new.content
  sensitive := new.sensitive
  spoilerText := new.spoilerText
  language := new.language
  quoteApprovalPolicy := new.quoteApprovalPolicy

def mediaAvailable (account : AccountId) (scheduledStatusId : Option Nat)
    (media : LocalMediaAttachment) : Bool :=
  media.accountId == account && media.statusId.isNone &&
    (media.scheduledStatusId.isNone || media.scheduledStatusId == scheduledStatusId)

def checkMedia (db : Db) (available : LocalMediaAttachment → Bool) :
    List Nat → Except RoostyError Unit
  | [] => .ok ()
  | id :: ids => match findMediaById db id with
    | none => .error (.invalidInput "media attachment not found")
    | some media =>
        if available media then checkMedia db available ids
        else .error (.invalidInput "media attachment is not available")

def createLocalStatusWithMedia (db : Db) (new : NewLocalStatus) (mediaIds : List Nat)
    (scheduledStatusId : Option Nat) (localRecipientIds : List AccountId) :
    Except RoostyError Db := do
  checkMedia db (mediaAvailable new.accountId scheduledStatusId) mediaIds
  ensure (db.statuses.all fun status => status.id != new.id) (.database "local_status_pkey")
  ensure (findLocalAccountById db new.accountId).isSome
    (.database "local_status_account_id_fkey")
  let media ← attachMedia "media attachment not found" (fun index media =>
    { media with
      statusId := some new.id
      scheduledStatusId := none
      statusOrder := index }) 0 mediaIds db.media
  .ok { db with
    statuses := db.statuses ++ [new.row]
    media := media
    recipients := db.recipients ++ localRecipientIds.eraseDups.map fun account => ⟨new.id, account⟩ }

def pollRow (statusId : StatusId) (input : NewStatusPoll) : StatusPoll where
  localStatusId := statusId
  options := input.options.map Text.trim
  multiple := input.multiple
  hideTotals := input.hideTotals

def createLocalPoll (segmentation : Segmentation) (db : Db) (statusId : StatusId)
    (input : NewStatusPoll) : Except RoostyError Db := do
  validatePoll segmentation input
  .ok { db with polls := db.polls ++ [pollRow statusId input] }

def createLocalStatusQuote (db : Db) (statusId : StatusId) (target : ResolvedQuoteTarget) : Db :=
  { db with quotes := db.quotes ++ [⟨statusId, target.target, target.state⟩] }

def deleteScheduledStatus (db : Db) (id : Nat) : Db :=
  { db with
    schedules := Table.deleteWhere (fun schedule => schedule.id == id) db.schedules
    media := Table.updateWhere (fun media => media.scheduledStatusId == some id)
      (fun media => { media with scheduledStatusId := none }) db.media }

def cancelScheduledStatus (db : Db) (account : AccountId) (id : Nat) : Db :=
  if db.schedules.any fun schedule => schedule.id == id && schedule.accountId == account then
    deleteScheduledStatus db id
  else db

/-!
## Creation
-/

section

variable (env : Environment) (db : Db) (account : LocalAccount) (input : StatusInput)

def requestedVisibility : StatusVisibility := input.visibility.getD account.defaultVisibility

def newLocalStatus (id : StatusId) (visibility : StatusVisibility)
    (reply : Option StatusId × Option StatusId) : NewLocalStatus where
  id := id
  accountId := account.id
  content := Text.trim (input.status.getD "")
  visibility := visibility
  sensitive := input.sensitive.getD account.defaultSensitive
  spoilerText := input.spoilerText.getD ""
  language := input.language.or account.defaultLanguage
  inReplyToId := reply.1
  inReplyToRemoteStatusId := reply.2
  quoteApprovalPolicy :=
    effectivePolicy visibility (input.quoteApprovalPolicy.getD account.defaultQuotePolicy)

/-- The local accounts that a private or direct status addresses. -/
def explicitAudience (visibility : StatusVisibility) : List AccountId :=
  if isOpen visibility then []
  else localTextMentions db env.text (Text.trim (input.status.getD ""))

def createPoll (segmentation : Segmentation) (created : Db) (id : StatusId) :
    Option NewStatusPoll → Except RoostyError Db
  | none => .ok created
  | some poll => createLocalPoll segmentation created id poll

def createQuote (created : Db) (id : StatusId) : Option ResolvedQuoteTarget → Db
  | none => created
  | some target => createLocalStatusQuote created id target

def finishSchedule (created : Db) : Option Nat → Db
  | none => created
  | some id => deleteScheduledStatus created id

def createStatusFromInput (scheduledStatusId : Option Nat) (publicationStatusId : StatusId) :
    Except ErrorResponse Db := do
  let mediaIds ← (parseMediaIds (input.mediaIds.getD [])).mapError inputError
  checkContents env.segmentation input.quotedStatusId.isSome mediaIds input.poll
    (input.status.getD "") (!mediaIds.isEmpty || input.poll.isSome)
  let quoted ← quoteTarget env db account.id (requestedVisibility account input)
    (input.status.getD "") input.quotedStatusId
  let replyId ← (parseOptionalStatusId input.inReplyToId).mapError inputError
  let reply ← postReplyTarget db account.id replyId
  let created ← (createLocalStatusWithMedia db
    (newLocalStatus account input publicationStatusId quoted.2 reply) mediaIds scheduledStatusId
    (explicitAudience env db input quoted.2)).mapError .serverError
  let polled ← (createPoll env.segmentation created publicationStatusId input.poll).mapError
    .serverError
  .ok (finishSchedule (createQuote polled publicationStatusId quoted.1) scheduledStatusId)

end

end Roosty.Status.Posting
