import Roosty.Auth.Access
import Roosty.Poll.Updates
import Roosty.Status.Editing
import Roosty.Status.Idempotency

/-!
# Scopes of the status handlers

The handlers that change statuses, behind the two extractors of bearer tokens: one hands
them the scopes of the token, the other does not. Bodies have been read, and are either a
text that tells why they cannot be parsed or an input.
-/

set_option autoImplicit false

namespace Roosty.Status.Scopes

open Library
open Posting (ErrorResponse StatusInput reportError)
open Poll (PollDb PollVoteError PollStatus)

/-!
## Scopes
-/

inductive OAuthScopeResource where
  | all
  | accounts
  | statuses
  | other (resource : String)
deriving DecidableEq

inductive OAuthScope where
  | read (resource : OAuthScopeResource)
  | write (resource : OAuthScopeResource)
  | follow
  | push
  | other (scope : String)
deriving DecidableEq

def OAuthScopeResource.parse (value : String) : OAuthScopeResource :=
  if value = "accounts" then .accounts
  else if value = "statuses" then .statuses
  else .other value

def OAuthScope.parse (value : String) : OAuthScope :=
  match Text.splitOnce ':' value.toList with
  | none =>
      if value = "read" then .read .all
      else if value = "write" then .write .all
      else if value = "follow" then .follow
      else if value = "push" then .push
      else .other value
  | some (family, resource) =>
      if family = "read".toList then .read (.parse (String.ofList resource))
      else if family = "write".toList then .write (.parse (String.ofList resource))
      else .other value

inductive StatusPermission where
  | read
  | write
deriving DecidableEq

def StatusPermission.allowsScope : StatusPermission → OAuthScope → Bool
  | .read, .read .all | .read, .read .statuses => true
  | .write, .write .all | .write, .write .statuses => true
  | _, _ => false

/-- `char::is_ascii_whitespace`. -/
def isAsciiWhitespace (character : Char) : Bool :=
  character == ' ' || character == '\t' || character == '\n' || character == '\x0c' ||
    character == '\r'

def splitAsciiWhitespace (text : String) : List String :=
  ((text.toList.splitOnP isAsciiWhitespace).filter fun piece => !piece.isEmpty).map String.ofList

def hasStatusScope (scopes : String) (permission : StatusPermission) : Bool :=
  ((splitAsciiWhitespace scopes).map OAuthScope.parse).any permission.allowsScope

def hasWriteStatusScope (scopes : String) : Bool :=
  (splitAsciiWhitespace scopes).any fun scope => scope == "write" || scope == "write:statuses"

/-!
## Handlers
-/

structure State where
  access : Auth.Access.Db Unit
  statuses : Posting.Db
  polls : PollDb
  /-- The creations that are known by an idempotency key of an account. -/
  creations : List ((AccountId × String) × ExistingStatusCreation)

inductive ApiError where
  | unauthorized (refusal : Auth.Access.Refusal)
  | forbidden (description : String)
  | response (error : ErrorResponse)
deriving DecidableEq

structure Environment where
  access : Auth.Access.Environment
  posting : Posting.Environment

def outsideScopes : ApiError := .forbidden "This action is outside the authorized scopes"

section

variable (env : Environment) (now : Int) (state : State)

/-- The row of an authenticated account, with the columns that handlers read. -/
def accountRow (account : Auth.Access.LocalAccount) : Except ApiError Posting.LocalAccount :=
  okOr (Posting.findLocalAccountById state.statuses account.id)
    (.unauthorized (Auth.Access.invalidToken "invalid token"))

/-- `AuthenticatedAccount`. -/
def authenticatedAccount (authorization : Option String) :
    Except ApiError Posting.LocalAccount := do
  let account ← (Auth.Access.authenticatedAccount env.access now state.access
    authorization).mapError .unauthorized
  accountRow state account

/-- `AuthenticatedAccessToken`: the account and the scopes of the token. -/
def authenticatedAccessToken (authorization : Option String) :
    Except ApiError (Posting.LocalAccount × String) := do
  let grant ← (Auth.Access.authenticatedAccessToken env.access now state.access
    authorization).mapError .unauthorized
  let account ← accountRow state grant.account
  .ok (account, grant.scopes)

def parsedBody {Input : Type} (body : Except String Input) : Except ApiError Input :=
  body.mapError fun error => .response (.badRequest error)

def existingCreation (account : AccountId) (key : Option String) :
    Option ExistingStatusCreation :=
  key.bind fun key => (state.creations.find? fun row => row.1 == (account, key)).map Prod.snd

def existingStatusCreationResponse (account : AccountId) : ExistingStatusCreation → Bool
  | .status id => (Posting.findLocalStatusById state.statuses id).any fun status =>
      status.accountId == account
  | .scheduledStatus id => state.statuses.schedules.any fun schedule =>
      schedule.id == id && schedule.accountId == account

/-- The creation of a status or of a schedule, under a drawn identifier. -/
def createRow (account : Posting.LocalAccount) (input : StatusInput) (resultId : Nat)
    (publicationId : StatusId) : Except ErrorResponse (Posting.Db × ExistingStatusCreation) :=
  if input.scheduledAt.isSome then
    (Posting.createScheduledStatus env.posting now state.statuses account input resultId
      publicationId).map fun statuses => (statuses, .scheduledStatus resultId)
  else
    (Posting.createStatusFromInput env.posting state.statuses account input none ⟨resultId⟩).map
      fun statuses => (statuses, .status ⟨resultId⟩)

def recordCreation (account : AccountId) (result : ExistingStatusCreation) :
    Option String → List ((AccountId × String) × ExistingStatusCreation)
  | none => state.creations
  | some key => state.creations ++ [((account, key), result)]

def createOrShow (account : Posting.LocalAccount) (input : StatusInput) (key : Option String)
    (resultId : Nat) (publicationId : StatusId) : Except ApiError State :=
  match existingCreation state account.id key with
  | some existing =>
      if existingStatusCreationResponse state account.id existing then .ok state
      else .error (.response .notFound)
  | none => do
      let created ← (createRow env now state account input resultId publicationId).mapError
        .response
      .ok { state with
        statuses := created.1
        creations := recordCreation state account.id created.2 key }

def createStatus (authorization : Option String) (body : Except String StatusInput)
    (key : Option String) (resultId : Nat) (publicationId : StatusId) : Except ApiError State := do
  let token ← authenticatedAccessToken env now state authorization
  ensure (hasStatusScope token.2 .write) outsideScopes
  let input ← parsedBody body
  ensure (!key.any fun key => key.isEmpty || decide (1024 < key.utf8ByteSize))
    (.response (.badRequest "Idempotency-Key must contain between 1 and 1024 bytes"))
  createOrShow env now state token.1 input key resultId publicationId

/-- The edit of an owned status. The status is looked up before the body is parsed. -/
def updateStatus (authorization : Option String) (statusId : StatusId)
    (body : Except String StatusInput) (metadataChanged : Bool) : Except ApiError State := do
  let account ← authenticatedAccount env now state authorization
  let _ ← okOr ((Posting.findLocalStatusById state.statuses statusId).filter fun status =>
    status.accountId == account.id && status.deletedAt.isNone) (.response .notFound)
  let input ← parsedBody body
  let statuses ← (Posting.updateStatus env.posting state.statuses account input statusId
    metadataChanged).mapError .response
  .ok { state with statuses := statuses }

def deleteOwnedLocalStatus (db : Posting.Db) (statusId : StatusId) (account : AccountId) :
    Except RoostyError (Option Posting.Db) :=
  match Posting.findLocalStatusById db statusId with
  | none => .ok none
  | some status =>
      if status.accountId ≠ account then .error (.invalidInput "status is owned by another account")
      else
        let statuses := Table.updateWhere (fun row => row.id == statusId)
          (fun row => { row with deletedAt := some now }) db.statuses
        .ok (some { db with statuses := statuses })

/-- Accepted quotes of a deleted status lose their target. -/
def markQuotesTargetDeleted (db : Posting.Db) (target : StatusReference) : Posting.Db :=
  let quotes := Table.updateWhere
    (fun quote => quote.quotedStatus == target && quote.state == .accepted)
    (fun quote => { quote with state := .deleted }) db.quotes
  { db with quotes := quotes }

def deletionError : RoostyError → ApiError
  | .invalidInput error => .forbidden error
  | error => .response (.serverError error)

def deleteStatus (authorization : Option String) (statusId : StatusId) : Except ApiError State := do
  let account ← authenticatedAccount env now state authorization
  let found ← (deleteOwnedLocalStatus now state.statuses statusId account.id).mapError deletionError
  let deleted ← okOr found (.response .notFound)
  .ok { state with statuses := markQuotesTargetDeleted deleted (.localStatus statusId) }

def updateInteractionPolicy (authorization : Option String) (statusId : StatusId)
    (body : Except String StatusInput) : Except ApiError State := do
  let account ← authenticatedAccount env now state authorization
  let input ← parsedBody body
  let statuses ← (Posting.updateInteractionPolicy state.statuses account input statusId).mapError
    .response
  .ok { state with statuses := statuses }

def pollVisible (account : AccountId) : PollStatus → Bool
  | .localStatus id => (Posting.findLocalStatusById state.statuses id).any fun status =>
      Posting.statusVisibleToViewer state.statuses status account
  | .remoteStatus id => (Posting.findRemoteStatusById state.statuses id).any fun status =>
      Posting.remoteStatusVisibleToAccount state.statuses status account

def mapVoteError : PollVoteError → ErrorResponse
  | .notFound => .notFound
  | .expired => .unprocessable "poll has already ended"
  | .alreadyVoted => .unprocessable "account has already voted in this poll"
  | .invalidChoice => .unprocessable "poll choice is invalid"
  | .multipleChoices => .unprocessable "a single-choice poll accepts exactly one choice"
  | .database error => .serverError error

def votePoll (context : Poll.Context) (authorization : Option String) (pollId : Nat)
    (body : Except String (List UInt32)) (delivery : Job.NewJob) : Except ApiError State := do
  let token ← authenticatedAccessToken env now state authorization
  ensure (hasWriteStatusScope token.2) outsideScopes
  let choices ← body.mapError fun error => .response (.unprocessable error)
  let poll ← okOr (Poll.findPollById state.polls pollId) (.response .notFound)
  ensure (pollVisible state token.1.id poll.status) (.response .notFound)
  let voted ← (Poll.votePoll state.polls context poll.id token.1.id choices delivery).mapError
    fun error => .response (mapVoteError error)
  .ok { state with polls := voted.1 }

/-!
## Requests
-/

inductive Handler where
  | createStatus (body : Except String StatusInput) (key : Option String) (resultId : Nat)
      (publicationId : StatusId)
  | updateStatus (statusId : StatusId) (body : Except String StatusInput) (metadataChanged : Bool)
  | deleteStatus (statusId : StatusId)
  | updateInteractionPolicy (statusId : StatusId) (body : Except String StatusInput)
  | votePoll (context : Poll.Context) (pollId : Nat) (body : Except String (List UInt32))
      (delivery : Job.NewJob)

def handle (authorization : Option String) : Handler → Except ApiError State
  | .createStatus body key resultId publicationId =>
      createStatus env now state authorization body key resultId publicationId
  | .updateStatus statusId body metadataChanged =>
      updateStatus env now state authorization statusId body metadataChanged
  | .deleteStatus statusId => deleteStatus env now state authorization statusId
  | .updateInteractionPolicy statusId body =>
      updateInteractionPolicy env now state authorization statusId body
  | .votePoll context pollId body delivery =>
      votePoll env now state context authorization pollId body delivery

/-- A handler that fails is rolled back. -/
def respond (authorization : Option String) (handler : Handler) : State × Option ApiError :=
  match handle env now state authorization handler with
  | .ok next => (next, none)
  | .error error => (state, some error)

end

end Roosty.Status.Scopes
