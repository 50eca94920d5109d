import Roosty.Federation.Inbox
import Roosty.Library.Uuid
import Roosty.Timeline.Home

/-!
# The quotes of a status

The listing of the statuses that quote a status. Its viewer must be able to see the quoted
status; the quoting statuses are rendered as they are found.
-/

set_option autoImplicit false

namespace Roosty.Timeline

open Library
open Federation.Inbox (StatusQuote)

structure QuoteDb extends Db where
  quotes : List StatusQuote

structure QuoteParams where
  maxId : Option String
  sinceId : Option String
  limit : Option Nat

variable (db : QuoteDb)

def acceptedQuotesForStatus (status : StatusReference) (maxId sinceId : Option Nat)
    (limit : Nat) : List StatusQuote :=
  (Paging.newestFirst StatusQuote.id (db.quotes.filter fun quote =>
    quote.state == .accepted && quote.quotedStatus == some status &&
      maxId.all (quote.id < ·) && sinceId.all (· < quote.id))).take limit

/-- The status whose quotes are listed, when the viewer can see it. -/
def quoteTarget (account : AccountId) (statusId : StatusId) : Except ApiError StatusReference :=
  match findLocalStatusById db.toDb statusId with
  | some status =>
      if !statusVisibleToViewerOn db.toDb status (some account) then
        .error (.notFound "Record not found")
      else .ok (.localStatus status.id)
  | none =>
      match findRemoteStatusById db.toDb statusId with
      | none => .error (.notFound "Record not found")
      | some status =>
          if !remoteStatusVisibleToAccount db.toDb status account then
            .error (.notFound "Record not found")
          else .ok (.remoteStatus status.id)

def parseQuoteCursor : Option String → Except ApiError (Option Nat)
  | none => .ok none
  | some value =>
      match Text.parseUuid value with
      | some id => .ok (some id)
      | none => .error (.badRequest "collection cursor is invalid")

/-- A quoting status with its author; a deleted one is left out. -/
def quotingStatus : StatusReference → Except RoostyError (Option StatusBody)
  | .localStatus id =>
      match findLocalStatusById db.toDb id with
      | none => .ok none
      | some status => do
          let _ ← okOr (findLocalAccountById db.toDb status.accountId)
            (.invalidInput "status author does not exist")
          return some (.localStatus status)
  | .remoteStatus id =>
      match findRemoteStatusById db.toDb id with
      | none => .ok none
      | some status => do
          let _ ← okOr (findRemoteActorById db.toDb status.remoteActorId)
            (.invalidInput "remote status author does not exist")
          return some (.remoteStatus status)

def quotingStatuses : List StatusQuote → Except RoostyError (List StatusBody)
  | [] => .ok []
  | quote :: quotes => do
      let response ← quotingStatus db quote.quotingStatus
      let responses ← quotingStatuses quotes
      return response.toList ++ responses

def statusQuotes (account : AccountId) (statusId : StatusId) (params : QuoteParams) :
    Except ApiError (Paging.Page StatusBody) := do
  let target ← quoteTarget db account statusId
  let limit := timelineLimit params.limit
  let maxId ← parseQuoteCursor params.maxId
  let sinceId ← parseQuoteCursor params.sinceId
  let (quotes, hasMore) :=
    Paging.trimToPage (acceptedQuotesForStatus db target maxId sinceId (limit + 1)) limit
  let responses ← liftInternal (quotingStatuses db quotes)
  return ⟨responses, quotes.head?.map StatusQuote.id, quotes.getLast?.map StatusQuote.id, hasMore⟩

end Roosty.Timeline
