import Roosty.Federation.InboundNote

/-!
# Quote consent

The statements that change a row of `status_quote`, and the consent that an
inbound quote of a local or remote status meets.
-/

set_option autoImplicit false

namespace Roosty.Federation.Inbox

open Library

/-!
## Statements
-/

/-- The unique index over authorization ids holds one in another row. -/
def authorizationTaken (quotes : List StatusQuote) (quoteId : Nat)
    (authorizationId : Option String) : Bool :=
  authorizationId.isSome && quotes.any fun quote =>
    quote.id != quoteId && quote.authorizationId == authorizationId

def insertStatusQuote (relations : Relations) (quote : StatusQuote) :
    Except RoostyError Relations :=
  let quotes := relations.quotes
  if quotes.any fun other => other.id == quote.id then .error (.database "status_quote_pkey")
  else if quotes.any fun other => other.quotingStatus == quote.quotingStatus then
    .error (.database "status_quote_quoting_idx")
  else if quote.quoteRequestId.isSome && quotes.any fun other =>
      other.quoteRequestId == quote.quoteRequestId then
    .error (.database "status_quote_request_idx")
  else if authorizationTaken quotes quote.id quote.authorizationId then
    .error (.database "status_quote_authorization_idx")
  else .ok { relations with quotes := quotes ++ [quote] }

def createLocalStatusQuote (db : Db) (quoteId : Nat) (quoting : StatusId)
    (quoted : StatusReference) (quotedActivitypubId : String) (state : QuoteState)
    (quoteRequestId authorizationId : Option String) : Except RoostyError Relations :=
  if !db.localStatuses.any fun status => status.id == quoting then
    .error (.invalidInput "quoting status does not exist")
  else insertStatusQuote db.relations ⟨quoteId, .localStatus quoting, some quoted,
    quotedActivitypubId, state, quoteRequestId, authorizationId⟩

def quoteOf (relations : Relations) (quoting : StatusReference) : Option StatusQuote :=
  relations.quotes.find? fun quote => quote.quotingStatus == quoting

/-- Attach or refresh a quote discovered on a verified remote status. The state
of an existing row is overwritten, whatever it is. -/
def upsertRemoteStatusQuote (db : Db) (quoteId : Nat) (quoting : StatusId)
    (quoted : StatusReference) (quotedActivitypubId : String) (state : QuoteState)
    (authorizationId : Option String) : Except RoostyError Relations :=
  let relations := db.relations
  if !db.remoteStatuses.any fun status => status.id == quoting then
    .error (.invalidInput "remote quoting status does not exist")
  else
    match quoteOf relations (.remoteStatus quoting) with
    | some existing =>
        if existing.quotedActivitypubId ≠ quotedActivitypubId then
          .error (.invalidInput "a remote quote target cannot change")
        else if authorizationTaken relations.quotes existing.id authorizationId then
          .error (.database "status_quote_authorization_idx")
        else .ok { relations with
          quotes := Table.updateWhere (fun quote => quote.id == existing.id)
            (fun quote => { quote with state := state, authorizationId := authorizationId })
            relations.quotes }
    | none => insertStatusQuote relations ⟨quoteId, .remoteStatus quoting, some quoted,
        quotedActivitypubId, state, none, authorizationId⟩

def revokeQuote (relations : Relations) : Option StatusQuote → Relations × Option StatusQuote
  | none => (relations, none)
  | some quote =>
      if quote.state = .revoked then (relations, some quote)
      else ({ relations with
        quotes := Table.updateWhere (fun other => other.id == quote.id)
          (fun other => { other with state := .revoked }) relations.quotes },
        some { quote with state := .revoked })

def quoteByAuthorizationId (relations : Relations) (authorizationId : String) :
    Option StatusQuote :=
  relations.quotes.find? fun quote => quote.authorizationId == some authorizationId

def revokeQuoteAuthorization (relations : Relations) (authorizationId : String) :
    Relations × Option StatusQuote :=
  revokeQuote relations (quoteByAuthorizationId relations authorizationId)

def revokeStatusQuote (relations : Relations) (quoted quoting : StatusReference) :
    Relations × Option StatusQuote :=
  revokeQuote relations
    ((quoteOf relations quoting).filter fun quote => quote.quotedStatus == some quoted)

def markQuotesTargetDeleted (relations : Relations) (target : StatusReference) : Relations :=
  { relations with
    quotes := Table.updateWhere (fun quote =>
      quote.quotedStatus == some target && quote.state == .accepted)
      (fun quote => { quote with state := .deleted }) relations.quotes }

/-!
## Consent
-/

variable (context : Context)

def remoteActorFollowsLocalAccount (db : Db) (actor account : AccountId) : Bool :=
  db.relations.follows.any fun row =>
    row.remoteActorId == actor && row.localAccountId == account && row.state == .accepted

/-- The policy of a local status admits a quote by a remote actor. -/
def quoteApproved (db : Db) (target : LocalStatus) (actor : AccountId) : Bool :=
  match target.quoteApprovalPolicy with
  | .everyone => true
  | .followers => remoteActorFollowsLocalAccount db actor target.accountId
  | .nobody => false

def quotableBy (db : Db) (target : LocalStatus) (actor : AccountId) : Bool :=
  !localRemoteAccountsAreBlocked db target.accountId actor && target.visibility != .direct &&
    quoteApproved db target actor

structure ResolvedInboundQuote where
  target : StatusReference
  activitypubId : String
  state : QuoteState
  authorizationId : Option String
  localAuthorId : Option AccountId
deriving DecidableEq

/-- What a transaction about a quote takes from outside: the identity of a new
row, a new authorization URL, the id of a response, and the documents that a
fetch receives. -/
structure QuoteInputs where
  quoteId : Nat
  authorizationUrl : String
  responseUuid : Nat
  fetchJson : String → Option Json

/-- The authorization that the author of a remote status published for a Note. -/
def publishedAuthorization (inputs : QuoteInputs) (note : InboundNote) (target : RemoteStatus)
    (author : RemoteActor) : Option String := do
  let authorizationId ← note.quoteAuthorization
  if !context.sameUrlOrigin authorizationId author.activitypubId then none
  else do
    let document ← inputs.fetchJson authorizationId
    let authorization ← quoteAuthorization document
    if authorization.id != authorizationId ||
        authorization.attributedTo != author.activitypubId ||
        authorization.interactingObject != note.id ||
        authorization.interactionTarget != target.activitypubId then none
    else some authorization.id

def localStatusFromUrl (db : Db) (url : String) : Option LocalStatus := do
  let statusId ← localStatusIdFromUrl context db url
  db.localStatuses.find? fun status => status.id == statusId

def resolveInboundQuote (db : Db) (actors : List RemoteActor) (inputs : QuoteInputs)
    (note : InboundNote) (actor : RemoteActor) :
    Except RoostyError (Option ResolvedInboundQuote) :=
  match note.quote.filter startsWithHttps with
  | none => .ok none
  | some targetId =>
      match localStatusFromUrl context db targetId with
      | some target =>
          if quotableBy db target actor.id then
            .ok (some ⟨.localStatus target.id, targetId, .accepted, some inputs.authorizationUrl,
              some target.accountId⟩)
          else .ok none
      | none =>
          match findRemoteStatusByActivitypubId db targetId with
          | none => .ok none
          | some target =>
              let accepted (authorizationId : Option String) : ResolvedInboundQuote :=
                ⟨.remoteStatus target.id, targetId, .accepted, authorizationId, none⟩
              if target.remoteActorId = actor.id then .ok (some (accepted note.quoteAuthorization))
              else if note.quoteAuthorization.isNone then .ok none
              else
                match actors.find? fun other => other.id == target.remoteActorId with
                | none => .error (.invalidInput "quoted remote author does not exist")
                | some author =>
                    .ok ((publishedAuthorization context inputs note target author).map fun id =>
                      accepted (some id))

end Roosty.Federation.Inbox
