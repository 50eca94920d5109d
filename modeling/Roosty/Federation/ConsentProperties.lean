import Roosty.Federation.DeletionProperties
import Roosty.Federation.InboxEffects
import Roosty.Federation.Interaction

/-!
# Consent to quotes

A quote that is rejected, revoked or deleted is final for every statement but the
upsert of a remote quote, which overwrites the state it finds. Consent stays
withdrawn as long as no accepted upsert meets a final row.
-/

set_option autoImplicit false

namespace Roosty.Federation.Status.Consent

open Library Inbox

/-- The quoted author does not agree, or the quoted status is gone. -/
def Final (state : QuoteState) : Prop := state = .rejected ∨ state = .revoked ∨ state = .deleted

/-- The operations that write quotes. Inbound activities of every kind are
received by the inbox. -/
inductive Call where
  | receive (generated : Generated) (activity : Json) (actor : RemoteActor)
  | transition (requestId : String) (state : QuoteState) (authorizationId : Option String)
  | revokeAuthorization (authorizationId : String)
  | revokeStatus (quoted quoting : StatusReference)
  | targetDeleted (target : StatusReference)
  | createLocal (quoteId : Nat) (quoting : StatusId) (quoted : StatusReference)
      (quotedActivitypubId : String) (state : QuoteState)
      (quoteRequestId authorizationId : Option String)

def step (server : Server) (db : Db) : Call → Db
  | .receive generated activity actor =>
      ((processActivity server db generated activity actor).map Prod.snd).getD db
  | .transition requestId state authorizationId =>
      { db with
        relations := transitionQuoteRequest db.relations requestId state authorizationId }
  | .revokeAuthorization authorizationId =>
      { db with relations := (revokeQuoteAuthorization db.relations authorizationId).1 }
  | .revokeStatus quoted quoting =>
      { db with relations := (revokeStatusQuote db.relations quoted quoting).1 }
  | .targetDeleted target =>
      { db with relations := markQuotesTargetDeleted db.relations target }
  | .createLocal quoteId quoting quoted quotedActivitypubId state quoteRequestId
      authorizationId =>
      match createLocalStatusQuote db.toDb quoteId quoting quoted quotedActivitypubId state
          quoteRequestId authorizationId with
      | .error _ => db
      | .ok relations => { db with relations := relations }

def quotes (server : Server) : Machine Db Call Unit := ⟨fun db call => (step server db call, ())⟩

/-- The status of a Note that is cached, or that is inserted for it. -/
def writtenId (db : Db) (generated : Generated) (noteId : String) : StatusId :=
  ((findRow db noteId).map RemoteStatus.id).getD generated.statusId

/-- A new activity asks for an accepted quote of a cached status: a quote request
that the policy of the local target admits, or an edit whose quote resolves. -/
inductive Upserts (server : Server) (db : Db) (generated : Generated) (activity : Json)
    (actor : RemoteActor) : StatusId → Prop
  | request {request : InboundQuoteRequest} {target : LocalStatus} {quoting : RemoteStatus}
      (read : inboundQuoteRequest activity = some request)
      (found : localStatusFromUrl server.toContext db.toDb request.object = some target)
      (quotable : quotableBy db.toDb target actor.id = true)
      (cached : findRemoteStatusByActivitypubId db.toDb request.instrument = some quoting)
      (new : (isNewInboxActivity server.format server.sha256 db.markers activity actor.id
        generated.poll.now).2 = .ok true) :
      Upserts server db generated activity actor quoting.id
  | edit {edit : Edit} {quote : ResolvedInboundQuote}
      (read : readStatusActivity server db.toDb activity actor = .ok edit)
      (resolved : resolveInboundQuote server.toContext db.toDb db.remoteActors generated.quote
        edit.note actor = .ok (some quote))
      (new : (isNewInboxActivity server.format server.sha256 db.markers activity actor.id
        generated.poll.now).2 = .ok true)
      (changed : ¬ Kept db (edit.status server db.toDb actor) edit.note.attachments) :
      Upserts server db generated activity actor (writtenId db generated edit.note.id)

/-- A call asks for no accepted quote in the place of a final one. -/
def Respects (server : Server) (quoteId : Nat) (db : Db) : Call → Prop
  | .receive generated activity actor => ∀ statusId,
      Upserts server db generated activity actor statusId →
      ∀ quote, quoteOf db.relations (.remoteStatus statusId) = some quote → quote.id = quoteId →
        ¬ Final quote.state
  | _ => True

structure Withdrawn (rows : List StatusQuote) (quoteId : Nat) : Prop where
  schema : QuoteSchema rows
  stored : ∃ quote ∈ rows, quote.id = quoteId ∧ Final quote.state

variable {server : Server} {db next : Db} {quoteId : Nat} {rows : List StatusQuote}
variable {generated : Generated} {activity : Json} {actor : RemoteActor}

theorem Withdrawn.final (withdrawn : Withdrawn rows quoteId) {quote : StatusQuote}
    (member : quote ∈ rows) (named : quote.id = quoteId) : Final quote.state := by
  obtain ⟨other, otherMember, otherNamed, final⟩ := withdrawn.stored
  rw [withdrawn.schema.same_id member otherMember (named.trans otherNamed.symm)]
  exact final

/-!
## Statements
-/

private theorem Withdrawn.updateWhere (withdrawn : Withdrawn rows quoteId)
    {selected : StatusQuote → Bool} {change : StatusQuote → StatusQuote}
    (id : ∀ quote, (change quote).id = quote.id)
    (quoting : ∀ quote, (change quote).quotingStatus = quote.quotingStatus)
    (final : ∀ quote ∈ rows, selected quote = true → quote.id = quoteId →
      Final (change quote).state) :
    Withdrawn (Table.updateWhere selected change rows) quoteId := by
  refine ⟨withdrawn.schema.updateWhere id quoting, ?_⟩
  obtain ⟨quote, member, named, ended⟩ := withdrawn.stored
  by_cases chosen : selected quote = true
  · exact ⟨change quote, Table.mem_updateWhere.mpr (.inr ⟨quote, member, chosen, rfl⟩),
      (id quote).trans named, final quote member chosen named⟩
  · exact ⟨quote, Table.mem_updateWhere.mpr (.inl ⟨member, by simpa using chosen⟩), named, ended⟩

private theorem Withdrawn.insert {relations next : Relations} {quote : StatusQuote}
    (withdrawn : Withdrawn relations.quotes quoteId)
    (inserted : insertStatusQuote relations quote = .ok next) : Withdrawn next.quotes quoteId := by
  refine ⟨insertStatusQuote_schema inserted withdrawn.schema, ?_⟩
  obtain ⟨rfl, _⟩ := insertStatusQuote_ok inserted
  obtain ⟨stored, member, ended⟩ := withdrawn.stored
  exact ⟨stored, List.mem_append_left _ member, ended⟩

private theorem Withdrawn.transition {relations : Relations} (requestId : String)
    (state : QuoteState) (authorizationId : Option String)
    (withdrawn : Withdrawn relations.quotes quoteId) :
    Withdrawn (transitionQuoteRequest relations requestId state authorizationId).quotes
      quoteId := by
  refine withdrawn.updateWhere (fun _ => rfl) (fun _ => rfl) ?_
  intro quote member selected named
  -- a pending quote is not final
  rw [Bool.and_eq_true, beq_iff_eq, beq_iff_eq] at selected
  have final := withdrawn.final member named
  rw [selected.2] at final
  rcases final with impossible | impossible | impossible <;> cases impossible

private theorem Withdrawn.revoke {relations : Relations} (found : Option StatusQuote)
    (withdrawn : Withdrawn relations.quotes quoteId) :
    Withdrawn (revokeQuote relations found).1.quotes quoteId := by
  cases found with
  | none => exact withdrawn
  | some quote =>
      unfold revokeQuote
      dsimp only
      split
      next => exact withdrawn
      next =>
        exact withdrawn.updateWhere (fun _ => rfl) (fun _ => rfl) fun _ _ _ _ => .inr (.inl rfl)

private theorem Withdrawn.upsert {db : Inbox.Db} {relations : Relations} {newId : Nat}
    {quoting : StatusId} {quoted : StatusReference} {quotedActivitypubId : String}
    {state : QuoteState} {authorizationId : Option String}
    (withdrawn : Withdrawn db.relations.quotes quoteId)
    (upserted : upsertRemoteStatusQuote db newId quoting quoted quotedActivitypubId state
      authorizationId = .ok relations)
    (respects : Final state ∨ ∀ quote, quoteOf db.relations (.remoteStatus quoting) = some quote →
      quote.id = quoteId → ¬ Final quote.state) : Withdrawn relations.quotes quoteId := by
  rcases upsertRemoteStatusQuote_ok upserted with ⟨existing, found, rfl⟩ | ⟨_, inserted⟩
  · refine withdrawn.updateWhere (fun _ => rfl) (fun _ => rfl) ?_
    intro quote member selected named
    have same : quote.id = existing.id := beq_iff_eq.mp selected
    rcases respects with ended | untouched
    · exact ended
    · have stored := (quoteOf_some found).1
      have final := withdrawn.final stored (same.symm.trans named)
      exact absurd final (untouched existing found (same.symm.trans named))
  · exact withdrawn.insert inserted

/-!
## Activities
-/

private theorem whenNewActivity_withdrawn {Error : Type} {now : Int}
    {effects : Db → Except Error Db} {failure : Error → Response}
    (withdrawn : Withdrawn db.relations.quotes quoteId)
    (applied : ∀ markers result,
      (isNewInboxActivity server.format server.sha256 db.markers activity actor.id now).2 =
        .ok true →
      effects { db with markers := markers } = .ok result →
      Withdrawn result.relations.quotes quoteId) :
    Withdrawn (whenNewActivity server db activity actor now effects failure).2.relations.quotes
      quoteId := by
  unfold whenNewActivity
  split
  next => exact withdrawn
  next => exact withdrawn
  next marker registered =>
    split
    next => exact withdrawn
    next result success => exact applied _ result (by rw [registered]) success

private theorem finishIgnored_quotes {now : Int} :
    (finishIgnored server db activity actor now).2.relations.quotes = db.relations.quotes := by
  have same : (finishIgnoredInboxActivity server.toContext db.toDb activity actor
      now).2.relations.quotes = db.relations.quotes := by
    unfold finishIgnoredInboxActivity
    split
    next => rfl
    next => rfl
  exact same

private theorem enqueueJob_ok {job : Job.NewJob} (success : enqueueJob db generated job = .ok next) :
    next = { db with jobs := next.jobs } := by
  obtain ⟨_, _, success⟩ := bind_ok success
  cases success
  rfl

private theorem processQuoteRequest_withdrawn {id : String}
    (withdrawn : Withdrawn db.relations.quotes quoteId)
    (respects : Respects server quoteId db (.receive generated activity actor)) :
    Withdrawn (processQuoteRequest server db generated activity id actor).2.relations.quotes
      quoteId := by
  unfold processQuoteRequest
  split
  next => exact withdrawn
  next request read =>
    split
    next => exact withdrawn
    next =>
      split
      next =>
        rw [finishIgnored_quotes]
        exact withdrawn
      next target found =>
        split
        next => exact withdrawn
        next account _ =>
          refine whenNewActivity_withdrawn withdrawn ?_
          intro markers result new success
          obtain ⟨queued, enqueued, success⟩ := bind_ok success
          have queuedSame := enqueueJob_ok enqueued
          rw [queuedSame] at success
          dsimp only at success
          split at success
          next =>
            cases success
            exact withdrawn
          next quoting cached =>
            obtain ⟨relations, upserted, success⟩ := bind_ok success
            cases success
            refine withdrawn.upsert upserted ?_
            cases quotable : quotableBy db.toDb target actor.id with
            | false => exact .inl (.inl rfl)
            | true => exact .inr (respects quoting.id (.request read found quotable cached new))

private theorem processAuthorizationDelete_withdrawn {result : Response × Db}
    (withdrawn : Withdrawn db.relations.quotes quoteId)
    (handled : processAuthorizationDelete server db generated activity actor = some result) :
    Withdrawn result.2.relations.quotes quoteId := by
  obtain ⟨author, _, handled⟩ := Option.bind_eq_some_iff.mp handled
  obtain ⟨objectId, _, handled⟩ := Option.bind_eq_some_iff.mp handled
  obtain ⟨quote, _, handled⟩ := Option.bind_eq_some_iff.mp handled
  split at handled
  next =>
    split at handled
    next =>
      cases handled
      exact withdrawn
    next =>
      split at handled
      next =>
        cases handled
        exact withdrawn
      next =>
        cases handled
        refine whenNewActivity_withdrawn withdrawn ?_
        intro markers result _ success
        cases success
        exact withdrawn.revoke _
  next => cases handled

private theorem processInboundPollVote_quotes {id : String} {vote : InboundPollVote} :
    Withdrawn db.relations.quotes quoteId →
    Withdrawn (processInboundPollVote server db generated activity id actor vote).2.relations.quotes
      quoteId := by
  intro withdrawn
  unfold processInboundPollVote
  split
  next =>
    rw [finishIgnored_quotes]
    exact withdrawn
  next =>
    split
    next => exact withdrawn
    next =>
      split
      next => exact withdrawn
      next =>
        split
        next =>
          rw [finishIgnored_quotes]
          exact withdrawn
        next =>
          split
          next => exact withdrawn
          next =>
            refine whenNewActivity_withdrawn withdrawn ?_
            intro markers result _ success
            unfold recordVote at success
            split at success
            next => cases success
            next =>
              split at success
              next =>
                cases success
                exact withdrawn
              next =>
                split at success
                next => cases success
                next =>
                  cases success
                  exact withdrawn

private theorem storeRemoteStatus_written {status : NewRemoteStatus} {row : RemoteStatus}
    {attachments : List NewRemoteMediaAttachment}
    (success : storeRemoteStatus server db generated status attachments = .ok (next, row)) :
    next.relations = db.relations ∧ row.id = writtenId db generated status.activitypubId := by
  obtain ⟨⟨stored, inserted⟩, upserted, success⟩ := bind_ok success
  cases success
  unfold upsertRemoteStatusOn at upserted
  unfold writtenId
  cases found : findRow db status.activitypubId with
  | some existing =>
      rw [found] at upserted
      obtain ⟨_, upserted⟩ := guard_ok upserted
      cases upserted
      exact ⟨rfl, rfl⟩
  | none =>
      rw [found] at upserted
      obtain ⟨_, upserted⟩ := guard_ok upserted
      cases upserted
      exact ⟨rfl, rfl⟩

private theorem processRemoteStatusUpsert_written {status : NewRemoteStatus}
    {attachments : List NewRemoteMediaAttachment} {upsert : RemoteStatusUpsertResult}
    (success : processRemoteStatusUpsert server db generated status attachments =
      .ok (next, upsert)) :
    next.relations = db.relations ∧
      ((∃ row, upsert = .unchanged row) ∨
        (upsert.status.id = writtenId db generated status.activitypubId ∧
          ¬ Kept db status attachments)) := by
  unfold processRemoteStatusUpsert at success
  cases found : findRow db status.activitypubId with
  | none =>
      rw [found] at success
      obtain ⟨⟨stored, row⟩, storing, success⟩ := bind_ok success
      cases success
      obtain ⟨relations, written⟩ := storeRemoteStatus_written storing
      refine ⟨relations, .inr ⟨written, ?_⟩⟩
      intro kept
      obtain ⟨existing, present, _⟩ := kept
      rw [found] at present
      cases present
  | some existing =>
      rw [found] at success
      obtain ⟨_, success⟩ := guard_ok success
      split at success
      next =>
        cases success
        exact ⟨rfl, .inl ⟨existing, rfl⟩⟩
      next changed =>
        obtain ⟨⟨stored, row⟩, storing, success⟩ := bind_ok success
        cases success
        obtain ⟨relations, written⟩ := storeRemoteStatus_written storing
        refine ⟨relations, .inr ⟨written, ?_⟩⟩
        intro kept
        obtain ⟨other, present, unchanged⟩ := kept
        rw [found] at present
        cases present
        exact changed unchanged

private theorem storePoll_relations {statusId : StatusId} {poll : Option Poll.RemoteStatusPoll}
    (success : storePoll db generated statusId poll = .ok next) :
    next.relations = db.relations := by
  cases poll with
  | none =>
      cases success
      rfl
  | some input =>
      obtain ⟨_, _, success⟩ := bind_ok success
      cases success
      rfl

private theorem storeQuote_withdrawn {statusId : StatusId} {quote : Option ResolvedInboundQuote}
    (withdrawn : Withdrawn db.relations.quotes quoteId)
    (success : storeQuote db generated statusId quote = .ok next)
    (respects : quote.isSome = true → ∀ stored,
      quoteOf db.relations (.remoteStatus statusId) = some stored → stored.id = quoteId →
        ¬ Final stored.state) :
    Withdrawn next.relations.quotes quoteId := by
  cases quote with
  | none =>
      cases success
      exact withdrawn
  | some resolved =>
      obtain ⟨relations, upserted, success⟩ := bind_ok success
      cases success
      exact withdrawn.upsert upserted (.inr (respects rfl))

private theorem applyEdit_withdrawn {edit : Edit} {quote : Option ResolvedInboundQuote}
    {change : RemoteStatusChange} (withdrawn : Withdrawn db.relations.quotes quoteId)
    (success : applyEdit server db generated edit actor quote = .ok (next, change))
    (respects : quote.isSome = true →
      ¬ Kept db (edit.status server db.toDb actor) edit.note.attachments →
      ∀ stored, quoteOf db.relations (.remoteStatus (writtenId db generated edit.note.id)) =
        some stored → stored.id = quoteId → ¬ Final stored.state) :
    Withdrawn next.relations.quotes quoteId := by
  obtain ⟨⟨stored, upsert⟩, upserted, success⟩ := bind_ok success
  obtain ⟨polled, polling, success⟩ := bind_ok success
  obtain ⟨storedSame, outcome⟩ := processRemoteStatusUpsert_written upserted
  have same : polled.relations = db.relations := (storePoll_relations polling).trans storedSame
  have kept : Withdrawn polled.relations.quotes quoteId := by
    rw [same]
    exact withdrawn
  have quoting : ∀ {result : Db}, ¬ (∃ row, upsert = .unchanged row) →
      storeQuote (replaceRemoteStatusLocalRecipients
        (linkUnresolvedRemoteRepliesToParent polled upsert.status) upsert.status.id
        edit.audience.explicitRecipients) generated upsert.status.id quote = .ok result →
      Withdrawn result.relations.quotes quoteId := by
    intro result changed storing
    have addressed : Withdrawn (replaceRemoteStatusLocalRecipients
        (linkUnresolvedRemoteRepliesToParent polled upsert.status) upsert.status.id
        edit.audience.explicitRecipients).relations.quotes quoteId := kept
    refine storeQuote_withdrawn addressed storing ?_
    intro present found
    rcases outcome with unchanged | ⟨written, differs⟩
    · exact absurd unchanged changed
    · rw [written]
      change quoteOf polled.relations _ = _ → _
      rw [same]
      exact respects present differs found
  cases upsert with
  | unchanged row =>
      cases success
      exact kept
  | created row =>
      obtain ⟨quoted, storing, success⟩ := bind_ok success
      cases success
      refine quoting ?_ storing
      intro unchanged
      obtain ⟨_, impossible⟩ := unchanged
      cases impossible
  | updated row =>
      obtain ⟨quoted, storing, success⟩ := bind_ok success
      cases success
      refine quoting ?_ storing
      intro unchanged
      obtain ⟨_, impossible⟩ := unchanged
      cases impossible

private theorem statusActivity_withdrawn {id : String}
    (withdrawn : Withdrawn db.relations.quotes quoteId)
    (respects : Respects server quoteId db (.receive generated activity actor)) :
    Withdrawn (acceptedStatus db (processRemoteStatusActivity server db generated id activity
      actor)).2.relations.quotes quoteId := by
  cases processed : processRemoteStatusActivity server db generated id activity actor with
  | error error => exact withdrawn
  | ok result =>
      obtain ⟨next, change⟩ := result
      unfold processRemoteStatusActivity at processed
      obtain ⟨_, processed⟩ := guard_ok processed
      obtain ⟨edit, read, processed⟩ := bind_ok processed
      obtain ⟨quote, resolved, processed⟩ := bind_ok processed
      split at processed
      next => cases processed
      next =>
        cases processed
        exact withdrawn
      next marker registered =>
        have marked : Withdrawn ({ db with markers := db.markers ++ marker.toList } :
            Db).relations.quotes quoteId := withdrawn
        refine applyEdit_withdrawn marked processed ?_
        intro present changed
        cases quote with
        | none => cases present
        | some quote => exact respects _ (.edit read resolved (by rw [registered]) changed)

private theorem deleteActivity_withdrawn {id : String}
    (withdrawn : Withdrawn db.relations.quotes quoteId) :
    Withdrawn (processDelete server db generated activity id actor).2.relations.quotes
      quoteId := by
  unfold processDelete
  cases handled : processAuthorizationDelete server db generated activity actor with
  | some result => exact processAuthorizationDelete_withdrawn withdrawn handled
  | none =>
      dsimp only [Option.getD]
      cases processed : processRemoteDeleteActivity server db generated id activity actor with
      | error error => exact withdrawn
      | ok result =>
          unfold processRemoteDeleteActivity at processed
          obtain ⟨_, processed⟩ := guard_ok processed
          split at processed
          next =>
            obtain ⟨_, processed⟩ := guard_ok processed
            obtain ⟨_, processed⟩ := guard_ok processed
            obtain ⟨_, processed⟩ := guard_ok processed
            split at processed
            next => cases processed
            next =>
              cases processed
              exact withdrawn
            next =>
              unfold processRemoteStatusDelete at processed
              split at processed
              next deleted =>
                split at deleted
                next =>
                  cases deleted
                  cases processed
                  exact withdrawn
                next => cases deleted
              next deleted =>
                split at deleted
                next => cases deleted
                next =>
                  cases deleted
                  cases processed
                  exact withdrawn
          next => cases processed

private theorem processActivity_withdrawn {result : Response × Db}
    (withdrawn : Withdrawn db.relations.quotes quoteId)
    (respects : Respects server quoteId db (.receive generated activity actor))
    (processed : processActivity server db generated activity actor = some result) :
    Withdrawn result.2.relations.quotes quoteId := by
  unfold processActivity at processed
  split at processed
  next response inbox handled =>
    cases processed
    change Withdrawn inbox.relations.quotes quoteId
    rcases processInbox_effect handled with same | ⟨kind, _, effect⟩
    · rw [same]
      exact withdrawn
    · rcases effect.quotes with same | ⟨requestId, state, authorization, same⟩
      · rw [same]
        exact withdrawn
      · rw [same]
        exact withdrawn.transition requestId state authorization
  next =>
    split at processed
    next => cases processed
    next =>
      split at processed
      next =>
        cases processed
        exact processQuoteRequest_withdrawn withdrawn respects
      next =>
        cases processed
        unfold processCreate
        split
        next => exact processInboundPollVote_quotes withdrawn
        next => exact statusActivity_withdrawn withdrawn respects
      next =>
        cases processed
        exact statusActivity_withdrawn withdrawn respects
      next =>
        cases processed
        exact deleteActivity_withdrawn withdrawn
      next => cases processed

/-!
## Runs
-/

theorem step_withdrawn {call : Call} (withdrawn : Withdrawn db.relations.quotes quoteId)
    (respects : Respects server quoteId db call) :
    Withdrawn (step server db call).relations.quotes quoteId := by
  cases call with
  | receive generated activity actor =>
      dsimp only [step]
      cases processed : processActivity server db generated activity actor with
      | none => exact withdrawn
      | some result => exact processActivity_withdrawn withdrawn respects processed
  | transition requestId state authorizationId =>
      exact withdrawn.transition requestId state authorizationId
  | revokeAuthorization authorizationId => exact withdrawn.revoke _
  | revokeStatus quoted quoting => exact withdrawn.revoke _
  | targetDeleted target =>
      exact withdrawn.updateWhere (fun _ => rfl) (fun _ => rfl) fun _ _ _ _ => .inr (.inr rfl)
  | createLocal newId quoting quoted quotedActivitypubId state requestId authorizationId =>
      dsimp only [step]
      split
      next => exact withdrawn
      next relations created =>
        obtain ⟨_, inserted⟩ := guard_ok created
        exact withdrawn.insert inserted

/-- A quote that is rejected, revoked or deleted is not accepted in any state of a
run whose calls ask for no accepted quote in its place. -/
theorem consent_final {start : Db} (schema : QuoteSchema start.relations.quotes)
    {quote : StatusQuote} (member : quote ∈ start.relations.quotes) (final : Final quote.state)
    (calls : List Call)
    (respects : ∀ earlier call later, calls = earlier ++ call :: later →
      Respects server quote.id ((quotes server).run start earlier) call) :
    ∀ earlier later, calls = earlier ++ later →
      ∀ row ∈ ((quotes server).run start earlier).relations.quotes, row.id = quote.id →
        row.state ≠ .accepted := by
  intro earlier
  have withdrawn : ∀ later, calls = earlier ++ later →
      Withdrawn ((quotes server).run start earlier).relations.quotes quote.id := by
    induction earlier using List.reverseRecOn with
    | nil =>
        intro later _
        exact ⟨schema, quote, member, rfl, final⟩
    | append_singleton earlier call ih =>
        intro later split
        have shape : calls = earlier ++ call :: later := by rw [split, List.append_assoc]; rfl
        rw [Machine.run_snoc]
        exact step_withdrawn (ih (call :: later) shape) (respects earlier call later shape)
  intro later split row stored named accepted
  have ended := (withdrawn later split).final stored named
  rw [accepted] at ended
  rcases ended with impossible | impossible | impossible <;> cases impossible

namespace Exchange

open Status.Sample (noteUri created receiver start)

def inputs (number : Nat) : Generated :=
  ⟨⟨100 + number⟩, ⟨1782864600000000, 200 + number, ⟨300 + number⟩, fun row => row⟩,
    ⟨400 + number, "https://local.example/quote-authorizations/" ++ toString number, 500 + number,
      fun _ => none⟩⟩

/-- Alice asks for consent to quote the status of Bob in her Note. -/
def request (number : String) : Json := .object
  [("type", .string quoteRequestType),
    ("id", .string ("https://remote.example/quote-requests/" ++ number)),
    ("actor", .string Inbox.Sample.alice.activitypubId),
    ("object",
      .string "https://local.example/users/bob/statuses/00000000-0000-0000-0000-000000000005"),
    ("instrument", .string noteUri)]

def requested : List Call :=
  [.receive (inputs 0) created.json Inbox.Sample.alice,
    .receive (inputs 1) (request "1") Inbox.Sample.alice]

def revoked : List Call := requested ++ [.revokeStatus (.localStatus ⟨5⟩) (.remoteStatus ⟨100⟩)]

def replayed : Call := .receive (inputs 2) (request "1") Inbox.Sample.alice

def after (calls : List Call) : Db := (quotes receiver).run start calls

def states (calls : List Call) : List (Nat × QuoteState) :=
  (after calls).relations.quotes.map fun quote => (quote.id, quote.state)

end Exchange

open Exchange in
theorem consent_final_replayed :
    states revoked = [(401, .revoked)] ∧
    ∀ row ∈ (after (revoked ++ [replayed])).relations.quotes, row.id = 401 →
      row.state ≠ .accepted := by
  refine ⟨by decide +kernel, ?_⟩
  have schema : QuoteSchema (after revoked).relations.quotes :=
    ⟨by decide +kernel, by decide +kernel⟩
  obtain ⟨quote, stored, named, withdrawn⟩ : ∃ quote ∈ (after revoked).relations.quotes,
      quote.id = 401 ∧ quote.state = .revoked := by decide +kernel
  have respected : Respects Status.Sample.receiver quote.id (after revoked) replayed := by
    -- the request was registered before, and it carries no Note
    intro statusId upserts
    cases upserts with
    | request read found quotable cached new =>
        have seen : (isNewInboxActivity Status.Sample.receiver.format
            Status.Sample.receiver.sha256 (after revoked).markers (request "1")
            Inbox.Sample.alice.id (inputs 2).poll.now).2 = .ok false := by
          decide +kernel
        cases seen.symm.trans new
    | edit read resolved new changed =>
        have unread : readStatusActivity Status.Sample.receiver (after revoked).toDb (request "1")
            Inbox.Sample.alice = .error (.invalidInput "remote status activity is invalid") := by
          decide +kernel
        cases unread.symm.trans read
  have respects : ∀ earlier call later, [replayed] = earlier ++ call :: later →
      Respects Status.Sample.receiver quote.id
        ((quotes Status.Sample.receiver).run (after revoked) earlier) call := by
    intro earlier call later split
    cases earlier with
    | nil =>
        cases split
        exact respected
    | cons _ rest => cases rest <;> cases split
  have settled := consent_final schema stored (.inr (.inl withdrawn)) [replayed] respects
    [replayed] [] rfl
  have same : after (revoked ++ [replayed]) =
      (quotes Status.Sample.receiver).run (after revoked) [replayed] :=
    Machine.run_append _ _ _ _
  rw [same, ← named]
  exact settled

open Exchange in
/-- A second request for the same quote is accepted after the quoted author has
revoked it. -/
theorem consent_renewed :
    states requested = [(401, .accepted)] ∧ states revoked = [(401, .revoked)] ∧
    states (revoked ++ [.receive (inputs 2) (request "2") Inbox.Sample.alice]) =
      [(401, .accepted)] := by
  refine ⟨?_, ?_, ?_⟩
  · decide +kernel
  · decide +kernel
  · decide +kernel

end Roosty.Federation.Status.Consent
