import Roosty.Federation.Quote
import Roosty.Library.Result

/-!
# Rows of the quote table

What each statement leaves in the rows of `status_quote`, and that the keys of
the table stay unique.
-/

set_option autoImplicit false

namespace Roosty.Federation.Inbox

open Library

/-- The keys of the quote table that its statements select rows by. -/
structure QuoteSchema (quotes : List StatusQuote) : Prop where
  ids : Table.UniqueOn (fun quote : StatusQuote => some quote.id) quotes
  quoting : Table.UniqueOn (fun quote : StatusQuote => some quote.quotingStatus) quotes

variable {relations next : Relations} {db : Db} {quoteId : Nat} {quoting : StatusId}
variable {quoted : StatusReference} {quotedActivitypubId : String} {state : QuoteState}
variable {authorizationId : Option String}

theorem QuoteSchema.same_id {quotes : List StatusQuote} (schema : QuoteSchema quotes)
    {left right : StatusQuote} (leftMember : left ∈ quotes) (rightMember : right ∈ quotes)
    (same : left.id = right.id) : left = right :=
  schema.ids.eq_of_key leftMember rightMember rfl (congrArg some same.symm)

theorem quoteOf_some {status : StatusReference} {quote : StatusQuote}
    (found : quoteOf relations status = some quote) :
    quote ∈ relations.quotes ∧ quote.quotingStatus = status := by
  have selected := List.find?_some found
  exact ⟨List.mem_of_find?_eq_some found, beq_iff_eq.mp selected⟩

theorem QuoteSchema.updateWhere {quotes : List StatusQuote} (schema : QuoteSchema quotes)
    {selected : StatusQuote → Bool} {change : StatusQuote → StatusQuote}
    (id : ∀ quote, (change quote).id = quote.id)
    (kept : ∀ quote, (change quote).quotingStatus = quote.quotingStatus) :
    QuoteSchema (Table.updateWhere selected change quotes) where
  ids := schema.ids.updateWhere fun quote _ _ => .inl (by rw [id])
  quoting := schema.quoting.updateWhere fun quote _ _ => .inl (by rw [kept])

theorem insertStatusQuote_ok {quote : StatusQuote}
    (success : insertStatusQuote relations quote = .ok next) :
    next = { relations with quotes := relations.quotes ++ [quote] } ∧
      (∀ other ∈ relations.quotes, other.id ≠ quote.id) ∧
      ∀ other ∈ relations.quotes, other.quotingStatus ≠ quote.quotingStatus := by
  unfold insertStatusQuote at success
  obtain ⟨newId, success⟩ := guard_ok success
  obtain ⟨newQuoting, success⟩ := guard_ok success
  obtain ⟨_, success⟩ := guard_ok success
  obtain ⟨_, success⟩ := guard_ok success
  cases success
  refine ⟨rfl, ?_, ?_⟩
  · intro other member same
    exact newId (List.any_eq_true.mpr ⟨other, member, beq_iff_eq.mpr same⟩)
  · intro other member same
    exact newQuoting (List.any_eq_true.mpr ⟨other, member, beq_iff_eq.mpr same⟩)

theorem insertStatusQuote_schema {quote : StatusQuote}
    (success : insertStatusQuote relations quote = .ok next)
    (schema : QuoteSchema relations.quotes) : QuoteSchema next.quotes := by
  obtain ⟨rfl, newId, newQuoting⟩ := insertStatusQuote_ok success
  constructor
  · refine schema.ids.insert ?_
    intro value key other member same
    exact newId other member (Option.some.inj (same.trans key.symm))
  · refine schema.quoting.insert ?_
    intro value key other member same
    exact newQuoting other member (Option.some.inj (same.trans key.symm))

theorem upsertRemoteStatusQuote_ok
    (success : upsertRemoteStatusQuote db quoteId quoting quoted quotedActivitypubId state
      authorizationId = .ok next) :
    (∃ existing, quoteOf db.relations (.remoteStatus quoting) = some existing ∧
      next = { db.relations with
        quotes := Table.updateWhere (fun quote => quote.id == existing.id)
          (fun quote => { quote with state := state, authorizationId := authorizationId })
          db.relations.quotes }) ∨
    (quoteOf db.relations (.remoteStatus quoting) = none ∧
      insertStatusQuote db.relations ⟨quoteId, .remoteStatus quoting, some quoted,
        quotedActivitypubId, state, none, authorizationId⟩ = .ok next) := by
  unfold upsertRemoteStatusQuote at success
  obtain ⟨_, success⟩ := guard_ok success
  cases found : quoteOf db.relations (.remoteStatus quoting) with
  | none =>
      rw [found] at success
      exact .inr ⟨rfl, success⟩
  | some existing =>
      rw [found] at success
      obtain ⟨_, success⟩ := guard_ok success
      obtain ⟨_, success⟩ := guard_ok success
      cases success
      exact .inl ⟨existing, rfl, rfl⟩

theorem upsertRemoteStatusQuote_frame
    (success : upsertRemoteStatusQuote db quoteId quoting quoted quotedActivitypubId state
      authorizationId = .ok next) :
    next = { db.relations with quotes := next.quotes } := by
  rcases upsertRemoteStatusQuote_ok success with ⟨existing, _, rfl⟩ | ⟨_, inserted⟩
  · rfl
  · obtain ⟨rfl, _⟩ := insertStatusQuote_ok inserted
    rfl

/-!
## Resolution
-/

/-- A resolved quote names the quote of its Note, with the authorization of the
Note or a new one. -/
def ResolvedInboundQuote.Names (quote : ResolvedInboundQuote) (note : InboundNote)
    (authorizationUrl : String) : Prop :=
  note.quote = some quote.activitypubId ∧
    (quote.authorizationId = some authorizationUrl ∨
      quote.authorizationId = note.quoteAuthorization)

private theorem publishedAuthorization_carried {context : Context} {inputs : QuoteInputs}
    {note : InboundNote} {target : RemoteStatus} {author : RemoteActor} {found : String}
    (published : publishedAuthorization context inputs note target author = some found) :
    note.quoteAuthorization = some found := by
  unfold publishedAuthorization at published
  obtain ⟨carried, present, published⟩ := Option.bind_eq_some_iff.mp published
  split at published
  next => cases published
  next =>
    obtain ⟨document, _, published⟩ := Option.bind_eq_some_iff.mp published
    obtain ⟨authorization, _, published⟩ := Option.bind_eq_some_iff.mp published
    split at published
    next => cases published
    next same =>
      cases published
      simp only [Bool.or_eq_true, bne_iff_ne, not_or, not_not] at same
      rw [present, same.1.1.1]

theorem resolveInboundQuote_names {context : Context} {actors : List RemoteActor}
    {inputs : QuoteInputs} {note : InboundNote} {actor : RemoteActor}
    (authors : ∀ status ∈ db.remoteStatuses, ∃ other ∈ actors, other.id = status.remoteActorId) :
    ∃ resolved, resolveInboundQuote context db actors inputs note actor = .ok resolved ∧
      ∀ quote ∈ resolved, quote.state = .accepted ∧ quote.Names note inputs.authorizationUrl := by
  unfold resolveInboundQuote
  cases named : note.quote.filter startsWithHttps with
  | none => exact ⟨none, rfl, fun quote member => by cases member⟩
  | some targetId =>
      have carried : note.quote = some targetId := (Option.filter_eq_some_iff.mp named).1
      dsimp only
      cases localTarget : localStatusFromUrl context db targetId with
      | some target =>
          dsimp only
          split
          next =>
            refine ⟨_, rfl, ?_⟩
            intro quote member
            cases member
            exact ⟨rfl, carried, .inl rfl⟩
          next => exact ⟨none, rfl, fun quote member => by cases member⟩
      | none =>
          dsimp only
          cases found : findRemoteStatusByActivitypubId db targetId with
          | none => exact ⟨none, rfl, fun quote member => by cases member⟩
          | some target =>
              dsimp only
              split
              next =>
                refine ⟨_, rfl, ?_⟩
                intro quote member
                cases member
                exact ⟨rfl, carried, .inr rfl⟩
              next =>
                split
                next => exact ⟨none, rfl, fun quote member => by cases member⟩
                next =>
                  obtain ⟨author, known, sameId⟩ :=
                    authors target (List.mem_of_find?_eq_some found)
                  cases lookup : actors.find? fun other => other.id == target.remoteActorId with
                  | none =>
                      have unknown := List.find?_eq_none.mp lookup author known
                      exact absurd (beq_iff_eq.mpr sameId) unknown
                  | some author =>
                      refine ⟨_, rfl, ?_⟩
                      intro quote member
                      obtain ⟨authorization, published, rfl⟩ := Option.map_eq_some_iff.mp member
                      exact ⟨rfl, carried, .inr (publishedAuthorization_carried published).symm⟩

end Roosty.Federation.Inbox
