import Roosty.Federation.Quote

/-!
# Effects of inbox activities

What an activity about a relationship can do to the stored relations, with the
checks that it passed. Results about one table follow from the cases.
-/

set_option autoImplicit false

namespace Roosty.Federation.Inbox

open Library

inductive Effect (context : Context) (db : Db) (activity : Json) (actor : RemoteActor) :
    InboxActivityType → Relations → Prop
  | unchanged (kind : InboxActivityType) : Effect context db activity actor kind db.relations
  | block (id : String) (account : LocalAccount) : Effect context db activity actor .block
      (processRemoteBlock db.relations actor.id account.id id)
  | follow {relations : Relations} (id : String) (account : LocalAccount)
      (state : RemoteFollowState)
      (stored : upsertProcessedRemoteFollow db actor.id account.id id activity state =
        some relations) : Effect context db activity actor .follow relations
  | like {object : String} {status : LocalStatus} (id : String)
      (named : (activity.get? "object").bind Json.asStr? = some object)
      (found : localStatusFromUrl context db object = some status)
      (visible : localPrivateStatusVisibleToRemoteActor db status actor.id = true) :
      Effect context db activity actor .like
        (processRemoteLike db actor.id status.id id status.accountId)
  | announce {object : String} {target : StatusReference} {relations : Relations} (id : String)
      (named : (activity.get? "object").bind Json.asStr? = some object)
      (found : announceTarget context db object actor = some target)
      (stored : reblogStatusByRemoteActor db actor.id target id = some relations) :
      Effect context db activity actor .announce relations
  | undoBlock (account : AccountId) (original : String) : Effect context db activity actor .undo
      (processRemoteUndoBlock db.relations actor.id account original)
  | undoReblog (original : String) :
      Effect context db activity actor .undo (processRemoteUndoReblog db actor.id original)
  | undoLike (original : String) :
      Effect context db activity actor .undo (processRemoteUndoLike db actor.id original)
  | undoFollow (original : String) : Effect context db activity actor .undo
      (processRemoteUndoFollow db.relations actor.id original)
  | quoteAnswer {kind : InboxActivityType} (answers : kind = .accept ∨ kind = .reject)
      (requestId : String) (state : QuoteState) (authorizationId : Option String) :
      Effect context db activity actor kind
        (transitionQuoteRequest db.relations requestId state authorizationId)
  | followAccepted (original : String) : Effect context db activity actor .accept
      (acceptRemoteFollowing db.relations actor.id original)
  | followRejected (original : String) : Effect context db activity actor .reject
      (rejectRemoteFollowing db.relations actor.id original)

variable {context : Context} {db : Db} {activity : Json} {actor : RemoteActor} {now : Int}
variable {kind : InboxActivityType}

private theorem whenNew_effect {effects : Option Relations}
    (applied : ∀ relations, effects = some relations →
      Effect context db activity actor kind relations) :
    Effect context db activity actor kind
      (whenNew context db activity actor now effects).2.relations := by
  unfold whenNew
  split
  next => exact .unchanged _
  next => exact .unchanged _
  next =>
    cases effects with
    | none => exact .unchanged _
    | some relations => exact applied relations rfl

private theorem whenNew_some_effect {relations : Relations}
    (applied : Effect context db activity actor kind relations) :
    Effect context db activity actor kind
      (whenNew context db activity actor now (some relations)).2.relations := by
  apply whenNew_effect
  intro stored same
  cases same
  exact applied

private theorem finishIgnored_effect : Effect context db activity actor kind
    (finishIgnoredInboxActivity context db activity actor now).2.relations := by
  unfold finishIgnoredInboxActivity
  split
  next => exact .unchanged _
  next => exact .unchanged _

private theorem processBlock_effect (id : String) : Effect context db activity actor .block
    (processBlock context db activity id actor now).2.relations := by
  unfold processBlock
  split
  next =>
    split
    next => exact .unchanged _
    next =>
      split
      next => exact finishIgnored_effect
      next account _ => exact whenNew_some_effect (.block id account)
  next => exact .unchanged _

private theorem processFollow_effect (id : String) : Effect context db activity actor .follow
    (processFollow context db activity id actor now).2.relations := by
  unfold processFollow
  split
  next => exact .unchanged _
  next =>
    split
    next => exact .unchanged _
    next =>
      split
      next => exact finishIgnored_effect
      next account _ => exact whenNew_effect fun relations stored => .follow id account _ stored

private theorem processLike_effect (id : String) : Effect context db activity actor .like
    (processLike context db activity id actor now).2.relations := by
  unfold processLike
  split
  next object _ named =>
    split
    next => exact finishIgnored_effect
    next =>
      split
      next => exact finishIgnored_effect
      next status found =>
        split
        next visible => exact whenNew_some_effect (.like id named found visible)
        next => exact finishIgnored_effect
  next => exact .unchanged _

private theorem processAnnounce_effect (id : String) : Effect context db activity actor .announce
    (processAnnounce context db activity id actor now).2.relations := by
  unfold processAnnounce
  split
  next object _ named =>
    split
    next => exact finishIgnored_effect
    next =>
      split
      next => exact finishIgnored_effect
      next target found =>
        exact whenNew_effect fun relations stored => .announce id named found stored
  next => exact .unchanged _

private theorem processUndo_effect : Effect context db activity actor .undo
    (processUndo context db activity actor now).2.relations := by
  unfold processUndo
  dsimp only
  split
  next original account _ => exact whenNew_some_effect (.undoBlock account original)
  next =>
    split
    next original _ => exact whenNew_some_effect (.undoReblog original)
    next =>
      split
      next original _ => exact whenNew_some_effect (.undoLike original)
      next =>
        split
        next original _ => exact whenNew_some_effect (.undoFollow original)
        next => exact .unchanged _

private theorem processQuoteResponse_effect (answers : kind = .accept ∨ kind = .reject)
    (accepting : Bool) (author requestId : String) (authorization : Option QuoteAuthorization)
    (quote : StatusQuote) :
    Effect context db activity actor kind (processQuoteResponse context db activity actor now
      accepting author requestId authorization quote).2.relations := by
  unfold processQuoteResponse
  dsimp only
  split
  next => exact .unchanged _
  next =>
    split
    next =>
      split
      next => exact finishIgnored_effect
      next =>
        split
        next => exact whenNew_some_effect (.quoteAnswer answers requestId _ _)
        next =>
          split
          next => exact .unchanged _
          next => exact finishIgnored_effect
          next =>
            split
            next => exact .unchanged _
            next =>
              split
              next => exact whenNew_some_effect (.quoteAnswer answers requestId _ _)
              next => exact .unchanged _
    next => exact finishIgnored_effect

private def answerType : Bool → InboxActivityType
  | true => .accept
  | false => .reject

private theorem processAnswer_effect (accepting : Bool) :
    Effect context db activity actor (answerType accepting)
      (processAnswer context db activity actor now accepting).2.relations := by
  have answers : answerType accepting = .accept ∨ answerType accepting = .reject := by
    cases accepting with
    | true => exact .inl rfl
    | false => exact .inr rfl
  unfold processAnswer
  dsimp only
  split
  next => exact processQuoteResponse_effect answers _ _ _ _ _
  next =>
    unfold processFollowAnswer
    split
    next => exact .unchanged _
    next original _ =>
      apply whenNew_some_effect
      cases accepting with
      | true => exact .followAccepted original
      | false => exact .followRejected original

theorem processInbox_effect {response : Response} {next : Db}
    (processed : processInbox context db activity actor now = some (response, next)) :
    next.relations = db.relations ∨ ∃ kind,
      (inboundActivityType activity).bind InboundActivityType.persisted = some kind ∧
      Effect context db activity actor kind next.relations := by
  have shown : ∀ {result : Response × Db} {kind : InboxActivityType},
      (inboundActivityType activity).bind InboundActivityType.persisted = some kind →
      some result = some (response, next) →
      Effect context db activity actor kind result.2.relations →
      next.relations = db.relations ∨ ∃ kind,
        (inboundActivityType activity).bind InboundActivityType.persisted = some kind ∧
        Effect context db activity actor kind next.relations := by
    intro result kind typed same effect
    rw [Option.some.inj same] at effect
    exact .inr ⟨kind, typed, effect⟩
  unfold processInbox at processed
  split at processed
  next =>
    cases processed
    exact .inl rfl
  next kind typed =>
    split at processed
    next => exact shown typed processed (.unchanged _)
    next id _ =>
      split at processed
      next => exact shown typed processed (.unchanged _)
      next =>
        split at processed
        next => exact shown typed processed (.unchanged _)
        next =>
          split at processed
          next => exact shown typed processed (.unchanged _)
          next =>
            cases kind with
            | block => exact shown typed processed (processBlock_effect id)
            | undo => exact shown typed processed processUndo_effect
            | accept => exact shown typed processed (processAnswer_effect true)
            | reject => exact shown typed processed (processAnswer_effect false)
            | like => exact shown typed processed (processLike_effect id)
            | announce => exact shown typed processed (processAnnounce_effect id)
            | follow => exact shown typed processed (processFollow_effect id)
            | _ => cases processed

/-!
## Quotes
-/

private theorem upsertProcessedRemoteFollow_quotes {account : AccountId} {id : String}
    {state : RemoteFollowState} {relations : Relations}
    (stored : upsertProcessedRemoteFollow db actor.id account id activity state =
      some relations) : relations.quotes = db.relations.quotes := by
  unfold upsertProcessedRemoteFollow at stored
  dsimp only at stored
  split at stored
  next =>
    cases stored
    rfl
  next =>
    split at stored
    next => cases stored
    next =>
      cases stored
      rfl

theorem reblogStatusByRemoteActor_some {actor : AccountId} {target : StatusReference}
    {id : String} {relations : Relations}
    (stored : reblogStatusByRemoteActor db actor target id = some relations) :
    relations = { db.relations with reblogs := relations.reblogs, trends := relations.trends } := by
  unfold reblogStatusByRemoteActor at stored
  dsimp only at stored
  split at stored
  next =>
    cases stored
    rfl
  next =>
    split at stored
    next => cases stored
    next =>
      cases stored
      rfl

theorem Effect.quotes {relations : Relations}
    (effect : Effect context db activity actor kind relations) :
    relations.quotes = db.relations.quotes ∨ ∃ requestId state authorizationId,
      relations = transitionQuoteRequest db.relations requestId state authorizationId := by
  cases effect with
  | quoteAnswer _ requestId state authorizationId =>
      exact .inr ⟨requestId, state, authorizationId, rfl⟩
  | follow id account state stored => exact .inl (upsertProcessedRemoteFollow_quotes stored)
  | like id named found visible =>
      unfold processRemoteLike
      dsimp only
      split
      next => exact .inl rfl
      next => exact .inl rfl
  | announce id named found stored =>
      rw [reblogStatusByRemoteActor_some stored]
      exact .inl rfl
  | undoReblog original =>
      unfold processRemoteUndoReblog
      dsimp only
      split
      next => exact .inl rfl
      next => exact .inl rfl
  | undoLike original =>
      unfold processRemoteUndoLike
      dsimp only
      split
      next => exact .inl rfl
      next => exact .inl rfl
  | _ => exact .inl rfl

end Roosty.Federation.Inbox
