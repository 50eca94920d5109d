import Roosty.Federation.InboxEffects
import Roosty.Federation.Interaction
import Roosty.Federation.RemoteStatusProperties

/-!
# Admission of interactions

Likes, announcements, quote requests and poll votes of a remote actor on a local
status. Each handler has an admission test of its own: what an interaction
records is admissible for some of them always, for others under a condition that
they do not check.
-/

set_option autoImplicit false

namespace Roosty.Federation.Status

open Library Inbox

/-- The ways in which a remote actor interacts with a local status. -/
inductive Interaction where
  | like
  | announce
  | quoteRequest
  | vote
deriving DecidableEq

def interaction (context : Context) (db : Inbox.Db) (activity : Json) (actor : RemoteActor) :
    Option (Interaction × LocalStatus) :=
  match (inboundActivityType activity).bind InboundActivityType.persisted with
  | some .like => do
      let object ← (activity.get? "object").bind Json.asStr?
      (localStatusFromUrl context db object).map (.like, ·)
  | some .announce => do
      let object ← (activity.get? "object").bind Json.asStr?
      (localStatusFromUrl context db object).map (.announce, ·)
  | some .quoteRequest => do
      let request ← inboundQuoteRequest activity
      (localStatusFromUrl context db request.object).map (.quoteRequest, ·)
  | some .create => do
      let vote ← (inboundPollVote activity).filter fun vote =>
        vote.actor == actor.activitypubId && vote.attributedTo == actor.activitypubId
      (localStatusFromUrl context db vote.inReplyTo).map (.vote, ·)
  | _ => none

/-- A favourite, a reblog, an accepted quote, a vote or a tally was stored. -/
def Records (db next : Db) : Prop :=
  next.relations.favourites ≠ db.relations.favourites ∨
    next.relations.reblogs ≠ db.relations.reblogs ∨
    (∃ quote ∈ next.relations.quotes, quote.state = .accepted ∧ quote ∉ db.relations.quotes) ∨
    next.votes ≠ db.votes ∨ next.options ≠ db.options

instance (db next : Db) : Decidable (Records db next) :=
  inferInstanceAs (Decidable (_ ∨ _))

/-- The actor may see the status, and neither it nor the author blocks the other. -/
structure Admissible (db : Inbox.Db) (status : LocalStatus) (actor : AccountId) : Prop where
  visible : localPrivateStatusVisibleToRemoteActor db status actor = true
  unblocked : localRemoteAccountsAreBlocked db status.accountId actor = false

def Unchecked (db : Inbox.Db) (status : LocalStatus) (actor : AccountId) : Interaction → Prop
  | .like => True
  | .announce => localRemoteAccountsAreBlocked db status.accountId actor = false
  | .quoteRequest => status.visibility = .privateStatus → status.quoteApprovalPolicy = .everyone →
      localPrivateStatusVisibleToRemoteActor db status actor = true
  | .vote => localPrivateStatusVisibleToRemoteActor db status actor = true ∧
      localRemoteAccountsAreBlocked db status.accountId actor = false

variable {server : Server} {db next : Db} {generated : Generated} {activity : Json}
variable {actor : RemoteActor} {status : LocalStatus} {response : Response}

private theorem not_records (relations : next.relations = db.relations)
    (votes : next.votes = db.votes) (options : next.options = db.options) : ¬ Records db next := by
  unfold Records
  rw [relations, votes, options]
  rintro (changed | changed | ⟨quote, stored, _, absent⟩ | changed | changed)
  · exact changed rfl
  · exact changed rfl
  · exact absent stored
  · exact changed rfl
  · exact changed rfl

/-!
## Handlers
-/

private theorem like_admissible {relations : Relations}
    (effect : Effect server.toContext db.toDb activity actor .like relations)
    (changed : relations ≠ db.relations) {object : String}
    (named : (activity.get? "object").bind Json.asStr? = some object)
    (found : localStatusFromUrl server.toContext db.toDb object = some status) :
    Admissible db.toDb status actor.id := by
  cases effect with
  | unchanged => exact absurd rfl changed
  | quoteAnswer answers =>
      rcases answers with impossible | impossible <;> cases impossible
  | like id liked likedFound visible =>
      cases named.symm.trans liked
      cases found.symm.trans likedFound
      refine ⟨visible, ?_⟩
      cases blocked : localRemoteAccountsAreBlocked db.toDb status.accountId actor.id with
      | false => rfl
      | true =>
          have untouched : processRemoteLike db.toDb actor.id status.id id status.accountId =
              db.relations := by
            unfold processRemoteLike
            rw [blocked]
            rfl
          exact absurd untouched changed

private theorem announce_visible {relations : Relations}
    (effect : Effect server.toContext db.toDb activity actor .announce relations)
    (changed : relations ≠ db.relations) {object : String}
    (named : (activity.get? "object").bind Json.asStr? = some object)
    (found : localStatusFromUrl server.toContext db.toDb object = some status) :
    localPrivateStatusVisibleToRemoteActor db.toDb status actor.id = true := by
  cases effect with
  | unchanged => exact absurd rfl changed
  | quoteAnswer answers =>
      rcases answers with impossible | impossible <;> cases impossible
  | announce id announced target stored =>
      cases named.symm.trans announced
      obtain ⟨statusId, located, selected⟩ := Option.bind_eq_some_iff.mp found
      unfold announceTarget at target
      rw [located] at target
      dsimp only at target
      rw [selected] at target
      unfold localPrivateStatusVisibleToRemoteActor
      cases visibility : status.visibility with
      | publicStatus => rfl
      | unlisted => rfl
      | privateStatus => simp [visibility] at target
      | direct => simp [visibility] at target

private theorem quoteRequest_unchanged {relations : Relations}
    (effect : Effect server.toContext db.toDb activity actor .quoteRequest relations) :
    relations = db.relations := by
  cases effect with
  | unchanged => rfl
  | quoteAnswer answers => rcases answers with impossible | impossible <;> cases impossible

private theorem quotable_admissible (quotable : quotableBy db.toDb status actor.id = true)
    (unchecked : Unchecked db.toDb status actor.id .quoteRequest) :
    Admissible db.toDb status actor.id := by
  unfold quotableBy at quotable
  rw [Bool.and_eq_true, Bool.and_eq_true, Bool.not_eq_true'] at quotable
  obtain ⟨⟨unblocked, shown⟩, approved⟩ := quotable
  refine ⟨?_, unblocked⟩
  cases visibility : status.visibility with
  | publicStatus => simp [localPrivateStatusVisibleToRemoteActor, visibility]
  | unlisted => simp [localPrivateStatusVisibleToRemoteActor, visibility]
  | direct =>
      rw [visibility] at shown
      cases shown
  | privateStatus =>
      unfold quoteApproved at approved
      cases policy : status.quoteApprovalPolicy with
      | everyone => exact unchecked visibility policy
      | nobody =>
          rw [policy] at approved
          cases approved
      | followers =>
          rw [policy] at approved
          unfold remoteActorFollowsLocalAccount at approved
          simp only [localPrivateStatusVisibleToRemoteActor, visibility, Bool.or_eq_true]
          exact .inl approved

private theorem answerQuoteRequest_refused {request : InboundQuoteRequest} {target : LocalStatus}
    {account : LocalAccount} {markers : List ProcessedInboxActivity}
    (success : answerQuoteRequest server generated request target account actor false
      { db with markers := markers } = .ok next) : ¬ Records db next := by
  obtain ⟨queued, enqueued, success⟩ := bind_ok success
  obtain ⟨_, _, enqueued⟩ := bind_ok enqueued
  cases enqueued
  split at success
  next =>
    cases success
    exact not_records rfl rfl rfl
  next quoting _ =>
    obtain ⟨relations, upserted, success⟩ := bind_ok success
    cases success
    rintro (changed | changed | ⟨quote, stored, accepted, absent⟩ | changed | changed)
    · rw [upsertRemoteStatusQuote_frame upserted] at changed
      exact changed rfl
    · rw [upsertRemoteStatusQuote_frame upserted] at changed
      exact changed rfl
    · rcases upsertRemoteStatusQuote_ok upserted with ⟨existing, _, rfl⟩ | ⟨_, inserted⟩
      · rcases Table.mem_updateWhere.mp stored with ⟨old, _⟩ | ⟨_, _, _, rfl⟩
        · exact absent old
        · cases accepted
      · obtain ⟨rfl, _⟩ := insertStatusQuote_ok inserted
        rcases List.mem_append.mp stored with old | new
        · exact absent old
        · rw [List.mem_singleton.mp new] at accepted
          cases accepted
    · exact changed rfl
    · exact changed rfl

private theorem processQuoteRequest_records {id : String} {request : InboundQuoteRequest}
    (read : inboundQuoteRequest activity = some request)
    (found : localStatusFromUrl server.toContext db.toDb request.object = some status)
    (records : Records db (processQuoteRequest server db generated activity id actor).2) :
    quotableBy db.toDb status actor.id = true := by
  cases quotable : quotableBy db.toDb status actor.id with
  | true => rfl
  | false =>
      have same : ¬ Records db db := not_records rfl rfl rfl
      unfold processQuoteRequest at records
      rw [read] at records
      dsimp only at records
      rw [found] at records
      dsimp only at records
      rw [quotable] at records
      split at records
      next => exact absurd records same
      next =>
        split at records
        next => exact absurd records same
        next account _ =>
          unfold whenNewActivity at records
          split at records
          next => exact absurd records same
          next => exact absurd records same
          next marker _ =>
            split at records
            next => exact absurd records same
            next answered success => exact absurd records (answerQuoteRequest_refused success)

/-!
## Admission
-/

private theorem inbox_effect {inbox : Inbox.Db} {kind : InboxActivityType}
    (typed : (inboundActivityType activity).bind InboundActivityType.persisted = some kind)
    (handled : processInbox server.toContext db.toDb activity actor generated.poll.now =
      some (response, inbox))
    (records : Records db { db with toDb := inbox }) :
    Effect server.toContext db.toDb activity actor kind inbox.relations ∧
      inbox.relations ≠ db.relations := by
  have changed : inbox.relations ≠ db.relations := by
    intro same
    have none : ¬ Records db { db with toDb := inbox } := not_records same rfl rfl
    exact none records
  rcases processInbox_effect handled with same | ⟨other, otherTyped, effect⟩
  · exact absurd same changed
  · cases typed.symm.trans otherTyped
    exact ⟨effect, changed⟩

/-- What an interaction records is admissible exactly when what its handler leaves
unchecked holds: a Like always, an announcement without a block, a quote request
unless a private status is open to everyone, and a vote only by chance. -/
theorem interaction_admissible_iff {kind : Interaction}
    (about : interaction server.toContext db.toDb activity actor = some (kind, status))
    (processed : processActivity server db generated activity actor = some (response, next))
    (records : Records db next) :
    Admissible db.toDb status actor.id ↔ Unchecked db.toDb status actor.id kind := by
  unfold interaction at about
  unfold processActivity at processed
  split at about
  next typed =>
    obtain ⟨object, named, about⟩ := Option.bind_eq_some_iff.mp about
    obtain ⟨_, found, same⟩ := Option.map_eq_some_iff.mp about
    cases same
    refine ⟨fun _ => trivial, fun _ => ?_⟩
    split at processed
    next inbox handled =>
      cases processed
      obtain ⟨effect, changed⟩ := inbox_effect typed handled records
      exact like_admissible effect changed named found
    next =>
      rw [typed] at processed
      split at processed <;> cases processed
  next typed =>
    obtain ⟨object, named, about⟩ := Option.bind_eq_some_iff.mp about
    obtain ⟨_, found, same⟩ := Option.map_eq_some_iff.mp about
    cases same
    refine ⟨fun admissible => admissible.unblocked, fun unblocked => ⟨?_, unblocked⟩⟩
    split at processed
    next inbox handled =>
      cases processed
      obtain ⟨effect, changed⟩ := inbox_effect typed handled records
      exact announce_visible effect changed named found
    next =>
      rw [typed] at processed
      split at processed <;> cases processed
  next typed =>
    obtain ⟨request, read, about⟩ := Option.bind_eq_some_iff.mp about
    obtain ⟨_, found, same⟩ := Option.map_eq_some_iff.mp about
    cases same
    refine ⟨fun admissible _ _ => admissible.visible, fun unchecked => ?_⟩
    split at processed
    next inbox handled =>
      cases processed
      obtain ⟨effect, changed⟩ := inbox_effect typed handled records
      exact absurd (quoteRequest_unchanged effect) changed
    next =>
      rw [typed] at processed
      split at processed
      next => cases processed
      next =>
        split at processed
        next id _ _ =>
          have result : (processQuoteRequest server db generated activity id actor).2 = next := by
            rw [Option.some.inj processed]
          rw [← result] at records
          exact quotable_admissible (processQuoteRequest_records read found records) unchecked
        next impossible _ => cases impossible
        next impossible _ => cases impossible
        next impossible _ => cases impossible
        next => cases processed
  next =>
    obtain ⟨vote, _, about⟩ := Option.bind_eq_some_iff.mp about
    obtain ⟨_, _, same⟩ := Option.map_eq_some_iff.mp about
    cases same
    exact ⟨fun admissible => ⟨admissible.visible, admissible.unblocked⟩,
      fun unchecked => ⟨unchecked.1, unchecked.2⟩⟩
  next => cases about

namespace Admission

open Status.Sample (receiver start)

def inputs : Generated :=
  ⟨⟨100⟩, ⟨1782864600000000, 200, ⟨300⟩, fun row => row⟩,
    ⟨400, "https://local.example/quote-authorizations/400", 401, fun _ => none⟩⟩

def statusUri (digit : String) : String :=
  "https://local.example/users/bob/statuses/00000000-0000-0000-0000-00000000000" ++ digit

def announce : Json := .object
  [("type", .string "Announce"), ("id", .string "https://remote.example/announces/1"),
    ("actor", .string Inbox.Sample.alice.activitypubId), ("object", .string (statusUri "5"))]

/-- Bob blocks Alice. -/
def blocked : Db := { start with localBlocks := [(⟨1⟩, Inbox.Sample.alice.id)] }

def vote : Json := .object
  [("type", .string "Create"), ("id", .string "https://remote.example/votes/1"),
    ("actor", .string Inbox.Sample.alice.activitypubId),
    ("object", .object
      [("type", .string "Note"), ("name", .string "Tea"),
        ("attributedTo", .string Inbox.Sample.alice.activitypubId),
        ("inReplyTo", .string (statusUri "6")),
        ("to", strings ["https://local.example/users/bob"])])]

def privateStatus : LocalStatus := ⟨⟨6⟩, ⟨1⟩, .privateStatus, .nobody⟩

/-- Bob asks his followers, of whom Alice is none. -/
def asked : Db :=
  { start with
    localStatuses := [privateStatus]
    polls := [⟨20, .localStatus ⟨6⟩, false, false, none, none, none, some 0, 0, 0⟩]
    options := [⟨20, 0, "Tea", 0⟩, ⟨20, 1, "Coffee", 0⟩] }

def after (db : Db) (activity : Json) : Db :=
  ((processActivity receiver db inputs activity Inbox.Sample.alice).map Prod.snd).getD db

end Admission

open Admission Status.Sample in
theorem interaction_admissible_iff_announced :
    Records start (after start announce) ∧
    (Admissible start.toDb ⟨⟨5⟩, ⟨1⟩, .publicStatus, .everyone⟩ Inbox.Sample.alice.id ↔
      localRemoteAccountsAreBlocked start.toDb ⟨1⟩ Inbox.Sample.alice.id = false) := by
  have records : Records start (after start announce) := by decide +kernel
  refine ⟨records, ?_⟩
  have about : interaction receiver.toContext start.toDb announce Inbox.Sample.alice =
      some (.announce, ⟨⟨5⟩, ⟨1⟩, .publicStatus, .everyone⟩) := by decide +kernel
  have processed : ∃ response, processActivity receiver start inputs announce
      Inbox.Sample.alice = some (response, after start announce) := by
    have accepted : (processActivity receiver start inputs announce Inbox.Sample.alice).isSome =
        true := by decide +kernel
    obtain ⟨result, found⟩ := Option.isSome_iff_exists.mp accepted
    refine ⟨result.1, ?_⟩
    unfold after
    rw [found]
    rfl
  obtain ⟨response, processed⟩ := processed
  exact interaction_admissible_iff about processed records

open Admission Status.Sample in
/-- An actor that is blocked announces a status, and one that cannot see a private
status votes in its poll. -/
theorem interaction_inadmissible :
    (interaction receiver.toContext blocked.toDb announce Inbox.Sample.alice =
        some (.announce, ⟨⟨5⟩, ⟨1⟩, .publicStatus, .everyone⟩) ∧
      (after blocked announce).relations.reblogs =
        [⟨Inbox.Sample.alice.id, .localStatus ⟨5⟩, "https://remote.example/announces/1"⟩] ∧
      blocked.relations.reblogs = [] ∧
      localRemoteAccountsAreBlocked blocked.toDb ⟨1⟩ Inbox.Sample.alice.id = true) ∧
    (interaction receiver.toContext asked.toDb vote Inbox.Sample.alice =
        some (.vote, privateStatus) ∧
      (after asked vote).options.map Poll.OptionRow.votesCount = [1, 0] ∧
      asked.options.map Poll.OptionRow.votesCount = [0, 0] ∧
      localPrivateStatusVisibleToRemoteActor asked.toDb privateStatus Inbox.Sample.alice.id =
        false) := by
  refine ⟨⟨?_, ?_, rfl, ?_⟩, ⟨?_, ?_, rfl, ?_⟩⟩
  · decide +kernel
  · decide +kernel
  · decide
  · decide +kernel
  · decide +kernel
  · decide

end Roosty.Federation.Status
