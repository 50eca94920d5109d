import Roosty.Federation.Inbox
import Roosty.Federation.ReplayProperties

/-!
# References to earlier activities

Every relationship row carries the id of the activity that created it, and that
activity is registered under the row's own type. From this follows what an
`Undo` or an answer does for each form of its reference.
-/

set_option autoImplicit false

namespace Roosty.Federation.Inbox

open Library

inductive Relationship where
  | follow
  | like
  | announce
  | block
deriving DecidableEq

namespace Relationship

def type : Relationship → InboxActivityType
  | follow => .follow
  | like => .like
  | announce => .announce
  | block => .block

def name : Relationship → String
  | follow => "Follow"
  | like => "Like"
  | announce => "Announce"
  | block => "Block"

theorem type_injective {left right : Relationship} (same : left.type = right.type) :
    left = right := by
  cases left <;> cases right <;> first | rfl | cases same

end Relationship

def Relations.keys (relations : Relations) : Relationship → List (AccountId × String)
  | .follow => relations.follows.map fun row => (row.remoteActorId, row.activityId)
  | .like => relations.favourites.map fun row => (row.remoteActorId, row.activityId)
  | .announce => relations.reblogs.map fun row => (row.remoteActorId, row.activityId)
  | .block => relations.blocks.map fun row => (row.remoteActorId, row.activityId)

def Registered (db : Db) (actor : AccountId) (kind : InboxActivityType) (id : String) : Prop :=
  ∃ marker ∈ db.markers, marker.activityId = id ∧ marker.remoteActorId = actor ∧
    marker.activityType = some kind

structure Identified (db : Db) : Prop where
  unique : (db.markers.map ProcessedInboxActivity.activityId).Nodup
  registered : ∀ kind, ∀ key ∈ db.relations.keys kind, Registered db key.1 kind.type key.2
  blockIds : (db.relations.blocks.map RemoteLocalAccountBlock.activityId).Nodup
  reblogIds : (db.relations.reblogs.map RemoteStatusReblog.activityId).Nodup

theorem Registered.same_type {db : Db} {actor other : AccountId} {kind otherKind : InboxActivityType}
    {id : String} (unique : (db.markers.map ProcessedInboxActivity.activityId).Nodup)
    (one : Registered db actor kind id) (two : Registered db other otherKind id) :
    kind = otherKind := by
  obtain ⟨marker, member, named, _, typed⟩ := one
  obtain ⟨second, secondMember, secondNamed, _, secondTyped⟩ := two
  have same := List.inj_on_of_nodup_map unique member secondMember (named.trans secondNamed.symm)
  rw [same, secondTyped] at typed
  exact (Option.some.inj typed).symm

theorem Identified.absent {db : Db} (identified : Identified db) {actor : AccountId}
    {kind other : Relationship} {id : String} (processed : Registered db actor kind.type id)
    (different : kind ≠ other) : (actor, id) ∉ db.relations.keys other := by
  intro stored
  have registered := identified.registered other _ stored
  exact different (Relationship.type_injective
    (Registered.same_type identified.unique processed registered))

/-!
## Deliveries
-/

variable {context : Context} {db : Db} {activity : Json} {actor : RemoteActor} {now : Int}
variable {kind : InboxActivityType} {id : String} {outcome : InboxActivityOutcome}

structure Fresh (db : Db) (activity : Json) (kind : InboxActivityType) (id : String) : Prop where
  identified : activityId activity = some id
  typed : (inboundActivityType activity).bind InboundActivityType.persisted = some kind
  object : ∃ members, activity.asObject? = some members
  unseen : ∀ marker ∈ db.markers, marker.activityId ≠ id

private theorem Fresh.metadata (fresh : Fresh db activity kind id) (context : Context)
    (actor : AccountId) (outcome : InboxActivityOutcome) :
    ∃ digest, replayMetadata context.format context.sha256 activity actor outcome =
      .ok ⟨id, actor, digest, kind, outcome⟩ := by
  obtain ⟨members, object⟩ := fresh.object
  have named := fresh.identified
  unfold activityId at named
  refine ⟨context.sha256 (CanonicalJson.bytes context.format
    (.object (semanticMembers members))), ?_⟩
  simp only [replayMetadata, canonicalActivityDigest, named, fresh.typed, object, okOr_some,
    ok_bind]
  rfl

private theorem Fresh.registers (fresh : Fresh db activity kind id) (context : Context)
    (actor : AccountId) (outcome : InboxActivityOutcome) (now : Int) :
    ∃ marker, registerInboxReplay context.format context.sha256 db.markers activity actor outcome
        now = (some marker, .ok .new) ∧ marker.activityId = id ∧ marker.remoteActorId = actor ∧
      marker.activityType = some kind := by
  obtain ⟨digest, metadata⟩ := fresh.metadata context actor outcome
  refine ⟨InboxActivityMetadata.marker ⟨id, actor, digest, kind, outcome⟩ now, ?_, rfl, rfl, rfl⟩
  unfold registerInboxReplay
  rw [metadata]
  exact Replay.registerInboxActivity_absent fresh.unseen

theorem Fresh.isNew (fresh : Fresh db activity kind id) (context : Context)
    (actor : AccountId) (now : Int) :
    ∃ marker, isNewInboxActivity context.format context.sha256 db.markers activity actor now =
        (some marker, .ok true) ∧ marker.activityId = id ∧ marker.remoteActorId = actor ∧
      marker.activityType = some kind := by
  obtain ⟨marker, registers, described⟩ := fresh.registers context actor .accepted now
  refine ⟨marker, ?_, described⟩
  unfold isNewInboxActivity
  rw [registers]
  rfl

/-- The database after a marker and the effects of an activity were stored. -/
private def Stored (db next : Db) (actor : AccountId) (kind : InboxActivityType) (id : String)
    (relations : Relations) : Prop :=
  ∃ marker, next = { db with markers := db.markers ++ [marker], relations := relations } ∧
    marker.activityId = id ∧ marker.remoteActorId = actor ∧ marker.activityType = some kind

private theorem whenNew_some (fresh : Fresh db activity kind id) (relations : Relations) :
    Stored db (whenNew context db activity actor now (some relations)).2 actor.id kind id
      relations := by
  obtain ⟨marker, isNew, described⟩ := fresh.isNew context actor.id now
  refine ⟨marker, ?_, described⟩
  unfold whenNew
  rw [isNew]
  rfl

private theorem whenNew_none (fresh : Fresh db activity kind id) :
    (whenNew context db activity actor now none).2 = db := by
  obtain ⟨marker, isNew, _⟩ := fresh.isNew context actor.id now
  unfold whenNew
  rw [isNew]

private theorem finishIgnored_stored (fresh : Fresh db activity kind id) :
    Stored db (finishIgnoredInboxActivity context db activity actor now).2 actor.id kind id
      db.relations := by
  obtain ⟨marker, registers, described⟩ := fresh.registers context actor.id .ignored now
  refine ⟨marker, ?_, described⟩
  unfold finishIgnoredInboxActivity
  rw [registers]
  rfl

/-- The rows after an activity: old ones, and at most one of its own type under
its own id. -/
private structure Grows (before after : Relations) (actor : AccountId) (kind : InboxActivityType)
    (id : String) : Prop where
  keys : ∀ relationship, ∀ key ∈ after.keys relationship,
    key ∈ before.keys relationship ∨ (key = (actor, id) ∧ relationship.type = kind)
  blockIds : (before.blocks.map RemoteLocalAccountBlock.activityId).Nodup →
    (after.blocks.map RemoteLocalAccountBlock.activityId).Nodup
  reblogIds : (before.reblogs.map RemoteStatusReblog.activityId).Nodup →
    (after.reblogs.map RemoteStatusReblog.activityId).Nodup

variable {relations : Relations} {account : AccountId}

private theorem Grows.of_sublists {before after : Relations} {actor : AccountId}
    (follows : after.follows.Sublist before.follows)
    (favourites : after.favourites.Sublist before.favourites)
    (reblogs : after.reblogs.Sublist before.reblogs)
    (blocks : after.blocks.Sublist before.blocks) : Grows before after actor kind id where
  keys := by
    intro relationship key member
    left
    cases relationship with
    | follow => exact (follows.map _).subset member
    | like => exact (favourites.map _).subset member
    | announce => exact (reblogs.map _).subset member
    | block => exact (blocks.map _).subset member
  blockIds := fun unique => unique.sublist (blocks.map _)
  reblogIds := fun unique => unique.sublist (reblogs.map _)

private theorem deleteWhere_sublist {Row : Type} (selected : Row → Bool) (rows : List Row) :
    (Table.deleteWhere selected rows).Sublist rows :=
  List.filter_sublist

private theorem processRemoteBlock_grows (relations : Relations) (actor account : AccountId)
    (id : String) :
    Grows relations (processRemoteBlock relations actor account id) actor .block id := by
  unfold processRemoteBlock
  dsimp only
  split
  next => exact .of_sublists (deleteWhere_sublist _ _) (.refl _) (.refl _) (.refl _)
  next free =>
    constructor
    · intro relationship key member
      cases relationship with
      | follow => exact .inl (((deleteWhere_sublist _ _).map _).subset member)
      | like => exact .inl member
      | announce => exact .inl member
      | block =>
          rw [Relations.keys, List.map_append] at member
          rcases List.mem_append.mp member with old | added
          · exact .inl old
          · exact .inr ⟨List.mem_singleton.mp added, rfl⟩
    · intro unique
      rw [List.map_append]
      refine List.Nodup.append unique (List.nodup_singleton _) ?_
      intro other old added
      obtain ⟨row, stored, named⟩ := List.mem_map.mp old
      apply free
      refine List.any_eq_true.mpr ⟨row, stored, ?_⟩
      rw [named, List.mem_singleton.mp added]
      simp
    · exact fun unique => unique

private theorem upsertProcessedRemoteFollow_grows {state : RemoteFollowState}
    {actor account : AccountId}
    (success : upsertProcessedRemoteFollow db actor account id activity state = some relations) :
    Grows db.relations relations actor .follow id := by
  unfold upsertProcessedRemoteFollow at success
  dsimp only at success
  split at success
  next =>
    cases success
    exact .of_sublists (.refl _) (.refl _) (.refl _) (.refl _)
  next =>
    split at success
    next => cases success
    next =>
      cases success
      constructor
      · intro relationship key member
        cases relationship with
        | like => exact .inl member
        | announce => exact .inl member
        | block => exact .inl member
        | follow =>
            obtain ⟨row, stored, rfl⟩ := List.mem_map.mp member
            dsimp only at stored
            split at stored
            next =>
              rcases Table.mem_updateWhere.mp stored with ⟨old, _⟩ | ⟨before, _, pair, rfl⟩
              · exact .inl (List.mem_map_of_mem old)
              · simp only [Bool.and_eq_true, beq_iff_eq] at pair
                exact .inr ⟨by rw [pair.1], rfl⟩
            next =>
              rcases List.mem_append.mp stored with old | added
              · exact .inl (List.mem_map_of_mem old)
              · rw [List.mem_singleton.mp added]
                exact .inr ⟨rfl, rfl⟩
      · exact fun unique => unique
      · exact fun unique => unique

private theorem processRemoteLike_grows (db : Db) (actor : AccountId) (statusId : StatusId)
    (id : String) (recipient : AccountId) :
    Grows db.relations (processRemoteLike db actor statusId id recipient) actor .like id := by
  unfold processRemoteLike
  dsimp only
  split
  next => exact .of_sublists (.refl _) (.refl _) (.refl _) (.refl _)
  next =>
    constructor
    · intro relationship key member
      cases relationship with
      | follow => exact .inl member
      | announce => exact .inl member
      | block => exact .inl member
      | like =>
          rw [Relations.keys, List.map_append] at member
          rcases List.mem_append.mp member with old | added
          · exact .inl old
          · exact .inr ⟨List.mem_singleton.mp added, rfl⟩
    · exact fun unique => unique
    · exact fun unique => unique

private theorem reblogStatusByRemoteActor_grows {actor : AccountId} {target : StatusReference}
    (success : reblogStatusByRemoteActor db actor target id = some relations) :
    Grows db.relations relations actor .announce id := by
  unfold reblogStatusByRemoteActor at success
  dsimp only at success
  split at success
  next =>
    cases success
    exact .of_sublists (.refl _) (.refl _) (.refl _) (.refl _)
  next =>
    split at success
    next => cases success
    next free =>
      cases success
      constructor
      · intro relationship key member
        cases relationship with
        | follow => exact .inl member
        | like => exact .inl member
        | block => exact .inl member
        | announce =>
            rw [Relations.keys, List.map_append] at member
            rcases List.mem_append.mp member with old | added
            · exact .inl old
            · exact .inr ⟨List.mem_singleton.mp added, rfl⟩
      · exact fun unique => unique
      · intro unique
        rw [List.map_append]
        refine List.Nodup.append unique (List.nodup_singleton _) ?_
        intro other old added
        obtain ⟨row, stored, named⟩ := List.mem_map.mp old
        apply free
        refine List.any_eq_true.mpr ⟨row, stored, ?_⟩
        rw [named, List.mem_singleton.mp added]
        simp

private theorem processRemoteUndoReblog_grows (db : Db) (actor other : AccountId)
    (original : String) :
    Grows db.relations (processRemoteUndoReblog db other original) actor kind id := by
  unfold processRemoteUndoReblog
  dsimp only
  split
  next => exact .of_sublists (.refl _) (.refl _) (.refl _) (.refl _)
  next => exact .of_sublists (.refl _) (.refl _) (deleteWhere_sublist _ _) (.refl _)

private theorem processRemoteUndoLike_grows (db : Db) (actor other : AccountId)
    (original : String) :
    Grows db.relations (processRemoteUndoLike db other original) actor kind id := by
  unfold processRemoteUndoLike
  dsimp only
  split
  next => exact .of_sublists (.refl _) (.refl _) (.refl _) (.refl _)
  next => exact .of_sublists (.refl _) (deleteWhere_sublist _ _) (.refl _) (.refl _)

/-!
## Reachable states
-/

private def Extends (db next : Db) (actor : AccountId) (kind : InboxActivityType)
    (id : String) : Prop :=
  next = db ∨ ∃ relations, Stored db next actor kind id relations ∧
    Grows db.relations relations actor kind id

private theorem whenNew_extends (fresh : Fresh db activity kind id) {effects : Option Relations}
    (grows : ∀ relations, effects = some relations →
      Grows db.relations relations actor.id kind id) :
    Extends db (whenNew context db activity actor now effects).2 actor.id kind id := by
  cases effects with
  | none => exact .inl (whenNew_none fresh)
  | some relations => exact .inr ⟨relations, whenNew_some fresh relations, grows relations rfl⟩

private theorem finishIgnored_extends (fresh : Fresh db activity kind id) :
    Extends db (finishIgnoredInboxActivity context db activity actor now).2 actor.id kind id :=
  .inr ⟨db.relations, finishIgnored_stored fresh,
    .of_sublists (.refl _) (.refl _) (.refl _) (.refl _)⟩

private theorem processBlock_extends (fresh : Fresh db activity .block id) :
    Extends db (processBlock context db activity id actor now).2 actor.id .block id := by
  unfold processBlock
  split
  next =>
    split
    next => exact .inl rfl
    next =>
      split
      next => exact finishIgnored_extends fresh
      next account _ =>
        apply whenNew_extends fresh
        intro relations same
        cases same
        exact processRemoteBlock_grows db.relations actor.id account.id id
  next => exact .inl rfl

private theorem processFollow_extends (fresh : Fresh db activity .follow id) :
    Extends db (processFollow context db activity id actor now).2 actor.id .follow id := by
  unfold processFollow
  split
  next => exact .inl rfl
  next =>
    split
    next => exact .inl rfl
    next =>
      split
      next => exact finishIgnored_extends fresh
      next =>
        apply whenNew_extends fresh
        intro relations success
        exact upsertProcessedRemoteFollow_grows success

private theorem processLike_extends (fresh : Fresh db activity .like id) :
    Extends db (processLike context db activity id actor now).2 actor.id .like id := by
  unfold processLike
  split
  next =>
    split
    next => exact finishIgnored_extends fresh
    next =>
      split
      next => exact finishIgnored_extends fresh
      next status _ =>
        split
        next =>
          apply whenNew_extends fresh
          intro relations same
          cases same
          exact processRemoteLike_grows db actor.id status.id id status.accountId
        next => exact finishIgnored_extends fresh
  next => exact .inl rfl

private theorem processAnnounce_extends (fresh : Fresh db activity .announce id) :
    Extends db (processAnnounce context db activity id actor now).2 actor.id .announce id := by
  unfold processAnnounce
  split
  next =>
    split
    next => exact finishIgnored_extends fresh
    next =>
      split
      next => exact finishIgnored_extends fresh
      next =>
        apply whenNew_extends fresh
        intro relations success
        exact reblogStatusByRemoteActor_grows success
  next => exact .inl rfl

private theorem processUndo_extends (fresh : Fresh db activity kind id) :
    Extends db (processUndo context db activity actor now).2 actor.id kind id := by
  unfold processUndo
  dsimp only
  split
  next =>
    apply whenNew_extends fresh
    intro relations same
    cases same
    exact .of_sublists (.refl _) (.refl _) (.refl _) (deleteWhere_sublist _ _)
  next =>
    split
    next original _ =>
      apply whenNew_extends fresh
      intro relations same
      cases same
      exact processRemoteUndoReblog_grows db actor.id actor.id original
    next =>
      split
      next original _ =>
        apply whenNew_extends fresh
        intro relations same
        cases same
        exact processRemoteUndoLike_grows db actor.id actor.id original
      next =>
        split
        next =>
          apply whenNew_extends fresh
          intro relations same
          cases same
          exact .of_sublists (deleteWhere_sublist _ _) (.refl _) (.refl _) (.refl _)
        next => exact .inl rfl

private theorem processQuoteResponse_extends (fresh : Fresh db activity kind id) (accepting : Bool)
    (author requestId : String) (authorization : Option QuoteAuthorization) (quote : StatusQuote) :
    Extends db (processQuoteResponse context db activity actor now accepting author requestId
      authorization quote).2 actor.id kind id := by
  have transition : ∀ state authorizationId, Extends db (whenNew context db activity actor now
      (some (transitionQuoteRequest db.relations requestId state authorizationId))).2
        actor.id kind id := by
    intro state authorizationId
    apply whenNew_extends fresh
    intro relations same
    cases same
    exact .of_sublists (.refl _) (.refl _) (.refl _) (.refl _)
  unfold processQuoteResponse
  dsimp only
  split
  next => exact .inl rfl
  next =>
    split
    next =>
      split
      next => exact finishIgnored_extends fresh
      next =>
        split
        next => exact transition _ _
        next =>
          split
          next => exact .inl rfl
          next => exact finishIgnored_extends fresh
          next =>
            split
            next => exact .inl rfl
            next =>
              split
              next => exact transition _ _
              next => exact .inl rfl
    next => exact finishIgnored_extends fresh

private theorem processAnswer_extends (fresh : Fresh db activity kind id) (accepting : Bool) :
    Extends db (processAnswer context db activity actor now accepting).2 actor.id kind id := by
  unfold processAnswer
  dsimp only
  split
  next => exact processQuoteResponse_extends fresh _ _ _ _ _
  next =>
    unfold processFollowAnswer
    split
    next => exact .inl rfl
    next =>
      apply whenNew_extends fresh
      intro relations same
      cases same
      split
      next => exact .of_sublists (.refl _) (.refl _) (.refl _) (.refl _)
      next => exact .of_sublists (.refl _) (.refl _) (.refl _) (.refl _)

private theorem classify_none {metadata : InboxActivityMetadata}
    {rows : List ProcessedInboxActivity} :
    (classifyInboxActivity rows metadata).isSome = false ↔
      ∀ row ∈ rows, row.activityId ≠ metadata.activityId := by
  unfold classifyInboxActivity
  cases found : rows.find? fun row => row.activityId == metadata.activityId with
  | none => simpa using found
  | some row =>
      have member := List.mem_of_find?_eq_some found
      have same : row.activityId = metadata.activityId := by simpa using List.find?_some found
      constructor
      · intro unclassified
        dsimp only at unclassified
        split at unclassified
        next => cases unclassified
        next =>
          split at unclassified
          next => cases unclassified
          next => split at unclassified <;> cases unclassified
      · intro absent
        exact absurd same (absent row member)

private theorem processInbox_fresh {next : Db} {response : Response}
    (processed : processInbox context db activity actor now = some (response, next)) :
    next = db ∨ ∃ kind id, Fresh db activity kind id ∧
      (match kind with
      | .block => some (processBlock context db activity id actor now)
      | .undo => some (processUndo context db activity actor now)
      | .accept => some (processAnswer context db activity actor now true)
      | .reject => some (processAnswer context db activity actor now false)
      | .like => some (processLike context db activity id actor now)
      | .announce => some (processAnnounce context db activity id actor now)
      | .follow => some (processFollow context db activity id actor now)
      | _ => none) = some (response, next) := by
  unfold processInbox at processed
  split at processed
  next =>
    cases processed
    exact .inl rfl
  next kind typed =>
    split at processed
    next =>
      cases processed
      exact .inl rfl
    next id named =>
      split at processed
      next =>
        cases processed
        exact .inl rfl
      next =>
        split at processed
        next =>
          cases processed
          exact .inl rfl
        next metadata computed =>
          split at processed
          next =>
            cases processed
            exact .inl rfl
          next unclassified =>
            obtain ⟨_, metadataNamed, computed⟩ := bind_ok computed
            obtain ⟨_, _, computed⟩ := bind_ok computed
            obtain ⟨_, digested, computed⟩ := bind_ok computed
            obtain ⟨members, object, _⟩ := bind_ok digested
            cases computed
            have sameId : _ = id := Option.some.inj ((okOr_ok metadataNamed).symm.trans named)
            subst sameId
            have unseen := classify_none.mp (by simpa using unclassified)
            exact .inr ⟨kind, _, ⟨named, typed, ⟨members, okOr_ok object⟩, unseen⟩, processed⟩

private theorem processInbox_extends {next : Db} {response : Response}
    (processed : processInbox context db activity actor now = some (response, next)) :
    next = db ∨ ∃ kind id, (∀ marker ∈ db.markers, marker.activityId ≠ id) ∧
      Extends db next actor.id kind id := by
  rcases processInbox_fresh processed with same | ⟨kind, id, fresh, handled⟩
  · exact .inl same
  · refine .inr ⟨kind, id, fresh.unseen, ?_⟩
    have shown : ∀ {result : Response × Db}, some result = some (response, next) →
        next = result.2 := by
      intro result same
      rw [Option.some.inj same]
    cases kind with
    | block => exact shown handled ▸ processBlock_extends fresh
    | undo => exact shown handled ▸ processUndo_extends fresh
    | accept => exact shown handled ▸ processAnswer_extends fresh true
    | reject => exact shown handled ▸ processAnswer_extends fresh false
    | like => exact shown handled ▸ processLike_extends fresh
    | announce => exact shown handled ▸ processAnnounce_extends fresh
    | follow => exact shown handled ▸ processFollow_extends fresh
    | _ => cases handled

private theorem Registered.mono {db next : Db} {other : AccountId} {kind : InboxActivityType}
    {id : String} (kept : ∀ marker ∈ db.markers, marker.activityId = id → marker ∈ next.markers)
    (registered : Registered db other kind id) : Registered next other kind id := by
  obtain ⟨marker, member, named, described⟩ := registered
  exact ⟨marker, kept marker member named, named, described⟩

private theorem Identified.extends {next : Db} {other : AccountId} (identified : Identified db)
    (unseen : ∀ marker ∈ db.markers, marker.activityId ≠ id)
    (extended : Extends db next other kind id) : Identified next := by
  rcases extended with rfl | ⟨relations, ⟨marker, rfl, named, signed, typed⟩, grows⟩
  · exact identified
  · constructor
    · rw [List.map_append]
      refine List.Nodup.append identified.unique (List.nodup_singleton _) ?_
      intro stored old added
      obtain ⟨row, member, rowNamed⟩ := List.mem_map.mp old
      exact unseen row member (rowNamed.trans ((List.mem_singleton.mp added).trans named))
    · intro relationship key member
      rcases grows.keys relationship key member with old | ⟨rfl, sameType⟩
      · apply (identified.registered relationship key old).mono
        intro stored storedMember _
        exact List.mem_append_left _ storedMember
      · refine ⟨marker, List.mem_append_right _ (List.mem_singleton_self _), named, signed, ?_⟩
        rw [sameType, typed]
    · exact grows.blockIds identified.blockIds
    · exact grows.reblogIds identified.reblogIds

/-- What the rest of the server does to these tables: rows of remote actors'
activities only disappear, or change apart from their ids, and the marker of a
remaining row stays. Unique ids are constraints of the schema. -/
structure Elsewhere (db next : Db) : Prop where
  unique : (next.markers.map ProcessedInboxActivity.activityId).Nodup
  keys : ∀ relationship, ∀ key ∈ next.relations.keys relationship,
    key ∈ db.relations.keys relationship ∧
      ∀ marker ∈ db.markers, marker.activityId = key.2 → marker ∈ next.markers
  blockIds : (next.relations.blocks.map RemoteLocalAccountBlock.activityId).Nodup
  reblogIds : (next.relations.reblogs.map RemoteStatusReblog.activityId).Nodup

inductive Reachable (context : Context) : Db → Prop
  | start {db : Db} (unique : (db.markers.map ProcessedInboxActivity.activityId).Nodup)
      (empty : ∀ relationship, db.relations.keys relationship = []) : Reachable context db
  | deliver {db next : Db} {activity : Json} {actor : RemoteActor} {now : Int} {response : Response}
      (reached : Reachable context db)
      (processed : processInbox context db activity actor now = some (response, next)) :
      Reachable context next
  | elsewhere {db next : Db} (reached : Reachable context db) (changed : Elsewhere db next) :
      Reachable context next

theorem Reachable.identified (reached : Reachable context db) : Identified db := by
  induction reached with
  | @start db unique empty =>
      refine ⟨unique, ?_, ?_, ?_⟩
      · intro relationship key member
        rw [empty] at member
        cases member
      · have none := List.map_eq_nil_iff.mp (empty .block)
        rw [none]
        exact List.nodup_nil
      · have none := List.map_eq_nil_iff.mp (empty .announce)
        rw [none]
        exact List.nodup_nil
  | deliver _ processed identified =>
      rcases processInbox_extends processed with rfl | ⟨_, _, unseen, extended⟩
      · exact identified
      · exact identified.extends unseen extended
  | elsewhere _ changed identified =>
      refine ⟨changed.unique, ?_, changed.blockIds, changed.reblogIds⟩
      intro relationship key member
      obtain ⟨old, kept⟩ := changed.keys relationship key member
      exact (identified.registered relationship key old).mono kept

/-!
## Forms of a reference
-/

def withObject (others : List (String × Json)) (object : Json) : Json :=
  .object (("object", object) :: others)

def relationsAfter (context : Context) (db : Db) (activity : Json) (actor : RemoteActor)
    (now : Int) : Relations :=
  match processInbox context db activity actor now with
  | some (_, next) => next.relations
  | none => db.relations

structure Sent (context : Context) (db : Db) (others : List (String × Json)) (actor : RemoteActor)
    (kind : InboxActivityType) (id : String) : Prop where
  identified : activityId (.object others) = some id
  typed : (inboundActivityType (.object others)).bind InboundActivityType.persisted = some kind
  origin : context.sameUrlOrigin id actor.activitypubId = true
  unseen : ∀ marker ∈ db.markers, marker.activityId ≠ id

structure Embeds (object : Json) (kind : Relationship) (original : String) : Prop where
  identified : object.get? "id" = some (.string original)
  typed : object.get? "type" = some (.string kind.name)

variable {others : List (String × Json)} {object : Json} {original : String}
variable {relationship : Relationship}

private theorem get?_withObject {name : String} (other : name ≠ "object") :
    (withObject others object).get? name = (Json.object others).get? name := by
  have skipped : ("object" == name) = false := by simpa using other.symm
  simp [withObject, Json.get?, skipped]

private theorem Sent.fresh (sent : Sent context db others actor kind id) (object : Json) :
    Fresh db (withObject others object) kind id where
  identified := by
    rw [activityId, get?_withObject (by decide)]
    exact sent.identified
  typed := by
    have typed := sent.typed
    unfold inboundActivityType at typed ⊢
    rw [get?_withObject (by decide)]
    exact typed
  object := ⟨_, rfl⟩
  unseen := sent.unseen

private theorem whenNew_relations (fresh : Fresh db activity kind id) (relations : Relations) :
    (whenNew context db activity actor now (some relations)).2.relations = relations := by
  have described : Stored db (whenNew context db activity actor now (some relations)).2 actor.id
    kind id relations := whenNew_some fresh relations
  obtain ⟨marker, stored, _⟩ := described
  rw [stored]

private theorem finishIgnored_relations (fresh : Fresh db activity kind id) :
    (finishIgnoredInboxActivity context db activity actor now).2.relations = db.relations := by
  have described : Stored db (finishIgnoredInboxActivity context db activity actor now).2 actor.id
    kind id db.relations := finishIgnored_stored fresh
  obtain ⟨marker, stored, _⟩ := described
  rw [stored]

private theorem Sent.classified (sent : Sent context db others actor kind id) (object : Json) :
    ∃ metadata, replayMetadata context.format context.sha256 (withObject others object) actor.id
        .accepted = .ok metadata ∧ (classifyInboxActivity db.markers metadata).isSome = false := by
  obtain ⟨digest, metadata⟩ := (sent.fresh object).metadata context actor.id .accepted
  exact ⟨_, metadata, classify_none.mpr sent.unseen⟩

private theorem Sent.undo (sent : Sent context db others actor .undo id) (object : Json) :
    relationsAfter context db (withObject others object) actor now =
      (processUndo context db (withObject others object) actor now).2.relations := by
  have fresh := sent.fresh object
  obtain ⟨metadata, computed, unclassified⟩ := sent.classified object
  simp only [relationsAfter, processInbox, fresh.typed, fresh.identified, sent.origin, computed,
    unclassified, Bool.not_true, Bool.false_eq_true, if_false]

private theorem Sent.answer {accepting : Bool}
    (sent : Sent context db others actor (if accepting then .accept else .reject) id)
    (object : Json) :
    relationsAfter context db (withObject others object) actor now =
      (processAnswer context db (withObject others object) actor now accepting).2.relations := by
  have fresh := sent.fresh object
  obtain ⟨metadata, computed, unclassified⟩ := sent.classified object
  cases accepting with
  | true =>
      simp only [relationsAfter, processInbox, fresh.typed, fresh.identified, sent.origin, computed,
        unclassified, Bool.not_true, Bool.false_eq_true, if_false, if_true]
  | false =>
      simp only [relationsAfter, processInbox, fresh.typed, fresh.identified, sent.origin, computed,
        unclassified, Bool.not_true, Bool.false_eq_true, if_false]

private theorem findBlock_none {other : AccountId} :
    findRemoteLocalBlockByActivity relations other original = none ↔
      (other, original) ∉ relations.keys .block := by
  simp only [findRemoteLocalBlockByActivity, Option.map_eq_none_iff, List.find?_eq_none,
    Bool.and_eq_true, beq_iff_eq, Relations.keys, List.mem_map, Prod.mk.injEq, not_exists, not_and]

private theorem undo_bare (sent : Sent context db others actor .undo id) :
    relationsAfter context db (withObject others (.string original)) actor now =
      match findRemoteLocalBlockByActivity db.relations actor.id original with
      | some account => processRemoteUndoBlock db.relations actor.id account original
      | none => processRemoteUndoReblog db actor.id original := by
  have fresh := sent.fresh (.string original)
  have object : (withObject others (.string original)).get? "object" =
      some (.string original) := rfl
  rw [sent.undo]
  unfold processUndo
  simp only [object, Option.getD_some, blockId, announceId, undoneId, Option.bind_some]
  cases findRemoteLocalBlockByActivity db.relations actor.id original with
  | some account => exact whenNew_relations fresh _
  | none => exact whenNew_relations fresh _

private theorem Embeds.undoneId (embeds : Embeds object relationship original) (name : String) :
    Inbox.undoneId name object = if relationship.name = name then some original else none := by
  have identified := embeds.identified
  have typed := embeds.typed
  cases object with
  | object members =>
      simp only [Inbox.undoneId, identified, typed, Option.bind_some, Json.asStr?, unitVariant,
        Option.bind_eq_bind, beq_iff_eq]
  | _ => cases identified

private theorem undo_embedded (sent : Sent context db others actor .undo id)
    (embeds : Embeds object relationship original) :
    relationsAfter context db (withObject others object) actor now =
      match relationship with
      | .block =>
          match findRemoteLocalBlockByActivity db.relations actor.id original with
          | some account => processRemoteUndoBlock db.relations actor.id account original
          | none => db.relations
      | .announce => processRemoteUndoReblog db actor.id original
      | .like => processRemoteUndoLike db actor.id original
      | .follow => processRemoteUndoFollow db.relations actor.id original := by
  have fresh := sent.fresh object
  have found : (withObject others object).get? "object" = some object := rfl
  rw [sent.undo]
  unfold processUndo
  simp only [found, Option.getD_some, blockId, announceId, likeId, followId, embeds.undoneId]
  cases relationship with
  | block =>
      simp only [Relationship.name, if_true, Option.bind_some]
      cases findRemoteLocalBlockByActivity db.relations actor.id original with
      | some account => exact whenNew_relations fresh _
      | none => rfl
  | announce => exact whenNew_relations fresh _
  | like => exact whenNew_relations fresh _
  | follow => exact whenNew_relations fresh _

private theorem undoReblog_absent (absent : (actor.id, original) ∉ db.relations.keys .announce) :
    processRemoteUndoReblog db actor.id original = db.relations := by
  have none : (db.relations.reblogs.find? fun row =>
      row.remoteActorId == actor.id && row.activityId == original) = none := by
    rw [List.find?_eq_none]
    intro row member same
    simp only [Bool.and_eq_true, beq_iff_eq] at same
    exact absent (List.mem_map.mpr ⟨row, member, by rw [same.1, same.2]⟩)
  unfold processRemoteUndoReblog
  dsimp only
  rw [none]

private theorem undoLike_absent (absent : (actor.id, original) ∉ db.relations.keys .like) :
    processRemoteUndoLike db actor.id original = db.relations := by
  have none : (db.relations.favourites.find? fun row =>
      row.remoteActorId == actor.id && row.activityId == original) = none := by
    rw [List.find?_eq_none]
    intro row member same
    simp only [Bool.and_eq_true, beq_iff_eq] at same
    exact absent (List.mem_map.mpr ⟨row, member, by rw [same.1, same.2]⟩)
  unfold processRemoteUndoLike
  dsimp only
  rw [none]

private theorem undoFollow_absent (absent : (actor.id, original) ∉ db.relations.keys .follow) :
    processRemoteUndoFollow db.relations actor.id original = db.relations := by
  have kept : Table.deleteWhere (fun row : RemoteFollow =>
      row.remoteActorId == actor.id && row.activityId == original) db.relations.follows =
        db.relations.follows := by
    rw [Table.deleteWhere_eq_self_iff]
    intro row member
    by_contra same
    simp only [Bool.not_eq_false, Bool.and_eq_true, beq_iff_eq] at same
    exact absent (List.mem_map.mpr ⟨row, member, by rw [same.1, same.2]⟩)
  unfold processRemoteUndoFollow
  rw [kept]

private theorem undoReblog_removed
    (unique : (db.relations.reblogs.map RemoteStatusReblog.activityId).Nodup) :
    (actor.id, original) ∉ (processRemoteUndoReblog db actor.id original).keys .announce := by
  intro member
  unfold processRemoteUndoReblog at member
  dsimp only at member
  split at member
  next none =>
    obtain ⟨row, stored, same⟩ := List.mem_map.mp member
    rw [Prod.mk.injEq] at same
    have other := List.find?_eq_none.mp none row stored
    simp [same] at other
  next reblog found =>
    obtain ⟨row, remaining, same⟩ := List.mem_map.mp member
    rw [Prod.mk.injEq] at same
    obtain ⟨stored, different⟩ := Table.mem_deleteWhere.mp remaining
    have foundSame := List.find?_some found
    simp only [Bool.and_eq_true, beq_iff_eq] at foundSame
    have equal := List.inj_on_of_nodup_map unique stored (List.mem_of_find?_eq_some found)
      (same.2.trans foundSame.2.symm)
    simp [equal] at different

private theorem undoBlock_removed {account : AccountId}
    (unique : (db.relations.blocks.map RemoteLocalAccountBlock.activityId).Nodup)
    (found : findRemoteLocalBlockByActivity db.relations actor.id original = some account) :
    (actor.id, original) ∉
      (processRemoteUndoBlock db.relations actor.id account original).keys .block := by
  intro member
  obtain ⟨row, remaining, same⟩ := List.mem_map.mp member
  rw [Prod.mk.injEq] at same
  obtain ⟨stored, different⟩ := Table.mem_deleteWhere.mp remaining
  obtain ⟨blocked, search, rfl⟩ := Option.map_eq_some_iff.mp found
  have searched := List.find?_some search
  simp only [Bool.and_eq_true, beq_iff_eq] at searched
  have equal := List.inj_on_of_nodup_map unique stored (List.mem_of_find?_eq_some search)
    (same.2.trans searched.2.symm)
  simp [equal, searched] at different

private theorem undo_forms (identified : Identified db)
    (processed : Registered db actor.id relationship.type original)
    (sent : Sent context db others actor .undo id)
    (embeds : Embeds object relationship original) :
    (relationsAfter context db (withObject others (.string original)) actor now =
        relationsAfter context db (withObject others object) actor now ∧
      (actor.id, original) ∉ (relationsAfter context db (withObject others (.string original))
        actor now).keys relationship) ↔
      relationship = .block ∨ relationship = .announce ∨
        (actor.id, original) ∉ db.relations.keys relationship := by
  rw [undo_bare sent, undo_embedded sent embeds]
  cases relationship with
  | block =>
      refine iff_of_true ?_ (.inl rfl)
      cases found : findRemoteLocalBlockByActivity db.relations actor.id original with
      | some account => exact ⟨rfl, undoBlock_removed identified.blockIds found⟩
      | none =>
          have kept := undoReblog_absent (identified.absent processed (by decide))
          dsimp only
          rw [kept]
          exact ⟨rfl, findBlock_none.mp found⟩
  | announce =>
      refine iff_of_true ?_ (.inr (.inl rfl))
      rw [findBlock_none.mpr (identified.absent processed (by decide))]
      exact ⟨rfl, undoReblog_removed identified.reblogIds⟩
  | like =>
      -- no other row carries the id, so the bare form changes nothing
      rw [findBlock_none.mpr (identified.absent processed (by decide))]
      dsimp only
      rw [undoReblog_absent (identified.absent processed (by decide))]
      constructor
      · exact fun removed => .inr (.inr removed.2)
      · rintro (isBlock | isAnnounce | absent)
        · cases isBlock
        · cases isAnnounce
        · exact ⟨(undoLike_absent absent).symm, absent⟩
  | follow =>
      rw [findBlock_none.mpr (identified.absent processed (by decide))]
      dsimp only
      rw [undoReblog_absent (identified.absent processed (by decide))]
      constructor
      · exact fun removed => .inr (.inr removed.2)
      · rintro (isBlock | isAnnounce | absent)
        · cases isBlock
        · cases isAnnounce
        · exact ⟨(undoFollow_absent absent).symm, absent⟩

def AnswersQuote (relations : Relations) (activity : Json) (original : String) : Prop :=
  (quoteResponse activity).isSome = true ∧ (quoteByRequestId relations original).isSome = true

private theorem processQuoteResponse_relations {one two : Json} (oneFresh : Fresh db one kind id)
    (twoFresh : Fresh db two kind id) (accepting : Bool) (author requestId : String)
    (authorization : Option QuoteAuthorization) (quote : StatusQuote) :
    (processQuoteResponse context db one actor now accepting author requestId authorization
        quote).2.relations =
      (processQuoteResponse context db two actor now accepting author requestId authorization
        quote).2.relations := by
  have ignored : (finishIgnoredInboxActivity context db one actor now).2.relations =
      (finishIgnoredInboxActivity context db two actor now).2.relations :=
    (finishIgnored_relations oneFresh).trans (finishIgnored_relations twoFresh).symm
  have transition : ∀ relations,
      (whenNew context db one actor now (some relations)).2.relations =
        (whenNew context db two actor now (some relations)).2.relations :=
    fun relations =>
      (whenNew_relations oneFresh relations).trans (whenNew_relations twoFresh relations).symm
  unfold processQuoteResponse
  dsimp only
  split
  next => rfl
  next =>
    cases quote.quotingStatus with
    | remoteStatus _ => exact ignored
    | localStatus quotingId =>
        cases quote.quotedStatus with
        | none => exact ignored
        | some target =>
            cases target with
            | localStatus _ => exact ignored
            | remoteStatus targetId =>
                dsimp only
                cases (findRemoteStatusById db targetId).filter fun status =>
                    status.remoteActorId == actor.id with
                | none => exact ignored
                | some target =>
                    cases accepting with
                    | false => exact transition _
                    | true =>
                        cases authorization with
                        | none => rfl
                        | some given =>
                            cases db.localStatuses.find? fun status => status.id == quotingId with
                            | none => exact ignored
                            | some quoting =>
                                dsimp only [Bool.not_true]
                                cases db.localAccounts.find? fun account =>
                                    account.id == quoting.accountId with
                                | none => rfl
                                | some account =>
                                    dsimp only
                                    cases quoteAccepted context actor quoting account.username
                                      target given with
                                    | true => exact transition _
                                    | false => rfl

private theorem quoteResponse_withObject (others : List (String × Json)) {one two : Json}
    (same : reference one = reference two) :
    quoteResponse (withObject others one) = quoteResponse (withObject others two) := by
  have objects : ∀ object, (withObject others object).get? "object" = some object := fun _ => rfl
  simp only [quoteResponse, actorOf, get?_withObject (show "actor" ≠ "object" by decide),
    get?_withObject (show "result" ≠ "object" by decide), objects, Option.bind_some, same]

private theorem quoteResponse_reference {response : String × String × Option QuoteAuthorization}
    (read : quoteResponse (withObject others object) = some response) :
    reference object = some response.2.1 := by
  have found : (withObject others object).get? "object" = some object := rfl
  unfold quoteResponse at read
  simp only [found, Option.bind_some, Option.bind_eq_bind, Option.bind_eq_some_iff] at read
  obtain ⟨author, _, id, referred, read⟩ := read
  split at read
  next =>
    cases read
    exact referred
  next =>
    cases read
    exact referred
  next =>
    obtain ⟨_, _, rfl⟩ := Option.map_eq_some_iff.mp read
    exact referred

private theorem with_following_iff (relations : Relations) (following : List RemoteFollowing) :
    { relations with following := following } = relations ↔ following = relations.following := by
  constructor
  · intro same
    exact congrArg Relations.following same
  · rintro rfl
    rfl

private theorem answer_unchanged (relations : Relations) (other : AccountId) (original : String)
    (accepting : Bool) :
    (if accepting then acceptRemoteFollowing relations other original
        else rejectRemoteFollowing relations other original) = relations ↔
      ∀ row ∈ relations.following, row.remoteActorId = other → row.activityId = original →
        accepting = true ∧ row.state = .accepted := by
  cases accepting with
  | true =>
      rw [if_pos rfl, acceptRemoteFollowing, with_following_iff, Table.updateWhere_eq_self_iff]
      constructor
      · intro same row member sameActor sameId
        have kept := same row member (by simp [sameActor, sameId])
        exact ⟨rfl, (congrArg RemoteFollowing.state kept).symm⟩
      · intro accepted row member chosen
        simp only [Bool.and_eq_true, beq_iff_eq] at chosen
        obtain ⟨_, state⟩ := accepted row member chosen.1 chosen.2
        rw [← state]
  | false =>
      rw [if_neg (by decide), rejectRemoteFollowing, with_following_iff,
        Table.deleteWhere_eq_self_iff]
      constructor
      · intro same row member sameActor sameId
        have kept := same row member
        simp [sameActor, sameId] at kept
      · intro none row member
        by_contra chosen
        simp only [Bool.not_eq_false, Bool.and_eq_true, beq_iff_eq] at chosen
        exact absurd (none row member chosen.1 chosen.2).1 (by decide)

private theorem answer_forms {accepting : Bool}
    (sent : Sent context db others actor (if accepting then .accept else .reject) id)
    (embedded : object.get? "id" = some (.string original)) :
    relationsAfter context db (withObject others (.string original)) actor now =
        relationsAfter context db (withObject others object) actor now ↔
      AnswersQuote db.relations (withObject others (.string original)) original ∨
        ∀ row ∈ db.relations.following, row.remoteActorId = actor.id → row.activityId = original →
          accepting = true ∧ row.state = .accepted := by
  have bareFresh := sent.fresh (.string original)
  have fresh := sent.fresh object
  have referred : reference object = some original := by
    cases object with
    | object members =>
        have read : reference (.object members) =
          ((Json.object members).get? "id").bind Json.asStr? := rfl
        rw [read, embedded, Option.bind_some, Json.asStr?]
    | _ => cases embedded
  have responses : quoteResponse (withObject others (.string original)) =
      quoteResponse (withObject others object) := quoteResponse_withObject others referred.symm
  have follow : ((processFollowAnswer context db (withObject others (.string original)) actor now
      accepting).2.relations = (processFollowAnswer context db (withObject others object) actor now
        accepting).2.relations) ↔ ∀ row ∈ db.relations.following, row.remoteActorId = actor.id →
          row.activityId = original → accepting = true ∧ row.state = .accepted := by
    have bareId : ((withObject others (.string original)).get? "object").bind embeddedId = none := rfl
    have objectId : ((withObject others object).get? "object").bind embeddedId = some original := by
      have found : (withObject others object).get? "object" = some object := rfl
      rw [found]
      cases object with
      | object members => rw [Option.bind_some, embeddedId, embedded, Option.bind_some, Json.asStr?]
      | _ => cases embedded
    unfold processFollowAnswer
    rw [bareId, objectId]
    dsimp only
    rw [whenNew_relations fresh, eq_comm]
    exact answer_unchanged db.relations actor.id original accepting
  rw [sent.answer, sent.answer]
  unfold processAnswer AnswersQuote
  rw [responses]
  cases read : quoteResponse (withObject others object) with
  | none =>
      rw [← follow]
      simp
  | some response =>
      have sameId : response.2.1 = original :=
        Option.some.inj ((quoteResponse_reference read).symm.trans referred)
      simp only [Option.bind_some, sameId, Option.isSome_some, true_and]
      cases quoteByRequestId db.relations original with
      | none =>
          rw [← follow]
          simp
      | some quote =>
          refine iff_of_true ?_ (.inl rfl)
          exact processQuoteResponse_relations bareFresh fresh accepting _ _ _ _

/-- For every reachable state: an `Undo` by bare id removes the relationship as
the embedded form does exactly for blocks and announcements, or when there is
no row left; and an answer by bare id does what the embedded form does exactly
when it answers a quote request, or when the embedded form changes nothing. -/
theorem reference_forms_iff (reached : Reachable context db) (actor : RemoteActor) (now : Int)
    (others : List (String × Json)) (id original : String) (object : Json) :
    (∀ relationship : Relationship, Registered db actor.id relationship.type original →
      Sent context db others actor .undo id → Embeds object relationship original →
      ((relationsAfter context db (withObject others (.string original)) actor now =
          relationsAfter context db (withObject others object) actor now ∧
        (actor.id, original) ∉ (relationsAfter context db (withObject others (.string original))
          actor now).keys relationship) ↔
        relationship = .block ∨ relationship = .announce ∨
          (actor.id, original) ∉ db.relations.keys relationship)) ∧
    (∀ accepting : Bool,
      Sent context db others actor (if accepting then .accept else .reject) id →
      object.get? "id" = some (.string original) →
      (relationsAfter context db (withObject others (.string original)) actor now =
          relationsAfter context db (withObject others object) actor now ↔
        AnswersQuote db.relations (withObject others (.string original)) original ∨
          ∀ row ∈ db.relations.following, row.remoteActorId = actor.id →
            row.activityId = original → accepting = true ∧ row.state = .accepted)) := by
  constructor
  · intro relationship processed sent embeds
    exact undo_forms reached.identified processed sent embeds
  · intro accepting sent embedded
    exact answer_forms sent embedded

namespace Sample

def origin (url : String) : List (List Char) := (url.toList.splitOn '/').take 3

def hexDigits (text : String) : List Char := text.toList.filter (· != '-')

def server : Context where
  format := Replay.Sample.format
  sha256 bytes := bytes
  sameUrlOrigin left right := decide (origin left = origin right)
  base := "https://local.example"
  publicUrl path := "https://local.example/" ++ path
  parseUuid text :=
    if (hexDigits text).length = 32 ∧ (hexDigits text).all Char.isDigit then
      some (Nat.ofDigitChars 16 (hexDigits text) 0)
    else none
  uuidText value := String.ofList (Nat.toDigits 16 value)

def alice : RemoteActor := ⟨⟨7⟩, "https://remote.example/users/alice", none⟩

def followUri : String := "https://local.example/follows/1"

def start : Db where
  markers := []
  relations :=
    { follows := [], favourites := [], reblogs := [], blocks := [], trends := [], quotes := []
      following := [⟨⟨1⟩, alice.id, followUri, .pending, true, false, none⟩] }
  localAccounts := [⟨⟨1⟩, "bob", false⟩]
  localStatuses := [⟨⟨5⟩, ⟨1⟩, .publicStatus, .everyone⟩]
  remoteStatuses := []
  localBlocks := []
  remoteMentions := []

def likeUri : String := "https://remote.example/likes/1"

def like : Json := .object
  [("type", .string "Like"), ("id", .string likeUri), ("actor", .string alice.activitypubId),
    ("object",
      .string "https://local.example/users/bob/statuses/00000000-0000-0000-0000-000000000005")]

def liked : Db := ((processInbox server start like alice 10).map Prod.snd).getD start

def undo : List (String × Json) :=
  [("type", .string "Undo"), ("id", .string "https://remote.example/undo/1"),
    ("actor", .string alice.activitypubId)]

def accept : List (String × Json) :=
  [("type", .string "Accept"), ("id", .string "https://remote.example/accept/1"),
    ("actor", .string alice.activitypubId)]

def embedded (name uri : String) : Json := .object [("id", .string uri), ("type", .string name)]

theorem liked_reachable : Reachable server liked := by
  have empty : Reachable server start := .start (by decide) fun kind => by cases kind <;> rfl
  have processed : processInbox server start like alice 10 = some (.accepted, liked) := by
    decide +kernel
  exact .deliver empty processed

end Sample

open Sample in
theorem reference_forms_iff_liked :
    ((relationsAfter server liked (withObject undo (.string likeUri)) alice 20 =
        relationsAfter server liked (withObject undo (embedded "Like" likeUri)) alice 20 ∧
      (alice.id, likeUri) ∉ (relationsAfter server liked (withObject undo (.string likeUri))
        alice 20).keys .like) ↔ (alice.id, likeUri) ∉ liked.relations.keys .like) ∧
    relationsAfter server liked (withObject accept (.string "https://local.example/other")) alice
        20 = relationsAfter server liked
      (withObject accept (embedded "Follow" "https://local.example/other")) alice 20 := by
  have registered : Registered liked alice.id Relationship.like.type likeUri := by
    unfold Registered
    decide +kernel
  have undone : Sent server liked undo alice .undo "https://remote.example/undo/1" :=
    ⟨by decide, by decide, by decide +kernel, by decide +kernel⟩
  have answered : Sent server liked accept alice .accept "https://remote.example/accept/1" :=
    ⟨by decide, by decide, by decide +kernel, by decide +kernel⟩
  have other : ∀ row ∈ liked.relations.following,
      row.activityId ≠ "https://local.example/other" := by decide +kernel
  constructor
  · have forms := (reference_forms_iff liked_reachable alice 20 undo
      "https://remote.example/undo/1" likeUri (embedded "Like" likeUri)).1 .like registered undone
      ⟨rfl, rfl⟩
    simpa using forms
  · refine ((reference_forms_iff liked_reachable alice 20 accept
      "https://remote.example/accept/1" "https://local.example/other"
      (embedded "Follow" "https://local.example/other")).2 true answered rfl).mpr (.inr ?_)
    intro row member _ same
    exact absurd same (other row member)

open Sample in
/-- The favourite survives an `Undo` by bare id and not one that embeds it; a
follow is accepted by an embedded `Follow` only. -/
theorem reference_forms_differ :
    Reachable server liked ∧ Registered liked alice.id .like likeUri ∧
    (relationsAfter server liked (withObject undo (.string likeUri)) alice 20).favourites =
      [⟨alice.id, ⟨5⟩, likeUri⟩] ∧
    (relationsAfter server liked (withObject undo (embedded "Like" likeUri)) alice
      20).favourites = [] ∧
    (relationsAfter server liked (withObject accept (.string followUri)) alice
      20).following.map RemoteFollowing.state = [.pending] ∧
    (relationsAfter server liked (withObject accept (embedded "Follow" followUri))
      alice 20).following.map RemoteFollowing.state = [.accepted] := by
  refine ⟨liked_reachable, ?_, by decide +kernel, by decide +kernel, by decide +kernel,
    by decide +kernel⟩
  unfold Registered
  decide +kernel

end Roosty.Federation.Inbox
