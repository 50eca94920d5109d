import Roosty.Federation.Replay

/-!
# Activities are registered once

Counts of rows against counts of `New` answers, kept by every step of every
transaction; classification of later registrations; and what the digest of an
activity identifies.
-/

set_option autoImplicit false

namespace Roosty.Federation.Replay

open Library

/-!
## Registration
-/

def named (activityId : String) (row : ProcessedInboxActivity) : Bool :=
  row.activityId == activityId

def Matches (row : ProcessedInboxActivity) (metadata : InboxActivityMetadata) : Prop :=
  row.remoteActorId = metadata.remoteActorId ∧ (row.payloadDigest = none ∨
    (row.payloadDigest = some metadata.payloadDigest ∧
      row.activityType = some metadata.activityType))

instance (row : ProcessedInboxActivity) (metadata : InboxActivityMetadata) :
    Decidable (Matches row metadata) :=
  inferInstanceAs (Decidable (_ ∧ (_ ∨ (_ ∧ _))))

def classification (row : ProcessedInboxActivity) (metadata : InboxActivityMetadata) :
    InboxReplayResult :=
  if Matches row metadata then .duplicate else .conflict

variable {rows : List ProcessedInboxActivity} {metadata : InboxActivityMetadata}
variable {row : ProcessedInboxActivity} {now : Int}

theorem classifyInboxActivity_eq (unique : (rows.map ProcessedInboxActivity.activityId).Nodup)
    (member : row ∈ rows) (same : row.activityId = metadata.activityId) :
    classifyInboxActivity rows metadata = some (classification row metadata) := by
  have found : rows.find? (fun other => other.activityId == metadata.activityId) = some row := by
    cases search : rows.find? fun other => other.activityId == metadata.activityId with
    | none =>
        have absent := List.find?_eq_none.mp search row member
        simp [same] at absent
    | some other =>
        have otherSame : other.activityId = metadata.activityId := by
          simpa using List.find?_some search
        have equal := List.inj_on_of_nodup_map unique member (List.mem_of_find?_eq_some search)
          (same.trans otherSame.symm)
        rw [equal]
  unfold classifyInboxActivity
  rw [found]
  by_cases signer : row.remoteActorId = metadata.remoteActorId
  · cases digest : row.payloadDigest with
    | none => simp [classification, Matches, signer, digest]
    | some stored =>
        by_cases equal : stored = metadata.payloadDigest ∧
            row.activityType = some metadata.activityType
        · simp [classification, Matches, signer, digest, equal]
        · simp only [ne_eq, signer, not_true_eq_false, if_false, digest, if_neg equal,
            classification, Matches, reduceCtorEq, Option.some.injEq, false_or, true_and]
  · simp [classification, Matches, signer]

theorem classification_ne_new (row : ProcessedInboxActivity) (metadata : InboxActivityMetadata) :
    classification row metadata ≠ .new := by
  unfold classification
  split <;> simp

theorem registerInboxActivity_stored
    (unique : (rows.map ProcessedInboxActivity.activityId).Nodup) (member : row ∈ rows)
    (same : row.activityId = metadata.activityId) :
    registerInboxActivity rows metadata now = (none, .ok (classification row metadata)) := by
  have stored : (rows.any fun row => row.activityId == metadata.activityId) = true :=
    List.any_eq_true.mpr ⟨row, member, by simpa using same⟩
  rw [registerInboxActivity, if_pos stored, classifyInboxActivity_eq unique member same]
  rfl

theorem registerInboxActivity_absent
    (absent : ∀ row ∈ rows, row.activityId ≠ metadata.activityId) :
    registerInboxActivity rows metadata now = (some (metadata.marker now), .ok .new) := by
  have free : ¬ (rows.any fun row => row.activityId == metadata.activityId) = true := by
    simpa using absent
  rw [registerInboxActivity, if_neg free]

/-!
## Steps
-/

variable {initial : List ProcessedInboxActivity} {state : State} {transaction : Transaction}
variable {trace : List (Call × Reply)}

/-- What every run keeps: ids are distinct over committed and pending rows, an
open transaction has one pending row for each of its `New` answers, and the
committed rows are the initial ones and one for each committed `New`. -/
structure Tracked (initial : List ProcessedInboxActivity) (trace : List (Call × Reply))
    (state : State) : Prop where
  unique : ((state.rows ++ state.pending.map Prod.snd).map
    ProcessedInboxActivity.activityId).Nodup
  openPending : ∀ entry ∈ state.pending, state.finished entry.1 = false
  pendingNew : ∀ activityId transaction, state.finished transaction = false →
    (state.own transaction).countP (named activityId) =
      trace.countP (isNewBy activityId transaction)
  committedNew : ∀ activityId, state.rows.countP (named activityId) =
    initial.countP (named activityId) + committedNew state activityId trace

private theorem countP_or {Entry : Type} {left right : Entry → Bool} (entries : List Entry)
    (disjoint : ∀ entry, left entry = true → right entry = false) :
    entries.countP (fun entry => left entry || right entry) =
      entries.countP left + entries.countP right := by
  induction entries with
  | nil => rfl
  | cons entry entries ih =>
      rw [List.countP_cons, List.countP_cons, List.countP_cons, ih]
      cases chosen : left entry with
      | true => simp [disjoint entry chosen]; omega
      | false => simp; omega

private theorem Tracked.extend (tracked : Tracked initial trace state) {entry : Call × Reply}
    (other : ∀ activityId transaction, isNewBy activityId transaction entry = false) :
    Tracked initial (trace ++ [entry]) state where
  unique := tracked.unique
  openPending := tracked.openPending
  pendingNew := by
    intro activityId transaction unfinished
    rw [List.countP_append, List.countP_singleton, other, tracked.pendingNew _ _ unfinished]
    rfl
  committedNew := by
    intro activityId
    have uncounted : (state.committed.any fun transaction =>
        isNewBy activityId transaction entry) = false := by
      simp [other]
    rw [tracked.committedNew, Replay.committedNew, Replay.committedNew, List.countP_append,
      List.countP_singleton, uncounted]
    rfl

private theorem visible_unique (tracked : Tracked initial trace state) (transaction : Transaction) :
    ((state.visible transaction).map ProcessedInboxActivity.activityId).Nodup := by
  have part : (state.visible transaction).Sublist
      (state.rows ++ state.pending.map Prod.snd) := by
    unfold State.visible State.own
    exact (List.Sublist.refl _).append (List.filter_sublist.map Prod.snd)
  exact tracked.unique.sublist (part.map _)

theorem register_cases (tracked : Tracked initial trace state) (transaction : Transaction)
    (metadata : InboxActivityMetadata) (now : Int) :
    (∃ reply, register state transaction metadata now = (state, reply) ∧
      reply ≠ .registered (.ok .new)) ∨
    (state.finished transaction = false ∧
      (∀ row ∈ state.visible transaction, row.activityId ≠ metadata.activityId) ∧
      state.blocked transaction metadata.activityId = false ∧
      register state transaction metadata now =
        ({ state with pending := state.pending ++ [(transaction, metadata.marker now)] },
          .registered (.ok .new))) := by
  unfold register
  split
  next => exact .inl ⟨_, rfl, by simp⟩
  next unfinished =>
    split
    next => exact .inl ⟨_, rfl, by simp⟩
    next unblocked =>
      by_cases absent : ∀ row ∈ state.visible transaction, row.activityId ≠ metadata.activityId
      · rw [registerInboxActivity_absent absent]
        exact .inr ⟨by simpa using unfinished, absent, by simpa using unblocked, rfl⟩
      · obtain ⟨row, member, same⟩ : ∃ row ∈ state.visible transaction,
            row.activityId = metadata.activityId := by
          simpa using absent
        rw [registerInboxActivity_stored (visible_unique tracked transaction) member same]
        refine .inl ⟨_, rfl, ?_⟩
        simpa using classification_ne_new row metadata

private theorem Tracked.register (tracked : Tracked initial trace state) :
    Tracked initial
      (trace ++ [(.register transaction metadata now,
        (Replay.register state transaction metadata now).2)])
      (Replay.register state transaction metadata now).1 := by
  rcases register_cases tracked transaction metadata now with
    ⟨reply, shown, notNew⟩ | ⟨unfinished, absent, unblocked, shown⟩
  · rw [shown]
    apply tracked.extend
    intro activityId caller
    simp [isNewBy, notNew]
  · rw [shown]
    have free : ∀ entry ∈ state.pending, entry.2.activityId ≠ metadata.activityId := by
      intro entry member same
      by_cases mine : entry.1 = transaction
      · refine absent entry.2 ?_ same
        refine List.mem_append_right _ (List.mem_map.mpr ⟨entry, ?_, rfl⟩)
        exact List.mem_filter.mpr ⟨member, by simpa using mine⟩
      · have held : state.blocked transaction metadata.activityId = true :=
          List.any_eq_true.mpr ⟨entry, member, by simp [mine, same]⟩
        rw [held] at unblocked
        cases unblocked
    constructor
    · have shape : (state.rows ++ (state.pending ++ [(transaction, metadata.marker now)]).map
          Prod.snd).map ProcessedInboxActivity.activityId =
            (state.rows ++ state.pending.map Prod.snd).map ProcessedInboxActivity.activityId ++
              [metadata.activityId] := by
        simp [InboxActivityMetadata.marker]
      dsimp only
      rw [shape]
      refine List.Nodup.append tracked.unique (List.nodup_singleton _) ?_
      intro activityId stored marked
      have named : activityId = metadata.activityId := List.mem_singleton.mp marked
      obtain ⟨row, member, same⟩ := List.mem_map.mp stored
      rcases List.mem_append.mp member with committed | pending
      · exact absent row (List.mem_append_left _ committed) (same.trans named)
      · obtain ⟨entry, entryMember, rfl⟩ := List.mem_map.mp pending
        exact free entry entryMember (same.trans named)
    · intro entry member
      rcases List.mem_append.mp member with old | added
      · exact tracked.openPending entry old
      · rw [List.mem_singleton.mp added]
        exact unfinished
    · intro activityId caller callerUnfinished
      have before := tracked.pendingNew activityId caller callerUnfinished
      rw [List.countP_append, List.countP_singleton, ← before]
      unfold State.own
      rw [List.filter_append, List.map_append, List.countP_append]
      by_cases mine : transaction = caller
      · subst mine
        by_cases same : metadata.activityId = activityId
        · simp [isNewBy, named, InboxActivityMetadata.marker, same]
        · simp [isNewBy, named, InboxActivityMetadata.marker, same]
      · simp [isNewBy, mine]
    · intro activityId
      have uncounted : (state.committed.any fun caller => isNewBy activityId caller
          (.register transaction metadata now, .registered (.ok .new))) = false := by
        have open' : transaction ∉ state.committed := by
          simp only [State.finished, Bool.or_eq_false_iff] at unfinished
          simpa using unfinished.1
        rw [List.any_eq_false]
        intro caller member
        have other : transaction ≠ caller := by
          rintro rfl
          exact open' member
        simp [isNewBy, other]
      rw [tracked.committedNew, Replay.committedNew, Replay.committedNew, List.countP_append,
        List.countP_singleton, uncounted]
      rfl

private theorem finished_afterCommit (state : State) (transaction caller : Transaction) :
    (state.afterCommit transaction).finished caller = false ↔
      state.finished caller = false ∧ caller ≠ transaction := by
  simp only [State.finished, State.afterCommit, Bool.or_eq_false_iff, List.contains_append,
    List.contains_cons, List.contains_nil, beq_eq_false_iff_ne, Bool.or_false]
  tauto

private theorem finished_afterAbort (state : State) (transaction caller : Transaction) :
    (state.afterAbort transaction).finished caller = false ↔
      state.finished caller = false ∧ caller ≠ transaction := by
  simp only [State.finished, State.afterAbort, Bool.or_eq_false_iff, List.contains_append,
    List.contains_cons, List.contains_nil, beq_eq_false_iff_ne, Bool.or_false]
  tauto

private theorem own_others {caller : Transaction} (other : caller ≠ transaction) :
    ((state.pending.filter fun entry => entry.1 != transaction).filter fun entry =>
      entry.1 == caller).map Prod.snd = state.own caller := by
  rw [List.filter_filter]
  unfold State.own
  congr 1
  apply List.filter_congr
  intro entry _
  by_cases mine : entry.1 = caller
  · simp [mine, other]
  · simp [mine]

private theorem own_perm (state : State) (transaction : Transaction) :
    (state.own transaction ++
      (state.pending.filter fun entry => entry.1 != transaction).map Prod.snd).Perm
        (state.pending.map Prod.snd) := by
  unfold State.own
  rw [← List.map_append]
  exact (List.filter_append_perm (fun entry => entry.1 == transaction) state.pending).map _

private theorem committedNew_afterCommit (unfinished : state.finished transaction = false)
    (activityId : String) (trace : List (Call × Reply)) :
    committedNew (state.afterCommit transaction) activityId
        (trace ++ [(.commit transaction, .ended)]) =
      committedNew state activityId trace + trace.countP (isNewBy activityId transaction) := by
  have fresh : transaction ∉ state.committed := by
    simp only [State.finished, Bool.or_eq_false_iff] at unfinished
    simpa using unfinished.1
  have split : ∀ entry : Call × Reply, ((state.committed ++ [transaction]).any fun caller =>
      isNewBy activityId caller entry) = ((state.committed.any fun caller =>
        isNewBy activityId caller entry) || isNewBy activityId transaction entry) := by
    intro entry
    simp
  -- one answer belongs to one transaction
  have disjoint : ∀ entry : Call × Reply, (state.committed.any fun caller =>
      isNewBy activityId caller entry) = true → isNewBy activityId transaction entry = false := by
    intro entry counted
    obtain ⟨caller, member, mine⟩ := List.any_eq_true.mp counted
    obtain ⟨call, reply⟩ := entry
    cases call with
    | register owner metadata now =>
        simp only [isNewBy, Bool.and_eq_true, beq_iff_eq] at mine
        have other : owner ≠ transaction := by
          rintro rfl
          exact fresh (mine.1.1 ▸ member)
        simp [isNewBy, other]
    | commit owner => simp [isNewBy] at mine
    | abort owner => simp [isNewBy] at mine
  unfold committedNew State.afterCommit
  rw [List.countP_append, List.countP_singleton]
  simp only [split]
  rw [countP_or trace disjoint]
  simp [isNewBy]

private theorem Tracked.commit (tracked : Tracked initial trace state)
    (transaction : Transaction) :
    Tracked initial (trace ++ [(.commit transaction, (Replay.commit state transaction).2)])
      (Replay.commit state transaction).1 := by
  unfold Replay.commit
  split
  next => exact tracked.extend fun _ _ => rfl
  next notFinished =>
    have unfinished : state.finished transaction = false := by simpa using notFinished
    constructor
    · have perm := ((own_perm state transaction).append_left state.rows).map
        ProcessedInboxActivity.activityId
      rw [← List.append_assoc] at perm
      exact perm.nodup_iff.mpr tracked.unique
    · intro entry member
      obtain ⟨stored, other⟩ := List.mem_filter.mp member
      exact (finished_afterCommit state transaction entry.1).mpr
        ⟨tracked.openPending entry stored, by simpa using other⟩
    · intro activityId caller callerOpen
      obtain ⟨callerUnfinished, other⟩ :=
        (finished_afterCommit state transaction caller).mp callerOpen
      have kept : (state.afterCommit transaction).own caller = state.own caller := own_others other
      rw [List.countP_append, List.countP_singleton, kept,
        tracked.pendingNew activityId caller callerUnfinished]
      rfl
    · intro activityId
      have rows : (state.afterCommit transaction).rows = state.rows ++ state.own transaction := rfl
      rw [rows, committedNew_afterCommit unfinished, List.countP_append, tracked.committedNew,
        tracked.pendingNew activityId transaction unfinished, Nat.add_assoc]

private theorem Tracked.abort (tracked : Tracked initial trace state) (transaction : Transaction) :
    Tracked initial (trace ++ [(.abort transaction, (Replay.abort state transaction).2)])
      (Replay.abort state transaction).1 := by
  unfold Replay.abort
  split
  next => exact tracked.extend fun _ _ => rfl
  next =>
    constructor
    · have part : (state.rows ++ (state.pending.filter fun entry =>
          entry.1 != transaction).map Prod.snd).Sublist
            (state.rows ++ state.pending.map Prod.snd) :=
        (List.Sublist.refl _).append (List.filter_sublist.map Prod.snd)
      exact tracked.unique.sublist (part.map _)
    · intro entry member
      obtain ⟨stored, other⟩ := List.mem_filter.mp member
      exact (finished_afterAbort state transaction entry.1).mpr
        ⟨tracked.openPending entry stored, by simpa using other⟩
    · intro activityId caller callerOpen
      obtain ⟨callerUnfinished, other⟩ :=
        (finished_afterAbort state transaction caller).mp callerOpen
      have kept : (state.afterAbort transaction).own caller = state.own caller := own_others other
      rw [List.countP_append, List.countP_singleton, kept,
        tracked.pendingNew activityId caller callerUnfinished]
      rfl
    · intro activityId
      have counted : Replay.committedNew (state.afterAbort transaction) activityId
          (trace ++ [(.abort transaction, .ended)]) =
            Replay.committedNew state activityId trace := by
        unfold Replay.committedNew State.afterAbort
        rw [List.countP_append, List.countP_singleton]
        simp [isNewBy]
      have rows : (state.afterAbort transaction).rows = state.rows := rfl
      rw [rows, counted, tracked.committedNew]

theorem run_tracked (unique : (initial.map ProcessedInboxActivity.activityId).Nodup)
    (calls : List Call) :
    Tracked initial (machine.trace (State.initial initial) calls)
      (machine.run (State.initial initial) calls) := by
  refine machine.history_invariant (State.initial initial) (fun _ => True) (fun _ _ _ => trivial)
    (Tracked initial) ?_ ?_ trivial
  · constructor
    · simpa [State.initial] using unique
    · intro entry member
      cases member
    · intro activityId caller _
      rfl
    · intro activityId
      rfl
  · intro calls call _ tracked
    cases call with
    | register transaction metadata now => exact tracked.register
    | commit transaction => exact tracked.commit transaction
    | abort transaction => exact tracked.abort transaction

/-!
## Later registrations
-/

private theorem finished_step (call : Call) (finished : state.finished transaction = true) :
    (step state call).1.finished transaction = true := by
  cases call with
  | register caller metadata now =>
      simp only [step, register]
      split
      next => exact finished
      next =>
        split
        next => exact finished
        next => split <;> exact finished
  | commit caller =>
      simp only [step, commit]
      split
      next => exact finished
      next =>
        by_contra reopened
        have ended := (finished_afterCommit state caller transaction).mp (by simpa using reopened)
        rw [finished] at ended
        cases ended.1
  | abort caller =>
      simp only [step, abort]
      split
      next => exact finished
      next =>
        by_contra reopened
        have ended := (finished_afterAbort state caller transaction).mp (by simpa using reopened)
        rw [finished] at ended
        cases ended.1

private theorem visible_step (call : Call)
    (seen : row ∈ state.visible transaction ∨ state.finished transaction = true) :
    row ∈ (step state call).1.visible transaction ∨
      (step state call).1.finished transaction = true := by
  rcases seen with seen | finished
  · cases call with
    | register caller metadata now =>
        left
        simp only [step, register]
        split
        next => exact seen
        next =>
          split
          next => exact seen
          next =>
            split
            next =>
              rcases List.mem_append.mp seen with committed | own
              · exact List.mem_append_left _ committed
              · refine List.mem_append_right _ ?_
                unfold State.own at own ⊢
                rw [List.filter_append, List.map_append]
                exact List.mem_append_left _ own
            next => exact seen
    | commit caller =>
        simp only [step, commit]
        split
        next => exact .inl seen
        next =>
          left
          rcases List.mem_append.mp seen with committed | own
          · exact List.mem_append_left _ (List.mem_append_left _ committed)
          · by_cases mine : transaction = caller
            · subst mine
              exact List.mem_append_left _ (List.mem_append_right _ own)
            · have kept : (state.afterCommit caller).own transaction = state.own transaction :=
                own_others mine
              exact List.mem_append_right _ (kept ▸ own)
    | abort caller =>
        simp only [step, abort]
        split
        next => exact .inl seen
        next =>
          by_cases mine : transaction = caller
          · subst mine
            right
            simp [State.finished, State.afterAbort]
          · left
            have kept : (state.afterAbort caller).own transaction = state.own transaction :=
              own_others mine
            rcases List.mem_append.mp seen with committed | own
            · exact List.mem_append_left _ committed
            · exact List.mem_append_right _ (kept ▸ own)
  · exact .inr (finished_step call finished)

theorem register_stored (tracked : Tracked initial trace state)
    (unfinished : state.finished transaction = false) (seen : row ∈ state.visible transaction)
    (same : row.activityId = metadata.activityId) :
    register state transaction metadata now =
      (state, .registered (.ok (classification row metadata))) := by
  -- ids are distinct, so nobody else holds this one
  have unblocked : state.blocked transaction metadata.activityId = false := by
    rw [State.blocked, List.any_eq_false]
    intro entry member held
    simp only [Bool.and_eq_true, bne_iff_ne, ne_eq, beq_iff_eq] at held
    have split := own_perm state transaction
    have unique : ((state.rows ++ (state.own transaction ++ (state.pending.filter fun entry =>
        entry.1 != transaction).map Prod.snd)).map ProcessedInboxActivity.activityId).Nodup :=
      ((split.append_left state.rows).map _).nodup_iff.mpr tracked.unique
    rw [← List.append_assoc, List.map_append] at unique
    have apart := (List.nodup_append.mp unique).2.2
    refine apart row.activityId (List.mem_map_of_mem seen) entry.2.activityId ?_
      (same.trans held.2.symm)
    refine List.mem_map_of_mem (List.mem_map_of_mem (List.mem_filter.mpr ⟨member, ?_⟩))
    simpa using held.1
  unfold register
  rw [if_neg (by simp [unfinished]), if_neg (by simp [unblocked]),
    registerInboxActivity_stored (visible_unique tracked transaction) seen same]

/-!
## At most once
-/

private theorem countP_named_le_one
    (unique : (rows.map ProcessedInboxActivity.activityId).Nodup) (activityId : String) :
    rows.countP (named activityId) ≤ 1 := by
  have count : rows.countP (named activityId) =
      (rows.map ProcessedInboxActivity.activityId).count activityId := by
    rw [List.count, List.countP_map]
    rfl
  rw [count]
  exact List.nodup_iff_count_le_one.mp unique activityId

private theorem semantic_wellFormed {members : List (String × Json)}
    (valid : (Json.object members).WellFormed) :
    (Json.object (semanticMembers members)).WellFormed := by
  cases valid with
  | object distinct each =>
      refine .object (distinct.sublist (List.filter_sublist.map Prod.fst)) ?_
      intro entry member
      exact each entry (List.mem_of_mem_filter member)

/-- In every interleaving at most one committed registration of an id is new,
later registrations are classified against the stored row, and digests of
activities agree exactly when the activities are the same value up to
authentication members and the order of members. -/
theorem inbox_atMostOnce (unique : (initial.map ProcessedInboxActivity.activityId).Nodup)
    (format : CanonicalJson.NumberFormat) (sha256 : List UInt8 → List UInt8) :
    (∀ calls activityId, initial.countP (named activityId) +
      committedNew (machine.run (State.initial initial) calls) activityId
        (machine.trace (State.initial initial) calls) ≤ 1) ∧
    (∀ earlier later transaction metadata now row,
      row ∈ (machine.run (State.initial initial) earlier).visible transaction →
      row.activityId = metadata.activityId →
      (machine.run (State.initial initial) (earlier ++ later)).finished transaction = false →
      (machine.step (machine.run (State.initial initial) (earlier ++ later))
        (.register transaction metadata now)).2 =
          .registered (.ok (if row.remoteActorId = metadata.remoteActorId ∧
              (row.payloadDigest = none ∨ (row.payloadDigest = some metadata.payloadDigest ∧
                row.activityType = some metadata.activityType)) then
            .duplicate else .conflict))) ∧
    (∀ left right : List (String × Json), (Json.object left).WellFormed →
      (sha256 (CanonicalJson.bytes format (.object (semanticMembers left))) =
          sha256 (CanonicalJson.bytes format (.object (semanticMembers right))) →
        CanonicalJson.bytes format (.object (semanticMembers left)) =
          CanonicalJson.bytes format (.object (semanticMembers right))) →
      (canonicalActivityDigest format sha256 (.object left) =
          canonicalActivityDigest format sha256 (.object right) ↔
        Json.Same format.same (.object (semanticMembers left))
          (.object (semanticMembers right)))) := by
  refine ⟨?_, ?_, ?_⟩
  · intro calls activityId
    have tracked := run_tracked unique calls
    rw [← tracked.committedNew]
    refine countP_named_le_one (tracked.unique.sublist ?_) activityId
    exact (List.sublist_append_left _ _).map _
  · intro earlier later transaction metadata now row seen same unfinished
    have tracked := run_tracked unique (earlier ++ later)
    have still : row ∈ (machine.run (State.initial initial) (earlier ++ later)).visible transaction ∨
        (machine.run (State.initial initial) (earlier ++ later)).finished transaction = true := by
      rw [Machine.run_append]
      exact machine.run_invariant (fun state => row ∈ state.visible transaction ∨
        state.finished transaction = true) (fun _ call => visible_step call) (.inl seen) later
    rcases still with visible | finished
    · exact congrArg Prod.snd (register_stored tracked unfinished visible same)
    · rw [unfinished] at finished
      cases finished
  · intro left right valid collisionFree
    rw [← CanonicalJson.bytes_eq_iff format (semantic_wellFormed valid)]
    constructor
    · intro same
      exact collisionFree (Except.ok.inj same)
    · intro same
      exact congrArg (fun bytes => Except.ok (sha256 bytes)) same

namespace Sample

def written : Json.Number → List Char
  | .posInt value => Nat.toDigits 10 value
  | .negInt value => '-' :: Nat.toDigits 10 value.natAbs
  | .float bits => Nat.toDigits 10 bits.toNat ++ ['.', '0']

private theorem toDigits_plain (value : Nat) :
    (Nat.toDigits 10 value).all CanonicalJson.isNumberChar = true := by
  rw [List.all_eq_true]
  intro character member
  have digit := Nat.isDigit_of_mem_toDigits (by decide) (by decide) member
  simp [CanonicalJson.isNumberChar, digit]

def format : CanonicalJson.NumberFormat where
  text := written
  same left right := written left = written right
  canonical _ _ := Iff.rfl
  plain := by
    intro number
    cases number with
    | posInt value => exact toDigits_plain value
    | negInt value =>
        rw [written, List.all_cons, toDigits_plain]
        decide
    | float bits =>
        rw [written, List.all_append, toDigits_plain]
        decide
  nonempty := by
    intro number
    cases number with
    | posInt value => exact Nat.toDigits_ne_nil
    | negInt value => simp [written]
    | float bits => simp [written]

def actor : AccountId := ⟨7⟩

def like : List (String × Json) :=
  [("type", .string "Like"), ("id", .string "https://remote.example/likes/1"),
    ("actor", .string "https://remote.example/users/alice")]

/-- The same activity with its members in another order and a new proof. -/
def resigned : List (String × Json) :=
  [("id", .string "https://remote.example/likes/1"), ("proof", .object []),
    ("type", .string "Like"), ("actor", .string "https://remote.example/users/alice")]

def likeMetadata : InboxActivityMetadata :=
  ⟨"https://remote.example/likes/1", actor, [1], .like, .accepted⟩

/-- Two deliveries of one activity: the second waits for the first. -/
def calls : List Call :=
  [.register ⟨1⟩ likeMetadata 10, .register ⟨2⟩ likeMetadata 11, .commit ⟨1⟩]

end Sample

theorem inbox_atMostOnce_likeTwice :
    (machine.trace (State.initial []) Sample.calls).map Prod.snd =
      [.registered (.ok .new), .waits, .ended] ∧
    (machine.step (machine.run (State.initial []) (Sample.calls ++ []))
      (.register ⟨2⟩ Sample.likeMetadata 12)).2 = .registered (.ok .duplicate) ∧
    committedNew (machine.run (State.initial []) Sample.calls) Sample.likeMetadata.activityId
      (machine.trace (State.initial []) Sample.calls) ≤ 1 ∧
    canonicalActivityDigest Sample.format id (.object Sample.like) =
      canonicalActivityDigest Sample.format id (.object Sample.resigned) := by
  have stored : Sample.likeMetadata.marker 10 ∈
      (machine.run (State.initial []) Sample.calls).visible ⟨2⟩ := by decide
  have valid : (Json.object Sample.like).WellFormed := by
    refine .object (by decide) ?_
    intro entry member
    simp only [Sample.like, List.mem_cons, List.not_mem_nil, or_false] at member
    rcases member with rfl | rfl | rfl <;> exact .string _
  have same : Json.Same Sample.format.same (.object (semanticMembers Sample.like))
      (.object (semanticMembers Sample.resigned)) :=
    .object (.swap _ _ _) rfl (.cons (.string _) (.cons (.string _) (.cons (.string _) .nil)))
      (.refl _)
  have unique : (([] : List ProcessedInboxActivity).map
    ProcessedInboxActivity.activityId).Nodup := List.nodup_nil
  obtain ⟨once, later, digests⟩ := inbox_atMostOnce unique Sample.format id
  refine ⟨by decide, ?_, ?_, (digests _ _ valid id).mpr same⟩
  · exact later Sample.calls [] ⟨2⟩ Sample.likeMetadata 12 _ stored rfl (by decide)
  · have bound := once Sample.calls Sample.likeMetadata.activityId
    rwa [List.countP_nil, Nat.zero_add] at bound

end Roosty.Federation.Replay
