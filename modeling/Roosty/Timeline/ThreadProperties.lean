import Mathlib.Logic.Relation
import Roosty.Timeline.Thread

/-!
# Threads around a status

The walk upwards forgets the status that it starts from. Where no chain of visible
parents leads back to the status, its thread is a tree around it; where one does, some
limits let the status be its own ancestor.
-/

set_option autoImplicit false

namespace Roosty.Timeline

/-- Statuses are found by their keys and reply to one status at most. -/
structure Db.Threaded (db : Db) : Prop extends db.Keyed where
  localParent : ∀ status ∈ db.localStatuses,
    status.inReplyToId = none ∨ status.inReplyToRemoteStatusId = none
  remoteParent : ∀ status ∈ db.remoteStatuses,
    status.inReplyToLocalStatusId = none ∨ status.inReplyToRemoteStatusId = none

/-- A status of the database that is not deleted. -/
def Live (db : Db) (item : StatusContextItem) : Prop :=
  findStatusContextParent db item.reference = some item

def VisibleParent (db : Db) (viewer : Option AccountId) (child parent : StatusContextItem) : Prop :=
  statusContextParent child = some parent.reference ∧ Live db parent ∧
    statusContextItemVisible db viewer parent = true

inductive ParentChain (db : Db) (viewer : Option AccountId) :
    StatusContextItem → List StatusContextItem → Prop
  | nil (child : StatusContextItem) : ParentChain db viewer child []
  | cons {child parent : StatusContextItem} {parents : List StatusContextItem}
      (here : VisibleParent db viewer child parent) (above : ParentChain db viewer parent parents) :
      ParentChain db viewer child (parent :: parents)

inductive Below (db : Db) (viewer : Option AccountId) (root : StatusContextItem) :
    Nat → StatusContextItem → Prop
  | reply {item : StatusContextItem} (live : Live db item)
      (parent : statusContextParent item = some root.reference)
      (visible : statusContextItemVisible db viewer item = true) : Below db viewer root 1 item
  | deeper {depth : Nat} {above item : StatusContextItem} (below : Below db viewer root depth above)
      (live : Live db item) (parent : statusContextParent item = some above.reference)
      (visible : statusContextItemVisible db viewer item = true) :
      Below db viewer root (depth + 1) item

structure ThreadCorrect (db : Db) (root : StatusContextItem) (viewer : Option AccountId)
    (limits : StatusContextLimits) (ancestors descendants : List StatusContextItem) : Prop where
  visible : ∀ item ∈ ancestors ++ descendants, statusContextItemVisible db viewer item = true
  distinct : (root.reference :: (ancestors ++ descendants).map StatusContextItem.reference).Nodup
  chain : ParentChain db viewer root ancestors.reverse
  ancestorsBounded : ancestors.length ≤ limits.ancestors
  /-- The chain ends at its limit, or where no further status can be added to it. -/
  maximal : ancestors.length < limits.ancestors → ∀ parent,
    VisibleParent db viewer (ancestors.headD root) parent → parent ∈ ancestors
  below : ∀ item ∈ descendants, ∃ depth, Below db viewer root depth item
  afterParent : ∀ before item after, descendants = before ++ item :: after →
    ∃ parent ∈ root :: before, statusContextParent item = some parent.reference
  descendantsBounded : descendants.length ≤ limits.descendants
  complete : descendants.length < limits.descendants → ∀ depth item,
    Below db viewer root depth item → limits.descendantsDepth.all (depth ≤ ·) = true →
      item ∈ descendants

def IsTree (db : Db) (root : StatusContextItem) (viewer : Option AccountId)
    (limits : StatusContextLimits) : Prop :=
  ∃ descendants, statusDescendants db root viewer limits = some descendants ∧
    ThreadCorrect db root viewer limits (statusAncestors db root viewer limits) descendants

def Returns (db : Db) (viewer : Option AccountId) (root : StatusContextItem) : Prop :=
  Relation.TransGen (VisibleParent db viewer) root root

/-!
## Statuses and replies
-/

section

variable {db : Db} {viewer : Option AccountId} {item : StatusContextItem}
  {reference : StatusReference}

private theorem findStatusContextParent_eq_some_iff (threaded : db.Threaded) :
    findStatusContextParent db reference = some item ↔ item.reference = reference ∧ Live db item := by
  have named : ∀ {found : StatusContextItem}, findStatusContextParent db reference = some found →
      found.reference = reference := by
    intro found success
    cases reference with
    | localStatus id =>
        obtain ⟨status, located, rfl⟩ := Option.map_eq_some_iff.mp success
        have same := ((findLocalStatusById_eq_some_iff threaded.toKeyed).mp located).2.1
        rw [← same]
        rfl
    | remoteStatus id =>
        obtain ⟨status, located, rfl⟩ := Option.map_eq_some_iff.mp success
        have same := ((findRemoteStatusById_eq_some_iff threaded.toKeyed).mp located).2.1
        rw [← same]
        rfl
  constructor
  · intro success
    refine ⟨named success, ?_⟩
    rw [Live, named success]
    exact success
  · intro ⟨same, live⟩
    rw [← same]
    exact live

private theorem live_localItem_iff (threaded : db.Threaded) {status : LocalStatus} :
    Live db (.localItem status) ↔ status ∈ db.localStatuses ∧ status.deletedAt = none := by
  simp [Live, StatusContextItem.reference, findStatusContextParent,
    findLocalStatusById_eq_some_iff threaded.toKeyed]

private theorem live_remoteItem_iff (threaded : db.Threaded) {status : RemoteStatus} :
    Live db (.remoteItem status) ↔ status ∈ db.remoteStatuses ∧ status.deletedAt = none := by
  simp [Live, StatusContextItem.reference, findStatusContextParent,
    findRemoteStatusById_eq_some_iff threaded.toKeyed]

private theorem Live.eq {other : StatusContextItem} (live : Live db item) (otherLive : Live db other)
    (same : item.reference = other.reference) : item = other := by
  rw [Live, same, otherLive] at live
  exact (Option.some.inj live).symm

private theorem LocalStatus.repliesTo_iff {status : LocalStatus}
    (single : status.inReplyToId = none ∨ status.inReplyToRemoteStatusId = none) :
    status.repliesTo reference = true ↔
      statusContextParent (.localItem status) = some reference := by
  cases reference with
  | localStatus id =>
      cases given : status.inReplyToId with
      | none => simp [LocalStatus.repliesTo, statusContextParent, given]
      | some parent => simp [LocalStatus.repliesTo, statusContextParent, given]
  | remoteStatus id =>
      cases given : status.inReplyToId with
      | none => simp [LocalStatus.repliesTo, statusContextParent, given]
      | some parent =>
          have absent : status.inReplyToRemoteStatusId = none := by simpa [given] using single
          simp [LocalStatus.repliesTo, statusContextParent, given, absent]

private theorem RemoteStatus.repliesTo_iff {status : RemoteStatus}
    (single : status.inReplyToLocalStatusId = none ∨ status.inReplyToRemoteStatusId = none) :
    status.repliesTo reference = true ↔
      statusContextParent (.remoteItem status) = some reference := by
  cases reference with
  | localStatus id =>
      cases given : status.inReplyToLocalStatusId with
      | none => simp [RemoteStatus.repliesTo, statusContextParent, given]
      | some parent => simp [RemoteStatus.repliesTo, statusContextParent, given]
  | remoteStatus id =>
      cases given : status.inReplyToLocalStatusId with
      | none => simp [RemoteStatus.repliesTo, statusContextParent, given]
      | some parent =>
          have absent : status.inReplyToRemoteStatusId = none := by simpa [given] using single
          simp [RemoteStatus.repliesTo, statusContextParent, given, absent]

private theorem mem_statusContextReplies (threaded : db.Threaded) :
    item ∈ statusContextReplies db reference ↔
      Live db item ∧ statusContextParent item = some reference := by
  rw [statusContextReplies, List.mem_insertionSort, List.mem_append, List.mem_map, List.mem_map]
  cases item with
  | localItem status =>
      rw [live_localItem_iff threaded]
      simp only [List.mem_filter, Bool.and_eq_true, Option.isNone_iff_eq_none,
        StatusContextItem.localItem.injEq, exists_eq_right, reduceCtorEq, and_false, exists_false,
        or_false]
      constructor
      · intro ⟨member, replies, live⟩
        exact ⟨⟨member, live⟩, (LocalStatus.repliesTo_iff (threaded.localParent _ member)).mp replies⟩
      · intro ⟨⟨member, live⟩, parent⟩
        exact ⟨member, (LocalStatus.repliesTo_iff (threaded.localParent _ member)).mpr parent, live⟩
  | remoteItem status =>
      rw [live_remoteItem_iff threaded]
      simp only [List.mem_filter, Bool.and_eq_true, Option.isNone_iff_eq_none,
        StatusContextItem.remoteItem.injEq, exists_eq_right, reduceCtorEq, and_false, exists_false,
        false_or]
      constructor
      · intro ⟨member, replies, live⟩
        exact ⟨⟨member, live⟩,
          (RemoteStatus.repliesTo_iff (threaded.remoteParent _ member)).mp replies⟩
      · intro ⟨⟨member, live⟩, parent⟩
        exact ⟨member, (RemoteStatus.repliesTo_iff (threaded.remoteParent _ member)).mpr parent,
          live⟩

private theorem statusContextReplies_nodup (threaded : db.Threaded) (reference : StatusReference) :
    ((statusContextReplies db reference).map StatusContextItem.reference).Nodup := by
  have rows : (statusContextReplies db reference).Nodup := by
    refine (List.perm_insertionSort _ _).nodup_iff.mpr (List.nodup_append.mpr ⟨?_, ?_, ?_⟩)
    · refine List.Nodup.map (fun _ _ same => by cases same; rfl) ?_
      exact (threaded.localStatuses.of_map _).filter _
    · refine List.Nodup.map (fun _ _ same => by cases same; rfl) ?_
      exact (threaded.remoteStatuses.of_map _).filter _
    · intro first left second right same
      obtain ⟨_, _, rfl⟩ := List.mem_map.mp left
      obtain ⟨_, _, rfl⟩ := List.mem_map.mp right
      cases same
  refine rows.map_on ?_
  intro first left second right same
  exact ((mem_statusContextReplies threaded).mp left).1.eq
    ((mem_statusContextReplies threaded).mp right).1 same

end

/-!
## Ancestors
-/

section

variable {db : Db} {viewer : Option AccountId} {child : StatusContextItem}
  {seen : List StatusReference} {remaining : Nat}

/-- What the walk upwards from a status collects, besides the references seen before. -/
private structure Walked (db : Db) (viewer : Option AccountId) (child : StatusContextItem)
    (seen : List StatusReference) (remaining : Nat) (walk : List StatusContextItem) : Prop where
  chain : ParentChain db viewer child walk
  bounded : walk.length ≤ remaining
  distinct : (walk.map StatusContextItem.reference).Nodup
  unseen : ∀ item ∈ walk, item.reference ∉ seen
  stopped : walk.length < remaining → ∀ parent,
    VisibleParent db viewer (walk.getLastD child) parent →
      parent.reference ∈ seen ∨ parent ∈ walk

private theorem Walked.nil (blocked : 0 < remaining → ∀ parent, VisibleParent db viewer child parent →
    parent.reference ∈ seen) : Walked db viewer child seen remaining [] where
  chain := .nil child
  bounded := Nat.zero_le _
  distinct := List.nodup_nil
  unseen := by simp
  stopped := fun short parent visible => .inl (blocked short parent visible)

private theorem Walked.cons {parent : StatusContextItem} {walk : List StatusContextItem}
    (here : VisibleParent db viewer child parent) (fresh : parent.reference ∉ seen)
    (walked : Walked db viewer parent (parent.reference :: seen) remaining walk) :
    Walked db viewer child seen (remaining + 1) (parent :: walk) where
  chain := .cons here walked.chain
  bounded := Nat.succ_le_succ walked.bounded
  distinct := by
    rw [List.map_cons, List.nodup_cons]
    refine ⟨?_, walked.distinct⟩
    intro again
    obtain ⟨item, member, same⟩ := List.mem_map.mp again
    exact walked.unseen item member (same ▸ List.mem_cons_self)
  unseen := by
    intro item member
    rcases List.mem_cons.mp member with rfl | later
    · exact fresh
    · exact fun old => walked.unseen item later (List.mem_cons_of_mem _ old)
  stopped := by
    intro short other visible
    rw [List.getLastD_cons] at visible
    rcases walked.stopped (Nat.lt_of_succ_lt_succ short) other visible with old | later
    · rcases List.mem_cons.mp old with same | old
      · have own := here.2.1.eq visible.2.1 same.symm
        exact .inr (own ▸ List.mem_cons_self)
      · exact .inl old
    · exact .inr (List.mem_cons_of_mem _ later)

private theorem collectAncestors_walked (threaded : db.Threaded) :
    Walked db viewer child seen remaining
      (collectAncestors db viewer remaining seen (statusContextParent child)) := by
  induction remaining generalizing seen child with
  | zero => exact .nil (fun short => absurd short (Nat.lt_irrefl 0))
  | succ remaining ih =>
      cases named : statusContextParent child with
      | none =>
          refine .nil ?_
          intro _ parent visible
          have absent := visible.1
          rw [named] at absent
          cases absent
      | some parentId =>
          -- a visible parent is the one that is looked up
          have parentOf : ∀ parent, VisibleParent db viewer child parent →
              parent.reference = parentId ∧ findStatusContextParent db parentId = some parent := by
            intro parent visible
            have same : parentId = parent.reference := by
              have given := visible.1
              rw [named] at given
              exact Option.some.inj given
            exact ⟨same.symm, (findStatusContextParent_eq_some_iff threaded).mpr
              ⟨same.symm, visible.2.1⟩⟩
          unfold collectAncestors
          split
          next known =>
            refine .nil ?_
            intro _ parent visible
            rw [(parentOf parent visible).1]
            simpa using known
          next fresh =>
            split
            next missing =>
              refine .nil ?_
              intro _ parent visible
              rw [(parentOf parent visible).2] at missing
              cases missing
            next parent found =>
              obtain ⟨same, live⟩ := (findStatusContextParent_eq_some_iff threaded).mp found
              split
              next shown =>
                rw [← same]
                refine .cons ⟨by rw [named, same], live, shown⟩ ?_ ih
                rw [same]
                simpa using fresh
              next hidden =>
                refine .nil ?_
                intro _ other visible
                have found' := (parentOf other visible).2
                rw [found] at found'
                cases found'
                exact absurd visible.2.2 hidden

private theorem ParentChain.reaches {walk : List StatusContextItem}
    (chain : ParentChain db viewer child walk) {item : StatusContextItem} (member : item ∈ walk) :
    Relation.TransGen (VisibleParent db viewer) child item := by
  induction chain with
  | nil => cases member
  | cons here _ ih =>
      rcases List.mem_cons.mp member with rfl | later
      · exact .single here
      · exact .head here (ih later)

private theorem ParentChain.visible {walk : List StatusContextItem}
    (chain : ParentChain db viewer child walk) {item : StatusContextItem} (member : item ∈ walk) :
    Live db item ∧ statusContextItemVisible db viewer item = true := by
  induction chain with
  | nil => cases member
  | cons here _ ih =>
      rcases List.mem_cons.mp member with rfl | later
      · exact here.2
      · exact ih later

private theorem VisibleParent.unique {first second : StatusContextItem}
    (left : VisibleParent db viewer child first) (right : VisibleParent db viewer child second) :
    first = second := by
  have same := left.1.symm.trans right.1
  exact left.2.1.eq right.2.1 (Option.some.inj same)

private theorem ParentChain.closed {walk whole : List StatusContextItem}
    (chain : ParentChain db viewer child walk) {item parent : StatusContextItem}
    (inside : ∀ item ∈ walk, item ∈ whole)
    (stopped : ∀ parent, VisibleParent db viewer (walk.getLastD child) parent → parent ∈ whole)
    (member : item = child ∨ item ∈ walk) (visible : VisibleParent db viewer item parent) :
    parent ∈ whole := by
  induction chain with
  | nil child =>
      rcases member with rfl | member
      · exact stopped parent visible
      · cases member
  | @cons child first rest here above ih =>
      rw [List.getLastD_cons] at stopped
      have later := ih (fun item member => inside item (List.mem_cons_of_mem _ member)) stopped
      rcases member with rfl | member
      · rw [visible.unique here]
        exact inside first List.mem_cons_self
      · exact later (List.mem_cons.mp member)

private theorem Walked.reached {walk : List StatusContextItem} {item : StatusContextItem}
    (walked : Walked db viewer child [] remaining walk) (short : walk.length < remaining)
    (reaches : Relation.TransGen (VisibleParent db viewer) child item) : item ∈ walk := by
  have stopped : ∀ parent, VisibleParent db viewer (walk.getLastD child) parent →
      parent ∈ walk := by
    intro parent visible
    rcases walked.stopped short parent visible with old | member
    · cases old
    · exact member
  induction reaches with
  | single here => exact walked.chain.closed (fun _ => id) stopped (.inl rfl) here
  | tail _ here member => exact walked.chain.closed (fun _ => id) stopped (.inr member) here

end

/-!
## Descendants
-/

section

variable {db : Db} {viewer : Option AccountId} {root : StatusContextItem}
  {limits : StatusContextLimits}

private theorem Below.shown {depth : Nat} {item : StatusContextItem}
    (below : Below db viewer root depth item) :
    Live db item ∧ statusContextItemVisible db viewer item = true := by
  cases below with
  | reply live _ visible => exact ⟨live, visible⟩
  | deeper _ live _ visible => exact ⟨live, visible⟩

private theorem Below.reaches {depth : Nat} {item : StatusContextItem}
    (below : Below db viewer root depth item) (live : Live db root)
    (visible : statusContextItemVisible db viewer root = true) :
    Relation.TransGen (VisibleParent db viewer) item root := by
  induction below with
  | reply _ parent _ => exact .single ⟨parent, live, visible⟩
  | deeper below _ parent _ ih => exact .head ⟨parent, below.shown⟩ ih

private theorem Below.depth_eq {depth other : Nat} {item : StatusContextItem} (live : Live db root)
    (apart : ∀ depth, ¬Below db viewer root depth root) (below : Below db viewer root depth item)
    (again : Below db viewer root other item) : depth = other := by
  induction below generalizing other with
  | reply _ parent _ =>
      cases again with
      | reply => rfl
      | @deeper depth above _ below _ parent' _ =>
          have same := below.shown.1.eq live (Option.some.inj (parent'.symm.trans parent))
          exact absurd (same ▸ below) (apart depth)
  | @deeper depth above _ below _ parent _ ih =>
      cases again with
      | reply _ parent' _ =>
          have same := below.shown.1.eq live (Option.some.inj (parent.symm.trans parent'))
          exact absurd (same ▸ below) (apart depth)
      | @deeper depth' above' _ below' _ parent' _ =>
          have same := below'.shown.1.eq below.shown.1 (Option.some.inj (parent'.symm.trans parent))
          rw [ih (same ▸ below')]

private def Labelled (db : Db) (viewer : Option AccountId) (root : StatusContextItem)
    (descendants : List StatusContextItem) (entry : StatusReference × Nat) : Prop :=
  entry = (root.reference, 0) ∨
    ∃ item ∈ descendants, item.reference = entry.1 ∧ Below db viewer root entry.2 item

/-- The state of the walk downwards: the references seen and queued are those of the root
and its descendants so far. -/
private structure Descended (db : Db) (viewer : Option AccountId) (root : StatusContextItem)
    (limits : StatusContextLimits) (seen : List StatusReference) (descent : Descent) : Prop where
  cover : (seen ++ descent.queue.map Prod.fst).Perm
    (root.reference :: descent.descendants.map StatusContextItem.reference)
  distinct : (root.reference :: descent.descendants.map StatusContextItem.reference).Nodup
  below : ∀ item ∈ descent.descendants, ∃ depth, Below db viewer root depth item
  rooted : root.reference ∈ seen ∨ descent.queue.head? = some (root.reference, 0)
  labelled : ∀ entry ∈ descent.queue, Labelled db viewer root descent.descendants entry
  parents : ∀ item ∈ descent.descendants, ∃ reference ∈ seen,
    statusContextParent item = some reference
  afterParent : ∀ before item after, descent.descendants = before ++ item :: after →
    ∃ parent ∈ root :: before, statusContextParent item = some parent.reference
  bounded : descent.descendants.length ≤ limits.descendants

/-- The replies of the references seen are collected, unless they are too deep. -/
private def Expanded (db : Db) (viewer : Option AccountId) (root : StatusContextItem)
    (limits : StatusContextLimits) (seen : List StatusReference)
    (descendants : List StatusContextItem) : Prop :=
  ∀ reference ∈ seen, ∃ depth, Labelled db viewer root descendants (reference, depth) ∧
    (limits.descendantsDepth.any (· ≤ depth) = true ∨
      ∀ reply ∈ statusContextReplies db reference, statusContextItemVisible db viewer reply = true →
        reply.reference ≠ root.reference → reply ∈ descendants)

private theorem collectReplies_adds (db : Db) (viewer : Option AccountId)
    (seen : List StatusReference) (depth : Nat)
    (replies : List StatusContextItem) (descent : Descent)
    (bounded : descent.descendants.length ≤ limits.descendants) :
    ∃ added left, (replies.filter fun reply =>
        !seen.contains reply.reference && statusContextItemVisible db viewer reply) = added ++ left ∧
      (collectReplies db viewer limits seen depth replies descent).1 =
        ⟨descent.queue ++ added.map fun reply => (reply.reference, depth + 1),
          descent.descendants ++ added⟩ ∧
      (descent.descendants ++ added).length ≤ limits.descendants ∧
      ((collectReplies db viewer limits seen depth replies descent).2 = false → left = []) ∧
      ((collectReplies db viewer limits seen depth replies descent).2 = true →
        limits.descendants ≤ (descent.descendants ++ added).length) := by
  induction replies generalizing descent with
  | nil => exact ⟨[], [], by simp [collectReplies, bounded]⟩
  | cons reply replies ih =>
      unfold collectReplies
      by_cases full : limits.descendants ≤ descent.descendants.length
      · rw [if_pos full]
        exact ⟨[], _, rfl, by simp, by simpa using bounded, by simp, by simpa using full⟩
      · rw [if_neg full]
        by_cases skipped : (seen.contains reply.reference ||
            !statusContextItemVisible db viewer reply) = true
        · rw [if_pos skipped]
          obtain ⟨added, left, split, rest⟩ := ih descent bounded
          refine ⟨added, left, ?_, rest⟩
          have unkept : ¬(!seen.contains reply.reference &&
              statusContextItemVisible db viewer reply) = true := by
            cases known : seen.contains reply.reference <;> simp_all
          rw [List.filter_cons, if_neg unkept]
          exact split
        · rw [if_neg skipped]
          have room : (descent.descendants ++ [reply]).length ≤ limits.descendants := by
            simp only [List.length_append, List.length_singleton]
            omega
          obtain ⟨added, left, split, result, length, finished, stopped⟩ :=
            ih ⟨descent.queue ++ [(reply.reference, depth + 1)], descent.descendants ++ [reply]⟩ room
          refine ⟨reply :: added, left, ?_, ?_, ?_, finished, ?_⟩
          · have kept : (!seen.contains reply.reference &&
                statusContextItemVisible db viewer reply) = true := by simpa using skipped
            rw [List.filter_cons, if_pos kept, split, List.cons_append]
          · rw [result]
            simp
          · simpa using length
          · simpa using stopped

namespace Descended

variable {seen : List StatusReference} {parentId : StatusReference} {depth : Nat}
  {queue : List (StatusReference × Nat)} {descendants : List StatusContextItem}

private theorem fresh (descended : Descended db viewer root limits seen
    ⟨(parentId, depth) :: queue, descendants⟩) : parentId ∉ seen := by
  have distinct := descended.cover.nodup_iff.mpr descended.distinct
  intro known
  exact (List.nodup_append.mp distinct).2.2 _ known _ List.mem_cons_self rfl

private theorem cover_next (descended : Descended db viewer root limits seen
    ⟨(parentId, depth) :: queue, descendants⟩) :
    (parentId :: seen ++ queue.map Prod.fst).Perm
      (root.reference :: descendants.map StatusContextItem.reference) :=
  List.perm_middle.symm.trans descended.cover

private theorem rooted_next (descended : Descended db viewer root limits seen
    ⟨(parentId, depth) :: queue, descendants⟩) : root.reference ∈ parentId :: seen := by
  rcases descended.rooted with known | first
  · exact List.mem_cons_of_mem _ known
  · have same : parentId = root.reference := by
      simp only [List.head?_cons, Option.some.injEq, Prod.mk.injEq] at first
      exact first.1
    rw [same]
    exact List.mem_cons_self

private theorem skip (descended : Descended db viewer root limits seen
    ⟨(parentId, depth) :: queue, descendants⟩) :
    Descended db viewer root limits (parentId :: seen) ⟨queue, descendants⟩ where
  cover := descended.cover_next
  distinct := descended.distinct
  below := descended.below
  rooted := .inl descended.rooted_next
  labelled := fun entry member => descended.labelled entry (List.mem_cons_of_mem _ member)
  parents := by
    intro item member
    obtain ⟨reference, known, parent⟩ := descended.parents item member
    exact ⟨reference, List.mem_cons_of_mem _ known, parent⟩
  afterParent := descended.afterParent
  bounded := descended.bounded

private theorem reply_below (threaded : db.Threaded) (descended : Descended db viewer root limits seen
    ⟨(parentId, depth) :: queue, descendants⟩) {reply : StatusContextItem}
    (member : reply ∈ statusContextReplies db parentId)
    (visible : statusContextItemVisible db viewer reply = true) :
    Below db viewer root (depth + 1) reply := by
  obtain ⟨live, parent⟩ := (mem_statusContextReplies threaded).mp member
  rcases descended.labelled _ List.mem_cons_self with first | ⟨above, _, same, below⟩
  · cases first
    exact .reply live parent visible
  · refine .deeper below live ?_ visible
    rw [same]
    exact parent

private theorem parent_collected (descended : Descended db viewer root limits seen
    ⟨(parentId, depth) :: queue, descendants⟩) :
    ∃ parent ∈ root :: descendants, parent.reference = parentId := by
  rcases descended.labelled _ List.mem_cons_self with first | ⟨above, member, same, _⟩
  · cases first
    exact ⟨root, List.mem_cons_self, rfl⟩
  · exact ⟨above, List.mem_cons_of_mem _ member, same⟩

private theorem reply_new (threaded : db.Threaded) (descended : Descended db viewer root limits seen
    ⟨(parentId, depth) :: queue, descendants⟩) {reply : StatusContextItem}
    (member : reply ∈ statusContextReplies db parentId)
    (unseen : reply.reference ∉ parentId :: seen) :
    reply.reference ∉ root.reference :: descendants.map StatusContextItem.reference := by
  obtain ⟨live, parent⟩ := (mem_statusContextReplies threaded).mp member
  intro old
  rcases List.mem_cons.mp old with same | old
  · exact unseen (same ▸ descended.rooted_next)
  · obtain ⟨item, collected, same⟩ := List.mem_map.mp old
    obtain ⟨_, below⟩ := descended.below item collected
    -- a status collected before has its parent among those seen
    obtain ⟨reference, known, parent'⟩ := descended.parents item collected
    have equal := below.shown.1.eq live same
    rw [equal, parent] at parent'
    cases parent'
    exact descended.fresh known

private theorem collect (threaded : db.Threaded) (descended : Descended db viewer root limits seen
    ⟨(parentId, depth) :: queue, descendants⟩) {added left : List StatusContextItem}
    (kept : ((statusContextReplies db parentId).filter fun reply =>
      !(parentId :: seen).contains reply.reference && statusContextItemVisible db viewer reply) =
        added ++ left)
    (bounded : (descendants ++ added).length ≤ limits.descendants) :
    Descended db viewer root limits (parentId :: seen)
      ⟨queue ++ added.map fun reply => (reply.reference, depth + 1), descendants ++ added⟩ := by
  have replies : ∀ reply ∈ added, reply ∈ statusContextReplies db parentId ∧
      reply.reference ∉ parentId :: seen ∧ statusContextItemVisible db viewer reply = true := by
    intro reply member
    have filtered := kept ▸ List.mem_append_left left member
    rw [List.mem_filter, Bool.and_eq_true, Bool.not_eq_true', ← Bool.not_eq_true,
      List.contains_iff_mem] at filtered
    exact ⟨filtered.1, filtered.2⟩
  have addedDistinct : (added.map StatusContextItem.reference).Nodup := by
    have sublist : added.Sublist (statusContextReplies db parentId) :=
      (kept ▸ List.sublist_append_left added left).trans List.filter_sublist
    exact (sublist.map _).nodup (statusContextReplies_nodup threaded parentId)
  refine ⟨?cover, ?distinct, ?below, .inl descended.rooted_next, ?labelled, ?parents, ?afterParent,
    bounded⟩
  case cover =>
    have names : (added.map fun reply => (reply.reference, depth + 1)).map Prod.fst =
        added.map StatusContextItem.reference := by simp
    simp only [List.map_append, names]
    rw [← List.append_assoc, ← List.cons_append]
    exact descended.cover_next.append_right _
  case distinct =>
    simp only [List.map_append]
    rw [← List.cons_append, List.nodup_append]
    refine ⟨descended.distinct, addedDistinct, ?_⟩
    intro old collected new member same
    obtain ⟨reply, addedReply, rfl⟩ := List.mem_map.mp member
    obtain ⟨reply', unseen, _⟩ := replies reply addedReply
    exact descended.reply_new threaded reply' unseen (same ▸ collected)
  case below =>
    intro item member
    rcases List.mem_append.mp member with old | new
    · exact descended.below item old
    · obtain ⟨reply, _, visible⟩ := replies item new
      exact ⟨depth + 1, descended.reply_below threaded reply visible⟩
  case labelled =>
    intro entry member
    rcases List.mem_append.mp member with old | new
    · rcases descended.labelled entry (List.mem_cons_of_mem _ old) with first | ⟨item, collected, rest⟩
      · exact .inl first
      · exact .inr ⟨item, List.mem_append_left _ collected, rest⟩
    · obtain ⟨item, addedItem, rfl⟩ := List.mem_map.mp new
      obtain ⟨reply, _, visible⟩ := replies item addedItem
      exact .inr ⟨item, List.mem_append_right _ addedItem, rfl,
        descended.reply_below threaded reply visible⟩
  case parents =>
    intro item member
    rcases List.mem_append.mp member with old | new
    · obtain ⟨reference, known, parent⟩ := descended.parents item old
      exact ⟨reference, List.mem_cons_of_mem _ known, parent⟩
    · obtain ⟨reply, _, _⟩ := replies item new
      exact ⟨parentId, List.mem_cons_self, ((mem_statusContextReplies threaded).mp reply).2⟩
  case afterParent =>
    intro before item after whole
    rcases List.append_eq_append_iff.mp whole with ⟨middle, rfl, later⟩ | ⟨middle, rfl, later⟩
    · -- the status is one of those added, after everything collected before
      have addedItem : item ∈ added := later ▸ List.mem_append_right _ List.mem_cons_self
      obtain ⟨reply, _, _⟩ := replies item addedItem
      obtain ⟨parent, collected, same⟩ := descended.parent_collected
      refine ⟨parent, ?_, ?_⟩
      · rw [← List.cons_append]
        exact List.mem_append_left _ collected
      · rw [same]
        exact ((mem_statusContextReplies threaded).mp reply).2
    · cases middle with
      | nil =>
          have addedItem : item ∈ added := by
            rw [List.nil_append] at later
            exact later ▸ List.mem_cons_self
          obtain ⟨reply, _, _⟩ := replies item addedItem
          obtain ⟨parent, collected, same⟩ := descended.parent_collected
          refine ⟨parent, by simpa using collected, ?_⟩
          rw [same]
          exact ((mem_statusContextReplies threaded).mp reply).2
      | cons first middle =>
          cases later
          exact descended.afterParent before item middle rfl

end Descended

private theorem Expanded.append {seen : List StatusReference}
    {descendants : List StatusContextItem} (added : List StatusContextItem)
    (expanded : Expanded db viewer root limits seen descendants) :
    Expanded db viewer root limits seen (descendants ++ added) := by
  intro reference member
  obtain ⟨depth, label, covered⟩ := expanded reference member
  refine ⟨depth, ?_, covered.imp_right ?_⟩
  · rcases label with first | ⟨item, collected, rest⟩
    · exact .inl first
    · exact .inr ⟨item, List.mem_append_left _ collected, rest⟩
  · intro all reply given visible other
    exact List.mem_append_left _ (all reply given visible other)

private theorem Expanded.cons (depth : Nat) {seen : List StatusReference}
    {parentId : StatusReference} {descendants : List StatusContextItem}
    (expanded : Expanded db viewer root limits seen descendants)
    (label : Labelled db viewer root descendants (parentId, depth))
    (covered : limits.descendantsDepth.any (· ≤ depth) = true ∨
      ∀ reply ∈ statusContextReplies db parentId, statusContextItemVisible db viewer reply = true →
        reply.reference ≠ root.reference → reply ∈ descendants) :
    Expanded db viewer root limits (parentId :: seen) descendants := by
  intro reference member
  rcases List.mem_cons.mp member with rfl | later
  · exact ⟨depth, label, covered⟩
  · exact expanded reference later

private theorem Descended.collect_expanded (threaded : db.Threaded) {seen : List StatusReference}
    {parentId : StatusReference} {depth : Nat} {queue : List (StatusReference × Nat)}
    {descendants added : List StatusContextItem}
    (descended : Descended db viewer root limits seen ⟨(parentId, depth) :: queue, descendants⟩)
    (expanded : Expanded db viewer root limits seen descendants)
    (kept : ((statusContextReplies db parentId).filter fun reply =>
      !(parentId :: seen).contains reply.reference && statusContextItemVisible db viewer reply) =
        added) :
    Expanded db viewer root limits (parentId :: seen) (descendants ++ added) := by
  refine (expanded.append added).cons depth ?_ (.inr ?_)
  · rcases descended.labelled _ List.mem_cons_self with first | ⟨item, collected, rest⟩
    · exact .inl first
    · exact .inr ⟨item, List.mem_append_left _ collected, rest⟩
  · intro reply given visible other
    by_cases known : reply.reference ∈ parentId :: seen
    · -- a reply that was seen is one of the descendants
      have old := descended.cover_next.subset (List.mem_append_left _ known)
      rcases List.mem_cons.mp old with same | old
      · exact absurd same other
      · obtain ⟨item, collected, same⟩ := List.mem_map.mp old
        obtain ⟨_, below⟩ := descended.below item collected
        have equal := below.shown.1.eq ((mem_statusContextReplies threaded).mp given).1 same
        exact List.mem_append_left _ (equal ▸ collected)
    · refine List.mem_append_right _ ?_
      rw [← kept, List.mem_filter, Bool.and_eq_true, Bool.not_eq_true', ← Bool.not_eq_true,
        List.contains_iff_mem]
      exact ⟨given, known, visible⟩

private theorem collectDescendants_ends (threaded : db.Threaded) {rounds : Nat}
    {seen : List StatusReference} {descent : Descent}
    (descended : Descended db viewer root limits seen descent)
    (expanded : Expanded db viewer root limits seen descent.descendants)
    (enough : limits.descendants + 1 ≤ rounds + seen.length) :
    ∃ descendants seen' queue,
      collectDescendants db viewer limits rounds seen descent = some descendants ∧
      Descended db viewer root limits seen' ⟨queue, descendants⟩ ∧
      (limits.descendants ≤ descendants.length ∨
        queue = [] ∧ Expanded db viewer root limits seen' descendants) := by
  induction rounds generalizing seen descent with
  | zero =>
      obtain ⟨queue, descendants⟩ := descent
      cases queue with
      | nil =>
          exact ⟨descendants, seen, [], by simp [collectDescendants], descended, .inr ⟨rfl, expanded⟩⟩
      | cons entry queue =>
          -- every reference seen or queued is the root or a descendant
          have counted := descended.cover.length_eq
          have bounded := descended.bounded
          simp only [List.length_append, List.length_map, List.length_cons] at counted bounded
          omega
  | succ rounds ih =>
      obtain ⟨queue, descendants⟩ := descent
      cases queue with
      | nil =>
          exact ⟨descendants, seen, [], by simp [collectDescendants], descended, .inr ⟨rfl, expanded⟩⟩
      | cons entry queue =>
          obtain ⟨parentId, depth⟩ := entry
          have more : limits.descendants + 1 ≤ rounds + (parentId :: seen).length := by
            simp only [List.length_cons]
            omega
          have label := descended.labelled _ List.mem_cons_self
          have unknown : ¬seen.contains parentId = true := by
            simpa using descended.fresh
          unfold collectDescendants
          simp only
          rw [if_neg unknown]
          split
          next deep => exact ih descended.skip (expanded.cons depth label (.inl deep)) more
          next shallow =>
            obtain ⟨added, left, kept, result, bounded, finished, stopped⟩ :=
              collectReplies_adds db viewer (parentId :: seen) depth
                (statusContextReplies db parentId) ⟨queue, descendants⟩ descended.bounded
            have next := descended.collect threaded kept bounded
            split
            next descent collected =>
              rw [collected] at result stopped
              subst result
              exact ⟨_, _, _, rfl, next, .inl (stopped rfl)⟩
            next descent collected =>
              rw [collected] at result finished
              subst result
              refine ih next (descended.collect_expanded threaded expanded ?_) more
              rw [kept, finished rfl, List.append_nil]

private theorem statusDescendants_ends (threaded : db.Threaded) (root : StatusContextItem)
    (viewer : Option AccountId) (limits : StatusContextLimits) :
    ∃ descendants seen queue, statusDescendants db root viewer limits = some descendants ∧
      Descended db viewer root limits seen ⟨queue, descendants⟩ ∧
      (limits.descendants ≤ descendants.length ∨
        queue = [] ∧ Expanded db viewer root limits seen descendants) := by
  have start : Descended db viewer root limits [] ⟨[(root.reference, 0)], []⟩ :=
    { cover := .refl _
      distinct := List.nodup_singleton _
      below := by simp
      rooted := .inr rfl
      labelled := fun entry member => .inl (List.mem_singleton.mp member)
      parents := by simp
      afterParent := by simp
      bounded := Nat.zero_le _ }
  exact collectDescendants_ends threaded start (by intro _ none; cases none) (Nat.le_refl _)

private theorem Descended.complete (threaded : db.Threaded) {seen : List StatusReference}
    {descendants : List StatusContextItem} (live : Live db root)
    (apart : ∀ depth, ¬Below db viewer root depth root)
    (descended : Descended db viewer root limits seen ⟨[], descendants⟩)
    (expanded : Expanded db viewer root limits seen descendants) {depth : Nat}
    {item : StatusContextItem} (below : Below db viewer root depth item)
    (within : limits.descendantsDepth.all (depth ≤ ·) = true) : item ∈ descendants := by
  have known : ∀ {reference}, reference ∈
      root.reference :: descendants.map StatusContextItem.reference → reference ∈ seen := by
    intro reference member
    simpa using descended.cover.symm.subset member
  have notRoot : ∀ {depth item}, Below db viewer root depth item →
      item.reference ≠ root.reference := by
    intro depth item below same
    have equal := below.shown.1.eq live same
    exact apart depth (equal ▸ below)
  induction below with
  | @reply item itemLive parent visible =>
      obtain ⟨depth, label, covered⟩ := expanded _ (known List.mem_cons_self)
      have top : depth = 0 := by
        rcases label with first | ⟨other, member, same, _⟩
        · cases first
          rfl
        · obtain ⟨_, below⟩ := descended.below other member
          exact absurd same (notRoot below)
      rcases covered with deep | all
      · subst top
        cases bound : limits.descendantsDepth <;> simp_all
      · exact all item ((mem_statusContextReplies threaded).mpr ⟨itemLive, parent⟩) visible
          (notRoot (.reply itemLive parent visible))
  | @deeper depth above item below itemLive parent visible ih =>
      have shallower : limits.descendantsDepth.all (depth ≤ ·) = true := by
        cases bound : limits.descendantsDepth with
        | none => rfl
        | some bound' =>
            rw [bound] at within
            simp only [Option.all_some, decide_eq_true_eq] at within ⊢
            omega
      have collected := ih shallower
      obtain ⟨depth', label, covered⟩ := expanded above.reference
        (known (List.mem_cons_of_mem _ (List.mem_map_of_mem collected)))
      have level : depth' = depth := by
        rcases label with first | ⟨other, _, same, below'⟩
        · exact absurd (Prod.mk.inj first).1 (notRoot below)
        · have equal := below'.shown.1.eq below.shown.1 same
          exact (equal ▸ below').depth_eq live apart below
      rcases covered with deep | all
      · subst level
        cases bound : limits.descendantsDepth with
        | none => simp [bound] at deep
        | some bound' =>
            simp only [bound, Option.any_some, Option.all_some, decide_eq_true_eq] at deep within
            omega
      · exact all item ((mem_statusContextReplies threaded).mpr ⟨itemLive, parent⟩) visible
          (notRoot (.deeper below itemLive parent visible))

end

/-!
## Threads
-/

section

variable {db : Db} {viewer : Option AccountId} {root : StatusContextItem}

private theorem Walked.length_le (threaded : db.Threaded) {child : StatusContextItem}
    {seen : List StatusReference} {remaining : Nat} {walk : List StatusContextItem}
    (walked : Walked db viewer child seen remaining walk) :
    walk.length ≤ db.localStatuses.length + db.remoteStatuses.length := by
  have rows : ∀ item ∈ walk, item ∈ db.localStatuses.map StatusContextItem.localItem ++
      db.remoteStatuses.map StatusContextItem.remoteItem := by
    intro item member
    have live := (walked.chain.visible member).1
    cases item with
    | localItem status => simpa using ((live_localItem_iff threaded).mp live).1
    | remoteItem status => simpa using ((live_remoteItem_iff threaded).mp live).1
  have counted := (List.subperm_of_subset (walked.distinct.of_map _) rows).length_le
  simpa using counted

private theorem root_mem_statusAncestors (threaded : db.Threaded) (returns : Returns db viewer root) :
    root ∈ statusAncestors db root viewer
      ⟨db.localStatuses.length + db.remoteStatuses.length + 1, 0, none⟩ := by
  have walked : Walked db viewer root [] (db.localStatuses.length + db.remoteStatuses.length + 1) _ :=
    collectAncestors_walked threaded
  exact List.mem_reverse.mpr (walked.reached (Nat.lt_succ_of_le (walked.length_le threaded)) returns)

private theorem not_below_root (live : Live db root)
    (shown : statusContextItemVisible db viewer root = true) (tree : ¬Returns db viewer root)
    (depth : Nat) : ¬Below db viewer root depth root :=
  fun below => tree (below.reaches live shown)

private theorem isTree_of_not_returns (threaded : db.Threaded) (live : Live db root)
    (shown : statusContextItemVisible db viewer root = true) (tree : ¬Returns db viewer root)
    (limits : StatusContextLimits) : IsTree db root viewer limits := by
  obtain ⟨descendants, seen, queue, ends, descended, finished⟩ :=
    statusDescendants_ends threaded root viewer limits
  have walked : Walked db viewer root [] limits.ancestors _ := collectAncestors_walked threaded
  refine ⟨descendants, ends, ?_⟩
  unfold statusAncestors
  generalize collectAncestors db viewer limits.ancestors [] (statusContextParent root) = walk at walked
  refine
    { visible := ?visible
      distinct := ?distinct
      chain := by simpa using walked.chain
      ancestorsBounded := by simpa using walked.bounded
      maximal := ?maximal
      below := descended.below
      afterParent := descended.afterParent
      descendantsBounded := descended.bounded
      complete := ?complete }
  case visible =>
    intro item member
    rcases List.mem_append.mp member with above | below
    · exact (walked.chain.visible (List.mem_reverse.mp above)).2
    · obtain ⟨_, below⟩ := descended.below item below
      exact below.shown.2
  case distinct =>
    rw [List.map_append, ← List.perm_middle.nodup_iff, List.nodup_append]
    refine ⟨?_, descended.distinct, ?_⟩
    · rw [List.map_reverse, List.nodup_reverse]
      exact walked.distinct
    · intro first above second below same
      obtain ⟨ancestor, member, rfl⟩ := List.mem_map.mp above
      have member := List.mem_reverse.mp member
      have up := walked.chain.reaches member
      have seenAbove := (walked.chain.visible member).1
      rcases List.mem_cons.mp below with rfl | below
      · exact tree (seenAbove.eq live same ▸ up)
      · obtain ⟨item, collected, rfl⟩ := List.mem_map.mp below
        obtain ⟨_, below⟩ := descended.below item collected
        have equal := seenAbove.eq below.shown.1 same
        exact tree (up.trans (equal ▸ below.reaches live shown))
  case maximal =>
    intro short parent visible
    have short : walk.length < limits.ancestors := by simpa using short
    have last : (walk.reverse).headD root = walk.getLastD root := by
      rw [List.headD_eq_head?_getD, List.head?_reverse, List.getLastD_eq_getLast?]
    rw [last] at visible
    rcases walked.stopped short parent visible with old | member
    · cases old
    · exact List.mem_reverse.mpr member
  case complete =>
    intro few depth item below within
    rcases finished with full | ⟨rfl, expanded⟩
    · omega
    · exact descended.complete threaded live (not_below_root live shown tree) expanded below within

/-- Both walks end, and the thread is a tree for all limits where no chain of visible
parents leads from the status back to it. -/
theorem threads_are_trees_iff (threaded : db.Threaded) {statusId : StatusId}
    (found : findStatusContextItem db statusId = some root)
    (shown : statusContextItemVisible db viewer root = true) :
    (∃ descendants, visibleStatusThreadOn db statusId viewer = some (root,
        statusAncestors db root viewer (.forViewer viewer), some descendants) ∧
      statusDescendants db root viewer (.forViewer viewer) = some descendants) ∧
    (∀ limits, ∃ descendants, statusDescendants db root viewer limits = some descendants) ∧
    ((∀ limits, IsTree db root viewer limits) ↔ ¬Returns db viewer root) := by
  have ends : ∀ limits, ∃ descendants,
      statusDescendants db root viewer limits = some descendants := by
    intro limits
    obtain ⟨descendants, _, _, ends, _⟩ := statusDescendants_ends threaded root viewer limits
    exact ⟨descendants, ends⟩
  have live : Live db root := by
    rcases Option.or_eq_some_iff.mp found with isLocal | ⟨_, isRemote⟩
    · have named : findStatusContextParent db (.localStatus statusId) = some root := isLocal
      exact ((findStatusContextParent_eq_some_iff threaded).mp named).2
    · have named : findStatusContextParent db (.remoteStatus statusId) = some root := isRemote
      exact ((findStatusContextParent_eq_some_iff threaded).mp named).2
  refine ⟨?_, ends, ?_, fun tree limits => isTree_of_not_returns threaded live shown tree limits⟩
  · obtain ⟨descendants, result⟩ := ends (.forViewer viewer)
    refine ⟨descendants, ?_, result⟩
    simp [visibleStatusThreadOn, found, shown, result]
  · intro trees returns
    obtain ⟨descendants, _, correct⟩ := trees
      ⟨db.localStatuses.length + db.remoteStatuses.length + 1, 0, none⟩
    have distinct := (List.nodup_cons.mp correct.distinct).1
    refine distinct (List.mem_map_of_mem (List.mem_append_left _ ?_))
    exact root_mem_statusAncestors threaded returns

end

namespace ThreadSample

def account : LocalAccount := ⟨⟨1⟩, none⟩

def actor : RemoteActor := ⟨⟨2⟩, "remote.test", none, none, none⟩

def remoteNote (id : Nat) (parent : Option Nat) : RemoteStatus :=
  ⟨⟨id⟩, ⟨2⟩, .publicStatus, none, none, parent.map StatusId.mk, none⟩

/-- A remote note, a local reply to it, and a remote reply to that. -/
def tree : Db :=
  ⟨[account], [actor], [⟨⟨11⟩, ⟨1⟩, .publicStatus, none, some ⟨10⟩, none⟩],
    [remoteNote 10 none, ⟨⟨12⟩, ⟨2⟩, .unlisted, none, some ⟨11⟩, none, none⟩], [], [], [], [], [], [],
    fun _ => false⟩

def cycle : Db :=
  ⟨[], [actor], [], [remoteNote 10 (some 11), remoteNote 11 (some 10)], [], [], [], [], [], [],
    fun _ => false⟩

def reply : StatusContextItem := .localItem ⟨⟨11⟩, ⟨1⟩, .publicStatus, none, some ⟨10⟩, none⟩

def first : StatusContextItem := .remoteItem (remoteNote 10 (some 11))

def second : StatusContextItem := .remoteItem (remoteNote 11 (some 10))

theorem tree_threaded : tree.Threaded where
  localStatuses := by decide
  remoteStatuses := by decide
  localParent := by decide
  remoteParent := by decide

theorem cycle_threaded : cycle.Threaded where
  localStatuses := by decide
  remoteStatuses := by decide
  localParent := by decide
  remoteParent := by decide

theorem reply_not_returns : ¬Returns tree none reply := by
  intro returns
  obtain ⟨parent, here, above⟩ := Relation.TransGen.head'_iff.mp returns
  have top : parent = .remoteItem (remoteNote 10 none) := by
    have same := here.1
    have live := here.2.1
    rw [Live, ← Option.some.inj same] at live
    exact (Option.some.inj live).symm
  subst top
  rcases Relation.ReflTransGen.cases_head above with same | ⟨_, further, _⟩
  · cases same
  · cases further.1

end ThreadSample

open ThreadSample in
theorem threads_are_trees_sample :
    IsTree tree reply none ⟨40, 60, some 20⟩ ∧
      visibleStatusThreadOn tree ⟨11⟩ none = some (reply, [.remoteItem (remoteNote 10 none)],
        some [.remoteItem ⟨⟨12⟩, ⟨2⟩, .unlisted, none, some ⟨11⟩, none, none⟩]) := by
  have found : findStatusContextItem tree ⟨11⟩ = some reply := by decide
  have shown : statusContextItemVisible tree none reply = true := by decide
  obtain ⟨_, _, iff⟩ := threads_are_trees_iff tree_threaded found shown
  exact ⟨iff.mpr reply_not_returns _, by decide⟩

open ThreadSample in
/-- The status and its reply are its ancestors, and the reply is a descendant too. -/
theorem threads_are_not_trees :
    cycle.Threaded ∧
      visibleStatusThreadOn cycle ⟨10⟩ none = some (first, [first, second], some [second]) ∧
      ¬IsTree cycle first none (.forViewer none) := by
  refine ⟨cycle_threaded, by decide, ?_⟩
  intro ⟨descendants, ends, correct⟩
  have ancestors : statusAncestors cycle first none (.forViewer none) = [first, second] := by decide
  rw [ancestors] at correct
  have distinct := (List.nodup_cons.mp correct.distinct).1
  exact distinct (List.mem_map_of_mem List.mem_cons_self)

end Roosty.Timeline
