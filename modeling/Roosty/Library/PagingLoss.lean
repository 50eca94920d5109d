import Roosty.Library.PagingMerge

/-! Pages of a query that does not see all rows. A walk over them is complete exactly when,
at each page boundary of the complete list, the query sees the next page and sees that
there is more. -/

set_option autoImplicit false

namespace Roosty.Library.Paging

variable {Row Item : Type}

def shownPage (key : Row → Nat) (render : Row → Item) (limit : Nat) (rows : List Row) : Page Item :=
  let (rows, hasMore) := trimToPage (newestFirst key rows) limit
  ⟨rows.map render, rows.head?.map key, rows.getLast?.map key, hasMore⟩

variable {key : Row → Nat} {render : Row → Item} {rows seen : List Row} {limit : Nat}

@[simp] theorem shownPage_items (key : Row → Nat) (render : Row → Item) (limit : Nat)
    (rows : List Row) :
    (shownPage key render limit rows).items = ((newestFirst key rows).take limit).map render := by
  unfold shownPage
  rw [trimToPage_eq]

@[simp] theorem shownPage_hasMore (key : Row → Nat) (render : Row → Item) (limit : Nat)
    (rows : List Row) :
    (shownPage key render limit rows).hasMore = decide (limit < rows.length) := by
  unfold shownPage
  rw [trimToPage_eq, length_newestFirst]

@[simp] theorem shownPage_lastCursor (key : Row → Nat) (render : Row → Item) (limit : Nat)
    (rows : List Row) :
    (shownPage key render limit rows).lastCursor =
      ((newestFirst key rows).take limit).getLast?.map key := by
  unfold shownPage
  rw [trimToPage_eq]

/-- What a query must see of the rows that are left: the next page, and that there is more. -/
structure Sees (key : Row → Nat) (limit : Nat) (rows seen : List Row) : Prop where
  next : (newestFirst key rows).take limit ⊆ seen
  more : limit < rows.length → limit < seen.length

def remaining (key : Row → Nat) (rows : List Row) (cursor : Option Nat) : List Row :=
  rows.filter (before key cursor)

def boundary (key : Row → Nat) (limit : Nat) (rows : List Row) (cursor : Option Nat)
    (pages : Nat) : Option Nat :=
  (((newestFirst key (remaining key rows cursor)).take (pages * limit)).getLast?.map key).or cursor

theorem sees_nil : Sees key limit [] seen :=
  ⟨by simp [newestFirst], fun more => absurd more (Nat.not_lt_zero _)⟩

@[simp] theorem boundary_zero (cursor : Option Nat) : boundary key limit rows cursor 0 = cursor := by
  simp [boundary]

private theorem map_inj_on {left right : List Row} (leftIn : left ⊆ rows) (rightIn : right ⊆ rows)
    (injective : ∀ first ∈ rows, ∀ second ∈ rows, render first = render second → first = second)
    (same : left.map render = right.map render) : left = right := by
  induction left generalizing right with
  | nil => exact (List.map_eq_nil_iff.mp same.symm).symm
  | cons head tail ih =>
      cases right with
      | nil => cases same
      | cons other rest =>
          obtain ⟨sameHead, sameTail⟩ := List.cons.inj same
          rw [injective head (leftIn List.mem_cons_self) other (rightIn List.mem_cons_self) sameHead,
            ih (fun row member => leftIn (List.mem_cons_of_mem _ member))
              (fun row member => rightIn (List.mem_cons_of_mem _ member)) sameTail]

private theorem remaining_boundary (distinct : (rows.map key).Nodup) (cursor : Option Nat)
    (limit pages : Nat) :
    newestFirst key (remaining key rows (boundary key limit rows cursor pages)) =
      (newestFirst key (remaining key rows cursor)).drop (pages * limit) := by
  generalize sorted : newestFirst key (remaining key rows cursor) = left
  unfold boundary
  rw [sorted]
  cases last : (left.take (pages * limit)).getLast? with
  | none =>
      have none_taken := List.getLast?_eq_none_iff.mp last
      have whole := List.take_append_drop (pages * limit) left
      rw [none_taken, List.nil_append] at whole
      rw [whole]
      exact sorted
  | some row =>
      obtain ⟨front, taken⟩ := List.getLast?_eq_some_iff.mp last
      have split : newestFirst key (remaining key rows cursor) =
          front ++ row :: left.drop (pages * limit) := by
        rw [sorted]
        conv_lhs => rw [← List.take_append_drop (pages * limit) left, taken]
        rw [List.append_assoc, List.singleton_append]
      exact newestFirst_behind distinct split

private theorem boundary_succ (distinct : (rows.map key).Nodup) (cursor : Option Nat)
    (pages : Nat) :
    boundary key limit rows (boundary key limit rows cursor 1) pages =
      boundary key limit rows cursor (pages + 1) := by
  have behind := remaining_boundary distinct cursor limit 1
  unfold boundary at behind ⊢
  rw [behind, Nat.add_comm pages 1, Nat.add_mul, List.take_add, List.getLast?_append,
    Option.map_or, Option.or_assoc]

private theorem remaining_nil (distinct : (rows.map key).Nodup) {cursor : Option Nat}
    {pages : Nat} (beyond : (remaining key rows cursor).length ≤ pages * limit) :
    remaining key rows (boundary key limit rows cursor pages) = [] := by
  have behind := remaining_boundary distinct cursor limit pages
  rw [List.drop_of_length_le (by rw [length_newestFirst]; exact beyond)] at behind
  rw [← List.length_eq_zero_iff, ← length_newestFirst key, behind, List.length_nil]

theorem walk_stop {load : Option Nat → Page Item} {cursor : Option Nat}
    (last : (load cursor).hasMore = false) (rounds : Nat) :
    walk load (rounds + 1) cursor = some (load cursor).items := by
  unfold walk
  dsimp only
  rw [last, if_neg Bool.false_ne_true]

theorem walk_next {load : Option Nat → Page Item} {cursor : Option Nat}
    (more : (load cursor).hasMore = true) (rounds : Nat) :
    walk load (rounds + 1) cursor =
      (walk load rounds (load cursor).lastCursor).map ((load cursor).items ++ ·) := by
  conv_lhs => unfold walk
  dsimp only
  rw [more, if_pos rfl]

/-- A walk over pages that may fail. -/
def tryWalk {Error : Type} (load : Option Nat → Except Error (Page Item)) :
    Nat → Option Nat → Option (List Item)
  | 0, _ => none
  | rounds + 1, cursor =>
      match load cursor with
      | .error _ => none
      | .ok found =>
          if found.hasMore then (tryWalk load rounds found.lastCursor).map (found.items ++ ·)
          else some found.items

def TryWalked {Error : Type} (load : Option Nat → Except Error (Page Item)) (items : List Item) :
    Prop :=
  ∃ enough, ∀ rounds, enough ≤ rounds → tryWalk load rounds none = some items

section

variable {Error : Type} {load : Option Nat → Except Error (Page Item)}
  {plain : Option Nat → Page Item} {Served : Item → Prop}

/-- Where a page fails exactly on an item that cannot be served, a walk collects what it
would collect otherwise, if all of that can be served. -/
theorem tryWalk_eq_some_iff (loads : ∀ cursor found, load cursor = .ok found ↔
      (∀ item ∈ (plain cursor).items, Served item) ∧ found = plain cursor)
    {rounds : Nat} {cursor : Option Nat} {items : List Item} :
    tryWalk load rounds cursor = some items ↔
      walk plain rounds cursor = some items ∧ ∀ item ∈ items, Served item := by
  induction rounds generalizing cursor items with
  | zero => simp [tryWalk, walk]
  | succ rounds ih =>
      unfold tryWalk
      cases loaded : load cursor with
      | error error =>
          refine iff_of_false nofun ?_
          rintro ⟨walked, served⟩
          have shown : (plain cursor).items ⊆ items := by
            cases more : (plain cursor).hasMore with
            | false =>
                rw [walk_stop more] at walked
                cases walked
                exact List.Subset.refl _
            | true =>
                rw [walk_next more] at walked
                obtain ⟨rest, _, rfl⟩ := Option.map_eq_some_iff.mp walked
                exact List.subset_append_left _ rest
          have success := (loads cursor _).mpr ⟨fun item member => served item (shown member), rfl⟩
          rw [loaded] at success
          cases success
      | ok found =>
          obtain ⟨here, rfl⟩ := (loads cursor found).mp loaded
          dsimp only
          cases more : (plain cursor).hasMore with
          | false =>
              rw [walk_stop more, if_neg Bool.false_ne_true]
              constructor
              · intro same
                exact ⟨same, Option.some.inj same ▸ here⟩
              · exact And.left
          | true =>
              rw [walk_next more, if_pos rfl]
              simp only [Option.map_eq_some_iff, ih]
              constructor
              · rintro ⟨rest, ⟨walked, served⟩, rfl⟩
                exact ⟨⟨rest, walked, rfl⟩, List.forall_mem_append.mpr ⟨here, served⟩⟩
              · rintro ⟨⟨rest, walked, rfl⟩, served⟩
                exact ⟨rest, ⟨walked, (List.forall_mem_append.mp served).2⟩, rfl⟩

theorem tryWalked_iff (loads : ∀ cursor found, load cursor = .ok found ↔
      (∀ item ∈ (plain cursor).items, Served item) ∧ found = plain cursor) {items : List Item} :
    TryWalked load items ↔ Walked plain items ∧ ∀ item ∈ items, Served item := by
  unfold TryWalked Walked
  simp only [tryWalk_eq_some_iff loads]
  constructor
  · rintro ⟨enough, walked⟩
    exact ⟨⟨enough, fun rounds further => (walked rounds further).1⟩,
      (walked enough (Nat.le_refl _)).2⟩
  · rintro ⟨⟨enough, walked⟩, served⟩
    exact ⟨enough, fun rounds further => ⟨walked rounds further, served⟩⟩

end

private theorem take_newestFirst_iff (distinct : (rows.map key).Nodup)
    (once : (seen.map key).Nodup) (inside : seen ⊆ rows) (limit : Nat) :
    (newestFirst key seen).take limit = (newestFirst key rows).take limit ↔
      (newestFirst key rows).take limit ⊆ seen := by
  constructor
  · intro same row member
    rw [← same] at member
    exact mem_newestFirst.mp (List.mem_of_mem_take member)
  · exact take_newestFirst_of_subset distinct once inside

private theorem map_append_eq_some_iff {whole : List Row} {rest : Option (List Item)} :
    rest.map ((whole.take limit).map render ++ ·) = some (whole.map render) ↔
      rest = some ((whole.drop limit).map render) := by
  have split : whole.map render = (whole.take limit).map render ++ (whole.drop limit).map render := by
    rw [← List.map_append, List.take_append_drop]
  rw [split]
  exact (Option.map_injective (List.append_right_injective _)).eq_iff' rfl

/-- A walk lists all rows from a cursor on, newest first, exactly when the query sees enough
at every boundary. -/
theorem walk_shownPage_iff (distinct : (rows.map key).Nodup) (positive : 0 < limit)
    (injective : ∀ first ∈ rows, ∀ second ∈ rows, render first = render second → first = second)
    {seen : Option Nat → List Row} (inside : ∀ cursor, seen cursor ⊆ remaining key rows cursor)
    (once : ∀ cursor, ((seen cursor).map key).Nodup) {rounds : Nat} {cursor : Option Nat}
    (enough : (remaining key rows cursor).length < rounds) :
    walk (fun cursor => shownPage key render limit (seen cursor)) rounds cursor =
        some ((newestFirst key (remaining key rows cursor)).map render) ↔
      ∀ pages, Sees key limit (remaining key rows (boundary key limit rows cursor pages))
        (seen (boundary key limit rows cursor pages)) := by
  induction rounds generalizing cursor with
  | zero => cases enough
  | succ rounds ih =>
      have fewer : (seen cursor).length ≤ (remaining key rows cursor).length :=
        (List.subperm_of_subset ((once cursor).of_map key) (inside cursor)).length_le
      have leftIn : remaining key rows cursor ⊆ rows := List.filter_subset_self _
      have leftOnce : ((remaining key rows cursor).map key).Nodup :=
        (List.filter_sublist.map key).nodup distinct
      have size := length_newestFirst key (remaining key rows cursor)
      have first := take_newestFirst_iff leftOnce (once cursor) (inside cursor) limit
      -- two lists of rows that look the same are the same
      have same {shown left : List Row} (shownIn : shown ⊆ newestFirst key (seen cursor))
          (inLeft : left ⊆ newestFirst key (remaining key rows cursor))
          (looks : shown.map render = left.map render) : shown = left :=
        map_inj_on (fun row member => leftIn (inside cursor (mem_newestFirst.mp (shownIn member))))
          (fun row member => leftIn (mem_newestFirst.mp (inLeft member))) injective looks
      by_cases further : limit < (remaining key rows cursor).length
      · by_cases more : limit < (seen cursor).length
        · rw [walk_next (by rw [shownPage_hasMore, decide_eq_true more]), shownPage_items,
            shownPage_lastCursor]
          by_cases next : (newestFirst key (remaining key rows cursor)).take limit ⊆ seen cursor
          · have taken := first.mpr next
            have behind := remaining_boundary distinct cursor limit 1
            rw [Nat.one_mul] at behind
            have last : ((newestFirst key (seen cursor)).take limit).getLast?.map key =
                boundary key limit rows cursor 1 := by
              unfold boundary
              rw [taken, Nat.one_mul]
              cases ended : ((newestFirst key (remaining key rows cursor)).take limit).getLast? with
              | some row => rfl
              | none =>
                  have nothing := congrArg List.length (List.getLast?_eq_none_iff.mp ended)
                  rw [List.length_take, List.length_nil] at nothing
                  omega
            have shorter : (remaining key rows (boundary key limit rows cursor 1)).length < rounds := by
              rw [← length_newestFirst key, behind, List.length_drop]
              omega
            have rest := ih shorter
            rw [behind] at rest
            rw [last, taken, map_append_eq_some_iff, rest]
            constructor
            · intro sees pages
              cases pages with
              | zero =>
                  rw [boundary_zero]
                  exact ⟨next, fun _ => more⟩
              | succ pages =>
                  rw [← boundary_succ distinct]
                  exact sees pages
            · intro sees pages
              rw [boundary_succ distinct]
              exact sees (pages + 1)
          · constructor
            · intro walked
              obtain ⟨rest, _, joined⟩ := Option.map_eq_some_iff.mp walked
              refine absurd (first.mp (same (List.take_subset _ _) (List.take_subset _ _) ?_)) next
              have front := congrArg (List.take limit) joined
              rw [List.take_left'
                  (by rw [List.length_map, List.length_take, length_newestFirst]; omega),
                ← List.map_take] at front
              exact front
            · intro sees
              have seesNext := (sees 0).next
              rw [boundary_zero] at seesNext
              exact absurd seesNext next
        · -- the walk stops before the last row
          rw [walk_stop (by rw [shownPage_hasMore, decide_eq_false more]), shownPage_items]
          constructor
          · intro walked
            have lengths := congrArg List.length (Option.some.inj walked)
            rw [List.length_map, List.length_map, List.length_take, length_newestFirst, size]
              at lengths
            omega
          · intro sees
            have enoughSeen := (sees 0).more
            rw [boundary_zero] at enoughSeen
            exact absurd (enoughSeen further) more
      · have stops : ¬ limit < (seen cursor).length := by omega
        rw [walk_stop (by rw [shownPage_hasMore, decide_eq_false stops]), shownPage_items]
        have whole : (newestFirst key (remaining key rows cursor)).take limit =
            newestFirst key (remaining key rows cursor) :=
          List.take_of_length_le (by omega)
        rw [whole] at first
        constructor
        · intro walked pages
          cases pages with
          | zero =>
              rw [boundary_zero]
              refine ⟨?_, fun more => absurd more further⟩
              rw [whole]
              exact first.mp (same (List.take_subset _ _) (List.Subset.refl _)
                (Option.some.inj walked))
          | succ pages =>
              rw [remaining_nil distinct (by rw [Nat.succ_mul]; omega)]
              exact sees_nil
        · intro sees
          have next := (sees 0).next
          rw [boundary_zero, whole] at next
          rw [first.mpr next]

end Roosty.Library.Paging
