import Roosty.Library.Keyset
import Roosty.Library.Paging

/-! Pages that are merged from several queries, and pages of what is newer than a cursor. -/

set_option autoImplicit false

namespace Roosty.Library.Paging

variable {Row : Type} {key : Row → Nat} {rows chosen : List Row} {count limit : Nat}

/-!
## Merged queries
-/

theorem few_of_mem_take {row : Row} (distinct : (rows.map key).Nodup)
    (member : row ∈ (newestFirst key rows).take count) :
    (rows.filter fun other => key row ≤ key other).length ≤ count := by
  obtain ⟨front, back, split⟩ := List.append_of_mem member
  have whole := List.take_append_drop count (newestFirst key rows)
  rw [split, List.append_assoc, List.cons_append] at whole
  have descending := newestFirst_descending distinct
  rw [← whole] at descending
  obtain ⟨_, behind, across⟩ := List.pairwise_append.mp descending
  have smaller := (List.pairwise_cons.mp behind).1
  have none_left : (back ++ (newestFirst key rows).drop count).filter
      (fun other => key row ≤ key other) = [] := by
    rw [List.filter_eq_nil_iff]
    intro other inside
    have less := smaller other inside
    simp only [decide_eq_true_eq]
    omega
  have counted : (rows.filter fun other => key row ≤ key other).length =
      ((newestFirst key rows).filter fun other => key row ≤ key other).length :=
    ((List.perm_insertionSort _ rows).filter _).length_eq.symm
  have size := congrArg List.length split
  rw [List.length_take, List.length_append, List.length_cons] at size
  have shorter := List.length_filter_le (fun other => decide (key row ≤ key other)) front
  rw [counted, ← whole, List.filter_append, List.filter_cons_of_pos (by simp), none_left,
    List.length_append, List.length_singleton]
  omega

theorem take_newestFirst_of_subset (distinct : (rows.map key).Nodup)
    (once : (chosen.map key).Nodup) (inside : chosen ⊆ rows)
    (first : (newestFirst key rows).take count ⊆ chosen) :
    (newestFirst key chosen).take count = (newestFirst key rows).take count := by
  classical
  have rowsOnce : rows.Nodup := distinct.of_map key
  have sorted : newestFirst key chosen = (newestFirst key rows).filter (· ∈ chosen) := by
    refine newestFirst_eq ?_ ((newestFirst_descending distinct).filter _)
    have sortedOnce : (newestFirst key rows).Nodup :=
      (List.perm_insertionSort _ rows).nodup_iff.mpr rowsOnce
    rw [List.perm_ext_iff_of_nodup (sortedOnce.filter _) (once.of_map key)]
    intro row
    simp only [List.mem_filter, mem_newestFirst, decide_eq_true_eq, and_iff_right_iff_imp]
    exact fun member => inside member
  have kept : ((newestFirst key rows).take count).filter (· ∈ chosen) =
      (newestFirst key rows).take count := by
    rw [List.filter_eq_self]
    intro row member
    simpa using first member
  have split : newestFirst key chosen = (newestFirst key rows).take count ++
      ((newestFirst key rows).drop count).filter (· ∈ chosen) := by
    conv_lhs => rw [sorted, ← List.take_append_drop count (newestFirst key rows)]
    rw [List.filter_append, kept]
  rw [split]
  rcases Nat.le_total (newestFirst key rows).length count with few | many
  · rw [List.drop_eq_nil_of_le few, List.filter_nil, List.append_nil, List.take_take, Nat.min_self]
  · have full : ((newestFirst key rows).take count).length = count := by
      rw [List.length_take, Nat.min_eq_left many]
    rw [List.take_append_of_le_length full.ge, List.take_take, Nat.min_self]

theorem mem_take_newestFirst_iff {row : Row} (distinct : (rows.map key).Nodup) :
    row ∈ (newestFirst key rows).take count ↔
      row ∈ rows ∧ (rows.filter fun other => key row ≤ key other).length ≤ count := by
  constructor
  · intro member
    exact ⟨mem_newestFirst.mp (List.mem_of_mem_take member), few_of_mem_take distinct member⟩
  · rintro ⟨member, few⟩
    exact mem_take_newestFirst member few

/-- Descending order is the dual one. -/
theorem newestFirst_eq_arrange (key : Row → Nat) (rows : List Row) :
    newestFirst key rows = Keyset.arrange (fun row => OrderDual.toDual (key row)) rows := rfl

theorem take_newestFirst_merge {lists : List (List Row)}
    (distinct : (lists.flatten.map key).Nodup) :
    (newestFirst key (lists.flatMap fun rows => (newestFirst key rows).take count)).take count =
      (newestFirst key lists.flatten).take count := by
  have once : (lists.flatten.map fun row => OrderDual.toDual (key row)).Nodup := distinct
  simp only [newestFirst_eq_arrange]
  exact Keyset.take_arrange_merge once

theorem trimToPage_eq (items : List Row) (limit : Nat) :
    trimToPage items limit = (items.take limit, decide (limit < items.length)) := by
  unfold trimToPage
  split
  · rename_i more
    rw [decide_eq_true more]
  · rename_i few
    rw [decide_eq_false few, List.take_of_length_le (Nat.le_of_not_lt few)]

theorem trimToPage_take (items : List Row) (limit : Nat) :
    trimToPage (items.take (limit + 1)) limit = trimToPage items limit := by
  unfold trimToPage
  by_cases more : limit < items.length
  · have still : limit < (items.take (limit + 1)).length := by
      rw [List.length_take]
      omega
    rw [if_pos more, if_pos still, List.take_take, Nat.min_eq_left (Nat.le_succ limit)]
  · have whole : items.take (limit + 1) = items := List.take_of_length_le (by omega)
    rw [whole]

theorem page_merge {lists : List (List Row)} (distinct : (lists.flatten.map key).Nodup)
    (limit : Nat) :
    trimToPage (newestFirst key (lists.flatMap fun rows =>
        (newestFirst key rows).take (limit + 1))) limit =
      trimToPage ((newestFirst key lists.flatten).take (limit + 1)) limit := by
  rw [← trimToPage_take, take_newestFirst_merge distinct]

/-!
## Single pages
-/

structure Newest (key : Row → Nat) (rows : List Row) (limit : Nat) (page : Page Row) : Prop where
  descending : page.items.Pairwise fun first second => key second < key first
  listed : page.items ⊆ rows
  count : page.items.length = min limit rows.length
  newest : ∀ row ∈ rows, row ∉ page.items → ∀ shown ∈ page.items, key row < key shown
  first : page.firstCursor = page.items.head?.map key
  last : page.lastCursor = page.items.getLast?.map key
  more : page.hasMore = true ↔ ∃ row ∈ rows, ∃ last, page.lastCursor = some last ∧ key row < last

theorem page_items (key : Row → Nat) (limit : Nat) (rows : List Row) :
    (page key limit (limit + 1) rows).items = (newestFirst key rows).take limit := by
  unfold page
  rw [trimToPage_take, trimToPage_eq]

theorem page_hasMore (key : Row → Nat) (limit : Nat) (rows : List Row) :
    (page key limit (limit + 1) rows).hasMore = true ↔ limit < rows.length := by
  unfold page
  rw [trimToPage_take, trimToPage_eq, length_newestFirst]
  exact decide_eq_true_iff

theorem page_lastCursor {limit : Nat} (positive : 0 < limit) {rows : List Row}
    (more : (page key limit (limit + 1) rows).hasMore = true) :
    ∃ last ∈ rows, (page key limit (limit + 1) rows).lastCursor = some (key last) := by
  rw [page_hasMore] at more
  have nonempty : (newestFirst key rows).take limit ≠ [] := by
    intro none
    have size := congrArg List.length none
    rw [List.length_take, length_newestFirst, List.length_nil] at size
    omega
  have member := List.mem_of_mem_take (List.getLast_mem nonempty)
  refine ⟨_, mem_newestFirst.mp member, ?_⟩
  change (page key limit (limit + 1) rows).items.getLast?.map key = _
  rw [page_items, List.getLast?_eq_some_getLast nonempty]
  rfl

theorem page_newest (distinct : (rows.map key).Nodup) (positive : 0 < limit) :
    Newest key rows limit (page key limit (limit + 1) rows) := by
  have descending := newestFirst_descending distinct
  have items := page_items key limit rows
  have whole := List.take_append_drop limit (newestFirst key rows)
  have across := (List.pairwise_append.mp (whole ▸ descending)).2.2
  have behind : ∀ row ∈ rows, row ∉ (newestFirst key rows).take limit →
      row ∈ (newestFirst key rows).drop limit := by
    intro row member outside
    have inside : row ∈ newestFirst key rows := mem_newestFirst.mpr member
    rw [← whole] at inside
    exact (List.mem_append.mp inside).resolve_left outside
  refine ⟨?_, ?_, ?_, ?_, rfl, rfl, ?_⟩
  · rw [items]
    exact descending.sublist (List.take_sublist _ _)
  · rw [items]
    intro row member
    exact mem_newestFirst.mp (List.mem_of_mem_take member)
  · rw [items, List.length_take, length_newestFirst]
  · rw [items]
    intro row member outside shown isShown
    exact across shown isShown row (behind row member outside)
  · have last : (page key limit (limit + 1) rows).lastCursor =
        ((newestFirst key rows).take limit).getLast?.map key :=
      congrArg (fun items : List Row => items.getLast?.map key) items
    rw [page_hasMore, last]
    constructor
    · intro more
      have further : (newestFirst key rows).drop limit ≠ [] := by
        rw [ne_eq, List.drop_eq_nil_iff, length_newestFirst]
        omega
      obtain ⟨row, rest, split⟩ := List.exists_cons_of_ne_nil further
      have nonempty : (newestFirst key rows).take limit ≠ [] := by
        rw [← List.length_pos_iff, List.length_take, length_newestFirst]
        omega
      have isBehind : row ∈ (newestFirst key rows).drop limit := by simp [split]
      refine ⟨row, mem_newestFirst.mp (List.mem_of_mem_drop isBehind), _,
        by rw [List.getLast?_eq_some_getLast nonempty]; rfl, ?_⟩
      exact across _ (List.getLast_mem nonempty) row isBehind
    · rintro ⟨row, member, bound, isLast, less⟩
      by_contra few
      have all : (newestFirst key rows).take limit = newestFirst key rows := by
        refine List.take_of_length_le ?_
        rw [length_newestFirst]
        omega
      rw [all] at isLast
      obtain ⟨final, isFinal, rfl⟩ := Option.map_eq_some_iff.mp isLast
      obtain ⟨front, split⟩ := List.getLast?_eq_some_iff.mp isFinal
      have inside : row ∈ front ++ [final] := split ▸ mem_newestFirst.mpr member
      rcases List.mem_append.mp inside with inFront | isFinal'
      · rw [split] at descending
        have greater := (List.pairwise_append.mp descending).2.2 row inFront final
          (List.mem_singleton_self final)
        omega
      · rw [List.mem_singleton.mp isFinal'] at less
        exact Nat.lt_irrefl _ less

/-!
## Newer rows
-/

/-- `cursor < key`. -/
def after (key : Row → Nat) (cursor : Nat) (row : Row) : Bool := cursor < key row

def immediatelyNewer (key : Row → Nat) (limit cursor : Nat) (rows : List Row) : List Row :=
  let newer := newestFirst key (rows.filter (after key cursor))
  newer.drop (newer.length - limit)

/-- The newest rows above a cursor are those immediately above it when there are no more. -/
theorem take_eq_immediatelyNewer_iff {cursor : Nat} (distinct : (rows.map key).Nodup) :
    (newestFirst key (rows.filter (after key cursor))).take limit =
        immediatelyNewer key limit cursor rows ↔
      limit = 0 ∨ (rows.filter (after key cursor)).length ≤ limit := by
  unfold immediatelyNewer
  have once : (newestFirst key (rows.filter (after key cursor))).Nodup := by
    refine (List.perm_insertionSort _ _).nodup_iff.mpr ((distinct.of_map key).filter _)
  rw [← length_newestFirst key (rows.filter (after key cursor))]
  generalize newestFirst key (rows.filter (after key cursor)) = newer at once
  simp only
  constructor
  · intro same
    by_contra neither
    rw [not_or, Nat.not_le] at neither
    obtain ⟨positive, more⟩ := neither
    cases newer with
    | nil => simp at more
    | cons newest rest =>
        obtain ⟨few, rfl⟩ := Nat.exists_eq_succ_of_ne_zero positive
        have size : (newest :: rest).length - (few + 1) = rest.length - few := by simp
        obtain ⟨skipped, isSkipped⟩ : ∃ skipped, rest.length - few = skipped + 1 :=
          ⟨rest.length - few - 1, by simp at more; omega⟩
        rw [size, isSkipped, List.take_succ_cons, List.drop_succ_cons] at same
        have again : newest ∈ rest.drop skipped := same ▸ List.mem_cons_self
        exact (List.nodup_cons.mp once).1 (List.mem_of_mem_drop again)
  · rintro (rfl | few)
    · simp
    · rw [List.take_of_length_le few, Nat.sub_eq_zero_of_le few, List.drop_zero]

/-!
## Walking back
-/

/-- The rows of the pages before one, along a link of each page to the one before it. -/
def walkBack (link : Page Row → Option Nat) (load : Nat → Page Row) : Nat → Page Row → List Row
  | 0, _ => []
  | rounds + 1, page =>
      match link page with
      | none => []
      | some cursor => walkBack link load rounds (load cursor) ++ (load cursor).items

theorem walkBack_of_no_link {link : Page Row → Option Nat} {load : Nat → Page Row}
    {page : Page Row} (unlinked : link page = none) (rounds : Nat) :
    walkBack link load rounds page = [] := by
  cases rounds with
  | zero => rfl
  | succ rounds => rw [walkBack, unlinked]

theorem filter_after_first {first : Row} {bound : Nat}
    (newest : (newestFirst key (rows.filter (after key bound))).head? = some first) :
    rows.filter (after key (key first)) = [] := by
  rw [List.filter_eq_nil_iff]
  intro row member above
  have higher : key first < key row := of_decide_eq_true above
  have firstAbove : first ∈ rows.filter (after key bound) :=
    mem_newestFirst.mp (List.mem_of_mem_head? newest)
  have inside : row ∈ newestFirst key (rows.filter (after key bound)) := by
    rw [mem_newestFirst, List.mem_filter]
    have lower : bound < key first := of_decide_eq_true (List.mem_filter.mp firstAbove).2
    exact ⟨member, decide_eq_true (Nat.lt_trans lower higher)⟩
  obtain ⟨rest, split⟩ := List.head?_eq_some_iff.mp newest
  have sorted := newestFirst_sorted key (rows.filter (after key bound))
  rw [split] at sorted inside
  rcases List.mem_cons.mp inside with rfl | inRest
  · exact Nat.lt_irrefl _ higher
  · have lower := (List.pairwise_cons.mp sorted).1 row inRest
    omega

theorem walkBack_firstCursor {start : Page Row} {cursor : Nat}
    (first : start.firstCursor = some cursor) (limit rounds : Nat) :
    walkBack Page.firstCursor (fun cursor => page key limit (limit + 1)
        (rows.filter (after key cursor))) (rounds + 2) start =
      (newestFirst key (rows.filter (after key cursor))).take limit := by
  have items := page_items key limit (rows.filter (after key cursor))
  have cursors : (page key limit (limit + 1) (rows.filter (after key cursor))).firstCursor =
      ((newestFirst key (rows.filter (after key cursor))).take limit).head?.map key :=
    congrArg (fun items : List Row => items.head?.map key) items
  rw [walkBack, first]
  simp only
  rw [walkBack, items, cursors]
  cases newest : ((newestFirst key (rows.filter (after key cursor))).take limit).head? with
  | none => rfl
  | some row =>
      have isFirst : (newestFirst key (rows.filter (after key cursor))).head? = some row := by
        obtain ⟨rest, split⟩ := List.head?_eq_some_iff.mp newest
        rw [← List.take_append_drop limit (newestFirst key (rows.filter (after key cursor))), split]
        rfl
      have nothing : (page key limit (limit + 1)
          (rows.filter (after key (key row)))).items = [] := by
        rw [page_items, filter_after_first isFirst]
        exact List.take_nil
      have unlinked : (page key limit (limit + 1)
          (rows.filter (after key (key row)))).firstCursor = none :=
        congrArg (fun items : List Row => items.head?.map key) nothing
      simp only [Option.map_some]
      rw [walkBack_of_no_link unlinked, nothing]
      rfl

/-- Such a walk lists all that is newer when that fits one page. -/
theorem walkBack_perm_iff {start : Page Row} {cursor : Nat}
    (first : start.firstCursor = some cursor) (limit : Nat) :
    (∃ enough, ∀ rounds, enough ≤ rounds →
        (walkBack Page.firstCursor (fun cursor => page key limit (limit + 1)
          (rows.filter (after key cursor))) rounds start).Perm (rows.filter (after key cursor))) ↔
      (rows.filter (after key cursor)).length ≤ limit := by
  constructor
  · rintro ⟨enough, same⟩
    have listed := (same (enough + 2) (Nat.le_add_right _ _)).length_eq
    rw [walkBack_firstCursor first, List.length_take, length_newestFirst] at listed
    omega
  · intro few
    refine ⟨2, fun rounds many => ?_⟩
    obtain ⟨further, rfl⟩ := Nat.exists_eq_add_of_le' many
    rw [walkBack_firstCursor first, List.take_of_length_le (by rwa [length_newestFirst])]
    exact List.perm_insertionSort _ _

end Roosty.Library.Paging
