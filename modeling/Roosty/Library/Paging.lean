import Mathlib.Data.List.Nodup
import Mathlib.Data.List.Sort

/-! Keyset pagination. A query returns its rows by descending key, one more than the
page holds, and the key of the last row kept is the cursor of the next page. -/

set_option autoImplicit false

namespace Roosty.Library.Paging

structure Page (Row : Type) where
  items : List Row
  firstCursor : Option Nat
  lastCursor : Option Nat
  hasMore : Bool
deriving DecidableEq

def Page.empty {Row : Type} : Page Row :=
  ⟨[], none, none, false⟩

variable {Row : Type} (key : Row → Nat)

/-- `ORDER BY key DESC`. -/
def newestFirst (rows : List Row) : List Row :=
  rows.insertionSort fun left right => key right ≤ key left

def trimToPage (items : List Row) (limit : Nat) : List Row × Bool :=
  if limit < items.length then (items.take limit, true) else (items, false)

/-- The page of a query for at most `queryLimit` of some rows. -/
def page (limit queryLimit : Nat) (rows : List Row) : Page Row :=
  let (items, hasMore) := trimToPage ((newestFirst key rows).take queryLimit) limit
  ⟨items, items.head?.map key, items.getLast?.map key, hasMore⟩

/-- `key < cursor`, where a cursor is given. -/
def before (cursor : Option Nat) (row : Row) : Bool :=
  cursor.all (key row < ·)

/-- The items of all pages from a cursor on, each page at the last cursor of the one
before; `none` when the rounds do not suffice. -/
def walk (load : Option Nat → Page Row) : Nat → Option Nat → Option (List Row)
  | 0, _ => none
  | rounds + 1, cursor =>
      let found := load cursor
      if found.hasMore then (walk load rounds found.lastCursor).map (found.items ++ ·)
      else some found.items

/-- A walk from the first page, of enough rounds, collects these items. -/
def Walked (load : Option Nat → Page Row) (items : List Row) : Prop :=
  ∃ enough, ∀ rounds, enough ≤ rounds → walk load rounds none = some items

section

variable {key}

@[simp] theorem mem_newestFirst {rows : List Row} {row : Row} :
    row ∈ newestFirst key rows ↔ row ∈ rows :=
  List.mem_insertionSort _

@[simp] theorem length_newestFirst (key : Row → Nat) (rows : List Row) :
    (newestFirst key rows).length = rows.length :=
  List.length_insertionSort _ _

theorem newestFirst_sorted (key : Row → Nat) (rows : List Row) :
    (newestFirst key rows).Pairwise fun first second => key second ≤ key first := by
  have total : Std.Total fun left right : Row => key right ≤ key left :=
    ⟨fun left right => Nat.le_total (key right) (key left)⟩
  have trans : IsTrans Row fun left right => key right ≤ key left :=
    ⟨fun _ _ _ first second => Nat.le_trans second first⟩
  exact List.pairwise_insertionSort (fun left right => key right ≤ key left) rows

theorem newestFirst_descending {rows : List Row} (distinct : (rows.map key).Nodup) :
    (newestFirst key rows).Pairwise fun first second => key second < key first := by
  have sorted := newestFirst_sorted key rows
  have keys : ((newestFirst key rows).map key).Nodup :=
    ((List.perm_insertionSort _ rows).map key).nodup_iff.mpr distinct
  have apart := List.pairwise_map.mp keys
  refine (sorted.and apart).imp ?_
  intro first second both
  exact Nat.lt_of_le_of_ne both.1 (Ne.symm both.2)

theorem mem_take_newestFirst {rows : List Row} {row : Row} {count : Nat} (member : row ∈ rows)
    (few : (rows.filter fun other => key row ≤ key other).length ≤ count) :
    row ∈ (newestFirst key rows).take count := by
  obtain ⟨front, back, split⟩ := List.append_of_mem (mem_newestFirst.mpr member)
  have sorted := newestFirst_sorted key rows
  rw [split] at sorted
  have newer := (List.pairwise_append.mp sorted).2.2
  have whole : front.filter (fun other => key row ≤ key other) = front := by
    rw [List.filter_eq_self]
    intro other inside
    simpa using newer other inside row List.mem_cons_self
  have counted : (rows.filter fun other => key row ≤ key other).length =
      ((newestFirst key rows).filter fun other => key row ≤ key other).length :=
    ((List.perm_insertionSort _ rows).filter _).length_eq.symm
  have size : front.length + 1 ≤ (rows.filter fun other => key row ≤ key other).length := by
    rw [counted, split, List.filter_append, whole]
    simp
  obtain ⟨further, enough⟩ := Nat.exists_eq_add_of_le (Nat.le_trans size few)
  rw [split, enough, Nat.add_assoc, List.take_length_add_append, Nat.add_comm, List.take_succ_cons]
  simp

theorem length_filter_le_one {rows : List Row} (distinct : (rows.map key).Nodup) {bound : Nat}
    {selected : Row → Bool} (same : ∀ row ∈ rows, selected row = true → key row = bound) :
    (rows.filter selected).length ≤ 1 := by
  have keys : ((rows.filter selected).map key).Nodup := (List.filter_sublist.map key).nodup distinct
  have equal : (rows.filter selected).map key = List.replicate (rows.filter selected).length bound := by
    rw [List.eq_replicate_iff]
    refine ⟨List.length_map _, ?_⟩
    intro value inside
    obtain ⟨row, member, rfl⟩ := List.mem_map.mp inside
    exact same row (List.mem_filter.mp member).1 (List.mem_filter.mp member).2
  rw [equal] at keys
  exact List.nodup_replicate.mp keys

theorem mem_of_mem_trimToPage {items : List Row} {limit : Nat} {row : Row}
    (member : row ∈ (trimToPage items limit).1) : row ∈ items := by
  unfold trimToPage at member
  split at member
  · exact List.mem_of_mem_take member
  · exact member

theorem mem_trimToPage_of_mem_take {items : List Row} {limit : Nat} {row : Row}
    (member : row ∈ items.take limit) : row ∈ (trimToPage items limit).1 := by
  unfold trimToPage
  split
  · exact member
  · exact List.mem_of_mem_take member

theorem newestFirst_eq {rows sorted : List Row} (perm : sorted.Perm rows)
    (descending : sorted.Pairwise fun first second => key second < key first) :
    newestFirst key rows = sorted := by
  have distinct : (rows.map key).Nodup := by
    refine (perm.map key).nodup_iff.mp (List.pairwise_map.mpr (descending.imp ?_))
    intro first second less
    exact Ne.symm (Nat.ne_of_lt less)
  refine List.Perm.eq_of_pairwise ?_ (newestFirst_descending distinct) descending
    ((List.perm_insertionSort _ rows).trans perm.symm)
  intro first second _ _ less greater
  exact absurd less (Nat.lt_asymm greater)

theorem filter_behind {front back : List Row} {row : Row}
    (descending : (front ++ row :: back).Pairwise fun first second => key second < key first) :
    (front ++ row :: back).filter (fun other => key other < key row) = back := by
  obtain ⟨_, behind, across⟩ := List.pairwise_append.mp descending
  have smaller := (List.pairwise_cons.mp behind).1
  have noFront : front.filter (fun other => key other < key row) = [] := by
    rw [List.filter_eq_nil_iff]
    intro other member
    have greater := across other member row List.mem_cons_self
    simp only [decide_eq_true_eq]
    omega
  have allBack : back.filter (fun other => key other < key row) = back := by
    rw [List.filter_eq_self]
    intro other member
    simpa using smaller other member
  simp [noFront, allBack]

theorem page_last (key : Row → Nat) {rows : List Row} {limit : Nat} (few : rows.length ≤ limit) :
    (page key limit (limit + 1) rows).hasMore = false ∧
      (page key limit (limit + 1) rows).items = newestFirst key rows := by
  have whole : (newestFirst key rows).take (limit + 1) = newestFirst key rows := by
    refine List.take_of_length_le ?_
    rw [length_newestFirst]
    omega
  simp [page, trimToPage, whole, Nat.not_lt.mpr few]

theorem page_next {rows front back : List Row} {row : Row}
    (sorted : newestFirst key rows = front ++ row :: back) (further : back ≠ []) :
    (page key (front.length + 1) (front.length + 1 + 1) rows).hasMore = true ∧
      (page key (front.length + 1) (front.length + 1 + 1) rows).items = front ++ [row] ∧
      (page key (front.length + 1) (front.length + 1 + 1) rows).lastCursor = some (key row) := by
  obtain ⟨next, rest, rfl⟩ := List.exists_cons_of_ne_nil further
  have queried : (newestFirst key rows).take (front.length + 1 + 1) = front ++ [row, next] := by
    rw [sorted, Nat.add_assoc, List.take_length_add_append]
    rfl
  have kept : (front ++ [row, next]).take (front.length + 1) = front ++ [row] := by
    rw [List.take_length_add_append]
    rfl
  simp [page, trimToPage, queried, kept]

theorem newestFirst_behind {rows front back : List Row} {row : Row} {cursor : Option Nat}
    (distinct : (rows.map key).Nodup)
    (sorted : newestFirst key (rows.filter (before key cursor)) = front ++ row :: back) :
    newestFirst key (rows.filter (before key (some (key row)))) = back := by
  have inside : row ∈ newestFirst key (rows.filter (before key cursor)) := by simp [sorted]
  have small : before key cursor row = true :=
    (List.mem_filter.mp (mem_newestFirst.mp inside)).2
  -- the new cursor is the stronger one
  have nested : rows.filter (before key (some (key row))) =
      (rows.filter (before key cursor)).filter (fun other => key other < key row) := by
    rw [List.filter_filter]
    refine List.filter_congr ?_
    intro other _
    cases cursor with
    | none => simp [before]
    | some bound =>
        have less : key row < bound := by simpa [before] using small
        by_cases lower : key other < key row
        · simp [before, lower, Nat.lt_trans lower less]
        · simp [before, lower]
  have descending := newestFirst_descending
    ((List.filter_sublist.map key).nodup distinct : ((rows.filter (before key cursor)).map key).Nodup)
  rw [sorted] at descending
  refine newestFirst_eq ?_ (List.pairwise_cons.mp (List.pairwise_append.mp descending).2.1).2
  have perm := (List.perm_insertionSort (fun left right => key right ≤ key left)
    (rows.filter (before key cursor))).filter (fun other => key other < key row)
  have behind := filter_behind descending
  rw [← sorted] at behind
  rw [nested, ← behind]
  exact perm

theorem exists_split {rows : List Row} {index : Nat} (inside : index < rows.length) :
    ∃ front row back, rows = front ++ row :: back ∧ front.length = index := by
  refine ⟨rows.take index, rows[index], rows.drop (index + 1), ?_, ?_⟩
  · rw [← List.drop_eq_getElem_cons inside, List.take_append_drop]
  · rw [List.length_take]
    omega

/-- A walk by any page size collects all rows, newest first. -/
theorem walk_page {rows : List Row} (distinct : (rows.map key).Nodup) {limit : Nat}
    (positive : 0 < limit) {rounds : Nat} {cursor : Option Nat}
    (enough : (rows.filter (before key cursor)).length < rounds) :
    walk (fun cursor => page key limit (limit + 1) (rows.filter (before key cursor))) rounds cursor =
      some (newestFirst key (rows.filter (before key cursor))) := by
  induction rounds generalizing cursor with
  | zero => cases enough
  | succ rounds ih =>
      unfold walk
      by_cases few : (rows.filter (before key cursor)).length ≤ limit
      · obtain ⟨ended, items⟩ := page_last key few
        simp [ended, items]
      · have counted := length_newestFirst key (rows.filter (before key cursor))
        have inside : limit - 1 < (newestFirst key (rows.filter (before key cursor))).length := by
          omega
        obtain ⟨front, row, back, sorted, size⟩ := exists_split inside
        obtain rfl : front.length + 1 = limit := by omega
        rw [sorted, List.length_append, List.length_cons] at counted
        have further : back ≠ [] := by
          intro none
          simp [none] at counted
          omega
        obtain ⟨more, items, last⟩ := page_next sorted further
        have behind := newestFirst_behind distinct sorted
        have rest : (rows.filter (before key (some (key row)))).length < rounds := by
          rw [← length_newestFirst key, behind]
          omega
        have collected := ih rest
        rw [behind] at collected
        simp [more, items, last, collected, sorted]

/-- Pages of the rows before a cursor, of any size, are walked through to their end. -/
theorem walked_page {rows : List Row} (distinct : (rows.map key).Nodup) {limit : Nat}
    (positive : 0 < limit) {load : Option Nat → Page Row}
    (pages : ∀ cursor, load cursor = page key limit (limit + 1) (rows.filter (before key cursor))) :
    Walked load (newestFirst key rows) := by
  have everything : rows.filter (before key none) = rows := List.filter_eq_self.mpr fun _ _ => rfl
  refine ⟨rows.length + 1, fun rounds enough => ?_⟩
  have few := List.length_filter_le (before key none) rows
  have collected := walk_page distinct positive (Nat.lt_of_le_of_lt few enough)
  rw [everything] at collected
  rw [funext pages]
  exact collected

theorem Walked.unique {load : Option Nat → Page Row} {first second : List Row}
    (one : Walked load first) (other : Walked load second) : first = second := by
  obtain ⟨enough, walked⟩ := one
  obtain ⟨further, again⟩ := other
  have both := (walked (max enough further) (Nat.le_max_left ..)).symm.trans
    (again (max enough further) (Nat.le_max_right ..))
  exact Option.some.inj both

end

end Roosty.Library.Paging
