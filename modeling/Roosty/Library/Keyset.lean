import Mathlib.Data.List.Nodup
import Mathlib.Data.List.Sort
import Mathlib.Order.OrderDual

/-! Rows in the order of their keys, for any linear order: what stands behind a row, the
first rows of queries that are merged, and the pages at keys. Descending order is the
dual one. -/

set_option autoImplicit false

namespace Roosty.Library.Keyset

variable {Row Key : Type} [LinearOrder Key] {key : Row → Key}

/-- `ORDER BY key`. -/
def arrange (key : Row → Key) (rows : List Row) : List Row :=
  rows.insertionSort fun left right => key left ≤ key right

/-- Rows in the order of their keys, of which no two are the same. -/
def Arranged (key : Row → Key) (rows : List Row) : Prop :=
  rows.Pairwise fun first second => key first < key second

def behind (key : Row → Key) (cursor : Key) (rows : List Row) : List Row :=
  rows.filter fun row => cursor < key row

section

variable {rows front back : List Row} {row : Row} {count : Nat}

theorem arrange_perm (key : Row → Key) (rows : List Row) : (arrange key rows).Perm rows :=
  List.perm_insertionSort _ _

@[simp] theorem mem_arrange : row ∈ arrange key rows ↔ row ∈ rows :=
  List.mem_insertionSort _

@[simp] theorem length_arrange (key : Row → Key) (rows : List Row) :
    (arrange key rows).length = rows.length :=
  List.length_insertionSort _ _

theorem Arranged.distinct (arranged : Arranged key rows) : (rows.map key).Nodup :=
  List.pairwise_map.mpr (arranged.imp fun less => ne_of_lt less)

theorem Arranged.filter (arranged : Arranged key rows) (kept : Row → Bool) :
    Arranged key (rows.filter kept) :=
  List.Pairwise.filter kept arranged

theorem Arranged.reverse (arranged : Arranged key rows) :
    Arranged (OrderDual.toDual ∘ key) rows.reverse :=
  List.pairwise_reverse.mpr arranged

theorem Arranged.eq_of_perm {others : List Row} (arranged : Arranged key rows)
    (other : Arranged key others) (perm : rows.Perm others) : rows = others := by
  refine List.Perm.eq_of_pairwise ?_ arranged other perm
  intro first second _ _ less greater
  exact absurd less (lt_asymm greater)

theorem arrange_arranged (distinct : (rows.map key).Nodup) : Arranged key (arrange key rows) := by
  have total : Std.Total fun left right : Row => key left ≤ key right :=
    ⟨fun left right => le_total (key left) (key right)⟩
  have trans : IsTrans Row fun left right => key left ≤ key right :=
    ⟨fun _ _ _ first second => le_trans first second⟩
  have sorted : (arrange key rows).Pairwise fun first second => key first ≤ key second :=
    List.pairwise_insertionSort (fun left right => key left ≤ key right) rows
  have keys : ((arrange key rows).map key).Nodup :=
    ((arrange_perm key rows).map key).nodup_iff.mpr distinct
  refine (sorted.and (List.pairwise_map.mp keys)).imp ?_
  intro first second both
  exact lt_of_le_of_ne both.1 both.2

theorem arrange_eq {sorted : List Row} (arranged : Arranged key sorted) (perm : sorted.Perm rows) :
    arrange key rows = sorted := by
  have distinct : (rows.map key).Nodup := (perm.map key).nodup_iff.mp arranged.distinct
  exact (arrange_arranged distinct).eq_of_perm arranged ((arrange_perm key rows).trans perm.symm)

theorem head?_arrange (distinct : (rows.map key).Nodup) (first : (arrange key rows).head? = some row) :
    row ∈ rows ∧ ∀ other ∈ rows, key row ≤ key other := by
  obtain ⟨rest, sorted⟩ := List.head?_eq_some_iff.mp first
  have order := arrange_arranged distinct
  rw [sorted] at order
  refine ⟨mem_arrange.mp (sorted ▸ List.mem_cons_self), fun other member => ?_⟩
  have inside := (@mem_arrange _ _ _ key rows other).mpr member
  rw [sorted, List.mem_cons] at inside
  rcases inside with rfl | later
  · exact le_refl _
  · exact le_of_lt ((List.pairwise_cons.mp order).1 other later)

theorem arrange_dual (distinct : (rows.map key).Nodup) :
    arrange (OrderDual.toDual ∘ key) rows = (arrange key rows).reverse :=
  arrange_eq (arrange_arranged distinct).reverse
    ((List.reverse_perm _).trans (arrange_perm key rows))

theorem arrange_filter (distinct : (rows.map key).Nodup) (kept : Row → Bool) :
    arrange key (rows.filter kept) = (arrange key rows).filter kept :=
  arrange_eq ((arrange_arranged distinct).filter kept) ((arrange_perm key rows).filter kept)

/-- Rows may be turned into items before or after they are arranged. -/
theorem arrange_filterMap {Item : Type} {itemKey : Item → Key} {make : Row → Option Item}
    (distinct : (rows.map key).Nodup)
    (keyed : ∀ row item, make row = some item → itemKey item = key row) :
    arrange itemKey (rows.filterMap make) = (arrange key rows).filterMap make := by
  refine arrange_eq ?_ ((arrange_perm key rows).filterMap make)
  refine List.Pairwise.filterMap make ?_ (arrange_arranged distinct)
  intro first second less item made other madeOther
  rw [keyed first item made, keyed second other madeOther]
  exact less

/-!
## Cuts
-/

theorem behind_split (arranged : Arranged key (front ++ row :: back)) :
    behind key (key row) (front ++ row :: back) = back := by
  obtain ⟨_, tail, across⟩ := List.pairwise_append.mp arranged
  have noFront : behind key (key row) front = [] := by
    refine List.filter_eq_nil_iff.mpr fun other member => ?_
    have less := across other member row List.mem_cons_self
    simpa using le_of_lt less
  have allBack : behind key (key row) back = back := by
    refine List.filter_eq_self.mpr fun other member => ?_
    simpa using (List.pairwise_cons.mp tail).1 other member
  unfold behind at noFront allBack ⊢
  rw [List.filter_append, noFront, List.nil_append, List.filter_cons_of_neg (by simp), allBack]

theorem arrange_behind (distinct : (rows.map key).Nodup)
    (split : arrange key rows = front ++ row :: back)
    {kept : Row → Bool} (later : ∀ other ∈ rows, kept other = true ↔ key row < key other) :
    arrange key (rows.filter kept) = back := by
  have arranged := arrange_arranged distinct
  have same : (arrange key rows).filter kept = behind key (key row) (arrange key rows) := by
    refine List.filter_congr fun other member => Bool.eq_iff_iff.mpr ?_
    rw [later other (mem_arrange.mp member), decide_eq_true_eq]
  rw [split] at arranged
  rw [arrange_filter distinct, same, split, behind_split arranged]

theorem filter_ahead_split (arranged : Arranged key (front ++ row :: back)) :
    (front ++ row :: back).filter (fun other => key other < key row) = front := by
  obtain ⟨_, tail, across⟩ := List.pairwise_append.mp arranged
  have allFront : front.filter (fun other => key other < key row) = front := by
    refine List.filter_eq_self.mpr fun other member => ?_
    simpa using across other member row List.mem_cons_self
  have noBack : back.filter (fun other => key other < key row) = [] := by
    refine List.filter_eq_nil_iff.mpr fun other member => ?_
    simpa using le_of_lt ((List.pairwise_cons.mp tail).1 other member)
  rw [List.filter_append, allFront, List.filter_cons_of_neg (by simp), noBack, List.append_nil]

theorem behind_take (arranged : Arranged key rows) (last : (rows.take count).getLast? = some row) :
    behind key (key row) rows = rows.drop count := by
  obtain ⟨front, split⟩ : ∃ front, rows.take count = front ++ [row] := by
    have nonempty : rows.take count ≠ [] := by
      intro none
      rw [none] at last
      cases last
    rw [List.getLast?_eq_some_getLast nonempty] at last
    refine ⟨(rows.take count).dropLast, ?_⟩
    rw [← Option.some.inj last, List.dropLast_append_getLast nonempty]
  have whole : rows = front ++ row :: rows.drop count := by
    conv_lhs => rw [← List.take_append_drop count rows, split]
    rw [List.append_assoc, List.singleton_append]
  conv_lhs => rw [whole]
  rw [whole] at arranged
  exact behind_split arranged

theorem behind_behind {cursor : Key} (later : cursor < key row) :
    behind key (key row) (behind key cursor rows) = behind key (key row) rows := by
  unfold behind
  rw [List.filter_filter]
  refine List.filter_congr fun other _ => ?_
  by_cases less : key row < key other
  · simp [less, later.trans less]
  · simp [less]

def after (key : Row → Key) : Option Key → List Row → List Row
  | none, rows => rows
  | some cursor, rows => behind key cursor rows

theorem Arranged.after (arranged : Arranged key rows) (cursor : Option Key) :
    Arranged key (after key cursor rows) := by
  cases cursor with
  | none => exact arranged
  | some cursor => exact arranged.filter _

theorem after_take (arranged : Arranged key rows) {cursor : Option Key}
    (last : ((after key cursor rows).take count).getLast? = some row) :
    after key (some (key row)) rows = (after key cursor rows).drop count := by
  rw [← behind_take (arranged.after cursor) last]
  cases cursor with
  | none => rfl
  | some cursor =>
      have member := List.mem_of_mem_take (List.mem_of_getLast? last)
      have later : cursor < key row := by simpa using (List.mem_filter.mp member).2
      exact (behind_behind later).symm

theorem mem_take_iff (arranged : Arranged key rows) (member : row ∈ rows) :
    row ∈ rows.take count ↔ (rows.filter fun other => key other < key row).length < count := by
  obtain ⟨front, back, rfl⟩ := List.append_of_mem member
  rw [filter_ahead_split arranged]
  constructor
  · intro taken
    by_contra many
    rw [List.take_append_of_le_length (Nat.le_of_not_lt many)] at taken
    have less := (List.pairwise_append.mp arranged).2.2 row (List.mem_of_mem_take taken) row
      List.mem_cons_self
    exact lt_irrefl _ less
  · intro few
    obtain ⟨further, rfl⟩ := Nat.exists_eq_add_of_le (Nat.succ_le_of_lt few)
    rw [Nat.succ_add, ← Nat.add_succ, List.take_length_add_append]
    simp

/-!
## Merged queries
-/

theorem take_eq_of_subset {chosen : List Row} (arranged : Arranged key rows)
    (picked : Arranged key chosen) (inside : chosen ⊆ rows) (first : rows.take count ⊆ chosen) :
    chosen.take count = rows.take count := by
  have rowsOnce : rows.Nodup := arranged.distinct.of_map key
  have chosenOnce : chosen.Nodup := picked.distinct.of_map key
  have shown : Arranged key (rows.take count) := arranged.sublist (List.take_sublist _ _)
  have taken : Arranged key (chosen.take count) := picked.sublist (List.take_sublist _ _)
  refine taken.eq_of_perm shown ?_
  rw [List.perm_ext_iff_of_nodup (taken.distinct.of_map key) (shown.distinct.of_map key)]
  intro row
  constructor
  · intro member
    have stored := inside (List.mem_of_mem_take member)
    have few := (mem_take_iff picked (List.mem_of_mem_take member)).mp member
    by_contra later
    -- otherwise the first rows would all come before this one
    have many := Nat.le_of_not_lt (mt (mem_take_iff arranged stored).mpr later)
    have before : rows.take count ⊆ chosen.filter fun other => key other < key row := by
      intro other early
      refine List.mem_filter.mpr ⟨first early, ?_⟩
      have dropped : row ∈ rows.drop count := by
        rw [← List.take_append_drop count rows, List.mem_append] at stored
        exact stored.resolve_left later
      rw [← List.take_append_drop count rows] at arranged
      simpa using (List.pairwise_append.mp arranged).2.2 other early row dropped
    have counted := (List.subperm_of_subset (shown.distinct.of_map key) before).length_le
    have full : (rows.take count).length = count := by
      refine List.length_take_of_le (many.trans ?_)
      exact List.length_filter_le _ _
    omega
  · intro member
    refine (mem_take_iff picked (first member)).mpr ?_
    have few := (mem_take_iff arranged (List.mem_of_mem_take member)).mp member
    exact Nat.lt_of_le_of_lt
      ((List.subperm_of_subset chosenOnce inside).filter _).length_le few

theorem exists_perm_cuts (key : Row → Key) (lists : List (List Row)) (count : Nat) :
    ∃ taken : List Row, taken.Sublist lists.flatten ∧
      taken.Perm (lists.flatMap fun rows => (arrange key rows).take count) := by
  induction lists with
  | nil => exact ⟨[], List.Sublist.refl _, .refl _⟩
  | cons rows lists ih =>
      obtain ⟨others, inside, same⟩ := ih
      obtain ⟨taken, perm, sub⟩ :=
        (List.take_sublist count (arrange key rows)).subperm.trans (arrange_perm key rows).subperm
      exact ⟨taken ++ others, List.flatten_cons ▸ sub.append inside,
        List.flatMap_cons ▸ perm.append same⟩

theorem cuts_distinct {lists : List (List Row)} (distinct : (lists.flatten.map key).Nodup) :
    ((lists.flatMap fun rows => (arrange key rows).take count).map key).Nodup := by
  obtain ⟨taken, sub, perm⟩ := exists_perm_cuts key lists count
  exact (perm.map key).nodup_iff.mp (distinct.sublist (sub.map key))

/-- The first rows of several queries are among the first rows of each. -/
theorem take_arrange_merge {lists : List (List Row)} (distinct : (lists.flatten.map key).Nodup) :
    (arrange key (lists.flatMap fun rows => (arrange key rows).take count)).take count =
      (arrange key lists.flatten).take count := by
  have parts : ∀ rows ∈ lists, (rows.map key).Nodup := fun rows listed =>
    distinct.sublist ((List.sublist_flatten_of_mem listed).map key)
  obtain ⟨taken, sub, perm⟩ := exists_perm_cuts key lists count
  refine take_eq_of_subset (arrange_arranged distinct) (arrange_arranged (cuts_distinct distinct))
    ?_ ?_
  · intro row member
    exact mem_arrange.mpr (sub.subset (perm.mem_iff.mpr (mem_arrange.mp member)))
  · intro row member
    have stored := mem_arrange.mp (List.mem_of_mem_take member)
    obtain ⟨rows, listed, inside⟩ := List.mem_flatten.mp stored
    have few := (mem_take_iff (arrange_arranged distinct) (mem_arrange.mpr stored)).mp member
    refine mem_arrange.mpr (List.mem_flatMap.mpr ⟨rows, listed, ?_⟩)
    refine (mem_take_iff (arrange_arranged (parts rows listed)) (mem_arrange.mpr inside)).mpr ?_
    have counted : ∀ some_ : List Row,
        ((arrange key some_).filter fun other => key other < key row).length =
          (some_.filter fun other => key other < key row).length :=
      fun some_ => ((arrange_perm key some_).filter _).length_eq
    rw [counted] at few ⊢
    exact Nat.lt_of_le_of_lt
      (((List.sublist_flatten_of_mem listed).filter _).length_le) few

end

end Roosty.Library.Keyset
