import Mathlib.Data.List.Dedup
import Mathlib.Data.List.Perm.Basic
import Roosty.Library.Paging

/-! `GROUP BY` and `DISTINCT ON`: the groups of rows that share a key, and the newest row
of each group. -/

set_option autoImplicit false

namespace Roosty.Library.Grouping

variable {Row Key : Type} [DecidableEq Key]

def keys (key : Row → Key) (rows : List Row) : List Key := (rows.map key).dedup

def members (key : Row → Key) (group : Key) (rows : List Row) : List Row :=
  rows.filter fun row => key row == group

/-- `SELECT DISTINCT ON (key) … ORDER BY key, id DESC`. -/
def distinctOn (key : Row → Key) (id : Row → Nat) (rows : List Row) : List Row :=
  (keys key rows).filterMap fun group => (Paging.newestFirst id (members key group rows)).head?

section

variable {key : Row → Key} {rows : List Row} {group : Key} {row : Row}

@[simp] theorem mem_members : row ∈ members key group rows ↔ row ∈ rows ∧ key row = group := by
  simp [members]

theorem members_eq_filter {keep : Row → Bool}
    (same : ∀ row ∈ rows, key row = group ↔ keep row = true) :
    members key group rows = rows.filter keep :=
  List.filter_congr fun row member =>
    Bool.eq_iff_iff.mpr (beq_iff_eq.trans (same row member))

theorem members_filter {keep : Row → Bool} (kept : ∀ row ∈ rows, key row = group → keep row = true) :
    members key group (rows.filter keep) = members key group rows := by
  rw [members, List.filter_filter]
  refine List.filter_congr fun row member => ?_
  by_cases same : key row = group
  · rw [kept row member same, Bool.and_true]
  · rw [beq_eq_false_iff_ne.mpr same, Bool.false_and]

@[simp] theorem mem_keys : group ∈ keys key rows ↔ ∃ row ∈ rows, key row = group := by
  simp [keys]

theorem keys_nodup (key : Row → Key) (rows : List Row) : (keys key rows).Nodup :=
  List.nodup_dedup _

theorem flatMap_members_perm {groups : List Key} (distinct : groups.Nodup) :
    (groups.flatMap fun group => members key group rows).Perm
      (rows.filter fun row => key row ∈ groups) := by
  induction groups with
  | nil => simp
  | cons group groups ih =>
      obtain ⟨fresh, distinct⟩ := List.nodup_cons.mp distinct
      have split := List.filter_append_perm (fun row => key row == group)
        (rows.filter fun row => key row ∈ group :: groups)
      have here : (rows.filter fun row => key row ∈ group :: groups).filter
          (fun row => key row == group) = members key group rows := by
        rw [List.filter_filter, members]
        refine List.filter_congr fun row _ => ?_
        by_cases same : key row = group <;> simp [same]
      have others : (rows.filter fun row => key row ∈ group :: groups).filter
          (fun row => !(key row == group)) = rows.filter fun row => key row ∈ groups := by
        rw [List.filter_filter]
        refine List.filter_congr fun row _ => ?_
        by_cases same : key row = group
        · simp [same, fresh]
        · simp [same]
      rw [here, others] at split
      rw [List.flatMap_cons]
      exact ((ih distinct).append_left _).trans split

theorem flatMap_keys_perm (key : Row → Key) (rows : List Row) :
    ((keys key rows).flatMap fun group => members key group rows).Perm rows := by
  have every : rows.filter (fun row => key row ∈ keys key rows) = rows :=
    List.filter_eq_self.mpr fun row member => decide_eq_true (mem_keys.mpr ⟨row, member, rfl⟩)
  have perm := @flatMap_members_perm Row Key _ key rows _ (keys_nodup key rows)
  rwa [every] at perm

theorem flatMap_filterMap {Entry Item Value : Type} {entries : List Entry} {make : Entry → Option Item}
    {values : Item → List Value} {own : Entry → List Value}
    (made : ∀ entry ∈ entries, ∃ item, make entry = some item ∧ values item = own entry) :
    (entries.filterMap make).flatMap values = entries.flatMap own := by
  induction entries with
  | nil => rfl
  | cons entry entries ih =>
      obtain ⟨item, here, same⟩ := made entry List.mem_cons_self
      rw [List.filterMap_cons_some here, List.flatMap_cons, List.flatMap_cons, same,
        ih fun other member => made other (List.mem_cons_of_mem _ member)]

end

section

variable {key : Row → Key} {id : Row → Nat} {rows : List Row} {row : Row}

theorem head?_newestFirst_eq_some_iff (distinct : (rows.map id).Nodup) :
    (Paging.newestFirst id rows).head? = some row ↔
      row ∈ rows ∧ ∀ other ∈ rows, id other ≤ id row := by
  constructor
  · intro first
    obtain ⟨rest, sorted⟩ := List.head?_eq_some_iff.mp first
    have order := Paging.newestFirst_sorted id rows
    rw [sorted] at order
    refine ⟨Paging.mem_newestFirst.mp (sorted ▸ List.mem_cons_self), fun other member => ?_⟩
    have inside := (@Paging.mem_newestFirst Row id rows other).mpr member
    rw [sorted, List.mem_cons] at inside
    rcases inside with rfl | later
    · exact Nat.le_refl _
    · exact (List.pairwise_cons.mp order).1 other later
  · rintro ⟨member, greatest⟩
    have inside := (@Paging.mem_newestFirst Row id rows row).mpr member
    obtain ⟨first, rest, sorted⟩ := List.exists_cons_of_ne_nil (List.ne_nil_of_mem inside)
    have order := Paging.newestFirst_sorted id rows
    have stored : first ∈ rows := Paging.mem_newestFirst.mp (sorted ▸ List.mem_cons_self)
    rw [sorted] at order inside
    have same : id first = id row := by
      refine Nat.le_antisymm (greatest first stored) ?_
      rcases List.mem_cons.mp inside with rfl | later
      · exact Nat.le_refl _
      · exact (List.pairwise_cons.mp order).1 row later
    rw [sorted, List.head?_cons, List.inj_on_of_nodup_map distinct stored member same]

theorem mem_distinctOn (distinct : (rows.map id).Nodup) :
    row ∈ distinctOn key id rows ↔
      row ∈ rows ∧ ∀ other ∈ rows, key other = key row → id other ≤ id row := by
  have parts : ∀ group, ((members key group rows).map id).Nodup := fun group =>
    distinct.sublist (List.filter_sublist.map id)
  simp only [distinctOn, List.mem_filterMap, head?_newestFirst_eq_some_iff (parts _), mem_members,
    mem_keys]
  constructor
  · rintro ⟨_, _, ⟨member, rfl⟩, greatest⟩
    exact ⟨member, fun other inside same => greatest other ⟨inside, same⟩⟩
  · rintro ⟨member, greatest⟩
    exact ⟨key row, ⟨row, member, rfl⟩, ⟨member, rfl⟩, fun other inside =>
      greatest other inside.1 inside.2⟩

theorem map_distinctOn (distinct : (rows.map id).Nodup) :
    (distinctOn key id rows).map key = keys key rows := by
  have parts : ∀ group, ((members key group rows).map id).Nodup := fun group =>
    distinct.sublist (List.filter_sublist.map id)
  rw [distinctOn, List.map_filterMap]
  refine (List.filterMap_congr fun group listed => ?_).trans (List.filterMap_some)
  obtain ⟨row, member, rfl⟩ := mem_keys.mp listed
  have inside : row ∈ Paging.newestFirst id (members key (key row) rows) :=
    Paging.mem_newestFirst.mpr (mem_members.mpr ⟨member, rfl⟩)
  obtain ⟨first, rest, sorted⟩ := List.exists_cons_of_ne_nil (List.ne_nil_of_mem inside)
  have first_member : first ∈ members key (key row) rows :=
    Paging.mem_newestFirst.mp (sorted ▸ List.mem_cons_self)
  rw [sorted, List.head?_cons, Option.map_some, (mem_members.mp first_member).2]

theorem distinctOn_distinct (distinct : (rows.map id).Nodup) :
    ((distinctOn key id rows).map id).Nodup := by
  have groups := keys_nodup key rows
  rw [← map_distinctOn distinct] at groups
  refine groups.of_map.map_on fun first firstMember second secondMember same => ?_
  exact List.inj_on_of_nodup_map distinct ((mem_distinctOn distinct).mp firstMember).1
    ((mem_distinctOn distinct).mp secondMember).1 same

end

end Roosty.Library.Grouping
