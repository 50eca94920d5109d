import Mathlib.Algebra.Ring.Int.Defs
import Mathlib.Data.List.Nodup
import Mathlib.Data.List.Sort

/-! Relational tables as lists of rows in physical order. Statements update or
delete the rows that a predicate selects; a unique index is a partial key whose
defined values never repeat. -/

set_option autoImplicit false

namespace Roosty.Library.Table

variable {Row Key : Type}

/-- `UPDATE ... SET change WHERE selected`. -/
def updateWhere (selected : Row → Bool) (change : Row → Row) (rows : List Row) : List Row :=
  rows.map fun row => if selected row then change row else row

/-- `DELETE ... WHERE selected`. -/
def deleteWhere (selected : Row → Bool) (rows : List Row) : List Row :=
  rows.filter fun row => !selected row

/-- The number of rows that a statement with this predicate touches. -/
def affected (selected : Row → Bool) (rows : List Row) : Nat :=
  rows.countP selected

/-- A unique index: rows without a key are outside the index. -/
def UniqueOn (key : Row → Option Key) (rows : List Row) : Prop :=
  (rows.filterMap key).Nodup

instance [DecidableEq Key] (key : Row → Option Key) (rows : List Row) :
    Decidable (UniqueOn key rows) :=
  inferInstanceAs (Decidable (List.Nodup _))

theorem mem_updateWhere {selected : Row → Bool} {change : Row → Row} {rows : List Row}
    {row : Row} :
    row ∈ updateWhere selected change rows ↔
      (row ∈ rows ∧ selected row = false) ∨
        ∃ before ∈ rows, selected before = true ∧ change before = row := by
  unfold updateWhere
  rw [List.mem_map]
  constructor
  · rintro ⟨before, member, rfl⟩
    by_cases chosen : selected before = true
    · rw [if_pos chosen]
      exact .inr ⟨before, member, chosen, rfl⟩
    · rw [if_neg chosen]
      exact .inl ⟨member, by simpa using chosen⟩
  · rintro (⟨member, kept⟩ | ⟨before, member, chosen, rfl⟩)
    · exact ⟨row, member, by simp [kept]⟩
    · exact ⟨before, member, if_pos chosen⟩

@[simp] theorem mem_deleteWhere {selected : Row → Bool} {rows : List Row} {row : Row} :
    row ∈ deleteWhere selected rows ↔ row ∈ rows ∧ selected row = false := by
  simp [deleteWhere]

theorem map_updateWhere {key : Row → Key} {selected : Row → Bool} {change : Row → Row}
    {rows : List Row} (keeps : ∀ row ∈ rows, selected row = true → key (change row) = key row) :
    (updateWhere selected change rows).map key = rows.map key := by
  rw [updateWhere, List.map_map]
  apply List.map_congr_left
  intro row member
  by_cases chosen : selected row = true
  · simp [chosen, keeps row member chosen]
  · simp [chosen]

theorem updateWhere_eq_self_iff {selected : Row → Bool} {change : Row → Row} {rows : List Row} :
    updateWhere selected change rows = rows ↔
      ∀ row ∈ rows, selected row = true → change row = row := by
  unfold updateWhere
  conv_lhs => rhs; rw [← List.map_id rows]
  rw [List.map_inj_left]
  constructor
  · intro same row member chosen
    have kept := same row member
    rwa [if_pos chosen, id] at kept
  · intro same row member
    by_cases chosen : selected row = true
    · rw [if_pos chosen, same row member chosen, id]
    · rw [if_neg chosen, id]

theorem updateWhere_eq_self {selected : Row → Bool} {change : Row → Row} {rows : List Row}
    (none : ∀ row ∈ rows, selected row = true → change row = row) :
    updateWhere selected change rows = rows :=
  updateWhere_eq_self_iff.mpr none

theorem deleteWhere_eq_self_iff {selected : Row → Bool} {rows : List Row} :
    deleteWhere selected rows = rows ↔ ∀ row ∈ rows, selected row = false := by
  simp [deleteWhere]

theorem updateWhere_congr {selected chosen : Row → Bool} {change : Row → Row} {rows : List Row}
    (agree : ∀ row ∈ rows, selected row = chosen row) :
    updateWhere selected change rows = updateWhere chosen change rows := by
  unfold updateWhere
  apply List.map_congr_left
  intro row member
  rw [agree row member]

theorem find?_updateWhere {selected found : Row → Bool} {change : Row → Row} {rows : List Row}
    (keeps : ∀ row ∈ rows, selected row = true → found (change row) = found row) :
    (updateWhere selected change rows).find? found =
      (rows.find? found).map fun row => if selected row then change row else row := by
  induction rows with
  | nil => rfl
  | cons head tail ih =>
      have tailFound := ih fun row member => keeps row (List.mem_cons_of_mem _ member)
      unfold updateWhere at tailFound ⊢
      have headFound : found (if selected head = true then change head else head) = found head := by
        by_cases chosen : selected head = true
        · rw [if_pos chosen]
          exact keeps head List.mem_cons_self chosen
        · rw [if_neg chosen]
      rw [List.map_cons, List.find?_cons, List.find?_cons, headFound, tailFound]
      cases found head with
      | true => rfl
      | false => rfl

theorem filter_updateWhere {selected keep : Row → Bool} {change : Row → Row} {rows : List Row}
    (outside : ∀ row, selected row = true → keep row = false ∧ keep (change row) = false) :
    (updateWhere selected change rows).filter keep = rows.filter keep := by
  induction rows with
  | nil => rfl
  | cons head tail ih =>
      unfold updateWhere at ih ⊢
      by_cases chosen : selected head = true
      · obtain ⟨before, after⟩ := outside head chosen
        simp only [List.map_cons, if_pos chosen, List.filter_cons_of_neg (Bool.eq_false_iff.mp before),
          List.filter_cons_of_neg (Bool.eq_false_iff.mp after), ih]
      · simp only [List.map_cons, if_neg chosen, List.filter_cons, ih]

theorem filter_updateWhere_gone {selected keep : Row → Bool} {change : Row → Row} {rows : List Row}
    (gone : ∀ row, selected row = true → keep (change row) = false) :
    (updateWhere selected change rows).filter keep =
      (rows.filter keep).filter fun row => !selected row := by
  induction rows with
  | nil => rfl
  | cons head tail ih =>
      unfold updateWhere at ih ⊢
      by_cases chosen : selected head = true
      · have after := gone head chosen
        simp only [List.map_cons, if_pos chosen, List.filter_cons, after, ih]
        cases keep head with
        | false => simp
        | true => simp [chosen]
      · simp only [List.map_cons, if_neg chosen, List.filter_cons, ih]
        cases keep head with
        | false => simp
        | true => simp [chosen]

theorem filter_deleteWhere {selected keep : Row → Bool} {rows : List Row}
    (outside : ∀ row, selected row = true → keep row = false) :
    (deleteWhere selected rows).filter keep = rows.filter keep := by
  rw [deleteWhere, List.filter_filter]
  apply List.filter_congr
  intro row _
  by_cases chosen : selected row = true
  · simp [outside row chosen]
  · simp [chosen]

theorem filter_replaced {selected : Row → Bool} {rows added : List Row}
    (own : ∀ row ∈ added, selected row = true) :
    (deleteWhere selected rows ++ added).filter selected = added := by
  have removed : (deleteWhere selected rows).filter selected = [] := by
    rw [List.filter_eq_nil_iff]
    intro row member chosen
    rw [(mem_deleteWhere.mp member).2] at chosen
    cases chosen
  rw [List.filter_append, removed, List.nil_append, List.filter_eq_self.mpr own]

theorem affected_eq_zero {selected : Row → Bool} {rows : List Row} :
    affected selected rows = 0 ↔ ∀ row ∈ rows, selected row = false := by
  simp [affected, List.countP_eq_zero]

theorem UniqueOn.nil (key : Row → Option Key) : UniqueOn key [] := List.nodup_nil

theorem UniqueOn.tail {key : Row → Option Key} {head : Row} {tail : List Row}
    (unique : UniqueOn key (head :: tail)) : UniqueOn key tail :=
  List.Nodup.sublist (List.Sublist.filterMap key (List.sublist_cons_self head tail)) unique

theorem UniqueOn.eq_of_key {key : Row → Option Key} {rows : List Row}
    (unique : UniqueOn key rows) {left right : Row} (leftMember : left ∈ rows)
    (rightMember : right ∈ rows) {value : Key} (leftKey : key left = some value)
    (rightKey : key right = some value) : left = right := by
  induction rows with
  | nil => cases leftMember
  | cons head tail ih =>
      have distinct : ∀ found, key head = some found →
          ∀ row ∈ tail, key row ≠ some found := by
        intro found headKey row member rowKey
        have nodup : (found :: tail.filterMap key).Nodup := by
          simpa [UniqueOn, List.filterMap_cons, headKey] using unique
        exact (List.nodup_cons.mp nodup).1 (List.mem_filterMap.mpr ⟨row, member, rowKey⟩)
      rcases List.mem_cons.mp leftMember with rfl | leftTail <;>
        rcases List.mem_cons.mp rightMember with rfl | rightTail
      · rfl
      · exact absurd rightKey (distinct value leftKey right rightTail)
      · exact absurd leftKey (distinct value rightKey left leftTail)
      · exact ih unique.tail leftTail rightTail

theorem UniqueOn.find?_eq_some [DecidableEq Key] {key : Row → Key} {rows : List Row}
    (unique : UniqueOn (fun row => some (key row)) rows) {row : Row} (member : row ∈ rows) :
    rows.find? (fun other => key other == key row) = some row := by
  cases found : rows.find? fun other => key other == key row with
  | none =>
      have absent := List.find?_eq_none.mp found row member
      exact (absent (beq_self_eq_true _)).elim
  | some other =>
      have sameKey : key other = key row := by simpa using List.find?_some found
      exact congrArg some (unique.eq_of_key (List.mem_of_find?_eq_some found) member
        (congrArg some sameKey) rfl)

theorem find?_key_eq_some_iff [DecidableEq Key] {key : Row → Key} {keep : Row → Bool}
    {rows : List Row} (unique : (rows.map key).Nodup) {value : Key} {row : Row} :
    rows.find? (fun row => key row == value && keep row) = some row ↔
      row ∈ rows ∧ key row = value ∧ keep row = true := by
  constructor
  · intro found
    have matched := List.find?_some found
    simp only [Bool.and_eq_true, beq_iff_eq] at matched
    exact ⟨List.mem_of_find?_eq_some found, matched⟩
  · intro ⟨member, same, kept⟩
    cases found : rows.find? (fun row => key row == value && keep row) with
    | none => exact absurd (List.find?_eq_none.mp found row member) (by simp [same, kept])
    | some other =>
        have matched := List.find?_some found
        simp only [Bool.and_eq_true, beq_iff_eq] at matched
        have equal := List.inj_on_of_nodup_map unique (List.mem_of_find?_eq_some found) member
          (matched.1.trans same.symm)
        rw [equal]

theorem find?_primary_eq_some_iff [DecidableEq Key] {key : Row → Key} {rows : List Row}
    (unique : (rows.map key).Nodup) {value : Key} {row : Row} :
    rows.find? (fun row => key row == value) = some row ↔ row ∈ rows ∧ key row = value := by
  have found := @find?_key_eq_some_iff _ _ _ key (fun _ => true) rows unique value row
  simpa only [Bool.and_true, and_true] using found

theorem map_filterMap_lookup {Target : Type} {find : Row → Option Target} {rowKey : Row → Key}
    {targetKey : Target → Key} {rows : List Row}
    (found : ∀ row ∈ rows, ∃ target, find row = some target ∧ targetKey target = rowKey row) :
    (rows.filterMap find).map targetKey = rows.map rowKey := by
  induction rows with
  | nil => rfl
  | cons row rows ih =>
      obtain ⟨target, here, same⟩ := found row List.mem_cons_self
      have later := ih fun other member => found other (List.mem_cons_of_mem _ member)
      rw [List.filterMap_cons_some here, List.map_cons, List.map_cons, same, later]

theorem exists_find?_of_any {selected : Row → Bool} {rows : List Row}
    (present : rows.any selected = true) :
    ∃ row, rows.find? selected = some row ∧ selected row = true := by
  obtain ⟨stored, member, same⟩ := List.any_eq_true.mp present
  obtain ⟨row, found⟩ := Option.isSome_iff_exists.mp (List.find?_isSome.mpr ⟨stored, member, same⟩)
  exact ⟨row, found, List.find?_some found⟩

/-- An update that adds to a column adds as much to its sum for each row that it touches. -/
theorem sum_updateWhere {selected : Row → Bool} {change : Row → Row} {rows : List Row}
    {value : Row → Int} {step : Int}
    (grows : ∀ row ∈ rows, selected row = true → value (change row) = value row + step) :
    ((updateWhere selected change rows).map value).sum =
      (rows.map value).sum + affected selected rows * step := by
  induction rows with
  | nil => simp [updateWhere, affected]
  | cons head tail ih =>
      have rest := ih fun row member => grows row (List.mem_cons_of_mem _ member)
      simp only [updateWhere, affected, List.map_cons, List.sum_cons] at rest ⊢
      by_cases chosen : selected head = true
      · rw [if_pos chosen, List.countP_cons_of_pos chosen, grows head List.mem_cons_self chosen,
          rest, Int.natCast_add, Int.add_mul, Int.natCast_one, Int.one_mul]
        omega
      · rw [if_neg chosen, List.countP_cons_of_neg chosen, rest, Int.add_assoc]

theorem UniqueOn.affected_eq_one {key : Row → Option Key} {rows : List Row}
    (unique : UniqueOn key rows) {selected : Row → Bool} (value : Key)
    (keyed : ∀ row ∈ rows, selected row = true → key row = some value)
    {row : Row} (member : row ∈ rows) (chosen : selected row = true) :
    affected selected rows = 1 := by
  induction rows with
  | nil => cases member
  | cons head tail ih =>
      have tailKeyed := fun other otherMember =>
        keyed other (List.mem_cons_of_mem head otherMember)
      by_cases headChosen : selected head = true
      · have others : affected selected tail = 0 := by
          rw [affected_eq_zero]
          intro other otherMember
          by_contra otherChosen
          have nodup : (value :: tail.filterMap key).Nodup := by
            simpa [UniqueOn, List.filterMap_cons,
              keyed head List.mem_cons_self headChosen] using unique
          exact (List.nodup_cons.mp nodup).1 (List.mem_filterMap.mpr
            ⟨other, otherMember, tailKeyed other otherMember (by simpa using otherChosen)⟩)
        simp only [affected] at others
        simp [affected, headChosen, others]
      · rcases List.mem_cons.mp member with rfl | tailMember
        · exact absurd chosen headChosen
        · simpa [affected, headChosen] using ih unique.tail tailKeyed tailMember

theorem UniqueOn.updateWhere {key : Row → Option Key} {selected : Row → Bool}
    {change : Row → Row} {rows : List Row} (unique : UniqueOn key rows)
    (keeps : ∀ row ∈ rows, selected row = true →
      key (change row) = key row ∨ key (change row) = none) :
    UniqueOn key (Table.updateWhere selected change rows) := by
  refine List.Nodup.sublist ?_ unique
  clear unique
  induction rows with
  | nil => exact List.Sublist.refl _
  | cons head tail ih =>
      have tailSublist := ih fun row member => keeps row (List.mem_cons_of_mem _ member)
      simp only [Table.updateWhere, List.map_cons, List.filterMap_cons] at tailSublist ⊢
      by_cases chosen : selected head = true
      · rw [if_pos chosen]
        rcases keeps head List.mem_cons_self chosen with same | gone
        · rw [same]
          cases key head with
          | none => exact tailSublist
          | some value => exact tailSublist.cons_cons value
        · rw [gone]
          cases key head with
          | none => exact tailSublist
          | some value => exact tailSublist.cons value
      · rw [if_neg chosen]
        cases key head with
        | none => exact tailSublist
        | some value => exact tailSublist.cons_cons value

theorem UniqueOn.deleteWhere {key : Row → Option Key} {rows : List Row}
    (unique : UniqueOn key rows) (selected : Row → Bool) :
    UniqueOn key (Table.deleteWhere selected rows) :=
  List.Nodup.sublist (List.Sublist.filterMap key List.filter_sublist) unique

theorem UniqueOn.insert {key : Row → Option Key} {rows : List Row} {row : Row}
    (unique : UniqueOn key rows)
    (absent : ∀ value, key row = some value → ∀ other ∈ rows, key other ≠ some value) :
    UniqueOn key (rows ++ [row]) := by
  unfold UniqueOn
  rw [List.filterMap_append, List.nodup_append]
  cases rowKey : key row with
  | none =>
      refine ⟨unique, by simp [rowKey], ?_⟩
      intro first _ second secondMember
      simp [rowKey] at secondMember
  | some value =>
      refine ⟨unique, by simp [rowKey], ?_⟩
      intro first firstMember second secondMember same
      have secondValue : second = value := by
        simpa [rowKey] using secondMember
      obtain ⟨other, otherMember, otherKey⟩ := List.mem_filterMap.mp firstMember
      exact absent value rowKey other otherMember (by rw [otherKey, same, secondValue])

theorem UniqueOn.nodup_map_filter {Half Other : Type} {first : Row → Half} {second : Row → Other}
    {rows : List Row} (unique : UniqueOn (fun row => some (first row, second row)) rows)
    {kept : Row → Bool} {value : Half} (shared : ∀ row, kept row = true → first row = value) :
    ((rows.filter kept).map second).Nodup := by
  rw [UniqueOn, List.filterMap_eq_map'] at unique
  have pairs := unique.sublist (List.filter_sublist.map fun row => (first row, second row) :
    ((rows.filter kept).map fun row => (first row, second row)).Sublist _)
  have halves : ((rows.filter kept).map fun row => (first row, second row)) =
      ((rows.filter kept).map second).map (Prod.mk value) := by
    rw [List.map_map]
    refine List.map_congr_left fun row member => ?_
    exact congrArg (·, second row) (shared row (List.mem_filter.mp member).2)
  rw [halves] at pairs
  exact pairs.of_map

end Roosty.Library.Table
