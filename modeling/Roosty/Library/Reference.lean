import Mathlib.Data.Set.Basic
import Roosty.Library.Table

/-! Keys that the rows of one table define, and the rows of another need. A row need
not define a key. -/

set_option autoImplicit false

namespace Roosty.Library.Table

variable {Row Key : Type} {key : Row → Option Key} {rows added : List Row} {gone : Set Key}
  {selected : Row → Bool} {change : Row → Row}

def keys (key : Row → Option Key) (rows : List Row) : Set Key :=
  {value | ∃ row ∈ rows, key row = some value}

theorem mem_keys {value : Key} : value ∈ keys key rows ↔ ∃ row ∈ rows, key row = some value :=
  Iff.rfl

theorem keys_append : keys key (rows ++ added) = keys key rows ∪ keys key added := by
  ext value
  simp only [mem_keys, List.mem_append, Set.mem_union, or_and_right, exists_or]

theorem keys_mono {fewer : List Row} (subset : fewer ⊆ rows) : keys key fewer ⊆ keys key rows := by
  rintro value ⟨row, member, defined⟩
  exact ⟨row, subset member, defined⟩

theorem keys_deleteWhere_subset : keys key (deleteWhere selected rows) ⊆ keys key rows :=
  keys_mono (List.filter_subset_self rows)

theorem keys_deleteWhere_subset_diff
    (removes : ∀ row ∈ rows, ∀ value ∈ gone, key row = some value → selected row = true) :
    keys key (deleteWhere selected rows) ⊆ keys key rows \ gone := by
  rintro value ⟨row, member, defined⟩
  obtain ⟨stored, kept⟩ := mem_deleteWhere.mp member
  refine ⟨⟨row, stored, defined⟩, fun left => ?_⟩
  rw [removes row stored value left defined] at kept
  cases kept

theorem diff_subset_keys_deleteWhere
    (spares : ∀ row ∈ rows, selected row = true → ∀ value, key row = some value → value ∈ gone) :
    keys key rows \ gone ⊆ keys key (deleteWhere selected rows) := by
  rintro value ⟨⟨row, member, defined⟩, left⟩
  refine ⟨row, mem_deleteWhere.mpr ⟨member, ?_⟩, defined⟩
  by_contra chosen
  exact left (spares row member (by simpa using chosen) value defined)

theorem diff_subset_keys_updateWhere
    (spares : ∀ row ∈ rows, selected row = true → ∀ value, key row = some value →
      key (change row) = some value ∨ value ∈ gone) :
    keys key rows \ gone ⊆ keys key (updateWhere selected change rows) := by
  rintro value ⟨⟨row, member, defined⟩, left⟩
  by_cases chosen : selected row = true
  · obtain same | away := spares row member chosen value defined
    · exact ⟨change row, mem_updateWhere.mpr (.inr ⟨row, member, chosen, rfl⟩), same⟩
    · exact absurd away left
  · exact ⟨row, mem_updateWhere.mpr (.inl ⟨member, by simpa using chosen⟩), defined⟩

theorem keys_updateWhere_subset
    (spares : ∀ row ∈ rows, selected row = true → ∀ value, key row = some value →
      key (change row) = some value) :
    keys key rows ⊆ keys key (updateWhere selected change rows) := by
  have kept : keys key rows \ ∅ ⊆ keys key (updateWhere selected change rows) :=
    diff_subset_keys_updateWhere fun row member chosen value defined =>
      .inl (spares row member chosen value defined)
  rwa [Set.sdiff_empty] at kept

/-- Needed keys stay defined when what is added to them is defined, and what is no longer
defined is no longer needed. -/
theorem subset_of_replaced (added gone : Set Key) {needed defined needed' defined' : Set Key}
    (less : needed' ⊆ (needed ∪ added) \ gone) (more : (defined ∪ added) \ gone ⊆ defined')
    (subset : needed ⊆ defined) : needed' ⊆ defined' := by
  intro value member
  obtain ⟨present, left⟩ := less member
  refine more ⟨?_, left⟩
  obtain before | new := present
  · exact .inl (subset before)
  · exact .inr new

end Roosty.Library.Table
