import Mathlib.Data.List.Basic

/-! Byte offsets into UTF-8 text. Text is a list of characters; an offset is a boundary
when a prefix has that many bytes, and a slice between other offsets does not exist. -/

set_option autoImplicit false

namespace Roosty.Library.Offsets

def byteLength : List Char → Nat
  | [] => 0
  | character :: text => character.utf8Size + byteLength text

/-- The text before and after a byte offset, if it is a boundary. -/
def splitBytes : Nat → List Char → Option (List Char × List Char)
  | 0, text => some ([], text)
  | _ + 1, [] => none
  | offset + 1, character :: text =>
      if character.utf8Size ≤ offset + 1 then
        (splitBytes (offset + 1 - character.utf8Size) text).map fun parts =>
          (character :: parts.1, parts.2)
      else none

/-- `text[start..stop]`, unless an offset is out of order, out of bounds or no boundary. -/
def slice (text : List Char) (start stop : Nat) : Option (List Char) :=
  if start ≤ stop then
    (splitBytes start text).bind fun parts => (splitBytes (stop - start) parts.2).map Prod.fst
  else none

@[simp] theorem byteLength_nil : byteLength [] = 0 := rfl

@[simp] theorem byteLength_cons (character : Char) (text : List Char) :
    byteLength (character :: text) = character.utf8Size + byteLength text := rfl

@[simp] theorem byteLength_append (front back : List Char) :
    byteLength (front ++ back) = byteLength front + byteLength back := by
  induction front with
  | nil => simp
  | cons character front ih =>
      simp only [List.cons_append, byteLength_cons, ih]
      omega

theorem byteLength_eq_zero {text : List Char} (empty : byteLength text = 0) : text = [] := by
  cases text with
  | nil => rfl
  | cons character text =>
      have positive := character.utf8Size_pos
      simp only [byteLength_cons] at empty
      omega

theorem splitBytes_eq_some_iff {offset : Nat} {text front back : List Char} :
    splitBytes offset text = some (front, back) ↔
      text = front ++ back ∧ byteLength front = offset := by
  induction text generalizing offset front with
  | nil =>
      cases offset with
      | zero =>
          simp only [splitBytes, Option.some.injEq, Prod.mk.injEq, List.nil_eq_append_iff]
          constructor
          · rintro ⟨rfl, rfl⟩
            exact ⟨⟨rfl, rfl⟩, rfl⟩
          · rintro ⟨⟨rfl, rfl⟩, _⟩
            exact ⟨rfl, rfl⟩
      | succ offset =>
          simp only [splitBytes, reduceCtorEq, false_iff, List.nil_eq_append_iff]
          rintro ⟨⟨rfl, rfl⟩, size⟩
          cases size
  | cons character text ih =>
      have positive := character.utf8Size_pos
      cases offset with
      | zero =>
          simp only [splitBytes, Option.some.injEq, Prod.mk.injEq]
          constructor
          · rintro ⟨rfl, rfl⟩
            exact ⟨rfl, rfl⟩
          · rintro ⟨whole, size⟩
            have none := byteLength_eq_zero size
            subst none
            exact ⟨rfl, whole⟩
      | succ offset =>
          cases front with
          | nil =>
              have other : ∀ parts : Option (List Char × List Char),
                  parts.map (fun parts => (character :: parts.1, parts.2)) ≠ some ([], back) := by
                rintro (_ | parts) same
                · cases same
                · cases same
              unfold splitBytes
              split
              · simp [other]
              · simp
          | cons first front =>
              unfold splitBytes
              split
              next fits =>
                simp only [Option.map_eq_some_iff, Prod.exists, Prod.mk.injEq, List.cons.injEq,
                  List.cons_append, byteLength_cons]
                constructor
                · rintro ⟨rest, after, parts, ⟨rfl, rfl⟩, rfl⟩
                  obtain ⟨rfl, size⟩ := ih.mp parts
                  exact ⟨⟨rfl, rfl⟩, by omega⟩
                · rintro ⟨⟨rfl, rfl⟩, size⟩
                  exact ⟨front, back, ih.mpr ⟨rfl, by omega⟩, ⟨rfl, rfl⟩, rfl⟩
              next cut =>
                simp only [reduceCtorEq, false_iff, List.cons_append, List.cons.injEq,
                  byteLength_cons]
                rintro ⟨⟨rfl, rfl⟩, size⟩
                omega

theorem slice_eq_some_iff {text piece : List Char} {start stop : Nat} :
    slice text start stop = some piece ↔
      ∃ front back, text = front ++ (piece ++ back) ∧ byteLength front = start ∧
        start + byteLength piece = stop := by
  unfold slice
  split
  next ordered =>
    rw [Option.bind_eq_some_iff]
    constructor
    · rintro ⟨⟨front, after⟩, first, second⟩
      obtain ⟨⟨middle, back⟩, taken, rfl⟩ := Option.map_eq_some_iff.mp second
      obtain ⟨rfl, size⟩ := splitBytes_eq_some_iff.mp first
      obtain ⟨whole, length⟩ := splitBytes_eq_some_iff.mp taken
      dsimp only at whole ⊢
      subst whole
      exact ⟨front, back, rfl, size, by omega⟩
    · rintro ⟨front, back, rfl, size, length⟩
      refine ⟨(front, piece ++ back), splitBytes_eq_some_iff.mpr ⟨rfl, size⟩, ?_⟩
      rw [splitBytes_eq_some_iff.mpr ⟨rfl, by omega⟩]
      rfl
  next unordered =>
    simp only [reduceCtorEq, false_iff]
    rintro ⟨front, back, rfl, size, length⟩
    omega

theorem prefix_of_byteLength_le {front back longer rest : List Char}
    (same : front ++ back = longer ++ rest) (shorter : byteLength front ≤ byteLength longer) :
    ∃ gap, longer = front ++ gap ∧ back = gap ++ rest := by
  rcases List.append_eq_append_iff.mp same with ⟨gap, extended, suffix⟩ | ⟨gap, extended, suffix⟩
  · exact ⟨gap, extended, suffix⟩
  · have none : gap = [] := by
      refine byteLength_eq_zero ?_
      rw [extended, byteLength_append] at shorter
      omega
    subst none
    exact ⟨[], by simpa using extended.symm, by simpa using suffix.symm⟩

theorem slice_append {text first second : List Char} {start middle stop : Nat}
    (before : slice text start middle = some first) (after : slice text middle stop = some second) :
    slice text start stop = some (first ++ second) := by
  obtain ⟨front, rest, whole, offset, size⟩ := slice_eq_some_iff.mp before
  obtain ⟨longer, back, again, start', length⟩ := slice_eq_some_iff.mp after
  have same : (front ++ first) ++ rest = longer ++ (second ++ back) := by
    rw [List.append_assoc, ← whole, again]
  have sizes : byteLength (front ++ first) = byteLength longer := by
    rw [byteLength_append]
    omega
  obtain ⟨gap, rfl, rfl⟩ := prefix_of_byteLength_le same (Nat.le_of_eq sizes)
  have none : gap = [] := by
    refine byteLength_eq_zero ?_
    rw [byteLength_append (front ++ first) gap] at sizes
    omega
  subst none
  refine slice_eq_some_iff.mpr ⟨front, back, ?_, offset, ?_⟩
  · rw [whole, List.nil_append, List.append_assoc]
  · rw [byteLength_append]
    omega

theorem slice_whole (text : List Char) : slice text 0 (byteLength text) = some text :=
  slice_eq_some_iff.mpr ⟨[], [], (List.append_nil text).symm, byteLength_nil, Nat.zero_add _⟩

end Roosty.Library.Offsets
