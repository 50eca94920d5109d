import Roosty.Library.Text

/-! The words of a text, and texts that are joined from words. -/

set_option autoImplicit false

namespace Roosty.Library.Text

theorem separator_of_mem_splitOnP {separates : Char → Bool} {text piece : List Char}
    (member : piece ∈ text.splitOnP separates) {character : Char} (inside : character ∈ piece) :
    separates character = false := by
  induction text generalizing piece with
  | nil =>
      rw [List.splitOnP_nil, List.mem_singleton] at member
      rw [member] at inside
      cases inside
  | cons first rest ih =>
      rw [List.splitOnP_cons_eq_if_modifyHead] at member
      split at member
      · rcases List.mem_cons.mp member with rfl | later
        · cases inside
        · exact ih later inside
      next kept =>
        cases pieces : rest.splitOnP separates with
        | nil => exact absurd pieces (List.splitOnP_ne_nil separates rest)
        | cons head tail =>
            rw [pieces, List.modifyHead_cons] at member
            rcases List.mem_cons.mp member with rfl | later
            · rcases List.mem_cons.mp inside with rfl | inside
              · simpa using kept
              · exact ih (by simp [pieces]) inside
            · exact ih (by simp [pieces, later]) inside

structure IsWord (text : List Char) : Prop where
  nonempty : text ≠ []
  solid : ∀ character ∈ text, isWhitespace character = false

theorem isWord_of_mem {text word : List Char} (member : word ∈ splitWhitespace text) :
    IsWord word := by
  obtain ⟨piece, nonempty⟩ := List.mem_filter.mp member
  exact ⟨by simpa using nonempty, fun _ inside => separator_of_mem_splitOnP piece inside⟩

theorem splitWhitespace_intercalate {words : List (List Char)}
    (solid : ∀ word ∈ words, IsWord word) : splitWhitespace ([' '].intercalate words) = words := by
  induction words with
  | nil => rfl
  | cons word words ih =>
      have here := solid word List.mem_cons_self
      have rest := ih fun other member => solid other (List.mem_cons_of_mem _ member)
      have keeps : (!word.isEmpty) = true := by simp [here.nonempty]
      cases words with
      | nil =>
          rw [List.intercalate_singleton, splitWhitespace, List.splitOnP_eq_singleton here.solid,
            List.filter_cons, if_pos keeps, List.filter_nil]
      | cons next words =>
          have space : isWhitespace ' ' = true := by decide
          rw [List.intercalate_cons_cons, splitWhitespace, List.append_assoc,
            List.singleton_append, List.splitOnP_append_cons_of_forall_mem here.solid ' ' space,
            List.filter_cons, if_pos keeps]
          exact congrArg (word :: ·) rest

theorem splitOnce_some {separator : Char} {text before after : List Char}
    (split : splitOnce separator text = some (before, after)) :
    text = before ++ separator :: after := by
  induction text generalizing before with
  | nil => cases split
  | cons first rest ih =>
      unfold splitOnce at split
      by_cases separates : first = separator
      · subst separates
        simp only [bne_self_eq_false, Bool.false_eq_true, not_false_eq_true,
          List.dropWhile_cons_of_neg, List.takeWhile_cons_of_neg] at split
        cases split
        rfl
      · have kept : (first != separator) = true := by simpa using separates
        rw [List.dropWhile_cons, if_pos kept, List.takeWhile_cons, kept] at split
        split at split
        · cases split
        next stopped tail found =>
          cases split
          have later : splitOnce separator rest =
              some (rest.takeWhile (· != separator), after) := by
            rw [splitOnce, found]
          rw [if_pos rfl, List.cons_append, ← ih later]

end Roosty.Library.Text
