import Mathlib.Data.List.DropRight
import Mathlib.Data.List.Infix
import Roosty.Library.Text

/-!
# Pieces of a text

A text in pieces that end at separators, and texts that are looked for in it and do not
contain the letter between two parts.
-/

set_option autoImplicit false

namespace Roosty.Library.Text

section

variable {Letter : Type}

/-- `str::split_inclusive`. -/
def splitInclusive (separates : Letter → Bool) : List Letter → List (List Letter)
  | [] => []
  | first :: rest =>
      if separates first then [first] :: splitInclusive separates rest
      else
        match splitInclusive separates rest with
        | [] => [[first]]
        | piece :: pieces => (first :: piece) :: pieces

variable {separates : Letter → Bool} {word rest : List Letter} {separator : Letter}

theorem splitInclusive_separated (solid : ∀ letter ∈ word, separates letter = false)
    (ends : separates separator = true) :
    splitInclusive separates (word ++ separator :: rest) =
      (word ++ [separator]) :: splitInclusive separates rest := by
  induction word with
  | nil => exact if_pos ends
  | cons first word ih =>
      have tail := ih fun letter member => solid letter (List.mem_cons_of_mem _ member)
      rw [List.cons_append, splitInclusive, solid first List.mem_cons_self, tail]
      rfl

theorem splitInclusive_last (solid : ∀ letter ∈ word, separates letter = false)
    (nonempty : word ≠ []) : splitInclusive separates word = [word] := by
  induction word with
  | nil => exact absurd rfl nonempty
  | cons first word ih =>
      rw [splitInclusive, solid first List.mem_cons_self]
      cases word with
      | nil => rfl
      | cons second word =>
          rw [ih (fun letter member => solid letter (List.mem_cons_of_mem _ member))
            (List.cons_ne_nil _ _)]
          rfl

/-- A text is empty, one word, or a word that is ended by a separator before a text. -/
theorem pieces_induction {motive : List Letter → Prop} (empty : motive [])
    (last : ∀ word, word ≠ [] → (∀ letter ∈ word, separates letter = false) → motive word)
    (separated : ∀ word separator rest, (∀ letter ∈ word, separates letter = false) →
      separates separator = true → motive rest → motive (word ++ separator :: rest))
    (text : List Letter) : motive text := by
  induction length : text.length using Nat.strong_induction_on generalizing text with
  | _ count shorter =>
      subst length
      have solid : ∀ letter ∈ text.takeWhile (!separates ·), separates letter = false := by
        intro letter member
        simpa using List.mem_takeWhile_imp member
      have whole := List.takeWhile_append_dropWhile (p := (!separates ·)) (l := text)
      cases tail : text.dropWhile (!separates ·) with
      | nil =>
          rw [tail, List.append_nil] at whole
          by_cases nonempty : text = []
          · rw [nonempty]
            exact empty
          · rw [whole] at solid
            exact last text nonempty solid
      | cons separator rest =>
          have ends : separates separator = true := by
            have head := List.head_dropWhile_not (!separates ·) (l := text) (by simp [tail])
            simpa [tail] using head
          rw [tail] at whole
          rw [← whole]
          refine separated _ separator rest solid ends (shorter rest.length ?_ rest rfl)
          conv_rhs => rw [← whole]
          rw [List.length_append, List.length_cons]
          omega

end

section

variable {Letter : Type} {sought before after text : List Letter} {letter : Letter}

theorem infix_append_cons (absent : letter ∉ sought) (found : sought <:+: before ++ letter :: after) :
    sought <:+: before ∨ sought <:+: after := by
  obtain ⟨front, back, whole⟩ := found
  rw [List.append_assoc] at whole
  rcases List.append_eq_append_iff.mp whole with ⟨middle, rfl, rest⟩ | ⟨middle, rfl, rest⟩
  · -- the front ends inside of `before`
    rcases List.append_eq_append_iff.mp rest with ⟨inner, rfl, _⟩ | ⟨inner, same, rest⟩
    · exact .inl ⟨front, inner, by rw [List.append_assoc]⟩
    · cases inner with
      | nil =>
          rw [List.append_nil] at same
          exact .inl ⟨front, [], by rw [same, List.append_nil]⟩
      | cons first inner =>
          rw [List.cons_append] at rest
          rw [← List.head_eq_of_cons_eq rest] at same
          exact absurd (same ▸ List.mem_append_right middle List.mem_cons_self) absent
  · cases middle with
    | nil =>
        cases sought with
        | nil => exact .inl (List.nil_infix)
        | cons first sought =>
            have head : first = letter := (List.head_eq_of_cons_eq rest).symm
            exact absurd (head ▸ List.mem_cons_self) absent
    | cons first middle =>
        exact .inr ⟨middle, back, by rw [List.append_assoc]; exact (List.tail_eq_of_cons_eq rest).symm⟩

end

section

variable {separator text before after : List Char} {first : Char} {rest : List Char}

theorem splitOnceText_here (after : List Char) (nonempty : separator ≠ []) :
    splitOnceText separator (separator ++ after) = some ([], after) := by
  cases separator with
  | nil => exact absurd rfl nonempty
  | cons letter separator =>
      have here : (letter :: separator).isPrefixOf? (letter :: (separator ++ after)) = some after :=
        List.isPrefixOf?_eq_some_iff_append_eq.mpr rfl
      rw [List.cons_append, splitOnceText, here]

theorem splitOnceText_cons (elsewhere : ¬ separator <+: first :: rest) :
    splitOnceText separator (first :: rest) =
      (splitOnceText separator rest).map fun parts => (first :: parts.1, parts.2) := by
  have none : separator.isPrefixOf? (first :: rest) = none := by
    by_contra some
    obtain ⟨after, here⟩ := Option.ne_none_iff_exists'.mp some
    exact elsewhere ⟨after, List.isPrefixOf?_eq_some_iff_append_eq.mp here⟩
  rw [splitOnceText, none]

theorem splitOnceText_some (split : splitOnceText separator text = some (before, after)) :
    text = before ++ separator ++ after := by
  induction text generalizing before with
  | nil =>
      unfold splitOnceText at split
      split at split
      next empty =>
        cases split
        rw [List.isEmpty_iff.mp empty]
        rfl
      next => cases split
  | cons first rest ih =>
      by_cases here : separator <+: first :: rest
      · obtain ⟨tail, whole⟩ := here
        have found : separator.isPrefixOf? (first :: rest) = some tail :=
          List.isPrefixOf?_eq_some_iff_append_eq.mpr whole
        rw [splitOnceText, found] at split
        cases split
        exact whole.symm
      · rw [splitOnceText_cons here] at split
        obtain ⟨⟨front, back⟩, later, same⟩ := Option.map_eq_some_iff.mp split
        cases same
        rw [ih later]
        rfl

theorem splitOnceText_none (absent : ¬ separator <:+: text) :
    splitOnceText separator text = none := by
  cases split : splitOnceText separator text with
  | none => rfl
  | some parts => exact absurd ⟨parts.1, parts.2, (splitOnceText_some split).symm⟩ absent

theorem splitOnceText_isSome (nonempty : separator ≠ []) (found : separator <:+: text) :
    (splitOnceText separator text).isSome = true := by
  induction text with
  | nil => exact absurd (List.infix_nil.mp found) nonempty
  | cons first rest ih =>
      by_cases here : separator <+: first :: rest
      · obtain ⟨tail, whole⟩ := here
        rw [← whole, splitOnceText_here tail nonempty]
        rfl
      · rw [splitOnceText_cons here, Option.isSome_map]
        exact ih ((List.infix_cons_iff.mp found).resolve_left here)

end

end Roosty.Library.Text
