import Roosty.Library.Text
import Mathlib.Data.List.Infix

/-! Trimmed texts: what trimming removes, and what it leaves to later readers. -/

set_option autoImplicit false

namespace Roosty.Library.Text

section

variable {dropped : Char → Bool} {text : List Char}

theorem trimMatches_between (dropped : Char → Bool) (text : List Char) :
    text = text.takeWhile dropped ++
      (trimMatches dropped text ++ (text.dropWhile dropped).rtakeWhile dropped) := by
  unfold trimMatches
  rw [List.rdropWhile_append_rtakeWhile, List.takeWhile_append_dropWhile]

theorem dropWhile_trimMatches :
    (trimMatches dropped text).dropWhile dropped = trimMatches dropped text := by
  unfold trimMatches
  rw [List.dropWhile_eq_self_iff]
  intro nonempty first
  have front : (text.dropWhile dropped).rdropWhile dropped <+: text.dropWhile dropped :=
    List.rdropWhile_prefix dropped _
  have length := front.length_le
  rw [List.IsPrefix.getElem front nonempty] at first
  exact List.dropWhile_get_zero_not dropped text (by omega) first

theorem trimMatches_trimMatches :
    trimMatches dropped (trimMatches dropped text) = trimMatches dropped text := by
  conv_lhs => rw [trimMatches, dropWhile_trimMatches]
  unfold trimMatches
  rw [List.rdropWhile_idempotent]

theorem trimMatches_eq_self (kept : ∀ character ∈ text, dropped character = false) :
    trimMatches dropped text = text := by
  have front : text.dropWhile dropped = text := by
    rw [List.dropWhile_eq_self_iff]
    intro nonempty first
    rw [kept _ (List.getElem_mem nonempty)] at first
    cases first
  rw [trimMatches, front, List.rdropWhile_eq_self_iff]
  intro nonempty last
  rw [kept _ (List.getLast_mem nonempty)] at last
  cases last

end

@[simp] theorem toList_trim (text : String) :
    (trim text).toList = trimMatches isWhitespace text.toList := by
  rw [trim, String.toList_ofList]

@[simp] theorem trim_trim (text : String) : trim (trim text) = trim text := by
  conv_lhs => rw [trim, toList_trim, trimMatches_trimMatches]
  rw [trim]

theorem trim_eq_self {text : String}
    (kept : ∀ character ∈ text.toList, isWhitespace character = false) : trim text = text := by
  rw [trim, trimMatches_eq_self kept, String.ofList_toList]

private theorem splitOnP_append_front {front rest : List Char}
    (separators : ∀ character ∈ front, isWhitespace character = true) :
    ((front ++ rest).splitOnP isWhitespace).filter (fun piece => !piece.isEmpty) =
      (rest.splitOnP isWhitespace).filter fun piece => !piece.isEmpty := by
  induction front with
  | nil => rfl
  | cons first front ih =>
      have separates := separators first List.mem_cons_self
      rw [List.cons_append, List.splitOnP_cons_eq_if_modifyHead, if_pos separates,
        List.filter_cons_of_neg (by simp)]
      exact ih fun character member => separators character (List.mem_cons_of_mem _ member)

private theorem splitOnP_append_back {text back : List Char}
    (separators : ∀ character ∈ back, isWhitespace character = true) :
    ((text ++ back).splitOnP isWhitespace).filter (fun piece => !piece.isEmpty) =
      (text.splitOnP isWhitespace).filter fun piece => !piece.isEmpty := by
  cases back with
  | nil => rw [List.append_nil]
  | cons first back =>
      have separates := separators first List.mem_cons_self
      have remaining : (back.splitOnP isWhitespace).filter (fun piece => !piece.isEmpty) =
          (([] : List Char).splitOnP isWhitespace).filter fun piece => !piece.isEmpty := by
        have emptied := @splitOnP_append_front back [] fun character member =>
          separators character (List.mem_cons_of_mem first member)
        rwa [List.append_nil] at emptied
      rw [List.splitOnP_append_cons text back separates, List.filter_append, remaining]
      simp

theorem splitWhitespace_trimMatches (text : List Char) :
    splitWhitespace (trimMatches isWhitespace text) = splitWhitespace text := by
  have front : ∀ character ∈ text.takeWhile isWhitespace, isWhitespace character = true :=
    fun character member => List.mem_takeWhile_imp member
  have back : ∀ character ∈ (text.dropWhile isWhitespace).rtakeWhile isWhitespace,
      isWhitespace character = true :=
    fun character member => List.mem_rtakeWhile_imp member
  conv_rhs => rw [splitWhitespace, trimMatches_between isWhitespace text,
    splitOnP_append_front front, splitOnP_append_back back]
  rfl

private theorem infix_of_append_front {dropped : Char → Bool} {word front rest : List Char}
    (kept : ∀ character, word.head? = some character → dropped character = false)
    (goes : ∀ character ∈ front, dropped character = true) (inside : word <:+: front ++ rest) :
    word <:+: rest := by
  induction front with
  | nil => exact inside
  | cons first front ih =>
      rcases List.infix_cons_iff.mp inside with here | later
      · cases word with
        | nil => exact List.nil_infix
        | cons letter word =>
            have same : letter = first := (List.cons_prefix_cons.mp here).1
            have keeps := kept letter rfl
            rw [same, goes first List.mem_cons_self] at keeps
            cases keeps
      · exact ih (fun character member => goes character (List.mem_cons_of_mem _ member)) later

theorem infix_trimMatches {dropped : Char → Bool} {word text : List Char}
    (keptHead : ∀ character, word.head? = some character → dropped character = false)
    (keptLast : ∀ character, word.getLast? = some character → dropped character = false) :
    word <:+: trimMatches dropped text ↔ word <:+: text := by
  have between := trimMatches_between dropped text
  have front : ∀ character ∈ text.takeWhile dropped, dropped character = true :=
    fun character member => List.mem_takeWhile_imp member
  have back : ∀ character ∈ ((text.dropWhile dropped).rtakeWhile dropped).reverse,
      dropped character = true :=
    fun character member => List.mem_rtakeWhile_imp (List.mem_reverse.mp member)
  constructor
  · intro inside
    rw [between]
    exact inside.trans (List.infix_append' _ _ _)
  · intro inside
    rw [between] at inside
    have inner := List.reverse_infix.mpr (infix_of_append_front keptHead front inside)
    rw [List.reverse_append] at inner
    have keptReverse : ∀ character, word.reverse.head? = some character →
        dropped character = false := by
      rw [List.head?_reverse]
      exact keptLast
    exact List.reverse_infix.mp (infix_of_append_front keptReverse back inner)

end Roosty.Library.Text
