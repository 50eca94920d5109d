import Mathlib.Data.List.Forall2
import Mathlib.Data.List.Infix

/-!
# Suffixes at a separator

Three ways to ask whether a text ends with another text at a separator: by the joined
tails of its labels, by stripping the suffix, and by a `LIKE` pattern of SQL, in which
some letters are wildcards.
-/

set_option autoImplicit false

namespace Roosty.Library.TextMatch

section

variable {Letter : Type}

/-- The suffix is the whole text, or stands behind a separator. -/
def Below (separator : Letter) (suffix text : List Letter) : Prop :=
  text = suffix ∨ ∃ before, text = before ++ separator :: suffix

variable [DecidableEq Letter] {separator : Letter} {suffix text : List Letter}

/-!
## Labels
-/

/-- The joined tails of the labels of a text, without the tail of one label. -/
def labelSuffixes (separator : Letter) (text : List Letter) : List (List Letter) :=
  let labels := text.splitOn separator
  (List.range (labels.length - 1)).map fun index => [separator].intercalate (labels.drop index)

omit [DecidableEq Letter] in
private theorem intercalate_append {first second : List (List Letter)} (firstSome : first ≠ [])
    (secondSome : second ≠ []) :
    [separator].intercalate (first ++ second) =
      [separator].intercalate first ++ separator :: [separator].intercalate second := by
  induction first with
  | nil => exact absurd rfl firstSome
  | cons head tail ih =>
      by_cases last : tail = []
      · subst last
        rw [List.cons_append, List.nil_append, List.intercalate_cons_of_ne_nil secondSome,
          List.intercalate_singleton, List.append_assoc, List.singleton_append]
      · have appended : tail ++ second ≠ [] := by simp [last]
        rw [List.cons_append, List.intercalate_cons_of_ne_nil appended, ih last,
          List.intercalate_cons_of_ne_nil last]
        simp only [List.append_assoc]

private theorem one_lt_length_splitOn (member : separator ∈ text) :
    1 < (text.splitOn separator).length := by
  obtain ⟨before, after, rfl⟩ := List.append_of_mem member
  rw [List.splitOn_append_cons_self, List.length_append]
  have first := List.length_pos_iff.mpr (List.splitOn_ne_nil separator before)
  have second := List.length_pos_iff.mpr (List.splitOn_ne_nil separator after)
  omega

private theorem below_drop {index : Nat} (inside : index < (text.splitOn separator).length) :
    Below separator ([separator].intercalate ((text.splitOn separator).drop index)) text := by
  cases index with
  | zero =>
      left
      rw [List.drop_zero, List.intercalate_splitOn]
  | succ index =>
      right
      refine ⟨[separator].intercalate ((text.splitOn separator).take (index + 1)), ?_⟩
      rw [← intercalate_append, List.take_append_drop, List.intercalate_splitOn]
      · exact List.ne_nil_of_length_pos (by rw [List.length_take]; omega)
      · exact List.ne_nil_of_length_pos (by rw [List.length_drop]; omega)

theorem mem_labelSuffixes :
    suffix ∈ labelSuffixes separator text ↔ separator ∈ suffix ∧ Below separator suffix text := by
  unfold labelSuffixes
  dsimp only
  rw [List.mem_map]
  constructor
  · rintro ⟨index, member, rfl⟩
    have inside := List.mem_range.mp member
    refine ⟨?_, below_drop (by omega)⟩
    obtain ⟨first, second, rest, labels⟩ :
        ∃ first second rest, (text.splitOn separator).drop index = first :: second :: rest := by
      have several : 2 ≤ ((text.splitOn separator).drop index).length := by
        rw [List.length_drop]
        omega
      match shape : (text.splitOn separator).drop index with
      | [] | [_] => simp [shape] at several
      | first :: second :: rest => exact ⟨first, second, rest, rfl⟩
    rw [labels, List.intercalate_cons_cons]
    simp
  · rintro ⟨separated, rfl | ⟨before, rfl⟩⟩
    · refine ⟨0, ?_, by rw [List.drop_zero, List.intercalate_splitOn]⟩
      have several := one_lt_length_splitOn separated
      exact List.mem_range.mpr (by omega)
    · refine ⟨(before.splitOn separator).length, ?_, ?_⟩
      · have several := one_lt_length_splitOn separated
        rw [List.mem_range, List.splitOn_append_cons_self, List.length_append]
        omega
      · rw [List.splitOn_append_cons_self, List.drop_left, List.intercalate_splitOn]

/-!
## Stripping
-/

/-- `str::strip_suffix`. -/
def stripSuffix (suffix text : List Letter) : Option (List Letter) :=
  if suffix <:+ text then some (text.take (text.length - suffix.length)) else none

theorem stripSuffix_eq_some_iff {before : List Letter} :
    stripSuffix suffix text = some before ↔ text = before ++ suffix := by
  unfold stripSuffix
  split
  next ends =>
    obtain ⟨start, rfl⟩ := ends
    rw [List.length_append, Nat.add_sub_cancel, List.take_left, Option.some_inj]
    constructor
    · rintro rfl
      rfl
    · exact fun same => List.append_cancel_right same
  next free =>
    constructor
    · intro impossible
      cases impossible
    · rintro rfl
      exact absurd (List.suffix_append before suffix) free

theorem equal_or_stripped_iff :
    (text == suffix || (stripSuffix suffix text).any fun before =>
      before.getLast? == some separator) = true ↔ Below separator suffix text := by
  rw [Bool.or_eq_true, beq_iff_eq, Option.any_eq_true]
  unfold Below
  apply or_congr Iff.rfl
  constructor
  · rintro ⟨before, stripped, last⟩
    obtain ⟨start, rfl⟩ := List.getLast?_eq_some_iff.mp (beq_iff_eq.mp last)
    refine ⟨start, ?_⟩
    rw [stripSuffix_eq_some_iff.mp stripped, List.append_assoc, List.singleton_append]
  · rintro ⟨before, rfl⟩
    refine ⟨before ++ [separator], stripSuffix_eq_some_iff.mpr (by simp), by simp⟩

end

/-!
## Patterns
-/

inductive Piece where
  | anything
  | single
  | literal (letter : Char)
deriving DecidableEq

/-- The pieces of a pattern. A pattern that ends with the escape character is an error. -/
def pieces : List Char → Option (List Piece)
  | [] => some []
  | '%' :: rest => (pieces rest).map (.anything :: ·)
  | '_' :: rest => (pieces rest).map (.single :: ·)
  | ['\\'] => none
  | '\\' :: letter :: rest => (pieces rest).map (.literal letter :: ·)
  | letter :: rest => (pieces rest).map (.literal letter :: ·)

def matchesPieces : List Piece → List Char → Bool
  | [], text => text.isEmpty
  | .anything :: rest, text => text.tails.any (matchesPieces rest)
  | .single :: rest, text =>
      match text with
      | [] => false
      | _ :: text => matchesPieces rest text
  | .literal letter :: rest, text =>
      match text with
      | [] => false
      | first :: text => first == letter && matchesPieces rest text

/-- `text LIKE pattern`, which is no match where it is an error. -/
def like (text pattern : List Char) : Bool := (pieces pattern).any (matchesPieces · text)

/-- A letter of a text that a letter of a pattern without `%` and escapes stands for. -/
def StandsFor (written letter : Char) : Prop := written = '_' ∨ written = letter

def Plain (pattern : List Char) : Prop := '%' ∉ pattern ∧ '\\' ∉ pattern

variable {pattern text : List Char}

theorem Plain.tail {first : Char} (plain : Plain (first :: pattern)) : Plain pattern :=
  ⟨fun member => plain.1 (List.mem_cons_of_mem _ member),
    fun member => plain.2 (List.mem_cons_of_mem _ member)⟩

private def piece (written : Char) : Piece := if written = '_' then .single else .literal written

private theorem pieces_plain (plain : Plain pattern) : pieces pattern = some (pattern.map piece) := by
  induction pattern with
  | nil => rfl
  | cons first rest ih =>
      have rests := ih plain.tail
      have percent : first ≠ '%' := fun same => plain.1 (same ▸ List.mem_cons_self)
      have escape : first ≠ '\\' := fun same => plain.2 (same ▸ List.mem_cons_self)
      by_cases wild : first = '_'
      · subst wild
        rw [pieces, rests]
        rfl
      · rw [pieces, rests, List.map_cons, piece, if_neg wild]
        · rfl
        · exact percent
        · exact wild
        · exact fun same _ => escape same
        · exact fun _ _ same _ => escape same

private theorem matchesPieces_piece :
    matchesPieces (pattern.map piece) text = true ↔ List.Forall₂ StandsFor pattern text := by
  induction pattern generalizing text with
  | nil => cases text <;> simp [matchesPieces]
  | cons first rest ih =>
      cases text with
      | nil =>
          by_cases wild : first = '_' <;> simp [piece, wild, matchesPieces]
      | cons letter text =>
          rw [List.forall₂_cons, ← ih, List.map_cons]
          by_cases wild : first = '_'
          · simp [piece, wild, matchesPieces, StandsFor]
          · rw [piece, if_neg wild, matchesPieces, StandsFor, Bool.and_eq_true, beq_iff_eq]
            exact and_congr ⟨fun same => .inr same.symm, fun stands =>
              (stands.resolve_left wild).symm⟩ Iff.rfl

/-- A pattern that starts with `%` matches the texts that end with what the rest of the
pattern stands for. -/
theorem like_ends_iff (plain : Plain pattern) :
    like text ('%' :: pattern) = true ↔
      ∃ before after, text = before ++ after ∧ List.Forall₂ StandsFor pattern after := by
  unfold like
  rw [pieces, pieces_plain plain, Option.map_some, Option.any_some, matchesPieces, List.any_eq_true]
  constructor
  · rintro ⟨after, member, matched⟩
    obtain ⟨before, rfl⟩ := (List.mem_tails _ _).mp member
    exact ⟨before, after, rfl, matchesPieces_piece.mp matched⟩
  · rintro ⟨before, after, rfl, stands⟩
    exact ⟨after, (List.mem_tails _ _).mpr (List.suffix_append _ _),
      matchesPieces_piece.mpr stands⟩

/-- The text ends, behind a separator, with another text that the pattern stands for. -/
def Resembles (separator : Char) (pattern text : List Char) : Prop :=
  ∃ before after, text = before ++ separator :: after ∧ List.Forall₂ StandsFor pattern after

theorem standsFor_self (pattern : List Char) : List.Forall₂ StandsFor pattern pattern :=
  List.forall₂_same.mpr fun _ _ => .inr rfl

/-- Equality or the pattern behind a separator that is no wildcard. -/
theorem equal_or_like_iff {separator : Char} (plain : Plain (separator :: pattern))
    (notWild : separator ≠ '_') :
    (text == pattern || like text ('%' :: separator :: pattern)) = true ↔
      text = pattern ∨ Resembles separator pattern text := by
  rw [Bool.or_eq_true, beq_iff_eq, like_ends_iff plain]
  apply or_congr Iff.rfl
  constructor
  · rintro ⟨before, after, rfl, stands⟩
    cases stands with
    | cons first rest =>
        rcases first with wild | rfl
        · exact absurd wild notWild
        · exact ⟨before, _, rfl, rest⟩
  · rintro ⟨before, after, rfl, stands⟩
    exact ⟨before, separator :: after, rfl, .cons (.inr rfl) stands⟩

theorem Below.resembles {separator : Char} (below : Below separator pattern text) :
    text = pattern ∨ Resembles separator pattern text := by
  rcases below with same | ⟨before, rfl⟩
  · exact .inl same
  · exact .inr ⟨before, pattern, rfl, standsFor_self pattern⟩

end Roosty.Library.TextMatch
