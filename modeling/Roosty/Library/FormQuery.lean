import Roosty.Library.UuidText

/-! Query strings of names and values, as a parser of forms reads them. The decoder of
percent signs is a parameter, which leaves plain text as it is. -/

set_option autoImplicit false

namespace Roosty.Library.FormQuery

def formPairs (decode : List Char → String) (query : String) : List (String × String) :=
  ((query.toList.splitOn '&').filter (· ≠ [])).map fun piece =>
    let (name, value) := (Text.splitOnce '=' piece).getD (piece, [])
    (decode name, decode value)

/-- A field that may be missing. It must not be given twice. -/
def formField {Value : Type} (parse : String → Option Value) (name : String)
    (pairs : List (String × String)) : Option (Option Value) :=
  match pairs.filter fun pair => pair.1 == name with
  | [] => some none
  | [pair] => (parse pair.2).map some
  | _ => none

def parseBool (text : String) : Option Bool :=
  if text = "true" then some true else if text = "false" then some false else none

def isReserved (letter : Char) : Bool :=
  letter == '&' || letter == '=' || letter == '+' || letter == '%'

def Plain (text : List Char) : Prop := ∀ letter ∈ text, isReserved letter = false

instance (text : List Char) : Decidable (Plain text) := List.decidableBAll _ text

def Decodes (decode : List Char → String) : Prop :=
  ∀ text : List Char, (∀ letter ∈ text, letter ≠ '+' ∧ letter ≠ '%') →
    decode text = String.ofList text

/-- `name=value`. -/
def piece (pair : String × String) : List Char := pair.1.toList ++ '=' :: pair.2.toList

/-- The pairs, joined by `&`. -/
def formQuery (pairs : List (String × String)) : String :=
  String.ofList (['&'].intercalate (pairs.map piece))

section

variable {decode : List Char → String}

theorem Decodes.plain (decodes : Decodes decode) {text : String} (plain : Plain text.toList) :
    decode text.toList = text := by
  have kept : decode text.toList = String.ofList text.toList := by
    refine decodes text.toList fun letter member => ?_
    have free := plain letter member
    simp only [isReserved, Bool.or_eq_false_iff, beq_eq_false_iff_ne] at free
    exact ⟨free.1.2, free.2⟩
  rw [kept, String.ofList_toList]

theorem splitOnce_append {separator : Char} {before after : List Char}
    (free : ∀ letter ∈ before, letter ≠ separator) :
    Text.splitOnce separator (before ++ separator :: after) = some (before, after) := by
  have passed : ∀ letter ∈ before, (letter != separator) = true :=
    fun letter member => by simpa using free letter member
  unfold Text.splitOnce
  rw [List.dropWhile_append_of_pos passed, List.takeWhile_append_of_pos passed]
  simp

theorem formPairs_formQuery (decodes : Decodes decode) {pairs : List (String × String)}
    (nonempty : pairs ≠ [])
    (plain : ∀ pair ∈ pairs, Plain pair.1.toList ∧ Plain pair.2.toList) :
    formPairs decode (formQuery pairs) = pairs := by
  have reserved : ∀ {text : List Char}, Plain text → ∀ letter ∈ text,
      letter ≠ '&' ∧ letter ≠ '=' := by
    intro text plain letter member
    have free := plain letter member
    simp only [isReserved, Bool.or_eq_false_iff, beq_eq_false_iff_ne] at free
    exact ⟨free.1.1.1, free.1.1.2⟩
  have separate : ∀ text ∈ pairs.map piece, '&' ∉ text := by
    intro text member inside
    obtain ⟨pair, pairMember, rfl⟩ := List.mem_map.mp member
    obtain ⟨name, value⟩ := plain pair pairMember
    rcases List.mem_append.mp inside with inName | behind
    · exact (reserved name _ inName).1 rfl
    · rcases List.mem_cons.mp behind with sign | inValue
      · cases sign
      · exact (reserved value _ inValue).1 rfl
  have pieces : (formQuery pairs).toList.splitOn '&' = pairs.map piece := by
    rw [formQuery, String.toList_ofList]
    exact List.splitOn_intercalate '&' separate (by simpa using nonempty)
  have filled : (pairs.map piece).filter (· ≠ []) = pairs.map piece := by
    refine List.filter_eq_self.mpr fun text member => ?_
    obtain ⟨pair, _, rfl⟩ := List.mem_map.mp member
    simp [piece]
  unfold formPairs
  rw [pieces, filled, List.map_map]
  refine (List.map_congr_left fun pair member => ?_).trans (List.map_id pairs)
  obtain ⟨name, value⟩ := plain pair member
  have split := @splitOnce_append '=' pair.1.toList pair.2.toList
    fun letter inside => (reserved name letter inside).2
  simp only [Function.comp_apply, piece, split, Option.getD_some, decodes.plain name,
    decodes.plain value, id]

theorem plain_uuidText (value : Nat) : Plain (Text.uuidText value).toList := by
  have every : ∀ digit < 16, isReserved (Nat.digitChar digit) = false := by decide
  intro letter member
  rcases Text.mem_uuidText member with rfl | ⟨digit, small, rfl⟩
  · decide
  · exact every digit small

end

end Roosty.Library.FormQuery
