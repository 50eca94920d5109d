import Mathlib.Algebra.Group.Nat.Defs
import Roosty.Library.Trim
import Roosty.Library.Uuid

/-! What every text of an identifier has in common: its number has 128 bits, and no
character of it is whitespace. -/

set_option autoImplicit false

namespace Roosty.Library.Text

theorem mem_hexDigits {width value : Nat} {letter : Char} (member : letter ∈ hexDigits width value) :
    ∃ digit < 16, letter = Nat.digitChar digit := by
  induction width generalizing value with
  | zero => cases member
  | succ width ih =>
      rw [hexDigits, List.mem_append, List.mem_singleton] at member
      rcases member with earlier | rfl
      · exact ih earlier
      · exact ⟨value % 16, Nat.mod_lt _ (by decide), rfl⟩

theorem mem_uuidText {value : Nat} {letter : Char} (member : letter ∈ (uuidText value).toList) :
    letter = '-' ∨ ∃ digit < 16, letter = Nat.digitChar digit := by
  have digits : ∀ {piece : List Char}, piece ⊆ hexDigits 32 value → letter ∈ piece →
      letter = '-' ∨ ∃ digit < 16, letter = Nat.digitChar digit :=
    fun inside here => .inr (mem_hexDigits (inside here))
  have middle : ∀ start count, (((hexDigits 32 value).drop start).take count) ⊆
      hexDigits 32 value :=
    fun start count => List.Subset.trans (List.take_subset _ _) (List.drop_subset _ _)
  simp only [uuidText, String.toList_ofList, List.cons_append, List.append_assoc, List.mem_append,
    List.mem_cons] at member
  rcases member with first | hyphen | second | hyphen | third | hyphen | fourth | hyphen | last
  · exact digits (List.take_subset _ _) first
  · exact .inl hyphen
  · exact digits (middle 8 4) second
  · exact .inl hyphen
  · exact digits (middle 12 4) third
  · exact .inl hyphen
  · exact digits (middle 16 4) fourth
  · exact .inl hyphen
  · exact digits (List.drop_subset _ _) last

theorem hexDigit?_some {letter : Char} {digit : Nat} (read : hexDigit? letter = some digit) :
    digit < 16 ∧ isWhitespace letter = false := by
  have code : ∀ letters : Char × Char, letters.1 ≤ letters.2 ↔ letters.1.toNat ≤ letters.2.toNat :=
    fun _ => Iff.rfl
  unfold hexDigit? at read
  have zero := code ('0', letter)
  have nine := code (letter, '9')
  have lowerA := code ('a', letter)
  have lowerF := code (letter, 'f')
  have upperA := code ('A', letter)
  have upperF := code (letter, 'F')
  simp only [zero, nine, lowerA, lowerF, upperA, upperF, Char.reduceToNat] at read
  have plain (low : 48 ≤ letter.toNat) (high : letter.toNat ≤ 102) :
      isWhitespace letter = false := by
    simp only [isWhitespace, Bool.or_eq_false_iff, Bool.and_eq_false_iff, beq_eq_false_iff_ne,
      decide_eq_false_iff_not]
    omega
  split_ifs at read with decimal lower upper
  · cases read
    exact ⟨by omega, plain (by omega) (by omega)⟩
  · cases read
    exact ⟨by omega, plain (by omega) (by omega)⟩
  · cases read
    exact ⟨by omega, plain (by omega) (by omega)⟩

theorem numberOf_some {start value : Nat} {letters : List Char}
    (read : numberOf start letters = some value) :
    value < (start + 1) * 16 ^ letters.length ∧
      ∀ letter ∈ letters, isWhitespace letter = false := by
  induction letters generalizing start with
  | nil =>
      cases read
      exact ⟨by simp, fun _ member => absurd member List.not_mem_nil⟩
  | cons first rest ih =>
      obtain ⟨digit, here, later⟩ := Option.bind_eq_some_iff.mp read
      obtain ⟨small, plain⟩ := hexDigit?_some here
      obtain ⟨bounded, others⟩ := ih later
      refine ⟨?_, List.forall_mem_cons.mpr ⟨plain, others⟩⟩
      have grown : 16 * start + digit + 1 ≤ (start + 1) * 16 := by omega
      calc value < (16 * start + digit + 1) * 16 ^ rest.length := bounded
        _ ≤ (start + 1) * 16 * 16 ^ rest.length := Nat.mul_le_mul_right _ grown
        _ = (start + 1) * 16 ^ (first :: rest).length := by
            rw [List.length_cons, Nat.pow_succ', Nat.mul_assoc]

/-- A number of 32 digits, whose text has nothing else than digits and hyphens. -/
def ReadsPlainly (letters : List Char) (value : Nat) : Prop :=
  value < 2 ^ 128 ∧ ∀ letter ∈ letters, isWhitespace letter = false

theorem readsPlainly_of_digits {letters : List Char} {value : Nat}
    (length : letters.length = 32) (read : numberOf 0 letters = some value) :
    ReadsPlainly letters value := by
  obtain ⟨bounded, plain⟩ := numberOf_some read
  rw [length] at bounded
  exact ⟨lt_of_lt_of_eq bounded (by decide), plain⟩

theorem readsPlainly_of_hyphenated {letters : List Char} {value : Nat}
    (read : (hyphenatedDigits letters).bind (numberOf 0) = some value) :
    ReadsPlainly letters value := by
  obtain ⟨digits, pieces, read⟩ := Option.bind_eq_some_iff.mp read
  unfold hyphenatedDigits at pieces
  dsimp only at pieces
  split at pieces
  next lengths =>
    cases pieces
    have length : (letters.splitOn '-').flatten.length = 32 := by
      rw [List.length_flatten, lengths]
      rfl
    obtain ⟨bounded, plain⟩ := readsPlainly_of_digits length read
    refine ⟨bounded, fun letter member => ?_⟩
    rw [← @List.intercalate_splitOn _ letters _ _ '-'] at member
    rcases mem_intercalate member with separator | ⟨piece, pieceMember, inside⟩
    · rw [List.mem_singleton.mp separator]
      decide
    · exact plain letter (List.mem_flatten_of_mem pieceMember inside)
  next => cases pieces

theorem parseUuid_readsPlainly {text : String} {value : Nat}
    (parsed : parseUuid text = some value) : ReadsPlainly text.toList value := by
  unfold parseUuid at parsed
  dsimp only at parsed
  rcases Option.or_eq_some_iff.mp parsed with early | ⟨_, urn⟩
  · rcases Option.or_eq_some_iff.mp early with early | ⟨_, braced⟩
    · rcases Option.or_eq_some_iff.mp early with simple | ⟨_, hyphenated⟩
      · split at simple
        next length => exact readsPlainly_of_digits length simple
        next => cases simple
      · exact readsPlainly_of_hyphenated hyphenated
    · split at braced
      next ends =>
        obtain ⟨bounded, plain⟩ := readsPlainly_of_hyphenated braced
        refine ⟨bounded, fun letter member => ?_⟩
        obtain ⟨rest, letters⟩ := List.head?_eq_some_iff.mp ends.1
        rw [letters] at member ends plain
        rcases List.mem_cons.mp member with rfl | inside
        · decide
        · have nonempty : rest ≠ [] := List.ne_nil_of_mem inside
          have last : rest.getLast nonempty = '}' := by
            have shown := ends.2
            rw [List.getLast?_cons_of_ne_nil nonempty, List.getLast?_eq_some_getLast nonempty] at shown
            exact Option.some.inj shown
          rw [← List.dropLast_append_getLast nonempty, List.mem_append, List.mem_singleton,
            last] at inside
          rcases inside with middle | rfl
          · exact plain letter middle
          · decide
      next => cases braced
  · obtain ⟨rest, front, read⟩ := Option.bind_eq_some_iff.mp urn
    obtain ⟨bounded, plain⟩ := readsPlainly_of_hyphenated read
    refine ⟨bounded, fun letter member => ?_⟩
    rw [← List.isPrefixOf?_eq_some_iff_append_eq.mp front, List.mem_append] at member
    rcases member with urn | inside
    · have every : ∀ letter ∈ "urn:uuid:".toList, isWhitespace letter = false :=
        eq_false_of_any (by decide)
      exact every letter urn
    · exact plain letter inside

theorem parseUuid_lt {text : String} {value : Nat} (parsed : parseUuid text = some value) :
    value < 2 ^ 128 :=
  (parseUuid_readsPlainly parsed).1

theorem trim_of_parseUuid {text : String} {value : Nat} (parsed : parseUuid text = some value) :
    trim text = text :=
  trim_eq_self (parseUuid_readsPlainly parsed).2

theorem parseUuid_ne_empty {text : String} {value : Nat} (parsed : parseUuid text = some value) :
    text ≠ "" := by
  rintro rfl
  have none : parseUuid "" = none := by decide
  rw [none] at parsed
  cases parsed

end Roosty.Library.Text
