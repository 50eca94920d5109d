import Mathlib.Algebra.Group.Nat.Defs
import Roosty.Library.Text

/-! The texts of 128-bit identifiers: what the library's parser accepts, and that it
reads the hyphenated form back. -/

set_option autoImplicit false

namespace Roosty.Library.Text

def hexDigit? (letter : Char) : Option Nat :=
  if '0' ≤ letter ∧ letter ≤ '9' then some (letter.toNat - 48)
  else if 'a' ≤ letter ∧ letter ≤ 'f' then some (letter.toNat - 87)
  else if 'A' ≤ letter ∧ letter ≤ 'F' then some (letter.toNat - 55)
  else none

/-- The number of a digit text, most significant first, after the digits of `value`. -/
def numberOf (value : Nat) : List Char → Option Nat
  | [] => some value
  | letter :: rest => (hexDigit? letter).bind fun digit => numberOf (16 * value + digit) rest

/-- The digits of `8-4-4-4-12`. -/
def hyphenatedDigits (letters : List Char) : Option (List Char) :=
  let pieces := letters.splitOn '-'
  if pieces.map List.length = [8, 4, 4, 4, 12] then some pieces.flatten else none

/-- `Uuid::parse_str`: 32 digits, or the hyphenated form alone, in braces or as a URN. -/
def parseUuid (text : String) : Option Nat :=
  let letters := text.toList
  let plain (letters : List Char) := (hyphenatedDigits letters).bind (numberOf 0)
  let simple := if letters.length = 32 then numberOf 0 letters else none
  let braced :=
    if letters.head? = some '{' ∧ letters.getLast? = some '}' then plain letters.tail.dropLast
    else none
  let urn := ("urn:uuid:".toList.isPrefixOf? letters).bind plain
  (((simple.or (plain letters))).or braced).or urn

theorem hexDigit?_digitChar {digit : Nat} (small : digit < 16) :
    hexDigit? (Nat.digitChar digit) = some digit := by
  have every : ∀ digit < 16, hexDigit? (Nat.digitChar digit) = some digit := by decide
  exact every digit small

@[simp] theorem length_hexDigits (width value : Nat) : (hexDigits width value).length = width := by
  induction width generalizing value with
  | zero => rfl
  | succ width ih => simp [hexDigits, ih]

theorem numberOf_append (value : Nat) (first second : List Char) :
    numberOf value (first ++ second) = (numberOf value first).bind (numberOf · second) := by
  induction first generalizing value with
  | nil => rfl
  | cons letter rest ih =>
      rw [List.cons_append, numberOf, numberOf]
      cases hexDigit? letter with
      | none => rfl
      | some digit => exact ih _

theorem numberOf_hexDigits (width value : Nat) :
    numberOf 0 (hexDigits width value) = some (value % 16 ^ width) := by
  induction width generalizing value with
  | zero => simp [hexDigits, numberOf, Nat.mod_one]
  | succ width ih =>
      have last : hexDigit? (Nat.digitChar (value % 16)) = some (value % 16) :=
        hexDigit?_digitChar (Nat.mod_lt _ (by decide))
      have split : value % 16 ^ (width + 1) = 16 * (value / 16 % 16 ^ width) + value % 16 := by
        rw [Nat.pow_succ', Nat.mod_mul, Nat.add_comm]
      rw [hexDigits, numberOf_append, ih, Option.bind_some, numberOf, last, Option.bind_some, numberOf,
        split]

theorem hyphen_notMem_hexDigits (width value : Nat) : '-' ∉ hexDigits width value := by
  have every : ∀ digit < 16, Nat.digitChar digit ≠ '-' := by decide
  induction width generalizing value with
  | zero => exact List.not_mem_nil
  | succ width ih =>
      rw [hexDigits, List.mem_append, List.mem_singleton, not_or]
      exact ⟨ih _, fun same => every _ (Nat.mod_lt _ (by decide)) same.symm⟩

/-- The pieces that `uuidText` joins. -/
private def uuidPieces (digits : List Char) : List (List Char) :=
  [digits.take 8, (digits.drop 8).take 4, (digits.drop 12).take 4, (digits.drop 16).take 4,
    digits.drop 20]

private theorem uuidText_toList (value : Nat) :
    (uuidText value).toList = ['-'].intercalate (uuidPieces (hexDigits 32 value)) := by
  simp [uuidText, uuidPieces, List.intercalate]

private theorem flatten_uuidPieces (digits : List Char) : (uuidPieces digits).flatten = digits := by
  have glue (start count : Nat) :
      (digits.drop start).take count ++ digits.drop (start + count) = digits.drop start := by
    rw [← List.drop_drop, List.take_append_drop]
  simp only [uuidPieces, List.flatten_cons, List.flatten_nil, List.append_nil]
  rw [glue 16 4, glue 12 4, glue 8 4, List.take_append_drop]

private theorem hyphenatedDigits_uuidText (value : Nat) :
    hyphenatedDigits (uuidText value).toList = some (hexDigits 32 value) := by
  have free : ∀ piece ∈ uuidPieces (hexDigits 32 value), '-' ∉ piece := by
    intro piece member inside
    refine hyphen_notMem_hexDigits 32 value ?_
    rw [← flatten_uuidPieces (hexDigits 32 value)]
    exact List.mem_flatten_of_mem member inside
  have split := List.splitOn_intercalate '-' free (List.cons_ne_nil _ _)
  have lengths : (uuidPieces (hexDigits 32 value)).map List.length = [8, 4, 4, 4, 12] := by
    simp [uuidPieces]
  simp only [hyphenatedDigits, uuidText_toList, split, lengths, flatten_uuidPieces, if_true]

theorem parseUuid_uuidText {value : Nat} (bounded : value < 2 ^ 128) :
    parseUuid (uuidText value) = some value := by
  have length : (uuidText value).toList.length = 36 := by
    simp [uuidText]
  have digits : numberOf 0 (hexDigits 32 value) = some value := by
    rw [numberOf_hexDigits, Nat.mod_eq_of_lt (lt_of_lt_of_eq bounded (by decide))]
  unfold parseUuid
  simp only [length, hyphenatedDigits_uuidText, Option.bind_some, digits, Option.some_or,
    if_false, Option.none_or, Nat.reduceEqDiff]

theorem uuidText_injective {left right : Nat} (leftBounded : left < 2 ^ 128)
    (rightBounded : right < 2 ^ 128) (same : uuidText left = uuidText right) : left = right := by
  have read := congrArg parseUuid same
  rw [parseUuid_uuidText leftBounded, parseUuid_uuidText rightBounded] at read
  exact Option.some.inj read

end Roosty.Library.Text
