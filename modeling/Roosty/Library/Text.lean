import Mathlib.Data.List.DropRight

/-! Text operations of the source language's standard library, on character
lists where they are proved about and on strings where they are called. -/

set_option autoImplicit false

namespace Roosty.Library.Text

/-- The Unicode `White_Space` property. -/
def isWhitespace (character : Char) : Bool :=
  let code := character.toNat
  (9 ≤ code && code ≤ 13) || code == 0x20 || code == 0x85 || code == 0xA0 || code == 0x1680 ||
    (0x2000 ≤ code && code ≤ 0x200A) || code == 0x2028 || code == 0x2029 || code == 0x202F ||
    code == 0x205F || code == 0x3000

theorem eq_false_of_any {found : Char → Bool} {text : List Char} (none : text.any found = false) :
    ∀ character ∈ text, found character = false := by
  intro character member
  simpa using List.any_eq_false.mp none character member

def trimMatches (dropped : Char → Bool) (text : List Char) : List Char :=
  (text.dropWhile dropped).rdropWhile dropped

def trim (text : String) : String :=
  String.ofList (trimMatches isWhitespace text.toList)

def toAsciiLowercase (text : List Char) : List Char := text.map Char.toLower

def toAsciiUppercase (text : List Char) : List Char := text.map Char.toUpper

def eqIgnoreAsciiCase (left right : List Char) : Bool :=
  toAsciiLowercase left == toAsciiLowercase right

def splitWhitespace (text : List Char) : List (List Char) :=
  (text.splitOnP isWhitespace).filter fun piece => !piece.isEmpty

def splitOnce (separator : Char) (text : List Char) : Option (List Char × List Char) :=
  match text.dropWhile (· != separator) with
  | [] => none
  | _ :: rest => some (text.takeWhile (· != separator), rest)

def rsplitOnce (separator : Char) (text : List Char) : Option (List Char × List Char) :=
  (splitOnce separator text.reverse).map fun parts => (parts.2.reverse, parts.1.reverse)

/-- The text before and after the first occurrence of a separating text. -/
def splitOnceText (separator : List Char) : List Char → Option (List Char × List Char)
  | [] => if separator.isEmpty then some ([], []) else none
  | first :: rest =>
      match separator.isPrefixOf? (first :: rest) with
      | some after => some ([], after)
      | none => (splitOnceText separator rest).map fun parts => (first :: parts.1, parts.2)

private theorem toLower_eq_self {character : Char}
    (outside : ¬ (character.val ≥ 'A'.val ∧ character.val ≤ 'Z'.val)) :
    character.toLower = character := by
  delta Char.toLower
  rw [dif_neg outside]

private theorem toLower_toLower (character : Char) :
    character.toLower.toLower = character.toLower := by
  by_cases upper : character.val ≥ 'A'.val ∧ character.val ≤ 'Z'.val
  · have lowered : character.toLower.val = character.val + 32 := by
      delta Char.toLower
      rw [dif_pos upper]
      rfl
    apply toLower_eq_self
    rw [lowered]
    simp only [ge_iff_le, UInt32.le_iff_toNat_le, UInt32.toNat_add] at upper ⊢
    simp only [Char.reduceVal, UInt32.reduceToNat] at upper ⊢
    omega
  · rw [toLower_eq_self upper, toLower_eq_self upper]

private theorem toLower_toUpper (character : Char) :
    character.toUpper.toLower = character.toLower := by
  by_cases lower : character.val ≥ 'a'.val ∧ character.val ≤ 'z'.val
  · have raised : character.toUpper.val = character.val + ('A'.val - 'a'.val) := by
      delta Char.toUpper
      rw [dif_pos lower]
    have upper : character.toUpper.val ≥ 'A'.val ∧ character.toUpper.val ≤ 'Z'.val := by
      rw [raised]
      simp only [ge_iff_le, UInt32.le_iff_toNat_le, UInt32.toNat_add] at lower ⊢
      simp only [Char.reduceVal, UInt32.reduceToNat, UInt32.reduceSub] at lower ⊢
      omega
    have outside : ¬ (character.val ≥ 'A'.val ∧ character.val ≤ 'Z'.val) := by
      simp only [ge_iff_le, UInt32.le_iff_toNat_le] at lower ⊢
      simp only [Char.reduceVal, UInt32.reduceToNat] at lower ⊢
      omega
    have cancel : ('A'.val - 'a'.val) + ('a'.val - 'A'.val) = 0 := by decide
    rw [toLower_eq_self outside]
    apply Char.ext
    delta Char.toLower
    rw [dif_pos upper]
    change character.toUpper.val + ('a'.val - 'A'.val) = character.val
    rw [raised, UInt32.add_assoc, cancel, UInt32.add_zero]
  · delta Char.toUpper
    rw [dif_neg lower]

@[simp] theorem toAsciiLowercase_idem (text : List Char) :
    toAsciiLowercase (toAsciiLowercase text) = toAsciiLowercase text := by
  simp [toAsciiLowercase, toLower_toLower]

@[simp] theorem toAsciiLowercase_toAsciiUppercase (text : List Char) :
    toAsciiLowercase (toAsciiUppercase text) = toAsciiLowercase text := by
  simp [toAsciiLowercase, toAsciiUppercase, toLower_toUpper]

theorem utf8_injective {left right : List Char}
    (same : left.flatMap String.utf8EncodeChar = right.flatMap String.utf8EncodeChar) :
    left = right := by
  have encoded : left.utf8Encode = right.utf8Encode := congrArg List.toByteArray same
  have decoded := congrArg ByteArray.utf8Decode? encoded
  rw [List.utf8Decode?_utf8Encode, List.utf8Decode?_utf8Encode] at decoded
  simpa using decoded

theorem append_separator_inj {Letter : Type} {separator : Letter}
    {left right leftRest rightRest : List Letter} (leftFree : separator ∉ left)
    (rightFree : separator ∉ right)
    (same : left ++ separator :: leftRest = right ++ separator :: rightRest) :
    left = right ∧ leftRest = rightRest := by
  induction left generalizing right with
  | nil =>
      cases right with
      | nil => exact ⟨rfl, List.tail_eq_of_cons_eq same⟩
      | cons head tail =>
          have headSame : separator = head := List.head_eq_of_cons_eq same
          exact absurd (headSame ▸ List.mem_cons_self) rightFree
  | cons first rest ih =>
      cases right with
      | nil =>
          have headSame : first = separator := List.head_eq_of_cons_eq same
          exact absurd (headSame ▸ List.mem_cons_self) leftFree
      | cons head tail =>
          have headSame : first = head := List.head_eq_of_cons_eq same
          obtain ⟨tailSame, restSame⟩ := ih (fun member => leftFree (List.mem_cons_of_mem _ member))
            (fun member => rightFree (List.mem_cons_of_mem _ member))
            (List.tail_eq_of_cons_eq same)
          exact ⟨by rw [headSame, tailSame], restSame⟩

theorem mem_intercalate {separator : List Char} {texts : List (List Char)}
    {character : Char} (member : character ∈ separator.intercalate texts) :
    character ∈ separator ∨ ∃ text ∈ texts, character ∈ text := by
  induction texts with
  | nil => cases member
  | cons text texts ih =>
      cases texts with
      | nil => exact .inr ⟨text, List.mem_cons_self, by simpa using member⟩
      | cons next rest =>
          rw [List.intercalate_cons_cons, List.mem_append, List.mem_append] at member
          rcases member with (here | separated) | later
          · exact .inr ⟨text, List.mem_cons_self, here⟩
          · exact .inl separated
          · rcases ih later with inSeparator | ⟨found, foundMember, inside⟩
            · exact .inl inSeparator
            · exact .inr ⟨found, List.mem_cons_of_mem _ foundMember, inside⟩

theorem intercalate_lines_inj {first second : List (List Char)}
    (firstFree : ∀ line ∈ first, '\n' ∉ line) (secondFree : ∀ line ∈ second, '\n' ∉ line)
    (firstSome : first ≠ []) (secondSome : second ≠ [])
    (same : ['\n'].intercalate first = ['\n'].intercalate second) : first = second := by
  rw [← List.splitOn_intercalate '\n' firstFree firstSome, same,
    List.splitOn_intercalate '\n' secondFree secondSome]

def hexDigits : Nat → Nat → List Char
  | 0, _ => []
  | width + 1, value => hexDigits width (value / 16) ++ [Nat.digitChar (value % 16)]

def uuidText (value : Nat) : String :=
  let digits := hexDigits 32 value
  String.ofList (digits.take 8 ++ '-' :: (digits.drop 8).take 4 ++ '-' :: (digits.drop 12).take 4 ++
    '-' :: (digits.drop 16).take 4 ++ '-' :: digits.drop 20)

end Roosty.Library.Text
