import Mathlib.Data.List.TakeWhile
import Mathlib.Data.Nat.Digits.Lemmas

/-! Numbers written in another base, most significant digit first, with as many leading
zeros; and the Base58 text of bytes, which is such a number in the Bitcoin alphabet. -/

set_option autoImplicit false

namespace Roosty.Library.Base58

def isZero (digit : Nat) : Bool := digit == 0

/-- The digits of the same number in base `target`, with the same leading zeros. -/
def convert (source target : Nat) (digits : List Nat) : List Nat :=
  digits.takeWhile isZero ++
    (Nat.digits target (Nat.ofDigits source (digits.dropWhile isZero).reverse)).reverse

section

variable {source target : Nat}

private theorem takeWhile_zeros (digits : List Nat) {rest : List Nat}
    (significant : ∀ digit ∈ rest.head?, digit ≠ 0) :
    (digits.takeWhile isZero ++ rest).takeWhile isZero = digits.takeWhile isZero ∧
      (digits.takeWhile isZero ++ rest).dropWhile isZero = rest := by
  have zeros : ∀ digit ∈ digits.takeWhile isZero, isZero digit = true :=
    fun digit member => List.mem_takeWhile_imp member
  rw [List.takeWhile_append_of_pos zeros, List.dropWhile_append_of_pos zeros]
  cases rest with
  | nil => simp
  | cons digit rest =>
      have nonzero : isZero digit = false := by simpa [isZero] using significant digit rfl
      simp [nonzero]

private theorem digits_reverse_head (target number : Nat) :
    ∀ digit ∈ (Nat.digits target number).reverse.head?, digit ≠ 0 := by
  intro digit member
  rw [List.head?_reverse, Option.mem_def] at member
  have nonzero : number ≠ 0 := by
    rintro rfl
    simp at member
  have last := Nat.getLast_digit_ne_zero target nonzero
  rw [List.getLast?_eq_some_getLast (Nat.digits_ne_nil_iff_ne_zero.mpr nonzero)] at member
  exact Option.some.inj member ▸ last

theorem convert_convert (proper : 1 < source) {digits : List Nat}
    (bounded : ∀ digit ∈ digits, digit < source) :
    convert target source (convert source target digits) = digits := by
  obtain ⟨zeros, rest⟩ := takeWhile_zeros digits (digits_reverse_head target
    (Nat.ofDigits source (digits.dropWhile isZero).reverse))
  have back : Nat.digits source (Nat.ofDigits source (digits.dropWhile isZero).reverse) =
      (digits.dropWhile isZero).reverse := by
    refine Nat.digits_ofDigits source proper _ ?_ ?_
    · intro digit member
      exact bounded digit ((List.dropWhile_sublist _).subset (List.mem_reverse.mp member))
    · intro some_
      rw [List.getLast_reverse]
      have first := List.head_dropWhile_not isZero (by simpa using some_)
      simpa [isZero] using first
  rw [convert, convert, zeros, rest, List.reverse_reverse, Nat.ofDigits_digits, back,
    List.reverse_reverse, List.takeWhile_append_dropWhile]

theorem convert_lt (proper : 1 < target) {digits : List Nat} {digit : Nat}
    (member : digit ∈ convert source target digits) : digit < target := by
  rcases List.mem_append.mp member with zero | written
  · have isZero_ := List.mem_takeWhile_imp zero
    have same : digit = 0 := by simpa [isZero] using isZero_
    omega
  · exact Nat.digits_lt_base proper (List.mem_reverse.mp written)

end

def alphabet : List Char := "123456789ABCDEFGHJKLMNPQRSTUVWXYZabcdefghijkmnopqrstuvwxyz".toList

def encode (bytes : List UInt8) : List Char :=
  (convert 256 58 (bytes.map UInt8.toNat)).map fun digit => alphabet.getD digit '1'

def decode (text : List Char) : Option (List UInt8) :=
  (text.mapM fun character => alphabet.idxOf? character).map fun digits =>
    (convert 58 256 digits).map UInt8.ofNat

private theorem idxOf?_alphabet : ∀ digit < 58, alphabet.idxOf? (alphabet.getD digit '1') =
    some digit := by
  decide

private theorem mapM_alphabet {digits : List Nat} (bounded : ∀ digit ∈ digits, digit < 58) :
    ((digits.map fun digit => alphabet.getD digit '1').mapM fun character =>
      alphabet.idxOf? character) = some digits := by
  induction digits with
  | nil => rfl
  | cons digit digits ih =>
      rw [List.map_cons, List.mapM_cons, idxOf?_alphabet digit (bounded digit List.mem_cons_self),
        ih fun other member => bounded other (List.mem_cons_of_mem _ member)]
      rfl

theorem decode_encode (bytes : List UInt8) : decode (encode bytes) = some bytes := by
  have bounded : ∀ digit ∈ convert 256 58 (bytes.map UInt8.toNat), digit < 58 :=
    fun digit member => convert_lt (by decide) member
  have small : ∀ digit ∈ bytes.map UInt8.toNat, digit < 256 := by
    intro digit member
    obtain ⟨byte, _, rfl⟩ := List.mem_map.mp member
    exact byte.toNat_lt
  rw [decode, encode, mapM_alphabet bounded, Option.map_some, convert_convert (by decide) small,
    List.map_map]
  congr 1
  conv_rhs => rw [← List.map_id bytes]
  exact List.map_congr_left fun byte _ => UInt8.ofNat_toNat

end Roosty.Library.Base58
