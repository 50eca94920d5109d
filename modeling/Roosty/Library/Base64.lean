import Mathlib.Data.List.Basic
import Mathlib.Data.Fintype.Basic

/-! The standard Base64 alphabet with padding. The strict decoder accepts
canonical encodings only; the indifferent one also takes missing padding and
stray trailing bits. -/

set_option autoImplicit false

namespace Roosty.Library.Base64

def digit (value : Nat) : Char :=
  if value < 26 then Char.ofNat (65 + value)
  else if value < 52 then Char.ofNat (71 + value)
  else if value < 62 then Char.ofNat (value - 4)
  else if value = 62 then '+' else '/'

def value? (character : Char) : Option Nat :=
  let code := character.toNat
  if 65 ≤ code ∧ code ≤ 90 then some (code - 65)
  else if 97 ≤ code ∧ code ≤ 122 then some (code - 71)
  else if 48 ≤ code ∧ code ≤ 57 then some (code + 4)
  else if character = '+' then some 62
  else if character = '/' then some 63
  else none

def encode : List UInt8 → List Char
  | [] => []
  | [a] => [digit (a.toNat / 4), digit (a.toNat % 4 * 16), '=', '=']
  | [a, b] => [digit (a.toNat / 4), digit (a.toNat % 4 * 16 + b.toNat / 16),
      digit (b.toNat % 16 * 4), '=']
  | a :: b :: c :: rest =>
      digit (a.toNat / 4) :: digit (a.toNat % 4 * 16 + b.toNat / 16) ::
        digit (b.toNat % 16 * 4 + c.toNat / 64) :: digit (c.toNat % 64) :: encode rest

def decodeOne (p q : Char) : Option (List UInt8) := do
  let p ← value? p
  let q ← value? q
  return [UInt8.ofNat (p * 4 + q / 16)]

def decodeTwo (p q r : Char) : Option (List UInt8) := do
  let p ← value? p
  let q ← value? q
  let r ← value? r
  return [UInt8.ofNat (p * 4 + q / 16), UInt8.ofNat (q % 16 * 16 + r / 4)]

def decodeThree (p q r s : Char) : Option (List UInt8) := do
  let p ← value? p
  let q ← value? q
  let r ← value? r
  let s ← value? s
  return [UInt8.ofNat (p * 4 + q / 16), UInt8.ofNat (q % 16 * 16 + r / 4),
    UInt8.ofNat (r % 4 * 64 + s)]

/-- Decoding that is indifferent to padding and trailing bits. -/
def decodeIndifferent : List Char → Option (List UInt8)
  | [] => some []
  | [_] => none
  | [p, q] => decodeOne p q
  | [p, q, r] => if r = '=' then decodeOne p q else decodeTwo p q r
  | [p, q, r, s] =>
      if s = '=' then if r = '=' then decodeOne p q else decodeTwo p q r
      else decodeThree p q r s
  | p :: q :: r :: s :: rest => do
      let bytes ← decodeThree p q r s
      let later ← decodeIndifferent rest
      return bytes ++ later

def decode (text : List Char) : Option (List UInt8) :=
  (decodeIndifferent text).filter fun bytes => encode bytes == text

theorem value?_digit {value : Nat} (bound : value < 64) : value? (digit value) = some value := by
  have all : ∀ value : Fin 64, value? (digit value.val) = some value.val := by decide
  exact all ⟨value, bound⟩

def isDigit (character : Char) : Bool := (value? character).isSome

theorem digit_isDigit {value : Nat} (bound : value < 64) : isDigit (digit value) = true := by
  rw [isDigit, value?_digit bound]
  rfl

theorem digit_ne_pad {value : Nat} (bound : value < 64) : digit value ≠ '=' := by
  intro same
  have digit := digit_isDigit bound
  rw [same] at digit
  exact absurd digit (by decide)

theorem encode_alphabet (bytes : List UInt8) :
    ∀ character ∈ encode bytes, isDigit character = true ∨ character = '=' := by
  fun_induction encode bytes with
  | case1 => intro character member; cases member
  | case2 a =>
      have := a.toNat_lt
      intro character member
      simp only [List.mem_cons, List.not_mem_nil, or_false] at member
      rcases member with rfl | rfl | rfl | rfl
      · exact .inl (digit_isDigit (by omega))
      · exact .inl (digit_isDigit (by omega))
      · exact .inr rfl
      · exact .inr rfl
  | case3 a b =>
      have := a.toNat_lt
      have := b.toNat_lt
      intro character member
      simp only [List.mem_cons, List.not_mem_nil, or_false] at member
      rcases member with rfl | rfl | rfl | rfl
      · exact .inl (digit_isDigit (by omega))
      · exact .inl (digit_isDigit (by omega))
      · exact .inl (digit_isDigit (by omega))
      · exact .inr rfl
  | case4 a b c rest ih =>
      have := a.toNat_lt
      have := b.toNat_lt
      have := c.toNat_lt
      intro character member
      simp only [List.mem_cons] at member
      rcases member with rfl | rfl | rfl | rfl | later
      · exact .inl (digit_isDigit (by omega))
      · exact .inl (digit_isDigit (by omega))
      · exact .inl (digit_isDigit (by omega))
      · exact .inl (digit_isDigit (by omega))
      · exact ih character later

private theorem ofNat_eq {value : Nat} {byte : UInt8} (same : value = byte.toNat) :
    UInt8.ofNat value = byte := by
  rw [same, UInt8.ofNat_toNat]

theorem decodeThree_encode (a b c : UInt8) :
    decodeThree (digit (a.toNat / 4)) (digit (a.toNat % 4 * 16 + b.toNat / 16))
      (digit (b.toNat % 16 * 4 + c.toNat / 64)) (digit (c.toNat % 64)) = some [a, b, c] := by
  have aBound := a.toNat_lt
  have bBound := b.toNat_lt
  have cBound := c.toNat_lt
  simp only [decodeThree, value?_digit (show a.toNat / 4 < 64 by omega),
    value?_digit (show a.toNat % 4 * 16 + b.toNat / 16 < 64 by omega),
    value?_digit (show b.toNat % 16 * 4 + c.toNat / 64 < 64 by omega),
    value?_digit (show c.toNat % 64 < 64 by omega), Option.bind_eq_bind, Option.bind_some,
    Option.pure_def, Option.some.injEq, List.cons.injEq, and_true]
  exact ⟨ofNat_eq (by omega), ofNat_eq (by omega), ofNat_eq (by omega)⟩

theorem decodeIndifferent_encode (bytes : List UInt8) :
    decodeIndifferent (encode bytes) = some bytes := by
  fun_induction encode bytes with
  | case1 => rfl
  | case2 a =>
      have aBound := a.toNat_lt
      simp only [decodeIndifferent, if_true, decodeOne,
        value?_digit (show a.toNat / 4 < 64 by omega),
        value?_digit (show a.toNat % 4 * 16 < 64 by omega), Option.bind_eq_bind,
        Option.bind_some, Option.pure_def, Option.some.injEq, List.cons.injEq, and_true]
      exact ofNat_eq (by omega)
  | case3 a b =>
      have aBound := a.toNat_lt
      have bBound := b.toNat_lt
      simp only [decodeIndifferent, if_true,
        if_neg (digit_ne_pad (show b.toNat % 16 * 4 < 64 by omega)), decodeTwo,
        value?_digit (show a.toNat / 4 < 64 by omega),
        value?_digit (show a.toNat % 4 * 16 + b.toNat / 16 < 64 by omega),
        value?_digit (show b.toNat % 16 * 4 < 64 by omega), Option.bind_eq_bind,
        Option.bind_some, Option.pure_def, Option.some.injEq, List.cons.injEq, and_true]
      exact ⟨ofNat_eq (by omega), ofNat_eq (by omega)⟩
  | case4 a b c rest ih =>
      have cBound := c.toNat_lt
      cases later : encode rest with
      | nil =>
          rw [later] at ih
          have empty : [] = rest := Option.some.inj ih
          rw [decodeIndifferent, if_neg (digit_ne_pad (show c.toNat % 64 < 64 by omega)),
            decodeThree_encode, ← empty]
      | cons head tail =>
          rw [later] at ih
          rw [decodeIndifferent, decodeThree_encode, ih]
          · rfl
          · simp

theorem decode_encode (bytes : List UInt8) : decode (encode bytes) = some bytes := by
  rw [decode, decodeIndifferent_encode]
  simp

theorem encode_injective {left right : List UInt8} (same : encode left = encode right) :
    left = right := by
  have decoded := decode_encode left
  rw [same, decode_encode right] at decoded
  exact (Option.some.inj decoded).symm

end Roosty.Library.Base64
