import Roosty.Library.Base64

/-! The URL-safe Base64 alphabet without padding. -/

set_option autoImplicit false

namespace Roosty.Library.Base64

def toUrl (character : Char) : Char :=
  if character = '+' then '-' else if character = '/' then '_' else character

/-- The standard character; those of the standard alphabet alone, and padding, are refused. -/
def ofUrl (character : Char) : Option Char :=
  if character = '-' then some '+'
  else if character = '_' then some '/'
  else if character = '+' ∨ character = '/' ∨ character = '=' then none
  else some character

def unpadded (text : List Char) : List Char := text.filter (· != '=')

def encodeUrl (bytes : List UInt8) : List Char := (unpadded (encode bytes)).map toUrl

def decodeUrl (text : List Char) : Option (List UInt8) := do
  let standard ← text.mapM ofUrl
  (decodeIndifferent standard).filter fun bytes => encodeUrl bytes == text

theorem ofUrl_toUrl {character : Char} (letter : isDigit character = true) :
    ofUrl (toUrl character) = some character := by
  have apart : character ≠ '-' ∧ character ≠ '_' ∧ character ≠ '=' := by
    refine ⟨?_, ?_, ?_⟩
    all_goals
      rintro rfl
      exact absurd letter (by decide)
  obtain ⟨noDash, noLine, noPad⟩ := apart
  unfold toUrl
  by_cases plus : character = '+'
  · rw [if_pos plus, plus]
    rfl
  · rw [if_neg plus]
    by_cases slash : character = '/'
    · rw [if_pos slash, slash]
      rfl
    · rw [if_neg slash, ofUrl, if_neg noDash, if_neg noLine,
        if_neg (by simp [plus, slash, noPad])]

theorem unpadded_digit {value : Nat} (bound : value < 64) (rest : List Char) :
    unpadded (digit value :: rest) = digit value :: unpadded rest :=
  List.filter_cons_of_pos (bne_iff_ne.mpr (digit_ne_pad bound))

theorem decodeIndifferent_unpadded (bytes : List UInt8) :
    decodeIndifferent (unpadded (encode bytes)) = some bytes := by
  have whole := decodeIndifferent_encode bytes
  fun_induction encode bytes with
  | case1 => exact whole
  | case2 a =>
      have aBound := a.toNat_lt
      rw [unpadded_digit (by omega), unpadded_digit (by omega)]
      exact whole
  | case3 a b =>
      have aBound := a.toNat_lt
      have bBound := b.toNat_lt
      have last : digit (b.toNat % 16 * 4) ≠ '=' := digit_ne_pad (by omega)
      simp only [decodeIndifferent, if_true, if_neg last] at whole
      rw [unpadded_digit (by omega), unpadded_digit (by omega), unpadded_digit (by omega)]
      change decodeIndifferent [_, _, _] = _
      rw [decodeIndifferent, if_neg last]
      exact whole
  | case4 a b c rest ih =>
      have aBound := a.toNat_lt
      have bBound := b.toNat_lt
      have cBound := c.toNat_lt
      have last : digit (c.toNat % 64) ≠ '=' := digit_ne_pad (by omega)
      have later := ih (decodeIndifferent_encode rest)
      rw [unpadded_digit (by omega), unpadded_digit (by omega), unpadded_digit (by omega),
        unpadded_digit (by omega)]
      cases shortened : unpadded (encode rest) with
      | nil =>
          rw [shortened] at later
          have empty : [] = rest := Option.some.inj later
          rw [decodeIndifferent, if_neg last, decodeThree_encode, ← empty]
      | cons head tail =>
          rw [shortened] at later
          rw [decodeIndifferent, decodeThree_encode, later]
          · rfl
          · simp

theorem mapM_ofUrl {text : List Char} (letters : ∀ character ∈ text, isDigit character = true) :
    (text.map toUrl).mapM ofUrl = some text := by
  induction text with
  | nil => rfl
  | cons first rest ih =>
      have here := ofUrl_toUrl (letters first List.mem_cons_self)
      have later := ih fun character member => letters character (List.mem_cons_of_mem _ member)
      rw [List.map_cons, List.mapM_cons, here, later]
      rfl

theorem unpadded_alphabet (bytes : List UInt8) :
    ∀ character ∈ unpadded (encode bytes), isDigit character = true := by
  intro character member
  obtain ⟨inside, noPad⟩ := List.mem_filter.mp member
  exact (encode_alphabet bytes character inside).resolve_right (bne_iff_ne.mp noPad)

theorem decodeUrl_encodeUrl (bytes : List UInt8) : decodeUrl (encodeUrl bytes) = some bytes := by
  have standard : (encodeUrl bytes).mapM ofUrl = some (unpadded (encode bytes)) :=
    mapM_ofUrl (unpadded_alphabet bytes)
  rw [decodeUrl, standard, Option.bind_eq_bind, Option.bind_some, decodeIndifferent_unpadded]
  simp

theorem encodeUrl_alphabet (bytes : List UInt8) :
    ∀ character ∈ encodeUrl bytes, character ≠ ';' ∧ character ≠ ' ' := by
  intro character member
  obtain ⟨letter, inside, rfl⟩ := List.mem_map.mp member
  have read := ofUrl_toUrl (unpadded_alphabet bytes letter inside)
  have digit := unpadded_alphabet bytes letter inside
  constructor
  all_goals
    intro same
    rw [same] at read
    rw [← Option.some.inj read] at digit
    exact absurd digit (by decide)

end Roosty.Library.Base64
