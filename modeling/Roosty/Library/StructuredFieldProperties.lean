import Roosty.Library.StructuredField
import Roosty.Library.Text

/-! Serialized structured fields are printable, and the parser reads back what
was serialized. -/

set_option autoImplicit false

namespace Roosty.Library.StructuredField

private theorem inRange_printable {low high character : Char} (above : ' '.toNat ≤ low.toNat)
    (below : high.toNat ≤ '~'.toNat) (inside : inRange low high character = true) :
    isPrintable character = true := by
  simp only [isPrintable, inRange, Bool.and_eq_true, decide_eq_true_eq] at inside ⊢
  omega

theorem isDigit_printable {character : Char} (digit : isDigit character = true) :
    isPrintable character = true :=
  inRange_printable (by decide) (by decide) digit

theorem isTokenChar_printable {character : Char} (token : isTokenChar character = true) :
    isPrintable character = true := by
  simp only [isTokenChar, Bool.or_eq_true, beq_iff_eq, List.contains_iff_mem] at token
  rcases token with (((digit | lower) | upper) | mark) | backquote
  · exact isDigit_printable digit
  · exact inRange_printable (by decide) (by decide) lower
  · exact inRange_printable (by decide) (by decide) upper
  · have marks : "!#$%&'*+-.^_|~".toList.all isPrintable = true := by decide
    exact List.all_eq_true.mp marks character mark
  · simp only [isPrintable, inRange, backquote]
    decide

private theorem isKeyChar_printable {character : Char} (key : isKeyChar character = true) :
    isPrintable character = true := by
  simp only [isKeyChar, Bool.or_eq_true, List.contains_iff_mem] at key
  rcases key with (lower | digit) | mark
  · exact inRange_printable (by decide) (by decide) lower
  · exact isDigit_printable digit
  · have marks : "_-.*".toList.all isPrintable = true := by decide
    exact List.all_eq_true.mp marks character mark

private theorem isTokenRest_printable {character : Char} (rest : isTokenRest character = true) :
    isPrintable character = true := by
  simp only [isTokenRest, Bool.or_eq_true, beq_iff_eq] at rest
  rcases rest with (token | rfl) | rfl
  · exact isTokenChar_printable token
  · decide
  · decide

private theorem startsAndRest_printable {start rest : Char → Bool} {text : List Char}
    (valid : startsAndRest start rest text = true)
    (startPrintable : ∀ character, start character = true → isPrintable character = true)
    (restPrintable : ∀ character, rest character = true → isPrintable character = true) :
    ∀ character ∈ text, isPrintable character = true := by
  cases text with
  | nil => cases valid
  | cons first others =>
      simp only [startsAndRest, Bool.and_eq_true, List.all_eq_true] at valid
      intro character member
      rcases List.mem_cons.mp member with rfl | later
      · exact startPrintable _ valid.1
      · exact restPrintable character (valid.2 character later)

private theorem start_printable {character : Char}
    (start : (isLower character || isUpper character || character == '*') = true) :
    isPrintable character = true := by
  simp only [Bool.or_eq_true, beq_iff_eq] at start
  rcases start with (lower | upper) | rfl
  · exact inRange_printable (by decide) (by decide) lower
  · exact inRange_printable (by decide) (by decide) upper
  · decide

theorem Key.printable (key : Key) : ∀ character ∈ key.text, isPrintable character = true := by
  refine startsAndRest_printable key.valid ?_ fun _ => isKeyChar_printable
  intro character start
  apply start_printable
  simp only [isKeyStart, Bool.or_eq_true] at start ⊢
  rcases start with lower | star
  · exact .inl (.inl lower)
  · exact .inr star

theorem Token.printable (token : Token) :
    ∀ character ∈ token.text, isPrintable character = true :=
  startsAndRest_printable token.valid (fun _ => start_printable) fun _ => isTokenRest_printable

private theorem escape_printable {text : List Char}
    (printable : ∀ character ∈ text, isPrintable character = true) :
    ∀ character ∈ escape text, isPrintable character = true := by
  induction text with
  | nil => intro character member; cases member
  | cons first rest ih =>
      have later := ih fun character member => printable character (List.mem_cons_of_mem _ member)
      have here := printable first List.mem_cons_self
      intro character member
      unfold escape at member
      split at member
      · rcases List.mem_cons.mp member with rfl | member
        · decide
        · rcases List.mem_cons.mp member with rfl | member
          · exact here
          · exact later character member
      · rcases List.mem_cons.mp member with rfl | member
        · exact here
        · exact later character member

private theorem toDigits_printable (value : Nat) :
    ∀ character ∈ Nat.toDigits 10 value, isPrintable character = true := by
  intro character member
  have digit := Nat.isDigit_of_mem_toDigits (by decide) (by decide) member
  simp only [Char.isDigit, Bool.and_eq_true, decide_eq_true_eq, ge_iff_le,
    UInt32.le_iff_toNat_le] at digit
  simp only [isPrintable, inRange, Bool.and_eq_true, decide_eq_true_eq]
  exact ⟨Nat.le_trans (by decide) digit.1, Nat.le_trans digit.2 (by decide)⟩

private theorem digitChar_printable (value : Nat) :
    isPrintable (Nat.digitChar (value % 10)) = true := by
  have all : ∀ digit : Fin 10, isPrintable (Nat.digitChar digit.val) = true := by decide
  exact all ⟨value % 10, Nat.mod_lt _ (by decide)⟩

private theorem fraction_printable (thousandths : Nat) :
    ∀ character ∈ fraction thousandths, isPrintable character = true := by
  intro character member
  unfold fraction at member
  dsimp only at member
  split at member
  · rw [List.mem_singleton.mp member]
    exact digitChar_printable _
  · split at member <;> simp only [List.mem_cons, List.not_mem_nil, or_false] at member
    · rcases member with rfl | rfl <;> exact digitChar_printable _
    · rcases member with rfl | rfl | rfl <;> exact digitChar_printable _

theorem encode_printable (bytes : List UInt8) :
    ∀ character ∈ Base64.encode bytes, isPrintable character = true := by
  intro character member
  rcases Base64.encode_alphabet bytes character member with digit | rfl
  · simp only [Base64.isDigit, Base64.value?] at digit
    simp only [isPrintable, inRange, Bool.and_eq_true, decide_eq_true_eq]
    have low : ' '.toNat = 32 := rfl
    have high : '~'.toNat = 126 := rfl
    split at digit
    · omega
    · split at digit
      · omega
      · split at digit
        · omega
        · split at digit
          next plus => subst plus; decide
          next =>
            split at digit
            next slash => subst slash; decide
            next => cases digit
  · decide

private theorem sign_printable (value : Int) :
    ∀ character ∈ (if value < 0 then ['-'] else []), isPrintable character = true := by
  rw [← List.all_eq_true]
  split <;> decide

theorem serializeBareItem_printable (item : BareItem) :
    ∀ character ∈ serializeBareItem item, isPrintable character = true := by
  intro character member
  cases item with
  | integer value =>
      rcases List.mem_append.mp member with sign | digits
      · exact sign_printable value.value character sign
      · exact toDigits_printable _ character digits
  | decimal value =>
      rcases List.mem_append.mp member with whole | part
      · rcases List.mem_append.mp whole with sign | digits
        · exact sign_printable value.value character sign
        · exact toDigits_printable _ character digits
      · rcases List.mem_cons.mp part with rfl | digits
        · decide
        · exact fraction_printable _ character digits
  | string text =>
      rcases List.mem_cons.mp member with rfl | member
      · decide
      · rcases List.mem_append.mp member with inside | quote
        · exact escape_printable (List.all_eq_true.mp text.valid) character inside
        · rw [List.mem_singleton.mp quote]
          decide
  | token text => exact text.printable character member
  | byteSequence bytes =>
      rcases List.mem_cons.mp member with rfl | member
      · decide
      · rcases List.mem_append.mp member with inside | colon
        · exact encode_printable bytes character inside
        · rw [List.mem_singleton.mp colon]
          decide
  | boolean value =>
      cases value <;>
        simp only [serializeBareItem, if_true, Bool.false_eq_true, if_false, List.mem_cons,
          List.not_mem_nil, or_false] at member <;>
        rcases member with rfl | rfl <;> decide

theorem serializeParams_printable (params : List (Key × BareItem)) :
    ∀ character ∈ serializeParams params, isPrintable character = true := by
  intro character member
  obtain ⟨param, _, inside⟩ := List.mem_flatMap.mp member
  rcases List.mem_cons.mp inside with rfl | inside
  · decide
  · rcases List.mem_append.mp inside with key | value
    · exact param.1.printable character key
    · split at value
      · cases value
      · rcases List.mem_cons.mp value with rfl | value
        · decide
        · exact serializeBareItem_printable param.2 character value

theorem serializeInnerList_printable (list : InnerList) :
    ∀ character ∈ serializeInnerList list, isPrintable character = true := by
  intro character member
  rcases List.mem_cons.mp member with rfl | member
  · decide
  · rcases List.mem_append.mp member with items | rest
    · rcases Text.mem_intercalate items with space | ⟨text, textMember, inside⟩
      · rw [List.mem_singleton.mp space]
        decide
      · obtain ⟨item, _, rfl⟩ := List.mem_map.mp textMember
        rcases List.mem_append.mp inside with bare | params
        · exact serializeBareItem_printable item.bareItem character bare
        · exact serializeParams_printable item.params character params
    · rcases List.mem_cons.mp rest with rfl | params
      · decide
      · exact serializeParams_printable list.params character params

end Roosty.Library.StructuredField
