import Roosty.Library.Json
import Roosty.Library.Text
import Mathlib.Data.List.Sort
import Mathlib.Data.List.Lex

/-! The canonical JSON serialization of RFC 8785: no spaces, members ordered by
the UTF-16 code units of their names, and the shortest string escapes. Numbers
are written by the library's number formatter, which is a parameter. Two values
have one text exactly when they are the same up to the order of members. -/

set_option autoImplicit false

namespace Roosty.Library.CanonicalJson

/-!
## Texts
-/

def isNumberChar (character : Char) : Bool :=
  character.isDigit || "+-.eE".toList.contains character

/-- A formatter that writes two numbers alike exactly when they are the same. -/
structure NumberFormat where
  text : Json.Number → List Char
  same : Json.Number → Json.Number → Prop
  canonical : ∀ left right, text left = text right ↔ same left right
  plain : ∀ number, (text number).all isNumberChar = true
  nonempty : ∀ number, text number ≠ []

def hexDigit (value : Nat) : Char := if value < 10 then Nat.digitChar value else Char.ofNat (87 + value)

def escapeChar (character : Char) : List Char :=
  if character = '"' then ['\\', '"']
  else if character = '\\' then ['\\', '\\']
  else if character.toNat = 8 then ['\\', 'b']
  else if character.toNat = 9 then ['\\', 't']
  else if character.toNat = 10 then ['\\', 'n']
  else if character.toNat = 12 then ['\\', 'f']
  else if character.toNat = 13 then ['\\', 'r']
  else if character.toNat < 32 then
    ['\\', 'u', '0', '0', hexDigit (character.toNat / 16), hexDigit (character.toNat % 16)]
  else [character]

def stringText (value : String) : List Char := '"' :: (value.toList.flatMap escapeChar ++ ['"'])

def utf16Units (character : Char) : List Nat :=
  if character.toNat < 0x10000 then [character.toNat]
  else [0xd800 + (character.toNat - 0x10000) / 0x400, 0xdc00 + (character.toNat - 0x10000) % 0x400]

def utf16 (name : String) : List Nat := name.toList.flatMap utf16Units

def ordered {Value : Type} (members : List (String × Value)) : List (String × Value) :=
  members.insertionSort fun left right => utf16 left.1 ≤ utf16 right.1

def memberText (member : String × List Char) : List Char := stringText member.1 ++ ':' :: member.2

variable (format : NumberFormat)

mutual

def text : Json → List Char
  | .null => "null".toList
  | .bool true => "true".toList
  | .bool false => "false".toList
  | .number value => format.text value
  | .string value => stringText value
  | .array items => '[' :: ([','].intercalate (itemTexts items) ++ [']'])
  | .object members =>
      '{' :: ([','].intercalate ((ordered (memberTexts members)).map memberText) ++ ['}'])

def itemTexts : List Json → List (List Char)
  | [] => []
  | item :: items => text item :: itemTexts items

def memberTexts : List (String × Json) → List (String × List Char)
  | [] => []
  | (name, value) :: members => (name, text value) :: memberTexts members

end

def bytes (json : Json) : List UInt8 := (text format json).flatMap String.utf8EncodeChar

/-!
## Prefix codes
-/

section Codes

variable {Letter Symbol : Type} {code : Letter → List Symbol}
variable {read : List Symbol → Option (Letter × List Symbol)}

/-- Words of a code that can be read off the front of a text are determined by
it, up to the first place where nothing can be read. -/
private theorem flatMap_code_inj
    (reads : ∀ letter rest, read (code letter ++ rest) = some (letter, rest))
    {left right : List Letter} {leftRest rightRest : List Symbol} (leftEnds : read leftRest = none)
    (rightEnds : read rightRest = none)
    (same : left.flatMap code ++ leftRest = right.flatMap code ++ rightRest) :
    left = right ∧ leftRest = rightRest := by
  induction left generalizing right with
  | nil =>
      cases right with
      | nil => exact ⟨rfl, same⟩
      | cons letter right =>
          rw [List.flatMap_cons, List.append_assoc] at same
          have found := reads letter (right.flatMap code ++ rightRest)
          rw [← same, List.flatMap_nil, List.nil_append, leftEnds] at found
          cases found
  | cons letter left ih =>
      rw [List.flatMap_cons, List.append_assoc] at same
      have found := reads letter (left.flatMap code ++ leftRest)
      cases right with
      | nil =>
          rw [same, List.flatMap_nil, List.nil_append, rightEnds] at found
          cases found
      | cons other right =>
          rw [List.flatMap_cons, List.append_assoc] at same
          rw [same, reads] at found
          simp only [Option.some.injEq, Prod.mk.injEq] at found
          obtain ⟨rfl, later⟩ := found
          obtain ⟨rfl, rest⟩ := ih later.symm
          exact ⟨rfl, rest⟩

end Codes

private def hexValue (digit : Char) : Nat :=
  if digit.isDigit then digit.toNat - 48 else digit.toNat - 87

private def readEscaped : List Char → Option (Char × List Char)
  | [] => none
  | '"' :: _ => none
  | '\\' :: 'b' :: rest => some (Char.ofNat 8, rest)
  | '\\' :: 't' :: rest => some (Char.ofNat 9, rest)
  | '\\' :: 'n' :: rest => some (Char.ofNat 10, rest)
  | '\\' :: 'f' :: rest => some (Char.ofNat 12, rest)
  | '\\' :: 'r' :: rest => some (Char.ofNat 13, rest)
  | '\\' :: 'u' :: '0' :: '0' :: high :: low :: rest =>
      some (Char.ofNat (16 * hexValue high + hexValue low), rest)
  | '\\' :: marked :: rest => some (marked, rest)
  | character :: rest => some (character, rest)

private theorem hexValue_hexDigit {code : Nat} (small : code < 32) :
    16 * hexValue (hexDigit (code / 16)) + hexValue (hexDigit (code % 16)) = code := by
  have all : ∀ code : Fin 32,
      16 * hexValue (hexDigit (code.val / 16)) + hexValue (hexDigit (code.val % 16)) = code.val := by
    decide +kernel
  exact all ⟨code, small⟩

private theorem readEscaped_escapeChar (character : Char) (rest : List Char) :
    readEscaped (escapeChar character ++ rest) = some (character, rest) := by
  have named : ∀ code, character.toNat = code →
      some (Char.ofNat code, rest) = some (character, rest) := by
    rintro code rfl
    rw [Char.ofNat_toNat]
  unfold escapeChar
  split
  next quote =>
    subst quote
    rfl
  next notQuote =>
    split
    next backslash =>
      subst backslash
      rfl
    next notBackslash =>
      split
      next code => exact named 8 code
      next =>
        split
        next code => exact named 9 code
        next =>
          split
          next code => exact named 10 code
          next =>
            split
            next code => exact named 12 code
            next =>
              split
              next code => exact named 13 code
              next =>
                split
                next small => exact named _ (hexValue_hexDigit small).symm
                next =>
                  unfold readEscaped
                  simp only [List.cons_append, List.nil_append]
                  split <;> simp_all

private theorem stringText_inj {left right : String} {leftRest rightRest : List Char}
    (same : stringText left ++ leftRest = stringText right ++ rightRest) :
    left = right ∧ leftRest = rightRest := by
  simp only [stringText, List.cons_append, List.append_assoc, List.nil_append,
    List.cons.injEq, true_and] at same
  obtain ⟨names, rests⟩ := flatMap_code_inj readEscaped_escapeChar rfl rfl same
  exact ⟨String.toList_injective names, List.tail_eq_of_cons_eq rests⟩

private def readUnits : List Nat → Option (Char × List Nat)
  | [] => none
  | unit :: rest =>
      if 0xd800 ≤ unit ∧ unit < 0xdc00 then
        match rest with
        | [] => none
        | low :: rest =>
            some (Char.ofNat (0x10000 + (unit - 0xd800) * 0x400 + (low - 0xdc00)), rest)
      else some (Char.ofNat unit, rest)

private theorem readUnits_utf16Units (character : Char) (rest : List Nat) :
    readUnits (utf16Units character ++ rest) = some (character, rest) := by
  have valid : character.toNat < 0xd800 ∨ (0xdfff < character.toNat ∧ character.toNat < 0x110000) :=
    character.valid
  unfold utf16Units
  split
  next small =>
    have outside : ¬ (0xd800 ≤ character.toNat ∧ character.toNat < 0xdc00) := by omega
    simp only [List.cons_append, List.nil_append, readUnits]
    rw [if_neg outside, Char.ofNat_toNat]
  next large =>
    have high : 0xd800 ≤ 0xd800 + (character.toNat - 0x10000) / 0x400 ∧
        0xd800 + (character.toNat - 0x10000) / 0x400 < 0xdc00 := by omega
    have whole : 0x10000 + (0xd800 + (character.toNat - 0x10000) / 0x400 - 0xd800) * 0x400 +
        (0xdc00 + (character.toNat - 0x10000) % 0x400 - 0xdc00) = character.toNat := by omega
    simp only [List.cons_append, List.nil_append, readUnits]
    rw [if_pos high, whole, Char.ofNat_toNat]

private theorem utf16_injective {left right : String} (same : utf16 left = utf16 right) :
    left = right := by
  have units : left.toList.flatMap utf16Units ++ [] = right.toList.flatMap utf16Units ++ [] := by
    simpa [utf16] using same
  exact String.toList_injective (flatMap_code_inj readUnits_utf16Units rfl rfl units).1

/-!
## Equal texts
-/

private theorem itemTexts_eq (items : List Json) :
    itemTexts format items = items.map (text format) := by
  induction items with
  | nil => rfl
  | cons item items ih => rw [itemTexts, ih, List.map_cons]

private theorem memberTexts_eq (members : List (String × Json)) :
    memberTexts format members = members.map fun member => (member.1, text format member.2) := by
  induction members with
  | nil => rfl
  | cons member members ih => rw [memberTexts, ih, List.map_cons]

private def entryText (member : String × Json) : List Char :=
  stringText member.1 ++ ':' :: text format member.2

private theorem ordered_map {First Second : Type} (change : First → Second)
    (members : List (String × First)) :
    ordered (members.map fun member => (member.1, change member.2)) =
      (ordered members).map fun member => (member.1, change member.2) := by
  symm
  apply List.map_insertionSort
  intro left _ right _
  rfl

private theorem text_object (members : List (String × Json)) :
    text format (.object members) =
      '{' :: ([','].intercalate ((ordered members).map (entryText format)) ++ ['}']) := by
  rw [text, memberTexts_eq, ordered_map, List.map_map]
  rfl

private def Ends (rest : List Char) : Prop :=
  ∀ character, rest.head? = some character → isNumberChar character = false

private theorem ends_cons {character : Char} (other : isNumberChar character = false)
    (rest : List Char) : Ends (character :: rest) := by
  intro first same
  cases same
  exact other

private theorem number_inj {left right leftRest rightRest : List Char}
    (leftPlain : left.all isNumberChar = true) (rightPlain : right.all isNumberChar = true)
    (leftEnds : Ends leftRest) (rightEnds : Ends rightRest)
    (same : left ++ leftRest = right ++ rightRest) : left = right ∧ leftRest = rightRest := by
  have front : ∀ {digits rest : List Char}, digits.all isNumberChar = true → Ends rest →
      (digits ++ rest).takeWhile isNumberChar = digits := by
    intro digits rest plain ends
    rw [List.takeWhile_append_of_pos (List.all_eq_true.mp plain)]
    cases rest with
    | nil => simp
    | cons first rest =>
        rw [List.takeWhile_cons_of_neg (by simp [ends first rfl]), List.append_nil]
  have sameFront := congrArg (List.takeWhile isNumberChar) same
  rw [front leftPlain leftEnds, front rightPlain rightEnds] at sameFront
  subst sameFront
  exact ⟨rfl, List.append_cancel_left same⟩

section Pieces

variable {Piece : Type} {write : Piece → List Char} {Related : Piece → Piece → Prop}
variable {close : Char}

private theorem intercalate_cons (piece : List Char) (pieces : List (List Char)) :
    [','].intercalate (piece :: pieces) = piece ++ pieces.flatMap fun later => ',' :: later := by
  induction pieces generalizing piece with
  | nil => simp
  | cons next pieces ih =>
      rw [List.intercalate_cons_cons, ih, List.flatMap_cons]
      simp

private theorem laterPieces_inj (write : Piece → List Char) {left right : List Piece}
    {leftRest rightRest : List Char}
    (notComma : close ≠ ',') (closes : isNumberChar close = false)
    (each : ∀ piece ∈ left, ∀ other pieceRest otherRest, Ends pieceRest → Ends otherRest →
      write piece ++ pieceRest = write other ++ otherRest →
        Related piece other ∧ pieceRest = otherRest)
    (same : (left.map write).flatMap (fun later => ',' :: later) ++ close :: leftRest =
      (right.map write).flatMap (fun later => ',' :: later) ++ close :: rightRest) :
    List.Forall₂ Related left right ∧ leftRest = rightRest := by
  have ends : ∀ (pieces : List Piece) (rest : List Char),
      Ends ((pieces.map write).flatMap (fun later => ',' :: later) ++ close :: rest) := by
    intro pieces rest
    cases pieces with
    | nil => exact ends_cons closes rest
    | cons piece pieces => exact ends_cons (by decide) _
  induction left generalizing right with
  | nil =>
      cases right with
      | nil => exact ⟨.nil, List.tail_eq_of_cons_eq same⟩
      | cons other right =>
          simp only [List.map_nil, List.flatMap_nil, List.nil_append, List.map_cons,
            List.flatMap_cons, List.cons_append, List.cons.injEq] at same
          exact absurd same.1 notComma
  | cons piece left ih =>
      cases right with
      | nil =>
          simp only [List.map_nil, List.flatMap_nil, List.nil_append, List.map_cons,
            List.flatMap_cons, List.cons_append, List.cons.injEq] at same
          exact absurd same.1.symm notComma
      | cons other right =>
          simp only [List.map_cons, List.flatMap_cons, List.cons_append, List.append_assoc,
            List.cons.injEq, true_and] at same
          obtain ⟨related, later⟩ := each piece List.mem_cons_self other _ _ (ends left leftRest)
            (ends right rightRest) same
          obtain ⟨others, rest⟩ := ih
            (fun earlier member => each earlier (List.mem_cons_of_mem _ member)) later
          exact ⟨.cons related others, rest⟩

private theorem pieces_inj {left right : List Piece} {leftRest rightRest : List Char}
    (notComma : close ≠ ',') (closes : isNumberChar close = false)
    (opens : ∀ piece rest tail, write piece ++ rest ≠ close :: tail)
    (each : ∀ piece ∈ left, ∀ other pieceRest otherRest, Ends pieceRest → Ends otherRest →
      write piece ++ pieceRest = write other ++ otherRest →
        Related piece other ∧ pieceRest = otherRest)
    (same : [','].intercalate (left.map write) ++ close :: leftRest =
      [','].intercalate (right.map write) ++ close :: rightRest) :
    List.Forall₂ Related left right ∧ leftRest = rightRest := by
  cases left with
  | nil =>
      cases right with
      | nil => exact ⟨.nil, List.tail_eq_of_cons_eq same⟩
      | cons other right =>
          rw [List.map_nil, List.intercalate_nil, List.nil_append, List.map_cons, intercalate_cons,
            List.append_assoc] at same
          exact absurd same.symm (opens other _ _)
  | cons piece left =>
      cases right with
      | nil =>
          rw [List.map_nil, List.intercalate_nil, List.nil_append, List.map_cons, intercalate_cons,
            List.append_assoc] at same
          exact absurd same (opens piece _ _)
      | cons other right =>
          -- a leading comma turns the first piece into one more of the later ones
          apply laterPieces_inj write notComma closes each
          rw [List.map_cons, List.map_cons, intercalate_cons, intercalate_cons] at same
          simpa using same

end Pieces

private inductive Kind where
  | null
  | bool
  | number
  | string
  | array
  | object

private def kind : Json → Kind
  | .null => .null
  | .bool _ => .bool
  | .number _ => .number
  | .string _ => .string
  | .array _ => .array
  | .object _ => .object

private def kindOf (character : Char) : Option Kind :=
  if character = 'n' then some .null
  else if character = 't' ∨ character = 'f' then some .bool
  else if character = '"' then some .string
  else if character = '[' then some .array
  else if character = '{' then some .object
  else if isNumberChar character then some .number
  else none

private theorem text_opens (json : Json) :
    ∃ first rest, text format json = first :: rest ∧ kindOf first = some (kind json) := by
  cases json with
  | null => exact ⟨'n', "ull".toList, rfl, rfl⟩
  | bool value =>
      cases value with
      | true => exact ⟨'t', "rue".toList, rfl, rfl⟩
      | false => exact ⟨'f', "alse".toList, rfl, rfl⟩
  | number value =>
      cases written : format.text value with
      | nil => exact absurd written (format.nonempty value)
      | cons first rest =>
          have plain := format.plain value
          rw [written, List.all_cons, Bool.and_eq_true] at plain
          refine ⟨first, rest, by rw [text, written], ?_⟩
          have other : ∀ letter, isNumberChar letter = false → first ≠ letter := by
            rintro letter not rfl
            rw [plain.1] at not
            cases not
          simp [kindOf, kind, plain.1, other 'n' (by decide), other 't' (by decide),
            other 'f' (by decide), other '"' (by decide), other '[' (by decide),
            other '{' (by decide)]
  | string value => exact ⟨'"', _, rfl, rfl⟩
  | array items => exact ⟨'[', _, rfl, rfl⟩
  | object members => exact ⟨'{', _, rfl, rfl⟩

private theorem text_kind {left right : Json} {leftRest rightRest : List Char}
    (same : text format left ++ leftRest = text format right ++ rightRest) :
    kind left = kind right := by
  obtain ⟨first, rest, leftText, leftKind⟩ := text_opens format left
  obtain ⟨other, otherRest, rightText, rightKind⟩ := text_opens format right
  rw [leftText, rightText, List.cons_append, List.cons_append, List.cons.injEq] at same
  rw [same.1, rightKind] at leftKind
  exact (Option.some.inj leftKind).symm

private theorem text_not_close {close : Char} (unknown : kindOf close = none) (json : Json)
    (rest tail : List Char) : text format json ++ rest ≠ close :: tail := by
  obtain ⟨first, others, shown, known⟩ := text_opens format json
  intro same
  rw [shown, List.cons_append, List.cons.injEq] at same
  rw [same.1, unknown] at known
  cases known

private theorem forall₂_entries {left right : List (String × Json)}
    (each : List.Forall₂ (fun one other => one.1 = other.1 ∧ Json.Same format.same one.2 other.2)
      left right) :
    left.map Prod.fst = right.map Prod.fst ∧
      List.Forall₂ (Json.Same format.same) (left.map Prod.snd) (right.map Prod.snd) := by
  induction each with
  | nil => exact ⟨rfl, .nil⟩
  | cons here _ ih => exact ⟨by simp [here.1, ih.1], .cons here.2 ih.2⟩

/-- Texts followed by texts that do not continue a number are equal only for
the same value. -/
private theorem text_inj (left : Json) : ∀ (right : Json) (leftRest rightRest : List Char),
    Ends leftRest → Ends rightRest →
      text format left ++ leftRest = text format right ++ rightRest →
        Json.Same format.same left right ∧ leftRest = rightRest := by
  induction left using Json.inductOn with
  | null =>
      intro right leftRest rightRest _ _ same
      have kinds := text_kind format same
      cases right <;> simp only [kind, reduceCtorEq] at kinds
      exact ⟨.null, List.append_cancel_left same⟩
  | bool value =>
      intro right leftRest rightRest _ _ same
      have kinds := text_kind format same
      cases right with
      | bool other =>
          cases value <;> cases other
          · exact ⟨.bool false, List.append_cancel_left same⟩
          · exact absurd (congrArg List.head? same) (by simp [text])
          · exact absurd (congrArg List.head? same) (by simp [text])
          · exact ⟨.bool true, List.append_cancel_left same⟩
      | _ => simp only [kind, reduceCtorEq] at kinds
  | number value =>
      intro right leftRest rightRest leftEnds rightEnds same
      have kinds := text_kind format same
      cases right with
      | number other =>
          simp only [text] at same
          obtain ⟨texts, rests⟩ := number_inj (format.plain value) (format.plain other) leftEnds
            rightEnds same
          exact ⟨.number ((format.canonical value other).mp texts), rests⟩
      | _ => simp only [kind, reduceCtorEq] at kinds
  | string value =>
      intro right leftRest rightRest _ _ same
      have kinds := text_kind format same
      cases right with
      | string other =>
          simp only [text] at same
          obtain ⟨rfl, rests⟩ := stringText_inj same
          exact ⟨.string value, rests⟩
      | _ => simp only [kind, reduceCtorEq] at kinds
  | array items ih =>
      intro right leftRest rightRest _ _ same
      have kinds := text_kind format same
      cases right with
      | array others =>
          simp only [text, itemTexts_eq, List.cons_append, List.append_assoc, List.nil_append,
            List.cons.injEq, true_and] at same
          obtain ⟨each, rests⟩ := pieces_inj (by decide) (by decide)
            (text_not_close format (by decide)) ih same
          exact ⟨.array each, rests⟩
      | _ => simp only [kind, reduceCtorEq] at kinds
  | object members ih =>
      intro right leftRest rightRest _ _ same
      have kinds := text_kind format same
      cases right with
      | object others =>
          simp only [text_object, List.cons_append, List.append_assoc, List.nil_append,
            List.cons.injEq, true_and] at same
          have opens : ∀ entry rest tail, entryText format entry ++ rest ≠ '}' :: tail := by
            intro entry rest tail shown
            cases shown
          have entries : ∀ entry ∈ ordered members, ∀ other entryRest otherRest,
              Ends entryRest → Ends otherRest →
                entryText format entry ++ entryRest = entryText format other ++ otherRest →
                  (entry.1 = other.1 ∧ Json.Same format.same entry.2 other.2) ∧
                    entryRest = otherRest := by
            intro entry member other entryRest otherRest entryEnds otherEnds shown
            simp only [entryText, List.append_assoc, List.cons_append] at shown
            obtain ⟨names, values⟩ := stringText_inj shown
            have stored := (List.mem_insertionSort _).mp member
            obtain ⟨value, rests⟩ := ih entry stored other.2 entryRest otherRest entryEnds otherEnds
              (List.tail_eq_of_cons_eq values)
            exact ⟨⟨names, value⟩, rests⟩
          obtain ⟨each, rests⟩ := pieces_inj (by decide) (by decide) opens entries same
          obtain ⟨names, values⟩ := forall₂_entries format each
          exact ⟨.object (List.perm_insertionSort _ members).symm names values
            (List.perm_insertionSort _ others), rests⟩
      | _ => simp only [kind, reduceCtorEq] at kinds

/-!
## The same values
-/

private theorem ordered_eq_of_perm {Value : Type} {left right : List (String × Value)}
    (same : left.Perm right) (distinct : (left.map Prod.fst).Nodup) :
    ordered left = ordered right := by
  have orderedPerm : (ordered left).Perm (ordered right) :=
    (List.perm_insertionSort _ left).trans (same.trans (List.perm_insertionSort _ right).symm)
  refine List.Perm.eq_of_pairwise ?_ (List.pairwise_insertionSort _ left)
    (List.pairwise_insertionSort _ right) orderedPerm
  intro one other oneMember otherMember before after
  have names : one.1 = other.1 := utf16_injective (le_antisymm before after)
  have oneStored : one ∈ left := (List.mem_insertionSort _).mp oneMember
  have otherStored : other ∈ left := same.mem_iff.mpr ((List.mem_insertionSort _).mp otherMember)
  exact List.inj_on_of_nodup_map distinct oneStored otherStored names

private theorem text_eq_of_same (left : Json) : left.WellFormed → ∀ right,
    Json.Same format.same left right → text format left = text format right := by
  induction left using Json.inductOn with
  | null =>
      intro _ right same
      cases same
      rfl
  | bool value =>
      intro _ right same
      cases same
      rfl
  | number value =>
      intro _ right same
      cases same with
      | number numbers => rw [text, text, (format.canonical _ _).mpr numbers]
  | string value =>
      intro _ right same
      cases same
      rfl
  | array items ih =>
      intro valid right same
      cases valid with
      | array valid =>
          cases same with
          | @array _ others each =>
              have texts : items.map (text format) = others.map (text format) := by
                induction each with
                | nil => rfl
                | @cons item other items others here _ later =>
                    have first := ih item List.mem_cons_self (valid item List.mem_cons_self) other here
                    rw [List.map_cons, List.map_cons, first,
                      later (fun item member => ih item (List.mem_cons_of_mem _ member))
                        (fun item member => valid item (List.mem_cons_of_mem _ member))]
              rw [text, text, itemTexts_eq, itemTexts_eq, texts]
  | object members ih =>
      intro valid right same
      cases valid with
      | object distinct valid =>
          cases same with
          | @object _ others leftOrdered rightOrdered leftOrder names each rightOrder =>
              have texts : leftOrdered.map (fun member => (member.1, text format member.2)) =
                  rightOrdered.map fun member => (member.1, text format member.2) := by
                have inside : ∀ member ∈ leftOrdered, member ∈ members :=
                  fun member => leftOrder.mem_iff.mpr
                clear * - names each ih valid inside
                induction leftOrdered generalizing rightOrdered with
                | nil =>
                    cases rightOrdered with
                    | nil => rfl
                    | cons other others => cases names
                | cons member laters later =>
                    cases rightOrdered with
                    | nil => cases names
                    | cons other others =>
                        simp only [List.map_cons, List.cons.injEq] at names
                        cases each with
                        | cons here each =>
                            have stored := inside member List.mem_cons_self
                            have first := ih member stored (valid member stored) other.2 here
                            rw [List.map_cons, List.map_cons, names.1, first, later names.2 each
                              fun member inner => inside member (List.mem_cons_of_mem _ inner)]
              have perm : (members.map fun member => (member.1, text format member.2)).Perm
                  (others.map fun member => (member.1, text format member.2)) := by
                have front := leftOrder.map fun member => (member.1, text format member.2)
                rw [texts] at front
                exact front.trans (rightOrder.map _)
              have distinctTexts : ((members.map fun member =>
                  (member.1, text format member.2)).map Prod.fst).Nodup := by
                rw [List.map_map]
                exact distinct
              rw [text, text, memberTexts_eq, memberTexts_eq,
                ordered_eq_of_perm perm distinctTexts]

theorem text_eq_iff {left right : Json} (valid : left.WellFormed) :
    text format left = text format right ↔ Json.Same format.same left right := by
  constructor
  · intro same
    have ends : Ends [] := by
      intro character first
      cases first
    exact (text_inj format left right [] [] ends ends (by simpa using same)).1
  · exact text_eq_of_same format left valid right

theorem bytes_eq_iff {left right : Json} (valid : left.WellFormed) :
    bytes format left = bytes format right ↔ Json.Same format.same left right := by
  rw [← text_eq_iff format valid]
  exact ⟨Text.utf8_injective, fun same => by rw [bytes, bytes, same]⟩

end Roosty.Library.CanonicalJson
