import Roosty.Federation.Signature
import Roosty.Library.StructuredFieldProperties

/-!
# What an accepted signature covers

Inversion of both verification paths, the text that each of them checks, and
what that text determines about the request.
-/

set_option autoImplicit false

namespace Roosty.Federation.Signature

open Library StructuredField

variable {PublicKey PrivateKey Ed25519Key : Type}
variable {primitives : Primitives PublicKey PrivateKey Ed25519Key}

/-!
## Header texts
-/

def isFieldChar (character : Char) : Bool := isPrintable character || character == '\t'

theorem isFieldChar_ne_newline {character : Char} (field : isFieldChar character = true) :
    character ≠ '\n' := by
  intro same
  rw [same] at field
  exact absurd field (by decide)

private theorem visible_isFieldChar {byte : UInt8}
    (visible : HeaderValue.isVisibleAscii byte = true) :
    isFieldChar (Char.ofNat byte.toNat) = true := by
  have all : ∀ value : Fin 256, HeaderValue.isVisibleAscii (UInt8.ofNat value.val) = true →
      isFieldChar (Char.ofNat (UInt8.ofNat value.val).toNat) = true := by decide +kernel
  have found := all ⟨byte.toNat, byte.toNat_lt⟩
  simp only [UInt8.ofNat_toNat] at found
  exact found visible

theorem toStr_fieldChars {value : HeaderValue} {text : List Char}
    (read : value.toStr = some text) : ∀ character ∈ text, isFieldChar character = true := by
  unfold HeaderValue.toStr at read
  split at read
  next visible =>
    cases read
    intro character member
    obtain ⟨byte, byteMember, rfl⟩ := List.mem_map.mp member
    exact visible_isFieldChar (List.all_eq_true.mp visible byte byteMember)
  next => cases read

theorem mem_trimMatches {dropped : Char → Bool} {text : List Char} {character : Char}
    (member : character ∈ Text.trimMatches dropped text) : character ∈ text :=
  (List.dropWhile_sublist dropped).subset ((List.rdropWhile_prefix dropped _).subset member)

theorem trimmedValues_mem {name : List Char} {values : List HeaderValue}
    {texts : List (List Char)} (success : trimmedValues name values = .ok texts)
    {text : List Char} (member : text ∈ texts) :
    ∃ raw, (∃ value : HeaderValue, value.toStr = some raw) ∧ text = trimBlanks raw := by
  induction values generalizing texts with
  | nil =>
      cases success
      cases member
  | cons value values ih =>
      obtain ⟨raw, read, success⟩ := bind_ok success
      obtain ⟨later, trimmed, success⟩ := bind_ok success
      cases success
      rcases List.mem_cons.mp member with rfl | laterMember
      · exact ⟨raw, ⟨value, okOr_ok read⟩, rfl⟩
      · exact ih trimmed laterMember

theorem combinedHeaderValue_ok {headers : HeaderMap} {name value : List Char}
    (success : combinedHeaderValue headers name = .ok value) :
    ∃ texts, trimmedValues name (headers.getAll name) = .ok texts ∧ texts ≠ [] ∧
      value = ", ".toList.intercalate texts := by
  obtain ⟨texts, trimmed, success⟩ := bind_ok success
  obtain ⟨_, nonempty, success⟩ := bind_ok success
  cases success
  exact ⟨texts, trimmed, by simpa using ensure_ok nonempty, rfl⟩

theorem combinedHeaderValue_fieldChars {headers : HeaderMap} {name value : List Char}
    (success : combinedHeaderValue headers name = .ok value) :
    ∀ character ∈ value, isFieldChar character = true := by
  obtain ⟨texts, trimmed, _, rfl⟩ := combinedHeaderValue_ok success
  intro character member
  rcases Text.mem_intercalate member with separator | ⟨text, textMember, inside⟩
  · have both : ", ".toList.all isFieldChar = true := by decide
    exact List.all_eq_true.mp both character separator
  · obtain ⟨raw, ⟨value, read⟩, rfl⟩ := trimmedValues_mem trimmed textMember
    exact toStr_fieldChars read character (mem_trimMatches inside)

theorem combinedHeaderValue_present {headers : HeaderMap} {name value : List Char}
    (success : combinedHeaderValue headers name = .ok value) :
    ∃ entry ∈ headers.entries, entry.1.text = Text.toAsciiLowercase name := by
  obtain ⟨texts, trimmed, nonempty, _⟩ := combinedHeaderValue_ok success
  have values : headers.getAll name ≠ [] := by
    intro none
    rw [none] at trimmed
    cases trimmed
    exact nonempty rfl
  obtain ⟨found, member⟩ := List.exists_mem_of_ne_nil _ values
  obtain ⟨entry, entryMember, _⟩ := List.mem_map.mp member
  obtain ⟨stored, same⟩ := List.mem_filter.mp entryMember
  exact ⟨entry, stored, by simpa using same⟩

private theorem getAll_lowercase (headers : HeaderMap) (name : List Char) :
    headers.getAll (Text.toAsciiLowercase name) = headers.getAll name := by
  simp [HeaderMap.getAll]

theorem trimmedValues_name {left right : List Char} {values : List HeaderValue}
    {texts : List (List Char)} (success : trimmedValues left values = .ok texts) :
    trimmedValues right values = .ok texts := by
  induction values generalizing texts with
  | nil => exact success
  | cons value values ih =>
      obtain ⟨raw, read, success⟩ := bind_ok success
      obtain ⟨later, trimmed, success⟩ := bind_ok success
      cases success
      simp only [trimmedValues, okOr_ok read, ih trimmed]
      rfl

theorem combinedHeaderValue_lowercase {headers : HeaderMap} {name value : List Char}
    (success : combinedHeaderValue headers name = .ok value) :
    combinedHeaderValue headers (Text.toAsciiLowercase name) = .ok value := by
  obtain ⟨texts, trimmed, nonempty, rfl⟩ := combinedHeaderValue_ok success
  have texts_nonempty : texts.isEmpty = false := by simpa using nonempty
  unfold combinedHeaderValue
  rw [getAll_lowercase, trimmedValues_name trimmed]
  simp only [ok_bind, texts_nonempty, Bool.not_false, ensure_true]
  rfl

/-!
## Lines
-/

theorem labelledLines_ok {label : List Char → List Char}
    {value : List Char → Except SignatureError (List Char)} {names lines : List (List Char)}
    (success : labelledLines label value names = .ok lines) :
    List.Forall₂ (fun name line => ∃ text, value name = .ok text ∧ line = label name ++ text)
      names lines := by
  induction names generalizing lines with
  | nil =>
      cases success
      exact .nil
  | cons name names ih =>
      obtain ⟨text, found, success⟩ := bind_ok success
      obtain ⟨later, rest, success⟩ := bind_ok success
      cases success
      exact .cons ⟨text, found, rfl⟩ (ih rest)

theorem labelledLines_mem {label : List Char → List Char}
    {value : List Char → Except SignatureError (List Char)} {names lines : List (List Char)}
    (success : labelledLines label value names = .ok lines) {line : List Char} :
    line ∈ lines ↔ ∃ name ∈ names, ∃ text, value name = .ok text ∧ line = label name ++ text := by
  have shape := labelledLines_ok success
  clear success
  induction shape with
  | nil => simp
  | @cons name first names lines found rest ih =>
      obtain ⟨text, computed, shown⟩ := found
      rw [List.mem_cons]
      constructor
      · rintro (rfl | later)
        · exact ⟨name, List.mem_cons_self, text, computed, shown⟩
        · obtain ⟨other, member, described⟩ := ih.mp later
          exact ⟨other, List.mem_cons_of_mem _ member, described⟩
      · rintro ⟨other, member, otherText, otherComputed, rfl⟩
        rcases List.mem_cons.mp member with rfl | later
        · rw [computed] at otherComputed
          cases otherComputed
          exact .inl shown.symm
        · exact .inr (ih.mpr ⟨other, later, otherText, otherComputed, rfl⟩)

theorem labelledLines_inj {label : List Char → List Char} (key : List Char → List Char)
    {firstValue secondValue : List Char → Except SignatureError (List Char)}
    {first second lines : List (List Char)}
    (firstLines : labelledLines label firstValue first = .ok lines)
    (secondLines : labelledLines label secondValue second = .ok lines)
    (split : ∀ left right leftText rightText, firstValue left = .ok leftText →
      secondValue right = .ok rightText → label left ++ leftText = label right ++ rightText →
      key left = key right ∧ leftText = rightText) :
    first.map key = second.map key ∧
      ∀ name ∈ first, ∃ other ∈ second, key name = key other ∧
        ∃ text, firstValue name = .ok text ∧ secondValue other = .ok text := by
  have firstShape := labelledLines_ok firstLines
  have secondShape := labelledLines_ok secondLines
  clear firstLines secondLines
  induction firstShape generalizing second with
  | nil =>
      cases secondShape
      simp
  | @cons left line lefts lines leftFound _ ih =>
      cases secondShape with
      | @cons right _ rights _ rightFound later =>
          obtain ⟨leftText, leftComputed, leftShown⟩ := leftFound
          obtain ⟨rightText, rightComputed, rightShown⟩ := rightFound
          obtain ⟨sameKey, sameText⟩ := split left right leftText rightText leftComputed
            rightComputed (leftShown.symm.trans rightShown)
          obtain ⟨sameKeys, sameValues⟩ := ih later
          subst sameText
          refine ⟨by simp [sameKey, sameKeys], ?_⟩
          intro name member
          rcases List.mem_cons.mp member with rfl | laterMember
          · exact ⟨right, List.mem_cons_self, sameKey, leftText, leftComputed, rightComputed⟩
          · obtain ⟨other, otherMember, described⟩ := sameValues name laterMember
            exact ⟨other, List.mem_cons_of_mem _ otherMember, described⟩

/-!
## The legacy format
-/

theorem headerName_chars (name : HeaderName) :
    ∀ character ∈ name.text, isTokenChar character = true := by
  intro character member
  have valid := List.all_eq_true.mp name.valid character member
  simp only [Bool.and_eq_true] at valid
  exact valid.1

def isLabelChar (character : Char) : Bool :=
  isTokenChar character || character == '(' || character == ')'

theorem legacyComponent_name {parts : Parts} {name text : List Char}
    (success : legacyComponent parts name = .ok text) :
    Text.toAsciiLowercase name ≠ [] ∧
      ∀ character ∈ Text.toAsciiLowercase name, isLabelChar character = true := by
  unfold legacyComponent at success
  split at success
  next target =>
    have shown : Text.toAsciiLowercase name = requestTarget := by
      have same := (beq_iff_eq.mp target)
      rw [same]
      decide
    rw [shown, ← List.all_eq_true]
    decide
  next =>
    obtain ⟨entry, _, shown⟩ := combinedHeaderValue_present success
    rw [← shown]
    refine ⟨entry.1.nonempty, ?_⟩
    intro character member
    simp [isLabelChar, headerName_chars entry.1 character member]

theorem isLabelChar_ne {character : Char} (label : isLabelChar character = true) :
    character ≠ ':' ∧ character ≠ '\n' ∧ character ≠ '"' := by
  refine ⟨?_, ?_, ?_⟩ <;> intro same <;> rw [same] at label <;> exact absurd label (by decide)

theorem isTokenChar_ascii {character : Char} (token : isTokenChar character = true) :
    character.toNat < 128 := by
  have printable := isTokenChar_printable token
  simp only [isPrintable, inRange, Bool.and_eq_true, decide_eq_true_eq] at printable
  exact Nat.lt_of_le_of_lt printable.2 (by decide)

theorem isTokenChar_toLower {character : Char} (token : isTokenChar character = true) :
    isTokenChar character.toLower = true := by
  have all : ∀ code : Fin 128, isTokenChar (Char.ofNat code.val) = true →
      isTokenChar (Char.ofNat code.val).toLower = true := by decide +kernel
  have found := all ⟨character.toNat, isTokenChar_ascii token⟩
  simp only [Char.ofNat_toNat] at found
  exact found token

theorem method_lowercase_tokens (method : Method) :
    ∀ character ∈ Text.toAsciiLowercase method.text, isTokenChar character = true := by
  intro character member
  obtain ⟨before, beforeMember, rfl⟩ := List.mem_map.mp member
  exact isTokenChar_toLower (List.all_eq_true.mp method.valid before beforeMember)

theorem isTokenChar_ne {character : Char} (token : isTokenChar character = true) :
    character ≠ ' ' ∧ character ≠ '\n' ∧ character ≠ '"' := by
  refine ⟨?_, ?_, ?_⟩ <;> intro same <;> rw [same] at token <;> exact absurd token (by decide)

private theorem asStr_uriChars (target : PathAndQuery) :
    ∀ character ∈ target.asStr, isUriChar character = true := by
  intro character member
  have valid := List.all_eq_true.mp target.valid
  unfold PathAndQuery.asStr at member
  split at member
  · rw [List.mem_singleton.mp member]
    decide
  · rcases List.mem_append.mp member with path | query
    · exact valid character (List.mem_append_left _ path)
    · cases given : target.query with
      | none => simp [given] at query
      | some text =>
          rw [given] at query valid
          rcases List.mem_cons.mp query with rfl | inside
          · decide
          · exact valid character (List.mem_append_right _ inside)

def legacyTarget (parts : Parts) : List Char :=
  match parts.uri.pathAndQuery with
  | some target => target.asStr
  | none => ['/']

theorem legacyTarget_uriChars (parts : Parts) :
    ∀ character ∈ legacyTarget parts, isUriChar character = true := by
  unfold legacyTarget
  split
  next target _ => exact asStr_uriChars target
  next => exact List.all_eq_true.mp (by decide)

theorem requestTargetValue_eq (parts : Parts) :
    requestTargetValue parts =
      Text.toAsciiLowercase parts.method.text ++ ' ' :: legacyTarget parts := rfl

private theorem isUriChar_ne_newline {character : Char} (uri : isUriChar character = true) :
    character ≠ '\n' := by
  intro same
  rw [same] at uri
  exact absurd uri (by decide)

private theorem legacyComponent_no_newline {parts : Parts} {name text : List Char}
    (success : legacyComponent parts name = .ok text) : '\n' ∉ text := by
  intro member
  unfold legacyComponent at success
  split at success
  · cases success
    rw [requestTargetValue_eq] at member
    rcases List.mem_append.mp member with method | rest
    · exact (isTokenChar_ne (method_lowercase_tokens parts.method _ method)).2.1 rfl
    · rcases List.mem_cons.mp rest with space | target
      · cases space
      · exact isUriChar_ne_newline (legacyTarget_uriChars parts _ target) rfl
  · exact isFieldChar_ne_newline (combinedHeaderValue_fieldChars success _ member) rfl

theorem legacyLines_no_newline {parts : Parts} {covered lines : List (List Char)}
    (success : legacyLines parts covered = .ok lines) : ∀ line ∈ lines, '\n' ∉ line := by
  intro line member inside
  obtain ⟨name, _, text, computed, rfl⟩ := (labelledLines_mem success).mp member
  rcases List.mem_append.mp inside with label | value
  · rcases List.mem_append.mp label with written | colon
    · exact (isLabelChar_ne ((legacyComponent_name computed).2 _ written)).2.1 rfl
    · exact absurd colon (by decide)
  · exact legacyComponent_no_newline computed value

theorem legacyLabel_split {first second : Parts} {left right leftText rightText : List Char}
    (leftComputed : legacyComponent first left = .ok leftText)
    (rightComputed : legacyComponent second right = .ok rightText)
    (same : legacyLabel left ++ leftText = legacyLabel right ++ rightText) :
    Text.toAsciiLowercase left = Text.toAsciiLowercase right ∧ leftText = rightText := by
  have shape : ∀ name text : List Char, legacyLabel name ++ text =
      Text.toAsciiLowercase name ++ ':' :: ' ' :: text := by
    intro name text
    simp [legacyLabel]
  rw [shape, shape] at same
  obtain ⟨sameName, sameRest⟩ := Text.append_separator_inj
    (fun member => (isLabelChar_ne ((legacyComponent_name leftComputed).2 _ member)).1 rfl)
    (fun member => (isLabelChar_ne ((legacyComponent_name rightComputed).2 _ member)).1 rfl) same
  exact ⟨sameName, List.tail_eq_of_cons_eq sameRest⟩

/-!
## The RFC 9421 format
-/

private theorem isTokenChar_toUpper {character : Char} (token : isTokenChar character = true) :
    isTokenChar character.toUpper = true := by
  have all : ∀ code : Fin 128, isTokenChar (Char.ofNat code.val) = true →
      isTokenChar (Char.ofNat code.val).toUpper = true := by decide +kernel
  have found := all ⟨character.toNat, isTokenChar_ascii token⟩
  simp only [Char.ofNat_toNat] at found
  exact found token

private theorem componentValue_no_newline {method : Method} {target : Url} {headers : HeaderMap}
    {component text : List Char}
    (success : componentValue method target.asStr headers component = .ok text) : '\n' ∉ text := by
  unfold componentValue at success
  split at success
  · cases success
    intro member
    obtain ⟨before, beforeMember, upper⟩ := List.mem_map.mp member
    have token := isTokenChar_toUpper (List.all_eq_true.mp method.valid before beforeMember)
    exact (isTokenChar_ne token).2.1 upper
  · split at success
    · cases success
      exact target.asStr_no_newline
    · split at success
      · exact fun member =>
          isFieldChar_ne_newline (combinedHeaderValue_fieldChars success _ member) rfl
      · cases success

private theorem componentValue_name {method : Method} {targetUri : List Char}
    {headers : HeaderMap} {component text : List Char}
    (success : componentValue method targetUri headers component = .ok text) :
    '"' ∉ component ∧ '\n' ∉ component := by
  unfold componentValue at success
  split at success
  next isMethod =>
    rw [isMethod]
    decide
  next =>
    split at success
    next isTarget =>
      rw [isTarget]
      decide
    next =>
      split at success
      next =>
        obtain ⟨entry, _, shown⟩ := combinedHeaderValue_present success
        have tokens := headerName_chars entry.1
        rw [shown] at tokens
        have lowered : ∀ {character : Char}, character ∈ component →
            isTokenChar character.toLower = true :=
          fun member => tokens _ (List.mem_map_of_mem member)
        exact ⟨fun quote => absurd (lowered quote) (by decide),
          fun newline => absurd (lowered newline) (by decide)⟩
      next => cases success

theorem componentLabel_split {firstMethod secondMethod : Method}
    {firstTarget secondTarget : List Char} {firstHeaders secondHeaders : HeaderMap}
    {left right leftText rightText : List Char}
    (leftComputed : componentValue firstMethod firstTarget firstHeaders left = .ok leftText)
    (rightComputed : componentValue secondMethod secondTarget secondHeaders right = .ok rightText)
    (same : componentLabel left ++ leftText = componentLabel right ++ rightText) :
    left = right ∧ leftText = rightText := by
  have shape : ∀ name text : List Char, componentLabel name ++ text =
      '"' :: (name ++ '"' :: ':' :: ' ' :: text) := by
    intro name text
    simp [componentLabel]
  rw [shape, shape] at same
  obtain ⟨sameName, sameRest⟩ := Text.append_separator_inj (componentValue_name leftComputed).1
    (componentValue_name rightComputed).1 (List.tail_eq_of_cons_eq same)
  exact ⟨sameName, List.tail_eq_of_cons_eq (List.tail_eq_of_cons_eq sameRest)⟩

theorem componentLines_no_newline {method : Method} {target : Url} {headers : HeaderMap}
    {components lines : List (List Char)}
    (success : labelledLines componentLabel (componentValue method target.asStr headers) components =
      .ok lines) : ∀ line ∈ lines, '\n' ∉ line := by
  intro line member inside
  obtain ⟨name, _, text, computed, rfl⟩ := (labelledLines_mem success).mp member
  rcases List.mem_append.mp inside with label | value
  · rcases List.mem_cons.mp label with quote | label
    · cases quote
    · rcases List.mem_append.mp label with written | mark
      · exact (componentValue_name computed).2 written
      · exact absurd mark (by decide)
  · exact componentValue_no_newline computed value

def SupportedComponent (component : List Char) : Prop :=
  Text.toAsciiLowercase component = component ∧
    (component = methodComponent ∨ component = targetUriComponent ∨
      (component.head? ≠ some '@' ∧ isHeaderName component = true))

theorem parseComponents_ok {seen components : List (List Char)} {items : List Item}
    (success : parseComponents seen items = .ok components) :
    List.Forall₂ (fun (item : Item) component =>
        item.params = [] ∧ item.bareItem.asString = some component) items components ∧
      components.Nodup ∧ (∀ component ∈ components, component ∉ seen) ∧
      ∀ component ∈ components, SupportedComponent component := by
  induction items generalizing seen components with
  | nil =>
      cases success
      exact ⟨.nil, List.nodup_nil, by simp, by simp⟩
  | cons item items ih =>
      obtain ⟨_, plain, success⟩ := bind_ok success
      obtain ⟨component, named, success⟩ := bind_ok success
      obtain ⟨_, fresh, success⟩ := bind_ok success
      obtain ⟨_, derived, success⟩ := bind_ok success
      obtain ⟨_, field, success⟩ := bind_ok success
      obtain ⟨later, rest, success⟩ := bind_ok success
      cases success
      obtain ⟨laterItems, laterNodup, laterFresh, laterSupported⟩ := ih rest
      obtain ⟨lower, unseen⟩ := by simpa using ensure_ok fresh
      have derived := ensure_ok derived
      have field := ensure_ok field
      simp only [Bool.or_eq_true, Bool.not_eq_true', beq_eq_false_iff_ne, beq_iff_eq] at derived field
      refine ⟨.cons ⟨by simpa using ensure_ok plain, okOr_ok named⟩ laterItems, ?_, ?_, ?_⟩
      · refine List.nodup_cons.mpr ⟨?_, laterNodup⟩
        intro repeated
        exact laterFresh component repeated List.mem_cons_self
      · intro other member
        rcases List.mem_cons.mp member with rfl | laterMember
        · exact unseen
        · exact fun old => laterFresh other laterMember (List.mem_cons_of_mem _ old)
      · intro other member
        rcases List.mem_cons.mp member with rfl | laterMember
        · refine ⟨lower.symm, ?_⟩
          rcases derived with (ordinary | isMethod) | isTarget
          · rcases field with marked | valid
            · exact absurd marked ordinary
            · exact .inr (.inr ⟨ordinary, valid⟩)
          · exact .inl isMethod
          · exact .inr (.inl isTarget)
        · exact laterSupported other laterMember

private theorem onlyMember_ok {members : Dictionary} {member : Key × ListEntry}
    (success : onlyMember members = .ok member) : members = [member] := by
  unfold onlyMember at success
  split at success
  · cases success
    rfl
  · cases success

private theorem asInnerList_ok {entry : ListEntry} {list : InnerList}
    (success : asInnerList entry = .ok list) : entry = .innerList list := by
  cases entry with
  | item item => cases success
  | innerList list =>
      cases success
      rfl

private theorem asItem_ok {entry : ListEntry} {item : Item} (success : asItem entry = .ok item) :
    entry = .item item := by
  cases entry with
  | innerList list => cases success
  | item item =>
      cases success
      rfl

private theorem asByteSequence_some {item : BareItem} {bytes : List UInt8}
    (read : item.asByteSequence = some bytes) : item = .byteSequence bytes := by
  cases item <;> simp_all [BareItem.asByteSequence]

theorem parseRfc9421_ok {parts : Parts} {parsed : ParsedRfc9421}
    (success : parseRfc9421 primitives parts = .ok parsed) :
    ∃ inputText signatureText label created,
      combinedHeaderValue parts.headers signatureInput = .ok inputText ∧
      combinedHeaderValue parts.headers "signature".toList = .ok signatureText ∧
      primitives.parseDictionary inputText = some [(label, .innerList parsed.input)] ∧
      primitives.parseDictionary signatureText =
        some [(label, .item ⟨.byteSequence parsed.signature, []⟩)] ∧
      (lookup parsed.input.params "created".toList).bind BareItem.asInteger = some created ∧
      parsed.created = created * secondNanos ∧
      (lookup parsed.input.params "keyid".toList).bind BareItem.asString = some parsed.keyId ∧
      parseAlgorithm (lookup parsed.input.params "alg".toList) = .ok parsed.algorithm ∧
      parseComponents [] parsed.input.items = .ok parsed.components := by
  obtain ⟨inputText, inputRead, success⟩ := bind_ok success
  obtain ⟨signatureText, signatureRead, success⟩ := bind_ok success
  obtain ⟨inputs, inputParsed, success⟩ := bind_ok success
  obtain ⟨signatures, signatureParsed, success⟩ := bind_ok success
  obtain ⟨_, _, success⟩ := bind_ok success
  obtain ⟨⟨label, entry⟩, inputOnly, success⟩ := bind_ok success
  obtain ⟨⟨signatureLabel, signatureEntry⟩, signatureOnly, success⟩ := bind_ok success
  obtain ⟨_, sameLabel, success⟩ := bind_ok success
  obtain ⟨input, inputList, success⟩ := bind_ok success
  obtain ⟨⟨bareItem, params⟩, signatureItem, success⟩ := bind_ok success
  obtain ⟨_, plain, success⟩ := bind_ok success
  obtain ⟨signature, bytes, success⟩ := bind_ok success
  obtain ⟨created, createdRead, success⟩ := bind_ok success
  obtain ⟨time, createdTimed, success⟩ := bind_ok success
  obtain ⟨keyId, keyRead, success⟩ := bind_ok success
  obtain ⟨algorithm, algorithmRead, success⟩ := bind_ok success
  obtain ⟨components, componentsRead, success⟩ := bind_ok success
  cases success
  have sameLabel : label = signatureLabel := by simpa using ensure_ok sameLabel
  have plain : params = [] := by simpa using ensure_ok plain
  have bareItem_eq : bareItem = .byteSequence signature := asByteSequence_some (okOr_ok bytes)
  have timed : time = created * secondNanos := by
    have computed := okOr_ok createdTimed
    unfold createdTime at computed
    split at computed
    · exact (Option.some.inj computed).symm
    · cases computed
  refine ⟨inputText, signatureText, label, created, inputRead, signatureRead, ?_, ?_,
    okOr_ok createdRead, timed, okOr_ok keyRead, algorithmRead, componentsRead⟩
  · have entry_eq : entry = .innerList input := asInnerList_ok inputList
    rw [okOr_ok inputParsed, onlyMember_ok inputOnly, entry_eq]
  · have entry_eq : signatureEntry = .item ⟨bareItem, params⟩ := asItem_ok signatureItem
    rw [okOr_ok signatureParsed, onlyMember_ok signatureOnly, entry_eq, sameLabel, plain,
      bareItem_eq]

theorem parseAlgorithm_ok {item : Option BareItem} {algorithm : Option SignatureAlgorithm}
    (success : parseAlgorithm item = .ok algorithm) :
    (item = none ∧ algorithm = none) ∨
      ∃ bare named, item = some bare ∧ algorithm = some named ∧ bare.asString = some named.asStr := by
  cases item with
  | none =>
      cases success
      exact .inl ⟨rfl, rfl⟩
  | some bare =>
      obtain ⟨name, read, success⟩ := bind_ok success
      have read := okOr_ok read
      split at success
      next rsa =>
        cases success
        exact .inr ⟨bare, _, rfl, rfl, by rw [read, rsa]⟩
      next =>
        split at success
        next ed =>
          cases success
          exact .inr ⟨bare, _, rfl, rfl, by rw [read, ed]⟩
        next => cases success

theorem verifyRfc9421Key_ok {now : Int} {parts : Parts} {body : Option (List UInt8)}
    {publicBaseUrl : Url} {expectedKeyId : List Char} {algorithm : ActorKeyAlgorithm}
    {publicKey : List UInt8} (success : verifyRfc9421Key primitives now parts body publicBaseUrl
      expectedKeyId algorithm publicKey = .ok ()) :
    ∃ parsed base, parseRfc9421 primitives parts = .ok parsed ∧
      (∀ named, parsed.algorithm = some named → named = algorithm.expected) ∧
      (now - parsed.created).natAbs ≤ clockSkew ∧ parsed.keyId = expectedKeyId ∧
      methodComponent ∈ parsed.components ∧ targetUriComponent ∈ parsed.components ∧
      checkContentDigest primitives parts parsed.components body = .ok () ∧
      signatureBase parts.method (inboundTargetUri primitives publicBaseUrl parts).asStr
        parts.headers parsed.components (serializeInnerList parsed.input) = .ok base ∧
      verifyKeyBytes primitives algorithm publicKey base parsed.signature = .ok () := by
  obtain ⟨parsed, parsing, success⟩ := bind_ok success
  obtain ⟨_, algorithmAgrees, success⟩ := bind_ok success
  obtain ⟨_, fresh, success⟩ := bind_ok success
  obtain ⟨_, sameKey, success⟩ := bind_ok success
  obtain ⟨_, required, success⟩ := bind_ok success
  obtain ⟨_, digest, success⟩ := bind_ok success
  obtain ⟨base, based, success⟩ := bind_ok success
  have required := ensure_ok required
  simp only [List.all_cons, List.all_nil, Bool.and_true, Bool.and_eq_true,
    List.contains_iff_mem] at required
  refine ⟨parsed, base, parsing, ?_, by simpa using ensure_ok fresh, by simpa using ensure_ok sameKey,
    required.1, required.2, digest, based, success⟩
  intro named given
  have agrees := ensure_ok algorithmAgrees
  rw [given] at agrees
  simpa using agrees

theorem verifyLegacy_ok {now : Int} {parts : Parts} {body : Option (List UInt8)}
    {expectedKeyId publicKeyPem : List Char}
    (success : verifyLegacy primitives now parts body expectedKeyId publicKeyPem = .ok ()) :
    ∃ signature lines, headerValue parts.headers "signature".toList = .ok (some signature) ∧
      attribute? (legacyAttributes signature) "keyId" = some expectedKeyId ∧
      (∀ required ∈ legacyRequired body, ∃ name ∈ legacyCovered (legacyAttributes signature),
        Text.toAsciiLowercase name = required) ∧
      legacyLines parts (legacyCovered (legacyAttributes signature)) = .ok lines ∧
      checkLegacyDigest primitives parts.headers body = .ok () ∧
      ∃ bytes, verifyBytes primitives publicKeyPem (['\n'].intercalate lines) bytes = .ok () := by
  obtain ⟨_, _, success⟩ := bind_ok success
  obtain ⟨_, _, success⟩ := bind_ok success
  obtain ⟨_, _, success⟩ := bind_ok success
  obtain ⟨_, _, success⟩ := bind_ok success
  obtain ⟨given, read, success⟩ := bind_ok success
  obtain ⟨signature, present, success⟩ := bind_ok success
  obtain ⟨_, sameKey, success⟩ := bind_ok success
  obtain ⟨_, covers, success⟩ := bind_ok success
  obtain ⟨lines, based, success⟩ := bind_ok success
  obtain ⟨_, digest, success⟩ := bind_ok success
  obtain ⟨bytes, _, success⟩ := bind_ok success
  refine ⟨signature, lines, ?_, by simpa using ensure_ok sameKey, ?_, based, digest, bytes, success⟩
  · rw [read, okOr_ok present]
  · intro required member
    have covered := List.all_eq_true.mp (ensure_ok covers) required member
    obtain ⟨name, nameMember, same⟩ := List.any_eq_true.mp covered
    refine ⟨name, nameMember, ?_⟩
    have same := beq_iff_eq.mp same
    rw [same]
    have lower : ∀ required ∈ legacyRequired body, Text.toAsciiLowercase required = required := by
      cases body with
      | none => decide
      | some bytes =>
          simp only [legacyRequired]
          decide
    exact lower required member

end Roosty.Federation.Signature
