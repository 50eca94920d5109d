import Mathlib.Data.List.Basic

/-! Markup as text. Five characters are escaped; a reader drops the tags, takes a line
break for a line feed and undoes the escapes. -/

set_option autoImplicit false

namespace Roosty.Library.Html

def escapeCharacter : Char → List Char
  | '&' => "&amp;".toList
  | '<' => "&lt;".toList
  | '>' => "&gt;".toList
  | '"' => "&quot;".toList
  | '\'' => "&#39;".toList
  | character => [character]

def escape (value : List Char) : List Char :=
  value.flatMap escapeCharacter

def isSpecial (character : Char) : Bool :=
  character == '<' || character == '>' || character == '"'

/-- Text without its tags. A tag is collected, last character first, until it ends. -/
def dropTags : Option (List Char) → List Char → List Char
  | _, [] => []
  | none, character :: html =>
      if character == '<' then dropTags (some []) html else character :: dropTags none html
  | some tag, character :: html =>
      if character == '>' then
        if tag.reverse == "br /".toList then '\n' :: dropTags none html else dropTags none html
      else dropTags (some (character :: tag)) html

def escapes : List (List Char × Char) :=
  [("&amp;".toList, '&'), ("&lt;".toList, '<'), ("&gt;".toList, '>'), ("&quot;".toList, '"'),
    ("&#39;".toList, '\'')]

def unescape : Nat → List Char → List Char
  | _, [] => []
  | skip + 1, _ :: text => unescape skip text
  | 0, character :: text =>
      match escapes.find? fun entry => entry.1.isPrefixOf (character :: text) with
      | some (name, meant) => meant :: unescape (name.length - 1) text
      | none => character :: unescape 0 text

def plainText (html : List Char) : List Char :=
  unescape 0 (dropTags none html)

/-- Every special character of the text is part of a tag of the given kind. -/
inductive Markup (own : List Char → Prop) : List Char → Prop
  | nil : Markup own []
  | tag {tag html : List Char} (template : own tag) (rest : Markup own html) :
      Markup own (tag ++ html)
  | character {character : Char} {html : List Char} (plain : isSpecial character = false)
      (rest : Markup own html) : Markup own (character :: html)

def Shows (html text : List Char) : Prop :=
  ∀ rest, unescape 0 (dropTags none (html ++ rest)) = text ++ unescape 0 (dropTags none rest)

/-!
## Escaped text
-/

/-- A character stands for itself unless it has an escape. -/
theorem escapeCharacter_cases (character : Char) :
    (∃ entry ∈ escapes, entry.2 = character ∧ escapeCharacter character = entry.1) ∨
      (isSpecial character = false ∧ character ≠ '&' ∧ escapeCharacter character = [character]) := by
  unfold escapeCharacter
  split
  · exact .inl ⟨("&amp;".toList, '&'), by decide, rfl, rfl⟩
  · exact .inl ⟨("&lt;".toList, '<'), by decide, rfl, rfl⟩
  · exact .inl ⟨("&gt;".toList, '>'), by decide, rfl, rfl⟩
  · exact .inl ⟨("&quot;".toList, '"'), by decide, rfl, rfl⟩
  · exact .inl ⟨("&#39;".toList, '\''), by decide, rfl, rfl⟩
  · next noAmpersand noLess noGreater noQuote _ =>
    have plain : isSpecial character = false := by
      simp only [isSpecial, Bool.or_eq_false_iff, beq_eq_false_iff_ne]
      exact ⟨⟨noLess, noGreater⟩, noQuote⟩
    exact .inr ⟨plain, noAmpersand, rfl⟩

theorem escape_plain {value : List Char} {character : Char} (member : character ∈ escape value) :
    isSpecial character = false := by
  have names : ∀ entry ∈ escapes, entry.1.any isSpecial = false := by decide
  obtain ⟨source, _, part⟩ := List.mem_flatMap.mp member
  rcases escapeCharacter_cases source with ⟨entry, known, _, same⟩ | ⟨plain, _, same⟩
  · exact Bool.eq_false_iff.mpr (List.any_eq_false.mp (names entry known) character (same ▸ part))
  · rw [same, List.mem_singleton] at part
    rw [part]
    exact plain

theorem dropTags_plain {text : List Char} (plain : ∀ character ∈ text, isSpecial character = false)
    (rest : List Char) : dropTags none (text ++ rest) = text ++ dropTags none rest := by
  induction text with
  | nil => rfl
  | cons character text ih =>
      have here := plain character List.mem_cons_self
      have other : (character == '<') = false := by
        simp only [isSpecial, Bool.or_eq_false_iff] at here
        exact here.1.1
      rw [List.cons_append, dropTags, other, ih fun next member =>
        plain next (List.mem_cons_of_mem _ member)]
      rfl

theorem unescape_escapeCharacter (character : Char) (rest : List Char) :
    unescape 0 (escapeCharacter character ++ rest) = character :: unescape 0 rest := by
  rcases escapeCharacter_cases character with ⟨entry, known, meant, same⟩ | ⟨_, other, same⟩
  · rw [same, ← meant]
    simp only [escapes, List.mem_cons, List.not_mem_nil, or_false] at known
    rcases known with rfl | rfl | rfl | rfl | rfl <;> rfl
  · have starts : ∀ entry ∈ escapes, entry.1.head? = some '&' := by decide
    have none : (escapes.find? fun entry => entry.1.isPrefixOf (character :: rest)) = none := by
      rw [List.find?_eq_none]
      intro entry known
      have first := starts entry known
      cases name : entry.1 with
      | nil => simp [name] at first
      | cons head tail =>
          have ampersand : head = '&' := by simpa [name] using first
          simp [List.isPrefixOf, ampersand, Ne.symm other]
    simp only [same, List.cons_append, List.nil_append, unescape, none]

theorem unescape_escape (value rest : List Char) :
    unescape 0 (escape value ++ rest) = value ++ unescape 0 rest := by
  induction value with
  | nil => rfl
  | cons character value ih =>
      have split : escape (character :: value) = escapeCharacter character ++ escape value := rfl
      rw [split, List.append_assoc, unescape_escapeCharacter, ih, List.cons_append]

theorem shows_escape (value : List Char) : Shows (escape value) value := by
  intro rest
  rw [dropTags_plain (fun _ member => escape_plain member), unescape_escape]

theorem markup_plain {own : List Char → Prop} {text html : List Char}
    (plain : ∀ character ∈ text, isSpecial character = false) (rest : Markup own html) :
    Markup own (text ++ html) := by
  induction text with
  | nil => exact rest
  | cons character text ih =>
      refine .character (plain character List.mem_cons_self) ?_
      exact ih fun next member => plain next (List.mem_cons_of_mem _ member)

theorem markup_escape {own : List Char → Prop} (value : List Char) {html : List Char}
    (rest : Markup own html) : Markup own (escape value ++ html) :=
  markup_plain (fun _ member => escape_plain member) rest

theorem Markup.append {own : List Char → Prop} {front back : List Char}
    (first : Markup own front) (second : Markup own back) : Markup own (front ++ back) := by
  induction first with
  | nil => exact second
  | @tag tag html template _ ih =>
      rw [List.append_assoc]
      exact .tag template ih
  | character plain _ ih => exact .character plain ih

/-!
## Tags
-/

theorem Shows.append {front back text further : List Char} (first : Shows front text)
    (second : Shows back further) : Shows (front ++ back) (text ++ further) := by
  intro rest
  rw [List.append_assoc, first, second, List.append_assoc]

theorem Shows.plainText {html text : List Char} (shows : Shows html text) :
    plainText html = text := by
  have whole := shows []
  simpa [Html.plainText, dropTags, unescape] using whole

theorem shows_nil : Shows [] [] := fun _ => rfl

theorem dropTags_body {tag body : List Char} (inside : '>' ∉ body) (rest : List Char) :
    dropTags (some tag) (body ++ '>' :: rest) =
      dropTags (some (body.reverse ++ tag)) ('>' :: rest) := by
  induction body generalizing tag with
  | nil => rfl
  | cons character body ih =>
      have other : (character == '>') = false := by
        rw [beq_eq_false_iff_ne]
        rintro rfl
        exact inside List.mem_cons_self
      rw [List.cons_append, dropTags, other, List.reverse_cons, List.append_assoc]
      exact ih fun member => inside (List.mem_cons_of_mem _ member)

theorem shows_tag {body : List Char} (inside : '>' ∉ body) (other : body ≠ "br /".toList) :
    Shows ('<' :: (body ++ ['>'])) [] := by
  intro rest
  have starts : dropTags none ('<' :: (body ++ ['>']) ++ rest) =
      dropTags (some []) (body ++ '>' :: rest) := by simp [dropTags]
  have unbroken : ¬body = ['b', 'r', ' ', '/'] := other
  rw [starts, dropTags_body inside]
  simp [dropTags, unbroken]

theorem shows_lineBreak : Shows "<br />".toList ['\n'] := fun _ => rfl

theorem shows_attribute {front back : List Char} (value : List Char) (before : '>' ∉ front)
    (after : '>' ∉ back) (name : front.head? = some 'a') :
    Shows ('<' :: (front ++ escape value ++ back ++ ['>'])) [] := by
  refine shows_tag ?_ ?_
  · have value : '>' ∉ escape value := by
      intro member
      have plain := escape_plain member
      cases plain
    simp [before, after, value]
  · cases front with
    | nil => cases name
    | cons first front =>
        cases name
        intro same
        cases same

/-!
## Where tags begin and end
-/

/-- One `<` stands at the front of a tag, and one `>` at its end. -/
def IsTag (tag : List Char) : Prop :=
  ∃ body, tag = '<' :: (body ++ ['>']) ∧ '<' ∉ body ∧ '>' ∉ body

section

variable {own : List Char → Prop} {text html front back : List Char} {character : Char}

theorem Markup.mono {other : List Char → Prop} (markup : Markup own html)
    (included : ∀ tag, own tag → other tag) : Markup other html := by
  induction markup with
  | nil => exact .nil
  | tag template _ ih => exact .tag (included _ template) ih
  | character plain _ ih => exact .character plain ih

/-- A special character that is reached outside of a tag opens one. -/
theorem Markup.opens (markup : Markup own (character :: html))
    (special : isSpecial character = true) :
    ∃ tag rest, own tag ∧ character :: html = tag ++ rest := by
  generalize whole : character :: html = all at markup
  cases markup with
  | nil => cases whole
  | @tag tag rest template _ => exact ⟨tag, rest, template, rfl⟩
  | character plain _ =>
      obtain ⟨rfl, _⟩ := List.cons.inj whole
      rw [plain] at special
      cases special

theorem Markup.dropPlain (tags : ∀ tag, own tag → IsTag tag)
    (plain : ∀ character ∈ text, isSpecial character = false)
    (markup : Markup own (text ++ html)) : Markup own html := by
  induction text with
  | nil => exact markup
  | cons first text ih =>
      refine ih (fun next member => plain next (List.mem_cons_of_mem _ member)) ?_
      have here := plain first List.mem_cons_self
      generalize whole : first :: text ++ html = all at markup
      cases markup with
      | nil => cases whole
      | @tag tag rest template after =>
          obtain ⟨body, rfl, _⟩ := tags tag template
          obtain ⟨rfl, _⟩ := List.cons.inj whole
          cases here
      | character _ rest =>
          obtain ⟨_, rfl⟩ := List.cons.inj whole
          exact rest

theorem Markup.afterClose (tags : ∀ tag, own tag → IsTag tag)
    (markup : Markup own (front ++ '>' :: back)) : Markup own back := by
  generalize whole : front ++ '>' :: back = all at markup
  induction markup generalizing front with
  | nil => simp at whole
  | @tag tag rest template after ih =>
      obtain ⟨body, rfl, _, unclosed⟩ := tags tag template
      rcases List.append_eq_append_iff.mp whole with ⟨inside, shape, tail⟩ | ⟨inside, rfl, tail⟩
      · cases inside with
        | nil => exact @ih [] tail
        | cons close inside =>
            obtain ⟨rfl, rfl⟩ := List.cons.inj tail
            -- the tag has no other `>` than its last character
            rcases inside.eq_nil_or_concat with rfl | ⟨inside, last, rfl⟩
            · exact after
            · have bodies : '<' :: body = front ++ '>' :: inside := by
                have same : ('<' :: body) ++ ['>'] = (front ++ '>' :: inside) ++ [last] := by
                  simpa using shape
                exact (List.append_inj' same rfl).1
              have member : '>' ∈ '<' :: body := by
                rw [bodies]
                exact List.mem_append_right _ List.mem_cons_self
              rcases List.mem_cons.mp member with same | member
              · exact absurd same (by decide)
              · exact absurd member unclosed
      · exact ih tail.symm
  | @character first html plain after ih =>
      cases front with
      | nil =>
          obtain ⟨rfl, _⟩ := List.cons.inj whole
          cases plain
      | cons other front => exact ih (List.cons.inj whole).2

theorem Markup.not_nested (tags : ∀ tag, own tag → IsTag tag) (inside : '>' ∉ front) :
    ¬ Markup own ('<' :: (front ++ '<' :: back)) := by
  intro markup
  obtain ⟨tag, rest, template, split⟩ := markup.opens rfl
  obtain ⟨body, rfl, unopened, _⟩ := tags tag template
  have split : front ++ '<' :: back = body ++ '>' :: rest := by simpa using split
  rcases List.append_eq_append_iff.mp split with ⟨further, rfl, tail⟩ | ⟨further, rfl, tail⟩
  · cases further with
    | nil => cases tail
    | cons first further =>
        obtain ⟨rfl, _⟩ := List.cons.inj tail
        exact unopened (List.mem_append_right _ List.mem_cons_self)
  · cases further with
    | nil => cases tail
    | cons first further =>
        obtain ⟨rfl, _⟩ := List.cons.inj tail
        exact inside (List.mem_append_right _ List.mem_cons_self)

end

end Roosty.Library.Html
