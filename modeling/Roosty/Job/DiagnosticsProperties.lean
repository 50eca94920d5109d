import Mathlib.Data.List.Forall2
import Roosty.Job.Diagnostics

/-!
# Redaction of job errors

A word is cut at its first `https` URL, and at an `http` URL only if it has none. What
stands between an `http` URL and an `https` one behind it in a word is shown.
-/

set_option autoImplicit false

namespace Roosty.Job

open Library Library.Text

def Clean (text : List Char) : Prop := ∀ scheme : Scheme, ¬ scheme.text <:+: text

theorem Clean.nil : Clean [] := by
  intro scheme found
  cases scheme with
  | https => cases List.infix_nil.mp found
  | http => cases List.infix_nil.mp found

/-!
## First schemes
-/

section

variable {text before after : List Char} {scheme : Scheme}

private theorem firstScheme_cons {first : Char} {rest : List Char} :
    firstScheme (first :: rest) =
      if https <+: first :: rest then some ([], .https)
      else if http <+: first :: rest then some ([], .http)
      else (firstScheme rest).map fun found => (first :: found.1, found.2) := by
  rw [firstScheme]
  simp only [List.isPrefixOf_iff_prefix]

private theorem firstScheme_eq_none (none : firstScheme text = none) : Clean text := by
  induction text with
  | nil => exact Clean.nil
  | cons first rest ih =>
      rw [firstScheme_cons] at none
      split at none
      · cases none
      split at none
      · cases none
      next noHttps noHttp =>
        intro scheme found
        rcases List.infix_cons_iff.mp found with here | later
        · cases scheme
          · exact noHttps here
          · exact noHttp here
        · exact ih (Option.map_eq_none_iff.mp none) scheme later

private theorem Clean.firstScheme (clean : Clean text) : firstScheme text = none := by
  induction text with
  | nil => rfl
  | cons first rest ih =>
      have tail : Clean rest := fun scheme found => clean scheme (List.infix_cons found)
      rw [firstScheme_cons, if_neg fun here => clean .https here.isInfix,
        if_neg fun here => clean .http here.isInfix, ih tail, Option.map_none]

private theorem firstScheme_eq_some (found : firstScheme text = some (before, scheme)) :
    (∃ after, text = before ++ scheme.text ++ after) ∧ Clean before ∧
      firstScheme (before ++ scheme.text) = some (before, scheme) := by
  induction text generalizing before with
  | nil => cases found
  | cons first rest ih =>
      rw [firstScheme_cons] at found
      split at found
      next here =>
        cases found
        obtain ⟨after, whole⟩ := here
        exact ⟨⟨after, whole.symm⟩, Clean.nil, rfl⟩
      next noHttps =>
        split at found
        next here =>
          cases found
          obtain ⟨after, whole⟩ := here
          exact ⟨⟨after, whole.symm⟩, Clean.nil, rfl⟩
        next noHttp =>
          obtain ⟨⟨front, kind⟩, later, same⟩ := Option.map_eq_some_iff.mp found
          cases same
          obtain ⟨⟨after, rfl⟩, clean, again⟩ := ih later
          have absent : ∀ sought : Scheme, ¬ sought.text <+: first :: (front ++ kind.text ++ after)
              | .https => noHttps
              | .http => noHttp
          have shorter : front <+: front ++ kind.text ++ after := by
            rw [List.append_assoc]
            exact List.prefix_append _ _
          refine ⟨⟨after, rfl⟩, ?_, ?_⟩
          · intro sought inside
            rcases List.infix_cons_iff.mp inside with here | inside
            · exact absent sought (here.trans (List.prefix_cons_inj first |>.mpr shorter))
            · exact clean sought inside
          · have whole : first :: (front ++ kind.text) <+: first :: (front ++ kind.text ++ after) :=
              (List.prefix_cons_inj first).mpr (List.prefix_append _ _)
            rw [List.cons_append, firstScheme_cons, if_neg fun here => noHttps (here.trans whole),
              if_neg fun here => noHttp (here.trans whole), again, Option.map_some]

private theorem firstScheme_append (first : firstScheme (before ++ scheme.text) = some (before, scheme))
    (after : List Char) : firstScheme (before ++ scheme.text ++ after) = some (before, scheme) := by
  induction before with
  | nil =>
      cases scheme with
      | https => rfl
      | http => rfl
  | cons letter before ih =>
      rw [List.cons_append, firstScheme_cons] at first
      have long : 7 ≤ scheme.text.length := by cases scheme <;> decide
      have back : ∀ sought : Scheme,
          sought.text <+: letter :: (before ++ scheme.text ++ after) →
            sought.text <+: letter :: (before ++ scheme.text) := by
        intro sought here
        refine List.prefix_of_prefix_length_le here
          ((List.prefix_cons_inj letter).mpr (List.prefix_append _ _)) ?_
        have short : sought.text.length ≤ 8 := by cases sought <;> decide
        rw [List.length_cons, List.length_append]
        omega
      split at first
      · cases first
      next noHttps =>
        split at first
        · cases first
        next noHttp =>
          obtain ⟨⟨front, kind⟩, later, same⟩ := Option.map_eq_some_iff.mp first
          cases same
          have still : ¬ https <+: letter :: (front ++ kind.text ++ after) :=
            fun here => noHttps (back .https here)
          have stillHttp : ¬ http <+: letter :: (front ++ kind.text ++ after) :=
            fun here => noHttp (back .http here)
          rw [List.cons_append, List.cons_append, firstScheme_cons, if_neg still, if_neg stillHttp,
            ih later, Option.map_some]

end

/-!
## Redacted words
-/

section

variable {part before : List Char}

private theorem https_eq : https = ['h', 't', 't', 'p', 's', ':', '/', '/'] := rfl

private theorem http_eq : http = ['h', 't', 't', 'p', ':', '/', '/'] := rfl

private theorem splitOnceText_http (tail : List Char) :
    splitOnceText https (http ++ tail) =
      (splitOnceText https tail).map fun parts => (http ++ parts.1, parts.2) := by
  rw [http_eq]
  simp only [List.cons_append, List.nil_append]
  iterate 7 rw [splitOnceText_cons (by simp [https_eq])]
  simp only [Option.map_map]
  rfl

private theorem redactPart_clean (clean : Clean part) : redactPart part = part := by
  unfold redactPart
  have noHttps : splitOnceText https part = none := splitOnceText_none (clean .https)
  have noHttp : splitOnceText http part = none := splitOnceText_none (clean .http)
  rw [noHttps, noHttp]
  rfl

private theorem splitOnceText_first {scheme : Scheme}
    (first : firstScheme part = some (before, scheme)) :
    ∃ after, splitOnceText scheme.text part = some (before, after) := by
  induction part generalizing before with
  | nil => cases first
  | cons letter rest ih =>
      rw [firstScheme_cons] at first
      split at first
      next here =>
        cases first
        obtain ⟨after, whole⟩ := here
        exact ⟨after, whole ▸ splitOnceText_here after (by decide)⟩
      next noHttps =>
        split at first
        next here =>
          cases first
          obtain ⟨after, whole⟩ := here
          exact ⟨after, whole ▸ splitOnceText_here after (by decide)⟩
        next noHttp =>
          obtain ⟨⟨front, kind⟩, later, same⟩ := Option.map_eq_some_iff.mp first
          cases same
          have elsewhere : ¬ kind.text <+: letter :: rest := by
            cases kind with
            | https => exact noHttps
            | http => exact noHttp
          obtain ⟨after, split⟩ := ih later
          exact ⟨after, by rw [splitOnceText_cons elsewhere, split, Option.map_some]⟩

private theorem redactPart_https (first : firstScheme part = some (before, .https)) :
    redactPart part = before ++ redactedUrl := by
  obtain ⟨after, split⟩ := splitOnceText_first first
  change splitOnceText https part = _ at split
  unfold redactPart
  rw [split, Option.some_or]

private theorem redactPart_http (first : firstScheme part = some (before, .http)) :
    (¬ https <:+: part ∧ redactPart part = before ++ redactedUrl) ∨
      ∃ middle after, part = before ++ http ++ middle ++ https ++ after ∧
        redactPart part = before ++ http ++ middle ++ redactedUrl := by
  by_cases later : https <:+: part
  · right
    obtain ⟨⟨front, after⟩, split⟩ := Option.isSome_iff_exists.mp
      (splitOnceText_isSome (by decide) later)
    have shape : ∃ middle, front = before ++ http ++ middle := by
      clear later
      induction part generalizing before front with
      | nil => cases first
      | cons letter rest ih =>
          rw [firstScheme_cons] at first
          split at first
          · cases first
          next noHttps =>
            split at first
            next here =>
              cases first
              obtain ⟨tail, whole⟩ := here
              rw [← whole, splitOnceText_http] at split
              obtain ⟨⟨middle, _⟩, _, same⟩ := Option.map_eq_some_iff.mp split
              cases same
              exact ⟨middle, rfl⟩
            next noHttp =>
              obtain ⟨⟨start, kind⟩, found, same⟩ := Option.map_eq_some_iff.mp first
              cases same
              rw [splitOnceText_cons noHttps] at split
              obtain ⟨⟨back, _⟩, splitRest, sameSplit⟩ := Option.map_eq_some_iff.mp split
              cases sameSplit
              obtain ⟨middle, rfl⟩ := ih found _ splitRest
              exact ⟨middle, rfl⟩
    obtain ⟨middle, rfl⟩ := shape
    refine ⟨middle, after, splitOnceText_some split, ?_⟩
    unfold redactPart
    rw [split, Option.some_or]
  · refine .inl ⟨later, ?_⟩
    obtain ⟨after, split⟩ := splitOnceText_first first
    change splitOnceText http part = _ at split
    unfold redactPart
    rw [splitOnceText_none later, split, Option.none_or]

end

/-!
## Disclosed schemes
-/

section

variable {text before after : List Char}

private theorem Clean.part (clean : Clean text) (inside : before <:+: text) : Clean before :=
  fun scheme found => clean scheme (found.trans inside)

private theorem whitespace_notMem {separator : Char} (ends : isWhitespace separator = true)
    (scheme : Scheme) : separator ∉ scheme.text := by
  intro member
  have solid : ∀ letter ∈ scheme.text, isWhitespace letter = false :=
    eq_false_of_any (by cases scheme <;> decide)
  rw [solid separator member] at ends
  cases ends

private theorem Clean.append {separator : Char} (ends : isWhitespace separator = true)
    (front : Clean before) (back : Clean after) : Clean (before ++ separator :: after) := by
  intro scheme found
  rcases infix_append_cons (whitespace_notMem ends scheme) found with inside | inside
  · exact front scheme inside
  · exact back scheme inside

private theorem Clean.redacted (clean : Clean before) :
    Clean (before ++ "[redacted-url]".toList) := by
  intro scheme found
  have bracket : '[' ∉ scheme.text := by cases scheme <;> decide
  have rest : ¬ scheme.text <:+: "redacted-url]".toList := by cases scheme <;> decide
  rcases infix_append_cons bracket found with inside | inside
  · exact clean scheme inside
  · exact rest inside

private theorem redactPart_http_prefix (first : firstScheme text = some (before, .http)) :
    ∃ rest, redactPart text = before ++ rest ∧ ∃ letter ∈ rest, isWhitespace letter = false := by
  have bracket : '[' ∈ redactedUrl := by decide
  rcases redactPart_http first with ⟨_, cut⟩ | ⟨middle, after, _, cut⟩
  · exact ⟨redactedUrl, cut, '[', bracket, by decide⟩
  · refine ⟨http ++ middle ++ redactedUrl, ?_, '[', List.mem_append_right _ bracket, by decide⟩
    rw [cut]
    simp only [List.append_assoc]

private theorem redactPart_separated {word : List Char} {separator : Char}
    (ends : isWhitespace separator = true)
    (noHttp : ∀ before, firstScheme (word ++ [separator]) ≠ some (before, .http)) :
    ∃ front space, redactPart (word ++ [separator]) = front ++ [space] ∧
      isWhitespace space = true ∧ Clean front := by
  cases found : firstScheme (word ++ [separator]) with
  | none =>
      have clean := firstScheme_eq_none found
      exact ⟨word, separator, redactPart_clean clean, ends,
        clean.part (List.prefix_append _ _).isInfix⟩
  | some first =>
      obtain ⟨before, scheme⟩ := first
      cases scheme with
      | http => exact absurd found (noHttp before)
      | https =>
          refine ⟨before ++ "[redacted-url]".toList, ' ', ?_, by decide,
            (firstScheme_eq_some found).2.1.redacted⟩
          rw [redactPart_https found, List.append_assoc]
          rfl

private theorem firstHttp_of_redactPart {part : List Char} {parts : List (List Char)}
    (noHttp : ∀ before, firstScheme part ≠ some (before, .http)) :
    firstHttp (part :: parts) = (firstHttp parts).map ((redactPart part).length + ·) := by
  rw [firstHttp]
  cases found : firstScheme part with
  | none => rw [redactPart_clean (firstScheme_eq_none found)]
  | some first =>
      obtain ⟨before, scheme⟩ := first
      cases scheme with
      | http => exact absurd found (noHttp before)
      | https => rw [redactPart_https found, List.length_append]

private theorem take_http_clean {part : List Char} {parts : List (List Char)} {limit : Nat}
    (first : firstScheme part = some (before, .http))
    (bounded : ∀ position, firstHttp (part :: parts) = some position → limit ≤ position) :
    Clean (((part :: parts).flatMap redactPart).take limit) := by
  obtain ⟨rest, cut, _⟩ := redactPart_http_prefix first
  have short : limit ≤ before.length := bounded before.length (by rw [firstHttp, first])
  rw [List.flatMap_cons, cut, List.append_assoc, List.take_append_of_le_length short]
  exact (firstScheme_eq_some first).2.1.part (List.take_prefix _ _).isInfix

private theorem take_redacted_clean (limit : Nat)
    (bounded : ∀ position, firstHttp (splitInclusive isWhitespace text) = some position →
      limit ≤ position) : Clean ((redacted text).take limit) := by
  unfold redacted
  induction text using @pieces_induction Char isWhitespace generalizing limit with
  | empty => exact Clean.nil.part (List.take_prefix _ _).isInfix
  | last word nonempty solid =>
      rw [splitInclusive_last solid nonempty] at bounded ⊢
      cases found : firstScheme word with
      | none =>
          rw [List.flatMap_singleton, redactPart_clean (firstScheme_eq_none found)]
          exact (firstScheme_eq_none found).part (List.take_prefix _ _).isInfix
      | some first =>
          obtain ⟨before, scheme⟩ := first
          cases scheme with
          | http => exact take_http_clean found bounded
          | https =>
              have cut : redactPart word = (before ++ "[redacted-url]".toList) ++ ' ' :: [] := by
                rw [redactPart_https found, List.append_assoc]
                rfl
              rw [List.flatMap_singleton, cut]
              refine Clean.part ?_ (List.take_prefix _ _).isInfix
              exact (firstScheme_eq_some found).2.1.redacted.append (by decide) Clean.nil
  | separated word separator rest solid ends ih =>
      rw [splitInclusive_separated solid ends] at bounded ⊢
      by_cases noHttp : ∀ before, firstScheme (word ++ [separator]) ≠ some (before, .http)
      · obtain ⟨front, space, cut, isSpace, clean⟩ := redactPart_separated ends noHttp
        rw [firstHttp_of_redactPart noHttp, cut] at bounded
        rw [List.flatMap_cons, cut, List.append_assoc, List.singleton_append]
        rcases le_or_gt limit front.length with inside | beyond
        · rw [List.take_append_of_le_length inside]
          exact clean.part (List.take_prefix _ _).isInfix
        · obtain ⟨extra, rfl⟩ : ∃ extra, limit = front.length + (extra + 1) :=
            ⟨limit - front.length - 1, by omega⟩
          rw [List.take_length_add_append, List.take_succ_cons]
          refine clean.append isSpace (ih extra fun position found => ?_)
          have after := bounded _ (congrArg (Option.map _) found)
          simp only [List.length_append, List.length_singleton] at after
          omega
      · obtain ⟨before, found⟩ := not_forall_not.mp noHttp
        exact take_http_clean found bounded

end

/-!
## Independence
-/

section

variable {text shared rest : List Char} {letter : Char}

private theorem rdropWhile_shared (solid : isWhitespace letter = false) :
    ∃ after, (shared ++ letter :: rest).rdropWhile isWhitespace = shared ++ letter :: after := by
  refine ⟨rest.rdropWhile isWhitespace, ?_⟩
  induction rest using List.reverseRecOn with
  | nil =>
      rw [List.rdropWhile_concat_neg _ _ _ (by simp [solid])]
      rfl
  | append_singleton rest last ih =>
      have whole : shared ++ letter :: (rest ++ [last]) = (shared ++ letter :: rest) ++ [last] := by
        simp
      rw [whole, List.rdropWhile_concat, List.rdropWhile_concat, ih]
      split
      · rfl
      · simp

private theorem sanitized_same {other : List Char} (long : 500 ≤ shared.length)
    (visible : ∃ letter ∈ rest, isWhitespace letter = false)
    (visibleOther : ∃ letter ∈ other, isWhitespace letter = false) :
    ((shared ++ rest).rdropWhile isWhitespace).take 500 =
      ((shared ++ other).rdropWhile isWhitespace).take 500 := by
  have cut : ∀ tail : List Char, (∃ letter ∈ tail, isWhitespace letter = false) →
      ((shared ++ tail).rdropWhile isWhitespace).take 500 = shared.take 500 := by
    rintro tail ⟨letter, member, solid⟩
    obtain ⟨front, back, rfl⟩ := List.append_of_mem member
    obtain ⟨after, trimmed⟩ := @rdropWhile_shared (shared ++ front) back letter solid
    rw [← List.append_assoc, trimmed, List.append_assoc, List.take_append_of_le_length long]
  rw [cut rest visible, cut other visibleOther]

private theorem SameUpToUrl.firstScheme {part other : List Char} (same : SameUpToUrl part other) :
    Job.firstScheme part = Job.firstScheme other := by
  cases same with
  | same => rfl
  | @url before after other scheme space first solid separated =>
      rw [List.append_assoc _ after, List.append_assoc _ other, firstScheme_append first,
        firstScheme_append first]

private theorem SameUpToUrl.redacted {part other : List Char} (same : SameUpToUrl part other)
    (noHttp : ∀ before, Job.firstScheme part ≠ some (before, .http)) :
    redactPart part = redactPart other := by
  have first := same.firstScheme
  cases same with
  | same => rfl
  | @url before after other scheme space found solid separated =>
      have here := firstScheme_append found (after ++ space)
      rw [← List.append_assoc] at here
      cases scheme with
      | https => exact (redactPart_https here).trans (redactPart_https (first ▸ here)).symm
      | http => exact absurd here (noHttp before)

private theorem alike_redacted {parts others : List (List Char)}
    (alike : List.Forall₂ SameUpToUrl parts others) :
    parts.flatMap redactPart = others.flatMap redactPart ∨
      ∃ shared rest other position, parts.flatMap redactPart = shared ++ rest ∧
        others.flatMap redactPart = shared ++ other ∧
        (∃ letter ∈ rest, isWhitespace letter = false) ∧
        (∃ letter ∈ other, isWhitespace letter = false) ∧
        firstHttp parts = some position ∧ position ≤ shared.length := by
  induction alike with
  | nil => exact .inl rfl
  | @cons part other parts others same _ ih =>
      by_cases noHttp : ∀ before, firstScheme part ≠ some (before, .http)
      · rw [firstHttp_of_redactPart noHttp, List.flatMap_cons, List.flatMap_cons,
          ← same.redacted noHttp]
        rcases ih with equal | ⟨shared, rest, tail, position, left, right, visible, visibleTail,
          found, before⟩
        · exact .inl (congrArg _ equal)
        · refine .inr ⟨redactPart part ++ shared, rest, tail, (redactPart part).length + position,
            ?_, ?_, visible, visibleTail, ?_, ?_⟩
          · rw [left, List.append_assoc]
          · rw [right, List.append_assoc]
          · rw [found, Option.map_some]
          · rw [List.length_append]
            omega
      · obtain ⟨before, first⟩ := not_forall_not.mp noHttp
        have firstOther := same.firstScheme.symm.trans first
        obtain ⟨rest, cut, letter, member, visible⟩ := redactPart_http_prefix first
        obtain ⟨tail, cutOther, letterOther, memberOther, visibleOther⟩ :=
          redactPart_http_prefix firstOther
        refine .inr ⟨before, rest ++ parts.flatMap redactPart, tail ++ others.flatMap redactPart,
          before.length, ?_, ?_, ⟨letter, List.mem_append_left _ member, visible⟩,
          ⟨letterOther, List.mem_append_left _ memberOther, visibleOther⟩, ?_, le_refl _⟩
        · rw [List.flatMap_cons, cut, List.append_assoc]
        · rw [List.flatMap_cons, cutOther, List.append_assoc]
        · rw [firstHttp, first]

private theorem firstScheme_separated {word : List Char} {separator : Char}
    (ends : isWhitespace separator = true) :
    firstScheme (word ++ [separator]) = firstScheme word := by
  cases found : firstScheme word with
  | none => exact ((firstScheme_eq_none found).append ends Clean.nil).firstScheme
  | some first =>
      obtain ⟨before, scheme⟩ := first
      obtain ⟨⟨after, rfl⟩, _, alone⟩ := firstScheme_eq_some found
      rw [List.append_assoc, firstScheme_append alone]

private theorem exists_word {word before space : List Char}
    (first : firstScheme word = some (before, .http))
    (solid : ∀ letter ∈ word, isWhitespace letter = false)
    (separated : ∀ letter ∈ space, isWhitespace letter = true) :
    ∃ other left right rest tail, other ≠ [] ∧ (∀ letter ∈ other, isWhitespace letter = false) ∧
      SameUpToUrl (word ++ space) (other ++ space) ∧
      redactPart (word ++ space) = before ++ left :: rest ∧
      redactPart (other ++ space) = before ++ right :: tail ∧
      left ≠ right ∧ isWhitespace left = false ∧ isWhitespace right = false := by
  obtain ⟨⟨after, rfl⟩, _, alone⟩ := firstScheme_eq_some first
  change firstScheme (before ++ http) = some (before, .http) at alone
  have solidHttp : ∀ letter ∈ before ++ http, isWhitespace letter = false :=
    fun letter member => solid letter (List.mem_append_left _ member)
  have solidAfter : ∀ letter ∈ after, isWhitespace letter = false :=
    fun letter member => solid letter (List.mem_append_right _ member)
  have solidHttps : ∀ letter ∈ https, isWhitespace letter = false :=
    eq_false_of_any (by decide)
  have starts : ∀ tail : List Char,
      before ++ http ++ tail = before ++ 'h' :: ("ttp://".toList ++ tail) :=
    fun tail => by rw [List.append_assoc]; rfl
  have continued : ∀ tail : List Char,
      firstScheme (before ++ http ++ tail) = some (before, .http) :=
    @firstScheme_append before .http alone
  have whole := continued (after ++ space)
  rw [← List.append_assoc] at whole
  rcases redactPart_http whole with ⟨_, cut⟩ | ⟨middle, _, _, cut⟩
  · -- a second URL would show the first one
    have longer := continued (https ++ space)
    rw [← List.append_assoc] at longer
    have later : https <:+: before ++ http ++ https ++ space := ⟨before ++ http, space, rfl⟩
    obtain ⟨middle, _, _, shown⟩ := (redactPart_http longer).resolve_left fun none => none.1 later
    refine ⟨before ++ http ++ https, '[', 'h', "redacted-url] ".toList,
      "ttp://".toList ++ (middle ++ redactedUrl), by simp [http_eq], ?_, ?_, cut, ?_, by decide,
      by decide, by decide⟩
    · intro letter member
      rcases List.mem_append.mp member with inside | inside
      · exact solidHttp letter inside
      · exact solidHttps letter inside
    · refine .url space alone (fun letter member => ?_) separated
      rcases List.mem_append.mp member with inside | inside
      · exact solidAfter letter inside
      · exact solidHttps letter inside
    · rw [shown, List.append_assoc _ middle, starts]
  · -- without the second URL the first one is cut
    have hidden : redactPart (before ++ http ++ space) = before ++ redactedUrl := by
      rcases redactPart_http (continued space) with ⟨_, cut⟩ | ⟨inner, back, same, _⟩
      · exact cut
      · have inside : 'h' ∈ space := by
          simp only [List.append_assoc, List.append_cancel_left_eq] at same
          rw [same]
          exact List.mem_append_right _ (List.mem_append_left _ (by decide))
        have blank := separated 'h' inside
        exact absurd blank (by decide)
    refine ⟨before ++ http, 'h', '[', "ttp://".toList ++ (middle ++ redactedUrl),
      "redacted-url] ".toList, by simp [http_eq], solidHttp, ?_, ?_, hidden, by decide, by decide,
      by decide⟩
    · have same := @SameUpToUrl.url before after [] .http space alone
        (fun letter member => solidAfter letter (by simpa using member)) separated
      rwa [List.append_nil] at same
    · refine cut.trans ?_
      rw [List.append_assoc _ middle, starts]

private theorem exists_alike {position : Nat}
    (found : firstHttp (splitInclusive isWhitespace text) = some position) :
    ∃ other shared left right rest tail,
      List.Forall₂ SameUpToUrl (splitInclusive isWhitespace text)
        (splitInclusive isWhitespace other) ∧
      redacted text = shared ++ left :: rest ∧ redacted other = shared ++ right :: tail ∧
      shared.length = position ∧ left ≠ right ∧ isWhitespace left = false ∧
      isWhitespace right = false := by
  induction text using @pieces_induction Char isWhitespace generalizing position with
  | empty => cases found
  | last word nonempty solid =>
      rw [splitInclusive_last solid nonempty] at found ⊢
      by_cases noHttp : ∀ before, firstScheme word ≠ some (before, .http)
      · rw [firstHttp_of_redactPart noHttp] at found
        cases found
      · obtain ⟨before, first⟩ := not_forall_not.mp noHttp
        obtain ⟨other, left, right, rest, tail, some_, solidOther, same, shown, shownOther, different,
          solids⟩ := exists_word first solid (List.forall_mem_nil _)
        rw [List.append_nil, List.append_nil] at same
        rw [List.append_nil] at shown shownOther
        rw [firstHttp, first] at found
        refine ⟨other, before, left, right, rest, tail, ?_, ?_, ?_, Option.some.inj found, different,
          solids⟩
        · rw [splitInclusive_last solidOther some_]
          exact .cons same .nil
        · rw [redacted, splitInclusive_last solid nonempty, List.flatMap_singleton, shown]
        · rw [redacted, splitInclusive_last solidOther some_, List.flatMap_singleton, shownOther]
  | separated word separator rest solid ends ih =>
      rw [splitInclusive_separated solid ends] at found ⊢
      by_cases noHttp : ∀ before, firstScheme (word ++ [separator]) ≠ some (before, .http)
      · rw [firstHttp_of_redactPart noHttp] at found
        obtain ⟨later, foundLater, rfl⟩ := Option.map_eq_some_iff.mp found
        obtain ⟨other, shared, left, right, front, tail, alike, shown, shownOther, length, different,
          solids⟩ := ih foundLater
        refine ⟨word ++ separator :: other, redactPart (word ++ [separator]) ++ shared, left, right,
          front, tail, ?_, ?_, ?_, ?_, different, solids⟩
        · rw [splitInclusive_separated solid ends]
          exact .cons (.same _) alike
        · rw [redacted, splitInclusive_separated solid ends, List.flatMap_cons, List.append_assoc]
          exact congrArg _ shown
        · rw [redacted, splitInclusive_separated solid ends, List.flatMap_cons, List.append_assoc]
          exact congrArg _ shownOther
        · rw [List.length_append, length]
      · obtain ⟨before, first⟩ := not_forall_not.mp noHttp
        have firstWord := (firstScheme_separated ends).symm.trans first
        obtain ⟨other, left, right, front, tail, _, solidOther, same, shown, shownOther, different,
          solids⟩ := exists_word firstWord solid (List.forall_mem_singleton.mpr ends)
        rw [firstHttp, first] at found
        refine ⟨other ++ separator :: rest, before, left, right,
          front ++ (splitInclusive isWhitespace rest).flatMap redactPart,
          tail ++ (splitInclusive isWhitespace rest).flatMap redactPart, ?_, ?_, ?_,
          Option.some.inj found, different, solids⟩
        · rw [splitInclusive_separated solidOther ends]
          exact .cons same (List.forall₂_same.mpr fun part _ => .same part)
        · rw [redacted, splitInclusive_separated solid ends, List.flatMap_cons, shown]
          simp only [List.append_assoc, List.cons_append]
        · rw [redacted, splitInclusive_separated solidOther ends, List.flatMap_cons, shownOther]
          simp only [List.append_assoc, List.cons_append]

end

/-- An error discloses nothing exactly when the first URL of every word in its first 500
characters after the redaction is an `https` one. -/
theorem undisclosed_iff (error : String) :
    Undisclosed error ↔
      ∀ position, firstHttp (splitInclusive isWhitespace error.toList) = some position →
        500 ≤ position := by
  constructor
  · intro undisclosed position found
    by_contra early
    obtain ⟨other, shared, left, right, rest, tail, alike, shown, shownOther, length, different,
      solidLeft, solidRight⟩ := exists_alike found
    have same := undisclosed.independent (String.ofList other) (by
      unfold Alike
      rw [String.toList_ofList]
      exact alike)
    obtain ⟨after, trimmed⟩ := @rdropWhile_shared shared rest left solidLeft
    obtain ⟨afterOther, trimmedOther⟩ := @rdropWhile_shared shared tail right solidRight
    unfold sanitizeAdminJobError at same
    rw [String.toList_ofList, shown, shownOther, trimmed, trimmedOther] at same
    have letters := congrArg (fun text => text[position]?) (String.ofList_inj.mp same)
    have inside : position < 500 := by omega
    simp only [List.getElem?_take, if_pos inside] at letters
    rw [← length, List.getElem?_append_right (le_refl _), List.getElem?_append_right (le_refl _),
      Nat.sub_self] at letters
    exact different (Option.some.inj letters).symm
  · intro late
    have clean : Clean (sanitizeAdminJobError error).toList := by
      unfold sanitizeAdminJobError
      rw [String.toList_ofList]
      refine (take_redacted_clean 500 late).part ?_
      exact (List.IsPrefix.take (List.rdropWhile_prefix _ _) 500).isInfix
    refine ⟨clean .https, clean .http, ?_, ?_⟩
    · unfold sanitizeAdminJobError
      rw [String.length_ofList]
      exact List.length_take_le _ _
    · intro other alike
      unfold sanitizeAdminJobError
      refine congrArg String.ofList ?_
      rcases alike_redacted alike with equal | ⟨shared, rest, tail, position, left, right, visible,
        visibleTail, found, before⟩
      · exact congrArg (fun text => (text.rdropWhile isWhitespace).take 500) equal.symm
      · unfold redacted
        rw [left, right]
        exact sanitized_same ((late position found).trans before) visibleTail visible

/-- The first of two glued URLs is shown, with its token. -/
theorem disclosed_http :
    sanitizeAdminJobError "http://remote.example/inbox?token=secret,https://remote.example failed" =
      "http://remote.example/inbox?token=secret,[redacted-url] failed" ∧
    ¬ Undisclosed
      "http://remote.example/inbox?token=secret,https://remote.example failed" := by
  refine ⟨by decide +kernel, fun undisclosed => undisclosed.http ?_⟩
  exact ⟨[], "remote.example/inbox?token=secret,[redacted-url] failed".toList, by decide +kernel⟩

end Roosty.Job
