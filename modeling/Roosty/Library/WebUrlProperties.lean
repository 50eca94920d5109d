import Roosty.Library.Trim
import Roosty.Library.WebUrl

/-!
# Paths of URL references

How far the dot segments of a path climb, and what the characters before a path
make of it.
-/

set_option autoImplicit false

namespace Roosty.Library.WebUrl

/-!
## Dot segments
-/

/-- The segments before a path that its `..` segments remove. -/
def climb : List (List Char) → Nat
  | [] => 0
  | segment :: rest =>
      if isDoubleDot segment then climb rest + 1
      else if isSingleDot segment then climb rest
      else climb rest - 1

def depth (path : List (List Char)) : Nat := (path.foldl enter []).length

variable {path front rest : List (List Char)} {segment : List Char}

theorem climb_cons (segment : List Char) (rest : List (List Char)) :
    climb (segment :: rest) =
      if isDoubleDot segment then climb rest + 1
      else if isSingleDot segment then climb rest
      else climb rest - 1 := rfl

theorem foldl_enter (stack path : List (List Char)) :
    path.foldl enter stack = path.foldl enter [] ++ stack.drop (climb path) := by
  induction path generalizing stack with
  | nil => rfl
  | cons segment rest ih =>
      rw [List.foldl_cons, List.foldl_cons, ih, ih (enter [] segment), List.append_assoc]
      congr 1
      rw [climb_cons]
      unfold enter
      by_cases up : isDoubleDot segment
      · simp only [up, ↓reduceIte, List.tail_nil, List.drop_nil, List.nil_append]
        rw [← List.drop_one, List.drop_drop, Nat.add_comm]
      · by_cases here : isSingleDot segment
        · simp only [up, here, Bool.false_eq_true, ↓reduceIte, List.drop_nil, List.nil_append]
        · simp only [up, here, Bool.false_eq_true, ↓reduceIte]
          cases climb rest with
          | zero => rfl
          | succ climbed => simp

theorem closed_append (nonempty : path ≠ []) : closed (front ++ path) = front ++ closed path := by
  unfold closed
  rw [List.getLast?_append_of_ne_nil front nonempty]
  split
  · rw [List.append_assoc]
  · rfl

theorem closed_cons (nonempty : path ≠ []) : closed (segment :: path) = segment :: closed path :=
  @closed_append path [segment] nonempty

theorem climb_append_empty (path : List (List Char)) : climb (path ++ [[]]) = climb path := by
  induction path with
  | nil => rfl
  | cons segment rest ih => rw [List.cons_append, climb, climb, ih]

@[simp] theorem climb_closed (path : List (List Char)) : climb (closed path) = climb path := by
  unfold closed
  split
  · exact climb_append_empty path
  · rfl

theorem enter_empty (stack : List (List Char)) : enter stack [] = [] :: stack := rfl

theorem enter_of_named (stack : List (List Char)) (up : isDoubleDot segment = false)
    (here : isSingleDot segment = false) :
    enter stack segment = utf8PercentEncode pathSet segment :: stack := by
  simp [enter, up, here]

theorem foldl_closed_ne_nil (stack : List (List Char)) (nonempty : path ≠ []) :
    (closed path).foldl enter stack ≠ [] := by
  unfold closed
  rw [← List.dropLast_concat_getLast nonempty]
  generalize path.getLast nonempty = last
  by_cases dots : isSingleDot last || isDoubleDot last
  · simp [dots, List.foldl_append, enter_empty]
  · rw [Bool.not_eq_true, Bool.or_eq_false_iff] at dots
    simp [dots, List.foldl_append, enter_of_named _ dots.2 dots.1]

theorem resolvePath_eq_iff {above above' path' : List (List Char)} :
    resolvePath above path = resolvePath above' path' ↔
      (closed path).foldl enter above.reverse = (closed path').foldl enter above'.reverse := by
  unfold resolvePath
  exact List.reverse_inj

/-- What stands before a path goes exactly when the path climbs over all of it. -/
theorem resolvePath_append_eq_iff (nonempty : path ≠ []) :
    resolvePath [] (front ++ path) = resolvePath [] path ↔ depth front ≤ climb path := by
  rw [resolvePath_eq_iff, closed_append nonempty, List.foldl_append, foldl_enter, climb_closed]
  simp only [List.reverse_nil, List.append_right_eq_self, List.drop_eq_nil_iff]
  rfl

theorem depth_singleton (up : isDoubleDot segment = false) (here : isSingleDot segment = false) :
    depth [segment] = 1 := by
  simp [depth, enter_of_named _ up here]

theorem length_enter_nil_le (segment : List Char) : (enter [] segment).length ≤ 1 := by
  unfold enter
  split
  · simp
  · split <;> simp

theorem resolvePath_cons_eq_iff {other : List Char} (up : isDoubleDot segment = false)
    (here : isSingleDot segment = false)
    (differ : utf8PercentEncode pathSet segment ≠ utf8PercentEncode pathSet other)
    (nonempty : utf8PercentEncode pathSet segment ≠ []) :
    resolvePath [] (segment :: rest) = resolvePath [] (other :: rest) ↔ 1 ≤ climb rest := by
  rw [resolvePath_eq_iff]
  have entered : enter [] segment ≠ enter [] other := by
    rw [enter_of_named _ up here]
    unfold enter
    split
    · simp
    · split
      · simp
      · simpa using differ
  cases rest with
  | nil =>
      simp only [climb, Nat.le_zero, Nat.one_ne_zero, iff_false]
      have named : closed [segment] = [segment] := by simp [closed, up, here]
      rw [named]
      unfold closed
      by_cases dots : isSingleDot other || isDoubleDot other
      · simp only [List.getLast?_singleton, Option.any_some, dots, ↓reduceIte, List.reverse_nil,
          List.foldl_cons, List.foldl_nil, List.singleton_append]
        rw [enter_of_named _ up here, enter_empty]
        intro same
        exact nonempty (List.cons.inj same).1
      · simpa [dots] using entered
  | cons next rest =>
      have more : next :: rest ≠ [] := List.cons_ne_nil next rest
      rw [closed_cons more, closed_cons more, List.foldl_cons, List.foldl_cons,
        foldl_enter (enter _ segment), foldl_enter (enter _ other), climb_closed]
      simp only [List.reverse_nil, List.append_cancel_left_eq]
      constructor
      · intro same
        by_contra shallow
        rw [Nat.not_le, Nat.lt_one_iff] at shallow
        rw [shallow, List.drop_zero, List.drop_zero] at same
        exact entered same
      · intro climbs
        rw [List.drop_eq_nil_iff.mpr ((length_enter_nil_le segment).trans climbs),
          List.drop_eq_nil_iff.mpr ((length_enter_nil_le other).trans climbs)]

/-!
## Segments of a text
-/

variable {text before : List Char} {slash : Char}

theorem segments_ne_nil (text : List Char) : segments text ≠ [] := List.splitOnP_ne_nil _ _

theorem segments_append_slash (before text : List Char) (isSlash_slash : isSlash slash = true) :
    segments (before ++ slash :: text) = segments before ++ segments text :=
  List.splitOnP_append_cons before text isSlash_slash

theorem segments_append (inert : ∀ character ∈ before, isSlash character = false)
    (text : List Char) : segments (before ++ text) = (segments text).modifyHead (before ++ ·) := by
  induction before with
  | nil =>
      cases split : segments text with
      | nil => exact absurd split (segments_ne_nil text)
      | cons first rest => simp [split]
  | cons first before ih =>
      have none_left := inert first List.mem_cons_self
      have ih := ih fun character member => inert character (List.mem_cons_of_mem _ member)
      unfold segments at ih ⊢
      rw [List.cons_append, List.splitOnP_cons_eq_if_modifyHead, if_neg (by simp [none_left]), ih,
        List.modifyHead_modifyHead]
      rfl

theorem segments_of_inert (inert : ∀ character ∈ text, isSlash character = false) :
    segments text = [text] := by
  have split := segments_append inert []
  rw [List.append_nil] at split
  rw [split]
  simp [segments]

theorem pathPart_append (inert : ∀ character ∈ before, endsPath character = false)
    (text : List Char) : pathPart (before ++ text) = before ++ pathPart text := by
  unfold pathPart
  rw [List.takeWhile_append_of_pos]
  intro character member
  simp [inert character member]

theorem queryOf_append (inert : ∀ character ∈ before, endsPath character = false)
    (text : List Char) : queryOf (before ++ text) = queryOf text := by
  unfold queryOf
  rw [List.dropWhile_append_of_pos]
  intro character member
  simp [inert character member]

theorem utf8PercentEncode_append (encoded : Char → Bool) (first second : List Char) :
    utf8PercentEncode encoded (first ++ second) =
      utf8PercentEncode encoded first ++ utf8PercentEncode encoded second :=
  List.flatMap_append

theorem utf8PercentEncode_ne_nil (encoded : Char → Bool) (nonempty : text ≠ []) :
    utf8PercentEncode encoded text ≠ [] := by
  obtain ⟨first, rest, rfl⟩ := List.exists_cons_of_ne_nil nonempty
  unfold utf8PercentEncode
  rw [List.flatMap_cons]
  split
  · have bytes : String.utf8EncodeChar first ≠ [] := by
      intro none_left
      have size := String.length_utf8EncodeChar first
      rw [none_left] at size
      have positive := Char.utf8Size_pos first
      simp at size
      omega
    obtain ⟨byte, bytes, split⟩ := List.exists_cons_of_ne_nil bytes
    simp [split, percentEncodeByte]
  · simp

theorem utf8PercentEncode_append_ne (encoded : Char → Bool) (nonempty : before ≠ [])
    (text : List Char) :
    utf8PercentEncode encoded (before ++ text) ≠ utf8PercentEncode encoded text := by
  rw [utf8PercentEncode_append]
  intro same
  exact utf8PercentEncode_ne_nil encoded nonempty (List.append_left_eq_self.mp same)

/-!
## Cleaned texts
-/

variable {input : List Char} {character : Char}

theorem endsAuthority_of_blank (blank : isC0ControlOrSpace character = true) :
    endsAuthority character = false := by
  have code : character.toNat ≤ 32 := by simpa [isC0ControlOrSpace] using blank
  have differs : ∀ other : Char, 32 < other.toNat → character ≠ other := by
    rintro other above rfl
    omega
  simp [endsAuthority, isSlash, endsPath, differs '/' (by decide), differs '\\' (by decide),
    differs '?' (by decide), differs '#' (by decide)]

theorem endsAuthority_of_isSchemeChar (named : isSchemeChar character = true) :
    endsAuthority character = false := by
  have differs : ∀ other : Char, isSchemeChar other = false → character ≠ other := by
    rintro other refused rfl
    rw [refused] at named
    exact Bool.noConfusion named
  simp [endsAuthority, isSlash, endsPath, differs '/' (by decide), differs '\\' (by decide),
    differs '?' (by decide), differs '#' (by decide)]

theorem cleanedEnd_cons (kept : isC0ControlOrSpace character = false)
    (printed : isTabOrNewline character = false) (input : List Char) :
    cleanedEnd (character :: input) = character :: cleanedEnd input := by
  have ends : (character :: input).rdropWhile isC0ControlOrSpace =
      character :: input.rdropWhile isC0ControlOrSpace := by
    induction input using List.reverseRecOn with
    | nil => simp [List.rdropWhile_singleton, kept]
    | append_singleton input last ih =>
        rw [← List.cons_append, List.rdropWhile_concat, List.rdropWhile_concat, ih]
        split <;> rfl
  rw [cleanedEnd, ends, List.filter_cons_of_pos (by simp [printed])]
  rfl

theorem cleanedEnd_eq_append (input : List Char) :
    ∃ lead, cleanedEnd input = lead ++ cleaned input ∧
      ∀ character ∈ lead, isC0ControlOrSpace character = true := by
  have ends : ∀ rest : List Char, ∀ lead : List Char,
      (∀ character ∈ lead, isC0ControlOrSpace character = true) →
      ∃ kept, (lead ++ rest).rdropWhile isC0ControlOrSpace =
        kept ++ rest.rdropWhile isC0ControlOrSpace ∧ kept ⊆ lead := by
    intro rest lead blank
    induction rest using List.reverseRecOn with
    | nil =>
        refine ⟨[], ?_, by simp⟩
        rw [List.append_nil, List.rdropWhile_eq_nil_iff.mpr blank]
        rfl
    | append_singleton rest last ih =>
        rw [← List.append_assoc, List.rdropWhile_concat, List.rdropWhile_concat]
        split
        · exact ih
        · exact ⟨lead, by rw [List.append_assoc], fun _ member => member⟩
  have front : ∀ character ∈ input.takeWhile isC0ControlOrSpace,
      isC0ControlOrSpace character = true := fun character member => List.mem_takeWhile_imp member
  obtain ⟨kept, split, inside⟩ := ends (input.dropWhile isC0ControlOrSpace) _ front
  rw [List.takeWhile_append_dropWhile] at split
  refine ⟨kept.filter fun character => !isTabOrNewline character, ?_, ?_⟩
  · rw [cleanedEnd, split, List.filter_append]
    rfl
  · intro character member
    exact front character (inside (List.mem_of_mem_filter member))

theorem isTabOrNewline_of_kept (kept : isC0ControlOrSpace character = false) :
    isTabOrNewline character = false := by
  have differs : ∀ other : Char, isC0ControlOrSpace other = true → character ≠ other := by
    rintro other blank rfl
    rw [blank] at kept
    exact Bool.noConfusion kept
  simp [isTabOrNewline, differs '\t' (by decide), differs '\n' (by decide),
    differs '\r' (by decide)]

theorem kept_of_head_cleaned {first : Char} (head : first ∈ (cleaned input).head?) :
    isC0ControlOrSpace first = false := by
  have front : (Text.trimMatches isC0ControlOrSpace input).dropWhile isC0ControlOrSpace =
      Text.trimMatches isC0ControlOrSpace input := Text.dropWhile_trimMatches
  unfold cleaned at head
  revert front head
  generalize Text.trimMatches isC0ControlOrSpace input = trimmed
  intro head front
  cases trimmed with
  | nil => simp at head
  | cons second rest =>
      have kept : isC0ControlOrSpace second = false := by
        by_contra blank
        rw [List.dropWhile_cons_of_pos (by simpa using blank)] at front
        have shorter := congrArg List.length front
        have bounded := (List.dropWhile_suffix isC0ControlOrSpace (l := rest)).length_le
        simp at shorter
        omega
      rw [List.filter_cons_of_pos (by simp [isTabOrNewline_of_kept kept])] at head
      have same : second = first := by simpa using head
      rwa [← same]

theorem splitScheme_some {scheme : String} {rest : List Char}
    (split : splitScheme text = some (scheme, rest)) :
    ∃ name, text = name ++ ':' :: rest ∧ ∀ character ∈ name, isSchemeChar character = true := by
  unfold splitScheme at split
  split at split
  · split at split
    · rename_i after remaining
      obtain ⟨_, rfl⟩ : _ ∧ after = rest := by simpa using split
      refine ⟨text.takeWhile isSchemeChar, ?_, fun character member => List.mem_takeWhile_imp member⟩
      rw [← remaining, List.takeWhile_append_dropWhile]
    · cases split
  · cases split

/-- The text begins with neither a blank nor a slash, and names no scheme. -/
def BeginsPath (text : List Char) : Prop :=
  (∀ first ∈ text.head?, isC0ControlOrSpace first = false ∧ isSlash first = false) ∧
    splitScheme text = none

def Undotted (character : Char) : Prop := character.toLower ∉ ['.', '%', '2', 'e']

theorem undotted_of_blank (blank : isC0ControlOrSpace character = true) : Undotted character := by
  have code : character.toNat ≤ 32 := by simpa [isC0ControlOrSpace] using blank
  have lower : character.toLower = character := by
    delta Char.toLower
    rw [dif_neg]
    rintro ⟨upper, _⟩
    have above : 65 ≤ character.toNat := upper
    omega
  have differs : ∀ other : Char, 32 < other.toNat → character ≠ other := by
    rintro other above rfl
    omega
  simp [Undotted, lower, differs '.' (by decide), differs '%' (by decide), differs '2' (by decide),
    differs 'e' (by decide)]

theorem named_of_undotted {segment : List Char} (member : character ∈ segment)
    (undotted : Undotted character) : isDoubleDot segment = false ∧ isSingleDot segment = false := by
  have inside : character.toLower ∈ Text.toAsciiLowercase segment :=
    List.mem_map_of_mem (f := Char.toLower) member
  have apart : ∀ dots : List Char, dots ⊆ ['.', '%', '2', 'e'] →
      Text.toAsciiLowercase segment ≠ dots := by
    intro dots letters same
    exact undotted (letters (same ▸ inside))
  constructor
  · simp [isDoubleDot, apart _ (show ['.', '.'] ⊆ _ by decide),
      apart _ (show ['.', '%', '2', 'e'] ⊆ _ by decide),
      apart _ (show ['%', '2', 'e', '.'] ⊆ _ by decide),
      apart _ (show ['%', '2', 'e', '%', '2', 'e'] ⊆ _ by decide)]
  · simp [isSingleDot, apart _ (show ['.'] ⊆ _ by decide),
      apart _ (show ['%', '2', 'e'] ⊆ _ by decide)]

/-- What stands before the text that is read against the base. -/
structure Misread (input before text : List Char) : Prop where
  split : cleanedEnd input = before ++ text
  inert : ∀ character ∈ before, endsAuthority character = false
  undotted : before ≠ [] → ∃ character ∈ before, Undotted character
  begins : BeginsPath (cleanedEnd input) ↔
    before = [] ∧ ∀ first ∈ text.head?, isSlash first = false

theorem exists_misread {scheme : String} (under : reference scheme (cleaned input) = .under text) :
    ∃ before, Misread input before text := by
  obtain ⟨lead, split, blank⟩ := cleanedEnd_eq_append input
  have begins : BeginsPath (cleanedEnd input) ↔ lead = [] ∧ splitScheme (cleaned input) = none ∧
      ∀ first ∈ (cleaned input).head?, isSlash first = false := by
    rw [split]
    cases lead with
    | nil =>
        simp only [BeginsPath, List.nil_append, true_and]
        constructor
        · rintro ⟨head, unnamed⟩
          exact ⟨unnamed, fun first isFirst => (head first isFirst).2⟩
        · rintro ⟨unnamed, head⟩
          exact ⟨fun first isFirst => ⟨kept_of_head_cleaned isFirst, head first isFirst⟩, unnamed⟩
    | cons first lead =>
        simp only [reduceCtorEq, false_and, iff_false]
        rintro ⟨head, _⟩
        have kept := (head first (by simp)).1
        rw [blank first List.mem_cons_self] at kept
        exact Bool.noConfusion kept
  unfold reference at under
  cases named : splitScheme (cleaned input) with
  | none =>
      simp only [named] at under
      obtain rfl : cleaned input = text := by simpa using under
      refine ⟨lead, split, fun character member => endsAuthority_of_blank (blank _ member), ?_, ?_⟩
      · intro nonempty
        obtain ⟨first, rest, rfl⟩ := List.exists_cons_of_ne_nil nonempty
        exact ⟨first, List.mem_cons_self, undotted_of_blank (blank first List.mem_cons_self)⟩
      · simpa [named] using begins
  | some parts =>
      obtain ⟨found, rest⟩ := parts
      simp only [named] at under
      split at under
      · obtain rfl : rest = text := by simpa using under
        obtain ⟨name, whole, letters⟩ := splitScheme_some named
        refine ⟨lead ++ (name ++ [':']), ?_, ?_, ?_, ?_⟩
        · rw [split, whole]
          simp
        · intro character member
          rcases List.mem_append.mp member with inLead | inScheme
          · exact endsAuthority_of_blank (blank _ inLead)
          · rcases List.mem_append.mp inScheme with inName | isColon
            · exact endsAuthority_of_isSchemeChar (letters _ inName)
            · rw [List.mem_singleton.mp isColon]
              rfl
        · intro _
          exact ⟨':', by simp, by unfold Undotted; decide⟩
        · rw [begins, named]
          simp
      · cases under

theorem pathPart_of_endsPath
    (ends : ∀ first ∈ text.head?, endsPath first = true) : pathPart text = [] := by
  cases text with
  | nil => rfl
  | cons first rest => exact List.takeWhile_cons_of_neg (by simp [ends first rfl])

theorem endsPath_of_inert
    (inert : ∀ character ∈ text, endsAuthority character = false) :
    ∀ character ∈ text, endsPath character = false :=
  fun character member => (Bool.or_eq_false_iff.mp (inert character member)).2

theorem isSlash_of_inert
    (inert : ∀ character ∈ text, endsAuthority character = false) :
    ∀ character ∈ text, isSlash character = false :=
  fun character member => (Bool.or_eq_false_iff.mp (inert character member)).1

namespace Misread

variable (misread : Misread input before text)
include misread

theorem pathPart_eq : pathPart (cleanedEnd input) = before ++ pathPart text := by
  rw [misread.split, pathPart_append (endsPath_of_inert misread.inert)]

theorem queryOf_eq : queryOf (cleanedEnd input) = queryOf text := by
  rw [misread.split, queryOf_append (endsPath_of_inert misread.inert)]

theorem named (nonempty : before ≠ []) (segment : List Char) :
    isDoubleDot (before ++ segment) = false ∧ isSingleDot (before ++ segment) = false := by
  obtain ⟨character, member, undotted⟩ := misread.undotted nonempty
  exact named_of_undotted (List.mem_append_left segment member) undotted

theorem named_before : isDoubleDot before = false ∧ isSingleDot before = false := by
  by_cases empty : before = []
  · rw [empty]
    exact ⟨rfl, rfl⟩
  · have named := misread.named empty []
    rwa [List.append_nil] at named

end Misread

end Roosty.Library.WebUrl
