import Mathlib.Data.List.TakeWhile
import Roosty.Content.Links

/-!
# Places of links

Every candidate of a scanner stands where its offsets say, after an admissible character.
-/

set_option autoImplicit false

namespace Roosty.Content

open Library.Offsets

/-- The link finder reports spans of the text, on character boundaries. -/
def TextContext.LinksInBounds (context : TextContext) : Prop :=
  ∀ content, ∀ span ∈ context.links content, ∃ text, slice content span.1 span.2 = some text

section

variable {Found : Type} {marker : Char} {validPrefix : Option Char → Bool}
  {recognise : Nat → List Char → List Char × Option Found}

/-- A candidate at a marker of the text, with what is recognised there. -/
structure Candidate.Located (marker : Char) (validPrefix : Option Char → Bool)
    (recognise : Nat → List Char → List Char × Option Found) (content : List Char)
    (candidate : Candidate Found) (front rest : List Char) : Prop where
  place : content = front ++ marker :: rest
  offset : byteLength front = candidate.start
  admissible : validPrefix front.getLast? = true
  text : candidate.text = marker :: (recognise candidate.start rest).1
  found : candidate.found = (recognise candidate.start rest).2

private theorem scan_located {content front text : List Char} {skip index : Nat}
    {previous : Option Char} (place : content = front ++ text) (offset : byteLength front = index)
    (last : previous = front.getLast?) {candidate : Candidate Found}
    (member : candidate ∈ scan marker validPrefix recognise skip previous index text) :
    ∃ front rest, candidate.Located marker validPrefix recognise content front rest := by
  induction text generalizing skip previous index front with
  | nil =>
      unfold scan at member
      cases member
  | cons character text ih =>
      have next : content = (front ++ [character]) ++ text := by simp [place]
      have further : byteLength (front ++ [character]) = index + character.utf8Size := by
        simp [offset]
      have after : some character = (front ++ [character]).getLast? := by simp
      cases skip with
      | succ skip => exact ih next further after member
      | zero =>
          unfold scan at member
          split at member
          · exact ih next further after member
          · next starts =>
            simp only [Bool.or_eq_true, bne_iff_ne, Bool.not_eq_true', not_or, ne_eq, not_not,
              Bool.not_eq_false] at starts
            obtain ⟨rfl, admissible⟩ := starts
            rcases List.mem_cons.mp member with rfl | later
            · exact ⟨front, text, place, offset, last ▸ admissible, rfl, rfl⟩
            · exact ih next further after later

theorem candidate_located {content : List Char} {candidate : Candidate Found}
    (member : candidate ∈ scan marker validPrefix recognise 0 none 0 content) :
    ∃ front rest, candidate.Located marker validPrefix recognise content front rest :=
  scan_located (List.nil_append content).symm rfl rfl member

private theorem found_unique {start : Found → Nat}
    (starts : ∀ index rest found, (recognise index rest).2 = some found → start found = index)
    {content : List Char} {first second : Found}
    (left : first ∈ (scan marker validPrefix recognise 0 none 0 content).filterMap Candidate.found)
    (right : second ∈ (scan marker validPrefix recognise 0 none 0 content).filterMap Candidate.found)
    (same : start first = start second) : first = second := by
  obtain ⟨one, oneScanned, oneFound⟩ := List.mem_filterMap.mp left
  obtain ⟨two, twoScanned, twoFound⟩ := List.mem_filterMap.mp right
  obtain ⟨front, rest, oneLocated⟩ := candidate_located oneScanned
  obtain ⟨front', rest', twoLocated⟩ := candidate_located twoScanned
  have oneStart := starts _ _ _ (oneLocated.found.symm.trans oneFound)
  have twoStart := starts _ _ _ (twoLocated.found.symm.trans twoFound)
  have offsets : one.start = two.start := by rw [← oneStart, ← twoStart, same]
  have whole := oneLocated.place.symm.trans twoLocated.place
  have size : byteLength front = byteLength front' := by
    rw [oneLocated.offset, twoLocated.offset, offsets]
  obtain ⟨gap, extended, rests⟩ := prefix_of_byteLength_le whole (Nat.le_of_eq size)
  have none : gap = [] := by
    refine byteLength_eq_zero ?_
    rw [extended, byteLength_append] at size
    omega
  subst none
  have equal : rest = rest' := (List.cons.inj rests).2
  have result := twoLocated.found
  rw [← offsets, ← equal, ← oneLocated.found, oneFound, twoFound] at result
  exact (Option.some.inj result).symm

theorem Candidate.Located.slice {content front rest : List Char} {candidate : Candidate Found}
    (located : candidate.Located marker validPrefix recognise content front rest)
    (consumes : ∀ index rest, (recognise index rest).1 <+: rest) :
    slice content candidate.start (candidate.start + byteLength candidate.text) =
      some candidate.text := by
  obtain ⟨after, suffix⟩ := consumes candidate.start rest
  refine slice_eq_some_iff.mpr ⟨front, after, ?_, located.offset, rfl⟩
  rw [located.text, List.cons_append, suffix]
  exact located.place

end

/-- Each candidate of the three scanners is a slice of the content. -/
def CandidatesInBounds (context : TextContext) (content : List Char) : Prop :=
  (∀ candidate ∈ mentionCandidates content,
    slice content candidate.start (candidate.start + byteLength candidate.text) =
      some candidate.text) ∧
  (∀ candidate ∈ remoteMentionCandidates content,
    slice content candidate.start (candidate.start + byteLength candidate.text) =
      some candidate.text) ∧
  ∀ candidate ∈ hashtagCandidates context content,
    slice content candidate.start (candidate.start + byteLength candidate.text) =
      some candidate.text

theorem recogniseRemoteMention_prefix (index : Nat) (rest : List Char) :
    (recogniseRemoteMention index rest).1 <+: rest := by
  have parts : rest.takeWhile validMentionNameCharacter ++
      rest.dropWhile validMentionNameCharacter = rest := List.takeWhile_append_dropWhile
  unfold recogniseRemoteMention
  dsimp only
  split
  · next after separator =>
    refine ⟨after.dropWhile validDomainCharacter, ?_⟩
    rw [List.append_assoc, List.cons_append, List.takeWhile_append_dropWhile, ← separator, parts]
  · exact List.takeWhile_prefix _

theorem candidates_inBounds (context : TextContext) (content : List Char) :
    CandidatesInBounds context content := by
  refine ⟨?_, ?_, ?_⟩
  · intro candidate member
    obtain ⟨_, _, located⟩ := candidate_located member
    exact located.slice fun _ _ => List.takeWhile_prefix _
  · intro candidate member
    obtain ⟨_, _, located⟩ := candidate_located member
    exact located.slice recogniseRemoteMention_prefix
  · intro candidate member
    obtain ⟨_, _, located⟩ := candidate_located member
    exact located.slice fun _ _ => List.takeWhile_prefix _

/-!
## Mentions
-/

structure IsMentionName (name : List Char) : Prop where
  atLeast : 2 ≤ byteLength name
  atMost : byteLength name ≤ 30
  characters : ∀ character ∈ name, validMentionNameCharacter character = true

/-- A domain of a handle has a dot, which is neither first nor last. -/
structure IsMentionDomain (domain : List Char) : Prop where
  dotted : '.' ∈ domain
  first : domain.head? ≠ some '.'
  last : domain.getLast? ≠ some '.'
  characters : ∀ character ∈ domain, validDomainCharacter character = true

theorem validMentionPrefix_of_name {text : List Char} {marker : Char} (named : text ≠ [])
    (valid : ∀ character ∈ text, validMentionNameCharacter character = true) :
    validMentionPrefix (marker :: text).getLast? = false := by
  obtain ⟨front, last, rfl⟩ := (List.eq_nil_or_concat text).resolve_left named
  have here := valid last (by simp)
  have found : (marker :: (front ++ [last])).getLast? = some last := by
    rw [← List.cons_append, List.getLast?_concat]
  rw [List.concat_eq_append, found]
  simp only [validMentionNameCharacter] at here
  simp only [validMentionPrefix, Option.all_some, here, Bool.true_or, Bool.not_true]

/-- The text after a name neither continues it nor turns it into a handle. -/
def EndsName (rest : List Char) : Prop :=
  ∀ character ∈ rest.head?, validMentionNameCharacter character = false ∧ character ≠ '@'

def EndsDomain (rest : List Char) : Prop :=
  ∀ character ∈ rest.head?, validDomainCharacter character = false

private theorem head?_dropWhile {test : Char → Bool} {text : List Char} {character : Char}
    (first : (text.dropWhile test).head? = some character) : test character = false := by
  have failed := List.head?_dropWhile_not test text
  rw [first] at failed
  simpa using failed

private theorem takeWhile_of_ends {test : Char → Bool} {text rest : List Char}
    (all : ∀ character ∈ text, test character = true)
    (ends : ∀ character ∈ rest.head?, test character = false) :
    (text ++ rest).takeWhile test = text ∧ (text ++ rest).dropWhile test = rest := by
  rw [List.takeWhile_append_of_pos all, List.dropWhile_append_of_pos all]
  cases rest with
  | nil => simp
  | cons first rest =>
      have stops := ends first rfl
      rw [List.takeWhile_cons_of_neg (by simp [stops]), List.dropWhile_cons_of_neg (by simp [stops])]
      simp

theorem recogniseMention_eq_some_iff {start : Nat} {rest : List Char} {found : MentionMatch} :
    (recogniseMention start rest).2 = some found ↔
      found.start = start ∧ start + byteLength ('@' :: found.username) = found.stop ∧
        IsMentionName found.username ∧
        ∃ after, rest = found.username ++ after ∧ EndsName after := by
  unfold recogniseMention
  dsimp only
  constructor
  · intro recognised
    split at recognised
    · next accepted =>
      simp only [Bool.and_eq_true, bne_iff_ne, ne_eq, decide_eq_true_eq] at accepted
      cases recognised
      refine ⟨rfl, ?_, ⟨accepted.1.1, accepted.1.2, fun _ inside => List.mem_takeWhile_imp inside⟩,
        rest.dropWhile validMentionNameCharacter, List.takeWhile_append_dropWhile.symm, ?_⟩
      · simp only [byteLength_cons]
        omega
      · intro character first
        refine ⟨head?_dropWhile first, ?_⟩
        rintro rfl
        exact accepted.2 first
    · cases recognised
  · rintro ⟨rfl, stop, name, after, rfl, ends⟩
    obtain ⟨taken, dropped⟩ := takeWhile_of_ends name.characters
      fun character first => (ends character first).1
    have notHandle : after.head? ≠ some '@' := fun first => (ends '@' first).2 rfl
    have accepted : (decide (2 ≤ byteLength found.username) &&
        decide (byteLength found.username ≤ 30) && after.head? != some '@') = true := by
      simp [name.atLeast, name.atMost, notHandle]
    rw [taken, dropped, accepted, if_pos rfl, Nat.add_assoc, ← byteLength_cons, stop]

theorem recogniseRemoteMention_eq_some_iff {start : Nat} {rest : List Char}
    {found : RemoteMentionMatch} :
    (recogniseRemoteMention start rest).2 = some found ↔
      found.start = start ∧ start + byteLength ('@' :: found.handle) = found.stop ∧
        IsMentionName found.username ∧ IsMentionDomain found.domain ∧
        ∃ after, rest = found.handle ++ after ∧ EndsDomain after := by
  have single : '@'.utf8Size = 1 := by decide
  constructor
  · intro recognised
    have parts : rest.takeWhile validMentionNameCharacter ++
        rest.dropWhile validMentionNameCharacter = rest := List.takeWhile_append_dropWhile
    unfold recogniseRemoteMention at recognised
    dsimp only at recognised
    split at recognised
    · next after separator =>
      dsimp only at recognised
      split at recognised
      · next accepted =>
        simp only [Bool.and_eq_true, decide_eq_true_eq, bne_iff_ne, ne_eq,
          List.contains_iff_mem] at accepted
        cases recognised
        obtain ⟨⟨⟨⟨atLeast, atMost⟩, dotted⟩, first⟩, last⟩ := accepted
        refine ⟨rfl, ?_, ⟨atLeast, atMost, fun _ inside => List.mem_takeWhile_imp inside⟩,
          ⟨dotted, first, last, fun _ inside => List.mem_takeWhile_imp inside⟩,
          after.dropWhile validDomainCharacter, ?_, fun _ next => head?_dropWhile next⟩
        · simp only [RemoteMentionMatch.handle, byteLength_cons, byteLength_append]
          omega
        · rw [RemoteMentionMatch.handle, List.append_assoc, List.cons_append,
            List.takeWhile_append_dropWhile, ← separator, parts]
      · cases recognised
    · cases recognised
  · rintro ⟨rfl, stop, name, domain, after, rfl, ends⟩
    have split : found.handle ++ after = found.username ++ '@' :: (found.domain ++ after) := by
      simp [RemoteMentionMatch.handle]
    have marker : ∀ character ∈ ('@' :: (found.domain ++ after)).head?,
        validMentionNameCharacter character = false := by
      intro character first
      cases first
      decide
    obtain ⟨taken, dropped⟩ := takeWhile_of_ends name.characters marker
    have host := (takeWhile_of_ends domain.characters ends).1
    unfold recogniseRemoteMention
    rw [split, taken, dropped]
    simp only [host]
    have accepted : (decide (2 ≤ byteLength found.username) &&
        decide (byteLength found.username ≤ 30) && found.domain.contains '.' &&
        found.domain.head? != some '.' && found.domain.getLast? != some '.') = true := by
      simp [name.atLeast, name.atMost, domain.dotted, domain.first, domain.last]
    have size : found.start + '@'.utf8Size + byteLength found.username + 1 +
        byteLength found.domain = found.stop := by
      rw [← stop]
      simp only [RemoteMentionMatch.handle, byteLength_cons, byteLength_append]
      omega
    rw [accepted, if_pos rfl, size]

structure MentionMatch.Placed (content : List Char) (found : MentionMatch)
    (front rest : List Char) : Prop where
  place : content = front ++ '@' :: (found.username ++ rest)
  start : byteLength front = found.start
  stop : found.start + byteLength ('@' :: found.username) = found.stop
  admissible : validMentionPrefix front.getLast? = true
  name : ∀ character ∈ found.username, validMentionNameCharacter character = true
  ends : ∀ character, rest.head? = some character →
    validMentionNameCharacter character = false ∧ character ≠ '@'

theorem localMentionMatches_placed {content : List Char} {found : MentionMatch}
    (member : found ∈ localMentionMatches content) :
    ∃ front rest, found.Placed content front rest := by
  obtain ⟨candidate, scanned, isFound⟩ := List.mem_filterMap.mp member
  obtain ⟨front, rest, located⟩ := candidate_located scanned
  obtain ⟨start, stop, name, after, rfl, ends⟩ :=
    recogniseMention_eq_some_iff.mp (located.found.symm.trans isFound)
  rw [← start] at stop
  exact ⟨front, after, located.place, located.offset.trans start.symm, stop, located.admissible,
    name.characters, ends⟩

theorem localMentionMatches_unique {content : List Char} {first second : MentionMatch}
    (left : first ∈ localMentionMatches content) (right : second ∈ localMentionMatches content)
    (same : first.start = second.start) : first = second :=
  found_unique (fun _ _ _ recognised => (recogniseMention_eq_some_iff.mp recognised).1) left right
    same

structure RemoteMentionMatch.Placed (content : List Char) (found : RemoteMentionMatch)
    (front rest : List Char) : Prop where
  place : content = front ++ '@' :: (found.handle ++ rest)
  start : byteLength front = found.start
  stop : found.start + byteLength ('@' :: found.handle) = found.stop
  admissible : validMentionPrefix front.getLast? = true
  name : ∀ character ∈ found.username, validMentionNameCharacter character = true
  named : found.username ≠ []
  host : ∀ character ∈ found.domain, validDomainCharacter character = true

theorem remoteMentionMatches_placed {content : List Char} {found : RemoteMentionMatch}
    (member : found ∈ remoteMentionMatches content) :
    ∃ front rest, found.Placed content front rest := by
  obtain ⟨candidate, scanned, isFound⟩ := List.mem_filterMap.mp member
  obtain ⟨front, rest, located⟩ := candidate_located scanned
  obtain ⟨start, stop, name, domain, after, rfl, _⟩ :=
    recogniseRemoteMention_eq_some_iff.mp (located.found.symm.trans isFound)
  have named : found.username ≠ [] := by
    intro none
    have atLeast := name.atLeast
    rw [none] at atLeast
    exact absurd atLeast (by decide)
  rw [← start] at stop
  exact ⟨front, after, located.place, located.offset.trans start.symm, stop, located.admissible,
    name.characters, named, domain.characters⟩

theorem remoteMentionMatches_unique {content : List Char} {first second : RemoteMentionMatch}
    (left : first ∈ remoteMentionMatches content) (right : second ∈ remoteMentionMatches content)
    (same : first.start = second.start) : first = second :=
  found_unique (fun _ _ _ recognised => (recogniseRemoteMention_eq_some_iff.mp recognised).1) left
    right same

/-!
## Hashtags and URLs
-/

structure HashtagMatch.Placed (context : TextContext) (content : List Char) (found : HashtagMatch)
    (front name rest : List Char) : Prop where
  place : content = front ++ '#' :: (name ++ rest)
  start : byteLength front = found.start
  stop : found.start + byteLength ('#' :: name) = found.stop
  admissible : validHashtagPrefix context front.getLast? = true
  characters : ∀ character ∈ name, validHashtagCharacter context character = true
  normalized : found.name = context.toLowercase name

theorem localHashtagMatches_placed {context : TextContext} {content : List Char}
    {found : HashtagMatch} (member : found ∈ localHashtagMatches context content) :
    ∃ front name rest, found.Placed context content front name rest := by
  obtain ⟨candidate, scanned, isFound⟩ := List.mem_filterMap.mp member
  obtain ⟨front, rest, located⟩ := candidate_located scanned
  have recognised := located.found.symm.trans isFound
  unfold recogniseHashtag at recognised
  dsimp only at recognised
  split at recognised
  · cases recognised
    refine ⟨front, rest.takeWhile (validHashtagCharacter context),
      rest.dropWhile (validHashtagCharacter context), ?_, located.offset, ?_, located.admissible, ?_,
      rfl⟩
    · rw [List.takeWhile_append_dropWhile]
      exact located.place
    · simp only [byteLength_cons]
      omega
    · intro character inside
      exact List.mem_takeWhile_imp inside
  · cases recognised

theorem localHashtagMatches_unique {context : TextContext} {content : List Char}
    {first second : HashtagMatch} (left : first ∈ localHashtagMatches context content)
    (right : second ∈ localHashtagMatches context content) (same : first.start = second.start) :
    first = second := by
  refine found_unique ?_ left right same
  intro index rest found recognised
  unfold recogniseHashtag at recognised
  dsimp only at recognised
  split at recognised
  · cases recognised
    rfl
  · cases recognised

theorem urlMatches_slice {context : TextContext} (inBounds : context.LinksInBounds)
    {content : List Char} {found : UrlMatch} (member : found ∈ urlMatches context content) :
    slice content found.start found.stop = some found.url := by
  obtain ⟨⟨start, stop⟩, span, accepted⟩ := List.mem_filterMap.mp member
  obtain ⟨text, there⟩ := inBounds content _ span
  dsimp only at accepted there
  split at accepted
  · cases accepted
    simp [there]
  · cases accepted

end Roosty.Content
