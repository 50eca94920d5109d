import Roosty.Content.LinksProperties

/-!
# Which mentions are found

The scanners find a mention at each marker that stands after an admissible character: the
markers that a candidate consumes are not admissible. What is extracted is therefore told
from the text around a name.
-/

set_option autoImplicit false

namespace Roosty.Content

open Library.Offsets

/-!
## Scanners
-/

section

variable {Found : Type} {marker : Char} {validPrefix : Option Char → Bool}
  {recognise : Nat → List Char → List Char × Option Found}

/-- A marker that a candidate consumes is not one where a candidate may start. -/
def SkipsNone (marker : Char) (validPrefix : Option Char → Bool)
    (recognise : Nat → List Char → List Char × Option Found) : Prop :=
  ∀ index rest gap more, (recognise index rest).1 = gap ++ marker :: more →
    validPrefix (marker :: gap).getLast? = false

private theorem getLast?_cons_or (first : Char) (text : List Char) (previous : Option Char) :
    (first :: text).getLast?.or previous = text.getLast?.or (some first) := by
  cases text with
  | nil => rfl
  | cons second text =>
      rw [List.getLast?_cons_cons]
      cases last : (second :: text).getLast? with
      | none => simp at last
      | some last => rfl

private theorem marker_inside {front back gap more : List Char}
    (whole : front ++ back = gap ++ marker :: more) (shorter : gap.length < front.length) :
    ∃ between, front = gap ++ marker :: between := by
  rcases List.append_eq_append_iff.mp whole with ⟨between, extended, _⟩ | ⟨between, extended, tail⟩
  · have longer := congrArg List.length extended
    rw [List.length_append] at longer
    omega
  · cases between with
    | nil =>
        rw [extended, List.append_nil] at shorter
        exact absurd shorter (Nat.lt_irrefl _)
    | cons first between =>
        obtain ⟨rfl, _⟩ := List.cons.inj tail
        exact ⟨between, extended⟩

private theorem scan_finds (skips : SkipsNone marker validPrefix recognise)
    (consumes : ∀ index rest, (recognise index rest).1 <+: rest) {front rest : List Char}
    {skip index : Nat} {previous : Option Char}
    (admissible : validPrefix (front.getLast?.or previous) = true)
    (skipped : ∀ gap more, front ++ marker :: rest = gap ++ marker :: more → gap.length < skip →
      validPrefix (gap.getLast?.or previous) = false) :
    ∃ candidate ∈ scan marker validPrefix recognise skip previous index (front ++ marker :: rest),
      candidate.start = index + byteLength front ∧
        candidate.found = (recognise (index + byteLength front) rest).2 := by
  induction front generalizing skip index previous with
  | nil =>
      cases skip with
      | succ skip =>
          have refused := skipped [] rest rfl (Nat.succ_pos skip)
          rw [admissible] at refused
          cases refused
      | zero =>
          have starts : (marker != marker || !validPrefix previous) = false := by
            simpa using admissible
          refine ⟨⟨index, marker :: (recognise index rest).1, (recognise index rest).2⟩, ?_, rfl, rfl⟩
          rw [List.nil_append, scan, starts]
          exact List.mem_cons_self
  | cons character front ih =>
      rw [getLast?_cons_or] at admissible
      have size : index + byteLength (character :: front) =
          index + character.utf8Size + byteLength front := by
        rw [byteLength_cons, Nat.add_assoc]
      rw [size, List.cons_append]
      cases skip with
      | succ skip =>
          refine ih admissible fun gap more split shorter => ?_
          rw [← getLast?_cons_or character gap previous]
          exact skipped (character :: gap) more (by rw [List.cons_append, split]; rfl)
            (Nat.succ_lt_succ shorter)
      | zero =>
          unfold scan
          split
          · exact ih admissible fun gap more split shorter => absurd shorter (Nat.not_lt_zero _)
          · next starts =>
            simp only [Bool.or_eq_true, bne_iff_ne, not_or, ne_eq, not_not] at starts
            obtain ⟨rfl, _⟩ := starts
            have later := @ih (recognise index (front ++ character :: rest)).1.length
              (index + character.utf8Size) (some character) admissible ?_
            · obtain ⟨candidate, member, found⟩ := later
              exact ⟨candidate, List.mem_cons_of_mem _ member, found⟩
            intro gap more split shorter
            obtain ⟨after, whole⟩ := consumes index (front ++ character :: rest)
            obtain ⟨between, consumed⟩ := marker_inside (whole.trans split) shorter
            have refused := skips index _ gap between consumed
            rw [← Option.or_none (o := (character :: gap).getLast?), getLast?_cons_or] at refused
            exact refused

theorem candidate_of_marker (skips : SkipsNone marker validPrefix recognise)
    (consumes : ∀ index rest, (recognise index rest).1 <+: rest) {front rest : List Char}
    (admissible : validPrefix front.getLast? = true) :
    ∃ candidate ∈ scan marker validPrefix recognise 0 none 0 (front ++ marker :: rest),
      candidate.start = byteLength front ∧
        candidate.found = (recognise (byteLength front) rest).2 := by
  have found := @scan_finds _ marker validPrefix recognise skips consumes front rest 0 0 none
    (by rwa [Option.or_none]) fun gap more _ shorter => absurd shorter (Nat.not_lt_zero _)
  rwa [Nat.zero_add] at found

end

/-!
## Mentions
-/

private theorem marker_invalid : validMentionNameCharacter '@' = false := by decide

private theorem recogniseMention_skips : SkipsNone '@' validMentionPrefix recogniseMention := by
  intro index rest gap more consumed
  have inside : '@' ∈ rest.takeWhile validMentionNameCharacter := by
    have member : '@' ∈ gap ++ '@' :: more := List.mem_append_right _ List.mem_cons_self
    rwa [← consumed] at member
  have valid := List.mem_takeWhile_imp inside
  rw [marker_invalid] at valid
  cases valid

private theorem recogniseRemoteMention_skips :
    SkipsNone '@' validMentionPrefix recogniseRemoteMention := by
  intro index rest gap more consumed
  have named : ∀ character ∈ rest.takeWhile validMentionNameCharacter,
      validMentionNameCharacter character = true := fun _ inside => List.mem_takeWhile_imp inside
  have absent : ∀ text : List Char, (∀ character ∈ text,
      validMentionNameCharacter character = true ∨ validDomainCharacter character = true) →
      '@' ∉ text := by
    intro text valid inside
    rcases valid '@' inside with valid | valid
    · exact absurd valid (by decide)
    · exact absurd valid (by decide)
  have isName : gap = rest.takeWhile validMentionNameCharacter := by
    unfold recogniseRemoteMention at consumed
    dsimp only at consumed
    split at consumed
    · next after _ =>
      dsimp only at consumed
      have noMarker := absent _ fun character inside => .inl (named character inside)
      have noMarkerLater := absent (after.takeWhile validDomainCharacter)
        fun character inside => .inr (List.mem_takeWhile_imp inside)
      rcases List.append_eq_append_iff.mp consumed with ⟨between, extended, tail⟩ |
        ⟨between, extended, tail⟩
      · cases between with
        | nil => rw [extended, List.append_nil]
        | cons first between =>
            have domain := (List.cons.inj tail).2
            exact absurd (domain ▸ List.mem_append_right _ List.mem_cons_self) noMarkerLater
      · cases between with
        | nil => rw [extended, List.append_nil]
        | cons first between =>
            obtain ⟨rfl, _⟩ := List.cons.inj tail
            exact absurd (extended ▸ List.mem_append_right _ List.mem_cons_self) noMarker
    · have inside : '@' ∈ rest.takeWhile validMentionNameCharacter := by
        have member : '@' ∈ gap ++ '@' :: more := List.mem_append_right _ List.mem_cons_self
        rwa [← consumed] at member
      exact absurd inside (absent _ fun character inside => .inl (named character inside))
  by_cases empty : gap = []
  · rw [empty]
    decide
  · exact validMentionPrefix_of_name empty (isName ▸ named)

/-- A marker where a mention may start, with a text after it that no URL overlaps. -/
structure MentionAt (context : TextContext) (content body front rest : List Char) : Prop where
  place : content = front ++ '@' :: (body ++ rest)
  admissible : validMentionPrefix front.getLast? = true
  outside : overlapsUrl (byteLength front) (byteLength front + byteLength ('@' :: body))
    (urlMatches context content) = false

section

variable {context : TextContext} {content : List Char}

theorem mem_mentionUsernames_iff {username : List Char} :
    username ∈ mentionUsernames context content ↔
      IsMentionName username ∧
        ∃ front rest, MentionAt context content username front rest ∧ EndsName rest := by
  unfold mentionUsernames
  constructor
  · intro member
    obtain ⟨found, kept, rfl⟩ := List.mem_map.mp member
    obtain ⟨matched, free⟩ := List.mem_filter.mp kept
    obtain ⟨candidate, scanned, isFound⟩ := List.mem_filterMap.mp matched
    obtain ⟨front, rest, located⟩ := candidate_located scanned
    obtain ⟨start, stop, name, after, rfl, ends⟩ :=
      recogniseMention_eq_some_iff.mp (located.found.symm.trans isFound)
    refine ⟨name, front, after, ⟨located.place, located.admissible, ?_⟩, ends⟩
    rw [located.offset, stop, ← start]
    simpa using free
  · rintro ⟨name, front, rest, mention, ends⟩
    obtain ⟨candidate, scanned, start, found⟩ := @candidate_of_marker _ '@' validMentionPrefix
      recogniseMention recogniseMention_skips (fun _ _ => List.takeWhile_prefix _) front
      (username ++ rest) mention.admissible
    have recognised : (recogniseMention (byteLength front) (username ++ rest)).2 =
        some ⟨byteLength front, byteLength front + byteLength ('@' :: username), username⟩ :=
      recogniseMention_eq_some_iff.mpr ⟨rfl, rfl, name, rest, rfl, ends⟩
    rw [← mention.place] at scanned
    refine List.mem_map.mpr ⟨_, List.mem_filter.mpr ⟨List.mem_filterMap.mpr
      ⟨candidate, scanned, found.trans recognised⟩, ?_⟩, rfl⟩
    simpa only [Bool.not_eq_true'] using mention.outside

theorem mem_remoteMentionHandles_iff {handle : List Char} :
    handle ∈ remoteMentionHandles context content ↔
      ∃ username domain, handle = username ++ '@' :: domain ∧ IsMentionName username ∧
        IsMentionDomain domain ∧
        ∃ front rest, MentionAt context content handle front rest ∧ EndsDomain rest := by
  unfold remoteMentionHandles
  rw [List.mem_eraseDups]
  constructor
  · intro member
    obtain ⟨found, kept, rfl⟩ := List.mem_map.mp member
    obtain ⟨matched, free⟩ := List.mem_filter.mp kept
    obtain ⟨candidate, scanned, isFound⟩ := List.mem_filterMap.mp matched
    obtain ⟨front, rest, located⟩ := candidate_located scanned
    obtain ⟨start, stop, name, domain, after, rfl, ends⟩ :=
      recogniseRemoteMention_eq_some_iff.mp (located.found.symm.trans isFound)
    refine ⟨found.username, found.domain, rfl, name, domain, front, after,
      ⟨located.place, located.admissible, ?_⟩, ends⟩
    rw [located.offset, stop, ← start]
    simpa using free
  · rintro ⟨username, domain, rfl, name, host, front, rest, mention, ends⟩
    obtain ⟨candidate, scanned, start, found⟩ := @candidate_of_marker _ '@' validMentionPrefix
      recogniseRemoteMention recogniseRemoteMention_skips recogniseRemoteMention_prefix front
      ((username ++ '@' :: domain) ++ rest) mention.admissible
    have recognised : (recogniseRemoteMention (byteLength front)
        ((username ++ '@' :: domain) ++ rest)).2 = some ⟨byteLength front,
          byteLength front + byteLength ('@' :: (username ++ '@' :: domain)), username, domain⟩ :=
      recogniseRemoteMention_eq_some_iff.mpr ⟨rfl, rfl, name, host, rest, rfl, ends⟩
    rw [← mention.place] at scanned
    refine List.mem_map.mpr ⟨_, List.mem_filter.mpr ⟨List.mem_filterMap.mpr
      ⟨candidate, scanned, found.trans recognised⟩, ?_⟩, rfl⟩
    simpa only [Bool.not_eq_true'] using mention.outside

end

end Roosty.Content
