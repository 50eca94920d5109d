import Roosty.Content.ExtractionProperties

/-!
# Spans of links

The spans that the scanners return are slices of the text with the marker and the name. A
scanner goes on behind what it has consumed, so that its spans ascend.
-/

set_option autoImplicit false

namespace Roosty.Content

open Library.Offsets

/-!
## Order of candidates
-/

section

variable {Found : Type} {marker : Char} {validPrefix : Option Char → Bool}
  {recognise : Nat → List Char → List Char × Option Found}

private theorem scan_behind {skip index : Nat} {previous : Option Char} {text : List Char}
    {candidate : Candidate Found}
    (member : candidate ∈ scan marker validPrefix recognise skip previous index text) :
    index + byteLength (text.take skip) ≤ candidate.start := by
  induction text generalizing skip index previous with
  | nil =>
      unfold scan at member
      cases member
  | cons character text ih =>
      cases skip with
      | succ skip =>
          unfold scan at member
          have behind := ih member
          rw [List.take_succ_cons, byteLength_cons]
          omega
      | zero =>
          rw [List.take_zero, byteLength_nil]
          unfold scan at member
          split at member
          · have behind := ih member
            omega
          · rcases List.mem_cons.mp member with rfl | later
            · exact Nat.le_refl _
            · have behind := ih later
              omega

theorem scan_ordered (consumes : ∀ index rest, (recognise index rest).1 <+: rest) {skip index : Nat}
    {previous : Option Char} {text : List Char} :
    (scan marker validPrefix recognise skip previous index text).Pairwise fun first second =>
      first.start + byteLength first.text ≤ second.start := by
  induction text generalizing skip index previous with
  | nil =>
      unfold scan
      exact List.Pairwise.nil
  | cons character text ih =>
      cases skip with
      | succ skip =>
          unfold scan
          exact ih
      | zero =>
          unfold scan
          split
          · exact ih
          · refine List.pairwise_cons.mpr ⟨fun second later => ?_, ih⟩
            have behind := scan_behind later
            rw [← List.prefix_iff_eq_take.mp (consumes index text)] at behind
            rw [byteLength_cons, ← Nat.add_assoc]
            exact behind

private theorem found_ordered {start stop : Found → Nat}
    (consumes : ∀ index rest, (recognise index rest).1 <+: rest)
    (spans : ∀ index rest found, (recognise index rest).2 = some found →
      start found = index ∧ stop found = index + byteLength (marker :: (recognise index rest).1))
    (content : List Char) :
    ((scan marker validPrefix recognise 0 none 0 content).filterMap Candidate.found).Pairwise
      fun first second => start first < stop first ∧ stop first ≤ start second := by
  have located : ∀ candidate ∈ scan marker validPrefix recognise 0 none 0 content,
      ∀ found, candidate.found = some found → start found = candidate.start ∧
        stop found = candidate.start + byteLength candidate.text ∧ start found < stop found := by
    intro candidate member found isFound
    obtain ⟨_, rest, located⟩ := candidate_located member
    obtain ⟨first, last⟩ := spans _ _ _ (located.found.symm.trans isFound)
    rw [← located.text] at last
    have positive := marker.utf8Size_pos
    refine ⟨first, last, ?_⟩
    rw [first, last, located.text, byteLength_cons]
    omega
  refine List.pairwise_filterMap.mpr ((scan_ordered consumes).imp_of_mem ?_)
  intro one two oneScanned twoScanned ordered first firstFound second secondFound
  obtain ⟨_, firstStop, nonempty⟩ := located one oneScanned first firstFound
  obtain ⟨secondStart, _, _⟩ := located two twoScanned second secondFound
  exact ⟨nonempty, by omega⟩

end

/-!
## Spans
-/

section

variable (context : TextContext) (content : List Char)

/-- The spans of the three scanners: slices of the text on character boundaries with the marker
and the name, in ascending order and apart from one another. -/
structure SpansWellFormed : Prop where
  mention : ∀ found ∈ localMentionMatches content,
    slice content found.start found.stop = some ('@' :: found.username)
  remoteMention : ∀ found ∈ remoteMentionMatches content,
    slice content found.start found.stop = some ('@' :: (found.username ++ '@' :: found.domain))
  hashtag : ∀ found ∈ localHashtagMatches context content, ∃ name,
    slice content found.start found.stop = some ('#' :: name) ∧
      found.name = context.toLowercase name
  mentionsAscend : (localMentionMatches content).Pairwise fun first second =>
    first.start < first.stop ∧ first.stop ≤ second.start
  remoteMentionsAscend : (remoteMentionMatches content).Pairwise fun first second =>
    first.start < first.stop ∧ first.stop ≤ second.start
  hashtagsAscend : (localHashtagMatches context content).Pairwise fun first second =>
    first.start < first.stop ∧ first.stop ≤ second.start
  mentionsApart : ∀ found ∈ localMentionMatches content, ∀ other ∈ remoteMentionMatches content,
    found.stop ≤ other.start ∨ other.stop ≤ found.start

end

section

variable {context : TextContext} {content : List Char}

private theorem mentions_ascend : (localMentionMatches content).Pairwise fun first second =>
    first.start < first.stop ∧ first.stop ≤ second.start := by
  refine found_ordered (fun _ _ => List.takeWhile_prefix _) ?_ content
  intro index rest found recognised
  unfold recogniseMention at recognised ⊢
  dsimp only at recognised ⊢
  split at recognised
  · cases recognised
    refine ⟨rfl, ?_⟩
    simp only [byteLength_cons]
    omega
  · cases recognised

private theorem remoteMentions_ascend : (remoteMentionMatches content).Pairwise fun first second =>
    first.start < first.stop ∧ first.stop ≤ second.start := by
  refine found_ordered recogniseRemoteMention_prefix ?_ content
  intro index rest found recognised
  have single : '@'.utf8Size = 1 := by decide
  unfold recogniseRemoteMention at recognised ⊢
  dsimp only at recognised ⊢
  split at recognised
  · dsimp only at recognised ⊢
    split at recognised
    · cases recognised
      refine ⟨rfl, ?_⟩
      simp only [byteLength_cons, byteLength_append]
      omega
    · cases recognised
  · cases recognised

private theorem hashtags_ascend : (localHashtagMatches context content).Pairwise
    fun first second => first.start < first.stop ∧ first.stop ≤ second.start := by
  refine found_ordered (fun _ _ => List.takeWhile_prefix _) ?_ content
  intro index rest found recognised
  unfold recogniseHashtag at recognised ⊢
  dsimp only at recognised ⊢
  split at recognised
  · cases recognised
    refine ⟨rfl, ?_⟩
    simp only [byteLength_cons]
    omega
  · cases recognised

private theorem mentions_apart {found : MentionMatch} (member : found ∈ localMentionMatches content)
    {other : RemoteMentionMatch} (there : other ∈ remoteMentionMatches content) :
    found.stop ≤ other.start ∨ other.stop ≤ found.start := by
  obtain ⟨_, _, _, marked⟩ := mention_marked member
  obtain ⟨_, _, _, remoteMarked⟩ := remoteMention_marked there
  rcases Nat.lt_trichotomy found.start other.start with before | same | after
  · exact .inl (marked.not_inside remoteMarked before)
  · exact absurd same (mention_not_remote member there)
  · exact .inr (remoteMarked.not_inside marked after)

/-- The spans of links are well formed, whatever the text. -/
theorem scanner_spans_well_formed (context : TextContext) (content : List Char) :
    SpansWellFormed context content where
  mention found member := by
    obtain ⟨front, rest, placed⟩ := localMentionMatches_placed member
    exact slice_eq_some_iff.mpr ⟨front, rest, placed.place, placed.start, placed.stop⟩
  remoteMention found member := by
    obtain ⟨front, rest, placed⟩ := remoteMentionMatches_placed member
    exact slice_eq_some_iff.mpr ⟨front, rest, placed.place, placed.start, placed.stop⟩
  hashtag found member := by
    obtain ⟨front, name, rest, placed⟩ := localHashtagMatches_placed member
    exact ⟨name, slice_eq_some_iff.mpr ⟨front, rest, placed.place, placed.start, placed.stop⟩,
      placed.normalized⟩
  mentionsAscend := mentions_ascend
  remoteMentionsAscend := remoteMentions_ascend
  hashtagsAscend := hashtags_ascend
  mentionsApart _ member _ there := mentions_apart member there

end

end Roosty.Content
