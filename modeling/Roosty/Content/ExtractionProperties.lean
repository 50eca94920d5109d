import Roosty.Content.HtmlProperties
import Roosty.Library.Intervals

/-!
# Rendered links and extracted names

Mentions and hashtags never overlap one another, so that only URLs decide what is skipped.
A mention or hashtag that begins before a URL and runs into it takes the place of the URL,
although the extraction leaves it out.
-/

set_option autoImplicit false

namespace Roosty.Content

open Library Library.Offsets Library.Intervals

/-- What the crates document: links are spans in order that start with a scheme, and
`is_alphanumeric` extends ASCII. -/
structure TextContext.Documented (context : TextContext) : Prop where
  inBounds : context.LinksInBounds
  ordered : ∀ content, (context.links content).Pairwise fun first second => first.2 ≤ second.1
  scheme : ∀ content, ∀ span ∈ context.links content, ∀ text,
    slice content span.1 span.2 = some text →
      ∃ first rest, text = first :: rest ∧ first.isAlpha = true
  ascii : ∀ character : Char, character.toNat < 128 →
    context.isAlphanumeric character = character.isAlphanum

def TextLinkMatch.isName : TextLinkMatch → Bool
  | .url _ => false
  | _ => true

/-- The targets that the extracted names of the content resolve to. -/
def resolvedTargets (context : TextContext) (accounts : List LocalAccount)
    (resolve : List Char → Option RemoteActor) (content : List Char) : LinkTargets :=
  ⟨localTextMentions context accounts content, resolveRemoteMentions context resolve content,
    localStatusContentTagLinks context content⟩

namespace Piece

def username? : Piece → Option (List Char)
  | .mention _ username => some username
  | _ => none

def handle? : Piece → Option (List Char)
  | .remoteMention _ handle => some handle
  | _ => none

def hashtag? : Piece → Option (List Char)
  | .hashtag _ name => some name
  | _ => none

def url? : Piece → Option (List Char)
  | .link url => some url
  | _ => none

end Piece

/-- The links among the pieces are what is extracted and resolves, and every URL. -/
structure RendersExtracted (context : TextContext) (accounts : List LocalAccount)
    (resolve : List Char → Option RemoteActor) (content : List Char) (pieces : List Piece) :
    Prop where
  usernames : ∀ username, username ∈ pieces.filterMap Piece.username? ↔
    username ∈ mentionUsernames context content ∧
      (findLocalAccountByUsername accounts username).isSome = true
  handles : ∀ handle, handle ∈ pieces.filterMap Piece.handle? ↔
    handle ∈ remoteMentionHandles context content ∧ (resolve handle).isSome = true
  hashtags : ∀ name, name ∈ pieces.filterMap Piece.hashtag? ↔ name ∈ hashtagNames context content
  urls : pieces.filterMap Piece.url? = (urlMatches context content).map UrlMatch.url

/-- A mention or hashtag begins outside every URL and runs into one. -/
def RunsIntoUrl (context : TextContext) (content : List Char) : Prop :=
  ∃ link ∈ allLinkMatches context content, link.isName = true ∧
    (∀ url ∈ urlMatches context content, ¬(url.start ≤ link.start ∧ link.start < url.stop)) ∧
    ∃ url ∈ urlMatches context content, link.start < url.start ∧ url.start < link.stop

/-- The extracted handles that resolve are those under which a resolved actor is cached. -/
def HandlesSpelledAlike (context : TextContext) (resolve : List Char → Option RemoteActor)
    (content : List Char) : Prop :=
  ∀ handle ∈ remoteMentionHandles context content, (resolve handle).isSome = true ↔
    ∃ actor ∈ resolveRemoteMentions context resolve content, actor.handle = handle

/-!
## Links other than URLs
-/

/-- A mention or hashtag at its marker. A marker inside it does not start another. -/
structure Marked (content : List Char) (link : TextLinkMatch) (front : List Char) (marker : Char)
    (body rest : List Char) : Prop where
  place : content = front ++ (marker :: body ++ rest)
  start : byteLength front = link.start
  stop : link.start + byteLength (marker :: body) = link.stop
  isMarker : marker = '@' ∨ marker = '#'
  admissible : marker = '@' → validMentionPrefix front.getLast? = true
  inner : ∀ gap character more, body = gap ++ character :: more →
    character = '@' ∨ character = '#' →
      character = '@' ∧ validMentionPrefix (marker :: gap).getLast? = false

section

variable {context : TextContext} {content : List Char}

theorem mention_marked {found : MentionMatch} (member : found ∈ localMentionMatches content) :
    ∃ front body rest, Marked content (.mention found) front '@' body rest := by
  obtain ⟨front, rest, placed⟩ := localMentionMatches_placed member
  refine ⟨front, found.username, rest, by simpa using placed.place, placed.start, placed.stop,
    .inl rfl, fun _ => placed.admissible, ?_⟩
  intro gap character more split isMarker
  have valid := placed.name character (split ▸ List.mem_append_right _ List.mem_cons_self)
  rcases isMarker with rfl | rfl
  · exact absurd valid (by decide)
  · exact absurd valid (by decide)

theorem remoteMention_marked {found : RemoteMentionMatch}
    (member : found ∈ remoteMentionMatches content) :
    ∃ front body rest, Marked content (.remoteMention found) front '@' body rest := by
  obtain ⟨front, rest, placed⟩ := remoteMentionMatches_placed member
  refine ⟨front, found.handle, rest, by simpa using placed.place, placed.start, placed.stop,
    .inl rfl, fun _ => placed.admissible, ?_⟩
  intro gap character more split isMarker
  have notName : character ∉ found.username := by
    intro inside
    have valid := placed.name character inside
    rcases isMarker with rfl | rfl
    · exact absurd valid (by decide)
    · exact absurd valid (by decide)
  have notHost : character ∉ found.domain := by
    intro inside
    have valid := placed.host character inside
    rcases isMarker with rfl | rfl
    · exact absurd valid (by decide)
    · exact absurd valid (by decide)
  -- the only marker inside is the one before the domain
  unfold RemoteMentionMatch.handle at split
  rcases List.append_eq_append_iff.mp split with ⟨between, whole, later⟩ | ⟨between, whole, later⟩
  · cases between with
    | nil =>
        obtain ⟨rfl, _⟩ := List.cons.inj later
        refine ⟨rfl, ?_⟩
        rw [whole, List.append_nil]
        exact validMentionPrefix_of_name placed.named placed.name
    | cons first between =>
        obtain ⟨_, domain⟩ := List.cons.inj later
        exact absurd (domain ▸ List.mem_append_right _ List.mem_cons_self) notHost
  · cases between with
    | nil =>
        obtain ⟨rfl, _⟩ := List.cons.inj later
        refine ⟨rfl, ?_⟩
        rw [List.append_nil] at whole
        rw [← whole]
        exact validMentionPrefix_of_name placed.named placed.name
    | cons first between =>
        obtain ⟨rfl, _⟩ := List.cons.inj later
        exact absurd (whole ▸ List.mem_append_right _ List.mem_cons_self) notName

private theorem hashtag_marked (documented : context.Documented) {found : HashtagMatch}
    (member : found ∈ localHashtagMatches context content) :
    ∃ front body rest, Marked content (.hashtag found) front '#' body rest := by
  obtain ⟨front, name, rest, placed⟩ := localHashtagMatches_placed member
  refine ⟨front, name, rest, by simpa using placed.place, placed.start, placed.stop, .inr rfl,
    fun other => absurd other (by decide), ?_⟩
  intro gap character more split isMarker
  have valid := placed.characters character (split ▸ List.mem_append_right _ List.mem_cons_self)
  unfold validHashtagCharacter at valid
  rcases isMarker with rfl | rfl
  · rw [documented.ascii '@' (by decide)] at valid
    exact absurd valid (by decide)
  · rw [documented.ascii '#' (by decide)] at valid
    exact absurd valid (by decide)

private theorem start_url (found : UrlMatch) : (TextLinkMatch.url found).start = found.start := rfl

private theorem stop_url (found : UrlMatch) : (TextLinkMatch.url found).stop = found.stop := rfl

private theorem mem_allLinkMatches {link : TextLinkMatch} :
    link ∈ allLinkMatches context content ↔
      (∃ found ∈ localMentionMatches content, .mention found = link) ∨
      (∃ found ∈ remoteMentionMatches content, .remoteMention found = link) ∨
      (∃ found ∈ localHashtagMatches context content, .hashtag found = link) ∨
      ∃ found ∈ urlMatches context content, .url found = link := by
  rw [allLinkMatches, List.mem_insertionSort]
  simp only [List.mem_append, List.mem_map, or_assoc]

private theorem name_marked (documented : context.Documented) {link : TextLinkMatch}
    (member : link ∈ allLinkMatches context content) (isName : link.isName = true) :
    ∃ front marker body rest, Marked content link front marker body rest := by
  rcases mem_allLinkMatches.mp member with ⟨found, there, rfl⟩ | ⟨found, there, rfl⟩ |
    ⟨found, there, rfl⟩ | ⟨found, there, rfl⟩
  · obtain ⟨front, body, rest, marked⟩ := mention_marked there
    exact ⟨front, '@', body, rest, marked⟩
  · obtain ⟨front, body, rest, marked⟩ := remoteMention_marked there
    exact ⟨front, '@', body, rest, marked⟩
  · obtain ⟨front, body, rest, marked⟩ := hashtag_marked documented there
    exact ⟨front, '#', body, rest, marked⟩
  · cases isName

theorem Marked.not_inside {first second : TextLinkMatch} {front body rest : List Char}
    {marker : Char} {front' body' rest' : List Char} {marker' : Char}
    (left : Marked content first front marker body rest)
    (right : Marked content second front' marker' body' rest')
    (after : first.start < second.start) : first.stop ≤ second.start := by
  by_contra inside
  have whole := left.place.symm.trans right.place
  have starts : byteLength front ≤ byteLength front' := by
    rw [left.start, right.start]
    omega
  obtain ⟨gap, rfl, texts⟩ := prefix_of_byteLength_le whole starts
  have size : byteLength gap = second.start - first.start := by
    have total := right.start
    rw [byteLength_append, left.start] at total
    omega
  have shorter : byteLength gap ≤ byteLength (marker :: body) := by
    have stop := left.stop
    omega
  obtain ⟨more, split, remaining⟩ := prefix_of_byteLength_le texts.symm shorter
  cases gap with
  | nil =>
      simp only [byteLength_nil] at size
      omega
  | cons head gap =>
      cases more with
      | nil =>
          have stop := left.stop
          rw [List.append_nil] at split
          rw [split, size] at stop
          omega
      | cons character more =>
          obtain ⟨rfl, bodies⟩ := List.cons.inj split
          rw [List.cons_append, List.cons_append] at remaining
          obtain ⟨rfl, _⟩ := List.cons.inj remaining
          obtain ⟨isAt, refused⟩ := left.inner gap marker' more bodies right.isMarker
          have admitted := right.admissible isAt
          rw [List.getLast?_append_of_ne_nil _ (List.cons_ne_nil _ _), refused] at admitted
          cases admitted

private theorem Marked.same_marker {first second : TextLinkMatch} {front body rest : List Char}
    {marker : Char} {front' body' rest' : List Char} {marker' : Char}
    (left : Marked content first front marker body rest)
    (right : Marked content second front' marker' body' rest')
    (same : first.start = second.start) : marker :: body ++ rest = marker' :: body' ++ rest' := by
  have whole := left.place.symm.trans right.place
  have size : byteLength front = byteLength front' := by rw [left.start, right.start, same]
  obtain ⟨gap, extended, texts⟩ := prefix_of_byteLength_le whole (Nat.le_of_eq size)
  have none : gap = [] := by
    refine byteLength_eq_zero ?_
    rw [extended, byteLength_append] at size
    omega
  rw [texts, none, List.nil_append]

theorem mention_not_remote {found : MentionMatch} {other : RemoteMentionMatch}
    (member : found ∈ localMentionMatches content) (there : other ∈ remoteMentionMatches content) :
    found.start ≠ other.start := by
  intro same
  obtain ⟨front, rest, placed⟩ := localMentionMatches_placed member
  obtain ⟨front', rest', placed'⟩ := remoteMentionMatches_placed there
  have whole := placed.place.symm.trans placed'.place
  have size : byteLength front = byteLength front' := by rw [placed.start, placed'.start, same]
  obtain ⟨gap, extended, texts⟩ := prefix_of_byteLength_le whole (Nat.le_of_eq size)
  have none : gap = [] := by
    refine byteLength_eq_zero ?_
    rw [extended, byteLength_append] at size
    omega
  subst none
  obtain ⟨_, names⟩ := List.cons.inj texts
  rw [RemoteMentionMatch.handle, List.append_assoc] at names
  rcases List.append_eq_append_iff.mp names with ⟨more, longer, later⟩ | ⟨more, longer, later⟩
  · cases more with
    | nil => exact (placed.ends '@' (by simp [later])).2 rfl
    | cons character more =>
        have ended := (placed.ends character (by simp [later])).1
        have valid := placed'.name character
          (longer ▸ List.mem_append_right _ List.mem_cons_self)
        rw [ended] at valid
        cases valid
  · cases more with
    | nil =>
        rw [List.nil_append] at later
        exact (placed.ends '@' (by rw [← later]; rfl)).2 rfl
    | cons character more =>
        obtain ⟨rfl, _⟩ := List.cons.inj later
        have valid := placed.name '@' (longer ▸ List.mem_append_right _ List.mem_cons_self)
        exact absurd valid (by decide)

private theorem hashtag_not_mention (documented : context.Documented) {found : HashtagMatch}
    (member : found ∈ localHashtagMatches context content) {link : TextLinkMatch}
    {front body rest : List Char} (marked : Marked content link front '@' body rest) :
    found.start ≠ link.start := by
  intro same
  obtain ⟨front', body', rest', hashtag⟩ := hashtag_marked documented member
  have texts := hashtag.same_marker marked same
  exact absurd (List.cons.inj texts).1 (by decide)

private theorem names_unique (documented : context.Documented) {first second : TextLinkMatch}
    (left : first ∈ allLinkMatches context content)
    (right : second ∈ allLinkMatches context content) (leftName : first.isName = true)
    (rightName : second.isName = true) (same : first.start = second.start) : first = second := by
  rcases mem_allLinkMatches.mp left with ⟨one, oneThere, rfl⟩ | ⟨one, oneThere, rfl⟩ |
    ⟨one, oneThere, rfl⟩ | ⟨one, oneThere, rfl⟩
  · rcases mem_allLinkMatches.mp right with ⟨two, twoThere, rfl⟩ | ⟨two, twoThere, rfl⟩ |
      ⟨two, twoThere, rfl⟩ | ⟨two, twoThere, rfl⟩
    · rw [localMentionMatches_unique oneThere twoThere same]
    · exact absurd same (mention_not_remote oneThere twoThere)
    · obtain ⟨front, body, rest, marked⟩ := mention_marked oneThere
      exact absurd same.symm (hashtag_not_mention documented twoThere marked)
    · cases rightName
  · rcases mem_allLinkMatches.mp right with ⟨two, twoThere, rfl⟩ | ⟨two, twoThere, rfl⟩ |
      ⟨two, twoThere, rfl⟩ | ⟨two, twoThere, rfl⟩
    · exact absurd same.symm (mention_not_remote twoThere oneThere)
    · rw [remoteMentionMatches_unique oneThere twoThere same]
    · obtain ⟨front, body, rest, marked⟩ := remoteMention_marked oneThere
      exact absurd same.symm (hashtag_not_mention documented twoThere marked)
    · cases rightName
  · rcases mem_allLinkMatches.mp right with ⟨two, twoThere, rfl⟩ | ⟨two, twoThere, rfl⟩ |
      ⟨two, twoThere, rfl⟩ | ⟨two, twoThere, rfl⟩
    · obtain ⟨front, body, rest, marked⟩ := mention_marked twoThere
      exact absurd same (hashtag_not_mention documented oneThere marked)
    · obtain ⟨front, body, rest, marked⟩ := remoteMention_marked twoThere
      exact absurd same (hashtag_not_mention documented oneThere marked)
    · rw [localHashtagMatches_unique oneThere twoThere same]
    · cases rightName
  · cases leftName

private theorem names_apart (documented : context.Documented) {first second : TextLinkMatch}
    (left : first ∈ allLinkMatches context content)
    (right : second ∈ allLinkMatches context content) (leftName : first.isName = true)
    (rightName : second.isName = true) (other : first ≠ second) :
    Apart TextLinkMatch.start TextLinkMatch.stop first second := by
  obtain ⟨_, _, _, _, leftMarked⟩ := name_marked documented left leftName
  obtain ⟨_, _, _, _, rightMarked⟩ := name_marked documented right rightName
  rcases Nat.lt_trichotomy first.start second.start with before | same | after
  · exact .inl (leftMarked.not_inside rightMarked before)
  · exact absurd (names_unique documented left right leftName rightName same) other
  · exact .inr (rightMarked.not_inside leftMarked after)

/-!
## URLs
-/

private theorem urlMatches_span {found : UrlMatch} (member : found ∈ urlMatches context content) :
    (found.start, found.stop) ∈ context.links content := by
  obtain ⟨⟨start, stop⟩, span, accepted⟩ := List.mem_filterMap.mp member
  dsimp only at accepted
  split at accepted
  · cases accepted
    exact span
  · cases accepted

private theorem url_starts (documented : context.Documented) {found : UrlMatch}
    (member : found ∈ urlMatches context content) :
    ∃ first rest, found.url = first :: rest ∧ first.isAlpha = true :=
  documented.scheme content _ (urlMatches_span member) _
    (urlMatches_slice documented.inBounds member)

private theorem urls_ordered (documented : context.Documented) (content : List Char) :
    (urlMatches context content).Pairwise fun first second => first.stop ≤ second.start := by
  refine (documented.ordered content).filterMap _ ?_
  rintro ⟨start, stop⟩ ⟨start', stop'⟩ ordered first firstFound second secondFound
  dsimp only at firstFound secondFound ordered
  split at firstFound
  · split at secondFound
    · cases firstFound
      cases secondFound
      exact ordered
    · cases secondFound
  · cases firstFound

private theorem link_nonempty (documented : context.Documented) {link : TextLinkMatch}
    (member : link ∈ allLinkMatches context content) : link.start < link.stop := by
  cases isName : link.isName with
  | true =>
      obtain ⟨_, marker, _, _, marked⟩ := name_marked documented member isName
      have stop := marked.stop
      have positive := marker.utf8Size_pos
      simp only [byteLength_cons] at stop
      omega
  | false =>
      rcases mem_allLinkMatches.mp member with ⟨_, _, rfl⟩ | ⟨_, _, rfl⟩ | ⟨_, _, rfl⟩ |
        ⟨found, there, rfl⟩
      · cases isName
      · cases isName
      · cases isName
      · obtain ⟨first, rest, text, _⟩ := url_starts documented there
        obtain ⟨_, _, _, _, stop⟩ := slice_eq_some_iff.mp
          (urlMatches_slice documented.inBounds there)
        have positive := first.utf8Size_pos
        rw [text, byteLength_cons] at stop
        simp only [TextLinkMatch.start, TextLinkMatch.stop]
        omega

private theorem urls_apart (documented : context.Documented) {first second : UrlMatch}
    (left : first ∈ urlMatches context content) (right : second ∈ urlMatches context content)
    (other : first ≠ second) : first.stop ≤ second.start ∨ second.stop ≤ first.start := by
  have symmetric : Std.Symm fun first second : UrlMatch =>
      first.stop ≤ second.start ∨ second.stop ≤ first.start := ⟨fun _ _ => Or.symm⟩
  have apart := (urls_ordered documented content).imp
    (fun ordered => Or.inl ordered : ∀ {first second : UrlMatch}, first.stop ≤ second.start →
      first.stop ≤ second.start ∨ second.stop ≤ first.start)
  exact apart.forall left right other

private theorem url_not_name (documented : context.Documented) {found : UrlMatch}
    (member : found ∈ urlMatches context content) {link : TextLinkMatch}
    (there : link ∈ allLinkMatches context content) (isName : link.isName = true) :
    link.start ≠ found.start := by
  intro same
  obtain ⟨front, marker, body, rest, marked⟩ := name_marked documented there isName
  obtain ⟨first, tail, text, letter⟩ := url_starts documented member
  obtain ⟨before, after, place, start, _⟩ := slice_eq_some_iff.mp
    (urlMatches_slice documented.inBounds member)
  have whole := marked.place.symm.trans place
  have size : byteLength front = byteLength before := by rw [marked.start, start, same]
  obtain ⟨gap, extended, texts⟩ := prefix_of_byteLength_le whole (Nat.le_of_eq size)
  have none : gap = [] := by
    refine byteLength_eq_zero ?_
    rw [extended, byteLength_append] at size
    omega
  rw [none, text] at texts
  obtain ⟨rfl, _⟩ := List.cons.inj texts
  rcases marked.isMarker with rfl | rfl
  · exact absurd letter (by decide)
  · exact absurd letter (by decide)

/-!
## What is rendered
-/

private def chosen (context : TextContext) (content : List Char) : List TextLinkMatch :=
  select TextLinkMatch.start TextLinkMatch.stop (allLinkMatches context content) 0

private theorem allLinkMatches_sorted (context : TextContext) (content : List Char) :
    (allLinkMatches context content).Pairwise fun first second => first.start ≤ second.start := by
  have total : Std.Total fun left right : TextLinkMatch => left.before right = true := by
    refine ⟨fun left right => ?_⟩
    simp only [TextLinkMatch.before, Bool.or_eq_true, Bool.and_eq_true, decide_eq_true_eq,
      beq_iff_eq]
    omega
  have trans : IsTrans TextLinkMatch fun left right => left.before right = true := by
    refine ⟨fun first second third => ?_⟩
    simp only [TextLinkMatch.before, Bool.or_eq_true, Bool.and_eq_true, decide_eq_true_eq,
      beq_iff_eq]
    omega
  refine (List.pairwise_insertionSort _ _).imp ?_
  intro first second ordered
  simp only [TextLinkMatch.before, Bool.or_eq_true, Bool.and_eq_true, decide_eq_true_eq,
    beq_iff_eq] at ordered
  omega

private theorem chosen_mem {link : TextLinkMatch} (selected : link ∈ chosen context content) :
    link ∈ allLinkMatches context content :=
  (select_sublist _ _).subset selected

private theorem chosen_apart (documented : context.Documented) {first second : TextLinkMatch}
    (left : first ∈ chosen context content) (right : second ∈ chosen context content)
    (other : first ≠ second) : first.stop ≤ second.start ∨ second.stop ≤ first.start :=
  apart_of_mem_select (fun _ member => Nat.le_of_lt (link_nonempty documented member)) left right
    other

private theorem name_chosen (documented : context.Documented) {link : TextLinkMatch}
    (member : link ∈ allLinkMatches context content) (isName : link.isName = true)
    (outside : ∀ url ∈ urlMatches context content,
      ¬(url.start ≤ link.start ∧ link.start < url.stop)) :
    link ∈ chosen context content := by
  refine mem_select_of_clear (allLinkMatches_sorted context content) member (Nat.zero_le _) ?_
  intro other selected different before
  have there := chosen_mem selected
  cases otherName : other.isName with
  | true =>
      have nonempty := link_nonempty documented member
      rcases names_apart documented there member otherName isName different with apart | apart
      · exact apart
      · omega
  | false =>
      rcases mem_allLinkMatches.mp there with ⟨_, _, rfl⟩ | ⟨_, _, rfl⟩ | ⟨_, _, rfl⟩ |
        ⟨url, isUrl, rfl⟩
      · cases otherName
      · cases otherName
      · cases otherName
      · have free := outside url isUrl
        rw [start_url] at before
        rw [stop_url]
        omega

private theorem urls_chosen_iff (documented : context.Documented) :
    (∀ url ∈ urlMatches context content, .url url ∈ chosen context content) ↔
      ¬RunsIntoUrl context content := by
  constructor
  · rintro all ⟨link, member, isName, outside, url, isUrl, before, inside⟩
    have selected := name_chosen documented member isName outside
    have different : link ≠ .url url := by
      rintro rfl
      cases isName
    have nonempty := link_nonempty documented (chosen_mem (all url isUrl))
    have apart := chosen_apart documented selected (all url isUrl) different
    rw [start_url, stop_url] at apart nonempty
    omega
  · intro free
    -- by the start of the URL: those that begin before it are chosen
    have byStart : ∀ bound, ∀ url ∈ urlMatches context content, url.start ≤ bound →
        .url url ∈ chosen context content := by
      intro bound
      induction bound using Nat.strongRecOn with
      | ind bound ih =>
          intro url isUrl within
          refine mem_select_of_clear (allLinkMatches_sorted context content)
            (mem_allLinkMatches.mpr (.inr (.inr (.inr ⟨url, isUrl, rfl⟩)))) (Nat.zero_le _) ?_
          intro other selected different before
          have there := chosen_mem selected
          rw [start_url] at before ⊢
          cases otherName : other.isName with
          | true =>
              by_contra overlapping
              have earlier := url_not_name documented isUrl there otherName
              obtain ⟨first, firstUrl, begins, ends⟩ : ∃ first ∈ urlMatches context content,
                  first.start ≤ other.start ∧ other.start < first.stop := by
                by_contra none
                refine free ⟨other, there, otherName, ?_, url, isUrl, by omega, by omega⟩
                intro first firstUrl inside
                exact none ⟨first, firstUrl, inside⟩
              have firstChosen := ih first.start (by omega) first firstUrl (Nat.le_refl _)
              have apart := chosen_apart documented firstChosen selected (by
                rintro rfl
                cases otherName)
              have nonempty := link_nonempty documented there
              rw [start_url, stop_url] at apart
              omega
          | false =>
              rcases mem_allLinkMatches.mp there with ⟨_, _, rfl⟩ | ⟨_, _, rfl⟩ | ⟨_, _, rfl⟩ |
                ⟨second, secondUrl, rfl⟩
              · cases otherName
              · cases otherName
              · cases otherName
              · have distinct : second ≠ url := by
                  rintro rfl
                  exact different rfl
                have nonempty := link_nonempty documented
                  (mem_allLinkMatches.mpr (.inr (.inr (.inr ⟨url, isUrl, rfl⟩))))
                rw [start_url, stop_url] at nonempty
                rw [start_url] at before
                rw [stop_url]
                rcases urls_apart documented secondUrl isUrl distinct with apart | apart
                · exact apart
                · omega
    intro url isUrl
    exact byStart url.start url isUrl (Nat.le_refl _)

private theorem name_chosen_iff (documented : context.Documented)
    (free : ¬RunsIntoUrl context content) {link : TextLinkMatch} (isName : link.isName = true)
    (member : link ∈ allLinkMatches context content) :
    link ∈ chosen context content ↔
      overlapsUrl link.start link.stop (urlMatches context content) = false := by
  have nonempty := link_nonempty documented member
  constructor
  · intro selected
    rw [overlapsUrl, List.any_eq_false]
    intro url isUrl overlapping
    simp only [Bool.and_eq_true, decide_eq_true_eq] at overlapping
    have urlChosen := (urls_chosen_iff documented).mpr free url isUrl
    have apart := chosen_apart documented selected urlChosen (by
      rintro rfl
      cases isName)
    rw [start_url, stop_url] at apart
    omega
  · intro clear
    rw [overlapsUrl, List.any_eq_false] at clear
    refine name_chosen documented member isName ?_
    intro url isUrl inside
    refine clear url isUrl ?_
    simp only [Bool.and_eq_true, decide_eq_true_eq]
    omega

section

variable {targets : LinkTargets} {Shown : Type} {view : Piece → Option Shown}

private theorem renderLinks_filterMap (silent : ∀ text, view (.text text) = none)
    {links : List TextLinkMatch} {last : Nat} {pieces : List Piece}
    (rendered : renderLinks context targets content links last = some pieces) :
    pieces.filterMap view = (select TextLinkMatch.start TextLinkMatch.stop links last).filterMap
      fun link => (renderLink context targets content link).bind view := by
  induction links generalizing last pieces with
  | nil =>
      obtain ⟨rest, _, made⟩ := Option.bind_eq_some_iff.mp rendered
      cases made
      simp [silent, select]
  | cons link links ih =>
      unfold renderLinks at rendered
      unfold select
      split at rendered
      · next skipped =>
        rw [if_pos skipped]
        exact ih rendered
      · next taken =>
        rw [if_neg taken]
        obtain ⟨gap, _, rendered⟩ := Option.bind_eq_some_iff.mp rendered
        obtain ⟨piece, shown, rendered⟩ := Option.bind_eq_some_iff.mp rendered
        obtain ⟨later, following, made⟩ := Option.bind_eq_some_iff.mp rendered
        cases made
        rw [List.filterMap_cons_none (silent gap), List.filterMap_cons, List.filterMap_cons, shown,
          ih following]
        rfl

end

private theorem lookup_isSome_iff {pairs : List (List Char × List Char)} {key : List Char} :
    (lookup pairs key).isSome = true ↔ key ∈ pairs.map Prod.fst := by
  simp [lookup, List.find?_isSome]

section

variable {targets : LinkTargets} {link : TextLinkMatch}

private theorem renderLink_cases {piece : Piece}
    (rendered : renderLink context targets content link = some piece) :
    (∃ text, piece = .text text) ∨
    (∃ found url, link = .mention found ∧ piece = .mention url found.username ∧
      lookup (targets.mentionUrls context) found.username = some url) ∨
    (∃ found url, link = .remoteMention found ∧ piece = .remoteMention url found.handle ∧
      lookup targets.remoteMentionUrls found.handle = some url) ∨
    (∃ found url, link = .hashtag found ∧ piece = .hashtag url found.name ∧
      lookup targets.tagUrls found.name = some url) ∨
    ∃ found, link = .url found ∧ piece = .link found.url := by
  have isText : ∀ {slice : Option (List Char)}, slice.map Piece.text = some piece →
      ∃ text, piece = .text text := by
    intro slice made
    obtain ⟨text, _, rfl⟩ := Option.map_eq_some_iff.mp made
    exact ⟨text, rfl⟩
  cases link with
  | mention found =>
      unfold renderLink at rendered
      dsimp only at rendered
      split at rendered
      · next url target =>
        cases rendered
        exact .inr (.inl ⟨found, url, rfl, rfl, target⟩)
      · exact .inl (isText rendered)
  | remoteMention found =>
      unfold renderLink at rendered
      dsimp only at rendered
      split at rendered
      · next url target =>
        cases rendered
        exact .inr (.inr (.inl ⟨found, url, rfl, rfl, target⟩))
      · exact .inl (isText rendered)
  | hashtag found =>
      unfold renderLink at rendered
      dsimp only at rendered
      split at rendered
      · next url target =>
        cases rendered
        exact .inr (.inr (.inr (.inl ⟨found, url, rfl, rfl, target⟩)))
      · exact .inl (isText rendered)
  | url found =>
      cases rendered
      exact .inr (.inr (.inr (.inr ⟨found, rfl, rfl⟩)))

private theorem renderLink_username {username : List Char} :
    (renderLink context targets content link).bind Piece.username? = some username ↔
      ∃ found, link = .mention found ∧ found.username = username ∧
        username ∈ targets.mentions.map LocalAccount.username := by
  have keys : (targets.mentionUrls context).map Prod.fst =
      targets.mentions.map LocalAccount.username := by simp [LinkTargets.mentionUrls]
  rw [← keys, ← lookup_isSome_iff]
  constructor
  · intro seen
    obtain ⟨piece, rendered, shown⟩ := Option.bind_eq_some_iff.mp seen
    rcases renderLink_cases rendered with ⟨_, rfl⟩ | ⟨found, _, rfl, rfl, target⟩ |
      ⟨_, _, _, rfl, _⟩ | ⟨_, _, _, rfl, _⟩ | ⟨_, _, rfl⟩
    · cases shown
    · cases shown
      exact ⟨found, rfl, rfl, by rw [target]; rfl⟩
    · cases shown
    · cases shown
    · cases shown
  · rintro ⟨found, rfl, rfl, target⟩
    obtain ⟨url, target⟩ := Option.isSome_iff_exists.mp target
    simp [renderLink, target, Piece.username?]

private theorem renderLink_handle {handle : List Char} :
    (renderLink context targets content link).bind Piece.handle? = some handle ↔
      ∃ found, link = .remoteMention found ∧ found.handle = handle ∧
        handle ∈ targets.remoteMentions.map RemoteActor.handle := by
  have keys : targets.remoteMentionUrls.map Prod.fst =
      targets.remoteMentions.map RemoteActor.handle := by simp [LinkTargets.remoteMentionUrls]
  rw [← keys, ← lookup_isSome_iff]
  constructor
  · intro seen
    obtain ⟨piece, rendered, shown⟩ := Option.bind_eq_some_iff.mp seen
    rcases renderLink_cases rendered with ⟨_, rfl⟩ | ⟨_, _, _, rfl, _⟩ |
      ⟨found, _, rfl, rfl, target⟩ | ⟨_, _, _, rfl, _⟩ | ⟨_, _, rfl⟩
    · cases shown
    · cases shown
    · cases shown
      exact ⟨found, rfl, rfl, by rw [target]; rfl⟩
    · cases shown
    · cases shown
  · rintro ⟨found, rfl, rfl, target⟩
    obtain ⟨url, target⟩ := Option.isSome_iff_exists.mp target
    simp [renderLink, target, Piece.handle?]

private theorem renderLink_hashtag {name : List Char} :
    (renderLink context targets content link).bind Piece.hashtag? = some name ↔
      ∃ found, link = .hashtag found ∧ found.name = name ∧
        name ∈ targets.tags.map TagResponse.name := by
  have keys : targets.tagUrls.map Prod.fst = targets.tags.map TagResponse.name := by
    simp [LinkTargets.tagUrls]
  rw [← keys, ← lookup_isSome_iff]
  constructor
  · intro seen
    obtain ⟨piece, rendered, shown⟩ := Option.bind_eq_some_iff.mp seen
    rcases renderLink_cases rendered with ⟨_, rfl⟩ | ⟨_, _, _, rfl, _⟩ | ⟨_, _, _, rfl, _⟩ |
      ⟨found, _, rfl, rfl, target⟩ | ⟨_, _, rfl⟩
    · cases shown
    · cases shown
    · cases shown
    · cases shown
      exact ⟨found, rfl, rfl, by rw [target]; rfl⟩
    · cases shown
  · rintro ⟨found, rfl, rfl, target⟩
    obtain ⟨url, target⟩ := Option.isSome_iff_exists.mp target
    simp [renderLink, target, Piece.hashtag?]

private def asUrl : TextLinkMatch → Option UrlMatch
  | .url found => some found
  | _ => none

private theorem renderLink_url :
    (renderLink context targets content link).bind Piece.url? = (asUrl link).map UrlMatch.url := by
  cases rendered : renderLink context targets content link with
  | none =>
      cases link with
      | url found => cases rendered
      | _ => rfl
  | some piece =>
      rcases renderLink_cases rendered with ⟨_, rfl⟩ | ⟨_, _, rfl, rfl, _⟩ | ⟨_, _, rfl, rfl, _⟩ |
        ⟨_, _, rfl, rfl, _⟩ | ⟨_, rfl, rfl⟩
      · cases link with
        | url found => cases rendered
        | _ => rfl
      · rfl
      · rfl
      · rfl
      · rfl

end

private theorem allLinkMatches_urls (documented : context.Documented) (content : List Char) :
    (allLinkMatches context content).filterMap asUrl = urlMatches context content := by
  have perm : ((allLinkMatches context content).filterMap asUrl).Perm
      (urlMatches context content) := by
    refine ((List.perm_insertionSort _ _).filterMap asUrl).trans (.of_eq ?_)
    have silent : ∀ {Found : Type} (make : Found → TextLinkMatch) (found : List Found),
        (∀ one, asUrl (make one) = none) → (found.map make).filterMap asUrl = [] := by
      intro Found make found none
      simp [List.filterMap_map, none]
    have all : ((urlMatches context content).map TextLinkMatch.url).filterMap asUrl =
        urlMatches context content := by
      simp [List.filterMap_map, Function.comp_def, asUrl]
    rw [List.filterMap_append, List.filterMap_append, List.filterMap_append,
      silent _ _ fun _ => rfl, silent _ _ fun _ => rfl, silent _ _ fun _ => rfl, all]
    rfl
  have sorted : ((allLinkMatches context content).filterMap asUrl).Pairwise
      fun first second => first.start ≤ second.start := by
    refine (allLinkMatches_sorted context content).filterMap asUrl ?_
    intro first second ordered one isOne two isTwo
    cases first with
    | url found =>
        cases isOne
        cases second with
        | url found => 
            cases isTwo
            exact ordered
        | _ => cases isTwo
    | _ => cases isOne
  have nonempty : ∀ url ∈ urlMatches context content, url.start < url.stop := by
    intro url isUrl
    exact link_nonempty documented (mem_allLinkMatches.mpr (.inr (.inr (.inr ⟨url, isUrl, rfl⟩))))
  have ordered : (urlMatches context content).Pairwise
      fun first second => first.start ≤ second.start := by
    refine (urls_ordered documented content).imp_of_mem ?_
    intro first second left _ apart
    have own := nonempty first left
    omega
  refine perm.eq_of_pairwise ?_ sorted ordered
  intro first second left right before after
  by_contra other
  have left := perm.subset left
  have one := nonempty first left
  have two := nonempty second right
  rcases urls_apart documented left right other with apart | apart
  · omega
  · omega

private theorem chosen_urls_iff (documented : context.Documented) :
    ((chosen context content).filterMap asUrl).map UrlMatch.url =
        (urlMatches context content).map UrlMatch.url ↔
      ∀ url ∈ urlMatches context content, .url url ∈ chosen context content := by
  have sublist :
      ((chosen context content).filterMap asUrl).Sublist (urlMatches context content) := by
    rw [← allLinkMatches_urls documented content]
    exact (select_sublist _ _).filterMap asUrl
  have mem : ∀ url, url ∈ (chosen context content).filterMap asUrl ↔
      .url url ∈ chosen context content := by
    intro url
    rw [List.mem_filterMap]
    constructor
    · rintro ⟨link, selected, isUrl⟩
      cases link with
      | url found =>
          cases isUrl
          exact selected
      | _ => cases isUrl
    · intro selected
      exact ⟨.url url, selected, rfl⟩
  constructor
  · intro same url isUrl
    have lengths := congrArg List.length same
    rw [List.length_map, List.length_map] at lengths
    rw [← mem, sublist.eq_of_length lengths]
    exact isUrl
  · intro all
    have distinct : (urlMatches context content).Nodup := by
      refine (urls_ordered documented content).imp_of_mem ?_
      rintro first second left _ apart rfl
      have own := link_nonempty documented
        (mem_allLinkMatches.mpr (.inr (.inr (.inr ⟨first, left, rfl⟩))))
      rw [start_url, stop_url] at own
      omega
    have inside : urlMatches context content ⊆ (chosen context content).filterMap asUrl :=
      fun url isUrl => (mem url).mpr (all url isUrl)
    have fewer := (List.subperm_of_subset distinct inside).length_le
    rw [sublist.eq_of_length_le fewer]

private theorem chosen_names {Found : Type} {make : Found → TextLinkMatch} {found : List Found}
    {name : Found → List Char} (documented : context.Documented)
    (free : ¬RunsIntoUrl context content) (isName : ∀ one, (make one).isName = true)
    (mem : ∀ one, make one ∈ allLinkMatches context content ↔ one ∈ found) {text : List Char} :
    (∃ one, make one ∈ chosen context content ∧ name one = text) ↔
      ∃ one ∈ found, overlapsUrl (make one).start (make one).stop (urlMatches context content) =
        false ∧ name one = text := by
  constructor
  · rintro ⟨one, selected, rfl⟩
    have member := chosen_mem selected
    exact ⟨one, (mem one).mp member,
      (name_chosen_iff documented free (isName one) member).mp selected, rfl⟩
  · rintro ⟨one, member, clear, rfl⟩
    have there := (mem one).mpr member
    exact ⟨one, (name_chosen_iff documented free (isName one) there).mpr clear, rfl⟩

private theorem mention_mem_iff {found : MentionMatch} :
    .mention found ∈ allLinkMatches context content ↔ found ∈ localMentionMatches content := by
  simp [mem_allLinkMatches]

private theorem remoteMention_mem_iff {found : RemoteMentionMatch} :
    .remoteMention found ∈ allLinkMatches context content ↔
      found ∈ remoteMentionMatches content := by
  simp [mem_allLinkMatches]

private theorem hashtag_mem_iff {found : HashtagMatch} :
    .hashtag found ∈ allLinkMatches context content ↔
      found ∈ localHashtagMatches context content := by
  simp [mem_allLinkMatches]

private theorem mentions_chosen_iff (documented : context.Documented)
    (free : ¬RunsIntoUrl context content) {username : List Char} :
    (∃ found, .mention found ∈ chosen context content ∧ found.username = username) ↔
      username ∈ mentionUsernames context content := by
  rw [chosen_names documented free (fun _ => rfl) fun _ => mention_mem_iff]
  simp [mentionUsernames, TextLinkMatch.start, TextLinkMatch.stop, and_assoc]

private theorem handles_chosen_iff (documented : context.Documented)
    (free : ¬RunsIntoUrl context content) {handle : List Char} :
    (∃ found, .remoteMention found ∈ chosen context content ∧ found.handle = handle) ↔
      handle ∈ remoteMentionHandles context content := by
  rw [chosen_names documented free (fun _ => rfl) fun _ => remoteMention_mem_iff]
  simp [remoteMentionHandles, TextLinkMatch.start, TextLinkMatch.stop, and_assoc]

private theorem hashtags_chosen_iff (documented : context.Documented)
    (free : ¬RunsIntoUrl context content) {name : List Char} :
    (∃ found, .hashtag found ∈ chosen context content ∧ found.name = name) ↔
      name ∈ hashtagNames context content := by
  rw [chosen_names documented free (fun _ => rfl) fun _ => hashtag_mem_iff]
  simp [hashtagNames, TextLinkMatch.start, TextLinkMatch.stop, and_assoc]

private theorem mem_localTextMentions {accounts : List LocalAccount} {username : List Char} :
    username ∈ (localTextMentions context accounts content).map LocalAccount.username ↔
      username ∈ mentionUsernames context content ∧
        (findLocalAccountByUsername accounts username).isSome = true := by
  simp only [localTextMentions, List.mem_map, List.mem_filterMap, List.mem_eraseDups]
  constructor
  · rintro ⟨account, ⟨name, extracted, found⟩, rfl⟩
    have same : account.username = name := by simpa using List.find?_some found
    rw [same, found]
    exact ⟨extracted, rfl⟩
  · rintro ⟨extracted, known⟩
    obtain ⟨account, found⟩ := Option.isSome_iff_exists.mp known
    have same : account.username = username := by simpa using List.find?_some found
    exact ⟨account, ⟨username, extracted, found⟩, same⟩

/-- The rendered links are the extracted names that resolve and all URLs if and only if no
mention or hashtag runs into a URL from outside and handles are spelled as they are
cached. -/
theorem rendered_links_match_extraction_iff (documented : context.Documented)
    (accounts : List LocalAccount) (resolve : List Char → Option RemoteActor)
    (content : List Char) :
    ∃ pieces, statusContentPieces context (resolvedTargets context accounts resolve content)
        content = some pieces ∧
      statusContentHtmlWithMentionsAndTags context
        (resolvedTargets context accounts resolve content) content =
          some ("<p>".toList ++ pieces.flatMap Piece.html ++ "</p>".toList) ∧
      (RendersExtracted context accounts resolve content pieces ↔
        ¬RunsIntoUrl context content ∧ HandlesSpelledAlike context resolve content) := by
  obtain ⟨pieces, _, rendered, _⟩ := statusContentPieces_renders documented.inBounds
    (resolvedTargets context accounts resolve content) content
  refine ⟨pieces, rendered, statusContentHtml_eq rendered, ?_⟩
  have urls : pieces.filterMap Piece.url? =
      ((chosen context content).filterMap asUrl).map UrlMatch.url := by
    rw [renderLinks_filterMap (fun _ => rfl) rendered, List.map_filterMap]
    simp only [renderLink_url]
    rfl
  have usernames : ∀ username, username ∈ pieces.filterMap Piece.username? ↔
      (∃ found, .mention found ∈ chosen context content ∧ found.username = username) ∧
        username ∈ mentionUsernames context content ∧
          (findLocalAccountByUsername accounts username).isSome = true := by
    intro username
    rw [renderLinks_filterMap (fun _ => rfl) rendered, List.mem_filterMap,
      ← mem_localTextMentions]
    simp only [renderLink_username]
    constructor
    · rintro ⟨_, selected, found, rfl, name, target⟩
      exact ⟨⟨found, selected, name⟩, target⟩
    · rintro ⟨⟨found, selected, name⟩, target⟩
      exact ⟨_, selected, found, rfl, name, target⟩
  have handles : ∀ handle, handle ∈ pieces.filterMap Piece.handle? ↔
      (∃ found, .remoteMention found ∈ chosen context content ∧ found.handle = handle) ∧
        ∃ actor ∈ resolveRemoteMentions context resolve content, actor.handle = handle := by
    intro handle
    have cached : (∃ actor ∈ resolveRemoteMentions context resolve content,
        actor.handle = handle) ↔ handle ∈
          (resolveRemoteMentions context resolve content).map RemoteActor.handle :=
      List.mem_map.symm
    rw [renderLinks_filterMap (fun _ => rfl) rendered, List.mem_filterMap, cached]
    simp only [renderLink_handle]
    constructor
    · rintro ⟨_, selected, found, rfl, name, target⟩
      exact ⟨⟨found, selected, name⟩, target⟩
    · rintro ⟨⟨found, selected, name⟩, target⟩
      exact ⟨_, selected, found, rfl, name, target⟩
  have hashtags : ∀ name, name ∈ pieces.filterMap Piece.hashtag? ↔
      (∃ found, .hashtag found ∈ chosen context content ∧ found.name = name) ∧
        name ∈ hashtagNames context content := by
    intro name
    have keys : (resolvedTargets context accounts resolve content).tags.map TagResponse.name =
        hashtagNames context content := by
      simp [resolvedTargets, localStatusContentTagLinks, Function.comp_def]
    rw [renderLinks_filterMap (fun _ => rfl) rendered, List.mem_filterMap, ← keys]
    simp only [renderLink_hashtag]
    constructor
    · rintro ⟨_, selected, found, rfl, name, target⟩
      exact ⟨⟨found, selected, name⟩, target⟩
    · rintro ⟨⟨found, selected, name⟩, target⟩
      exact ⟨_, selected, found, rfl, name, target⟩
  constructor
  · intro matches'
    have free : ¬RunsIntoUrl context content := by
      rw [← urls_chosen_iff documented, ← chosen_urls_iff documented, ← urls]
      exact matches'.urls
    refine ⟨free, ?_⟩
    intro handle extracted
    have rule := (handles handle).symm.trans (matches'.handles handle)
    rw [handles_chosen_iff documented free] at rule
    constructor
    · intro resolves
      exact (rule.mpr ⟨extracted, resolves⟩).2
    · intro cached
      exact (rule.mp ⟨extracted, cached⟩).2
  · rintro ⟨free, alike⟩
    refine ⟨?_, ?_, ?_, ?_⟩
    · intro username
      rw [usernames, mentions_chosen_iff documented free]
      exact ⟨fun both => both.2, fun both => ⟨both.1, both⟩⟩
    · intro handle
      rw [handles, handles_chosen_iff documented free]
      exact and_congr_right fun extracted => (alike handle extracted).symm
    · intro name
      rw [hashtags, hashtags_chosen_iff documented free, and_self]
    · rw [urls, chosen_urls_iff documented, urls_chosen_iff documented]
      exact free

end

namespace ExtractionSample

def plain : List Char := "@al #a1 https://a.test".toList

def overlapping : List Char := "@al_https://a.test".toList

def capital : List Char := "@al@A.test".toList

/-- A finder that knows the links of the samples; a scheme begins after an underscore. -/
def context : TextContext where
  isAlphanumeric := Char.isAlphanum
  toLowercase := fun text => text.map Char.toLower
  links := fun content =>
    if content = plain then [(8, 22)] else if content = overlapping then [(4, 18)] else []
  isHttpUrl := fun text => "https://".toList.isPrefixOf text
  publicBaseUrl := "https://local.test/".toList
  joinBaseUrl := fun path => some ("https://local.test/".toList ++ path)

def resolve (handle : List Char) : Option RemoteActor :=
  if handle = "al@A.test".toList ∨ handle = "al@a.test".toList then
    some ⟨⟨1⟩, "al".toList, "a.test".toList, "https://a.test/users/al".toList⟩
  else none

theorem links_known {content : List Char} {span : Nat × Nat}
    (member : span ∈ context.links content) :
    slice content span.1 span.2 = some "https://a.test".toList := by
  unfold context at member
  dsimp only at member
  split at member
  · next same =>
    rw [List.mem_singleton.mp member, same]
    decide
  · split at member
    · next same =>
      rw [List.mem_singleton.mp member, same]
      decide
    · cases member

theorem documented : context.Documented where
  inBounds := fun content span member => ⟨_, links_known member⟩
  ordered := by
    intro content
    unfold context
    dsimp only
    split
    · exact List.pairwise_singleton _ _
    · split
      · exact List.pairwise_singleton _ _
      · exact .nil
  scheme := by
    intro content span member text there
    rw [links_known member] at there
    cases there
    exact ⟨'h', "ttps://a.test".toList, rfl, by decide⟩
  ascii := fun _ _ => rfl

end ExtractionSample

open ExtractionSample in
theorem rendered_links_match_sample :
    ∃ pieces, statusContentPieces context (resolvedTargets context [⟨"al".toList⟩] resolve plain)
        plain = some pieces ∧
      RendersExtracted context [⟨"al".toList⟩] resolve plain pieces := by
  obtain ⟨pieces, rendered, _, iff⟩ :=
    rendered_links_match_extraction_iff documented [⟨"al".toList⟩] resolve plain
  refine ⟨pieces, rendered, iff.mpr ⟨?_, ?_⟩⟩
  · have links : allLinkMatches context plain =
        [.mention ⟨0, 3, "al".toList⟩, .hashtag ⟨4, 7, "a1".toList⟩,
          .url ⟨8, 22, "https://a.test".toList⟩] := by decide +kernel
    have urls : urlMatches context plain = [⟨8, 22, "https://a.test".toList⟩] := by decide +kernel
    unfold RunsIntoUrl
    rw [links, urls]
    decide
  · have none : remoteMentionHandles context plain = [] := by decide +kernel
    intro handle extracted
    rw [none] at extracted
    cases extracted

open ExtractionSample in
/-- A URL that a mention runs into is not linked, and a handle with a capital letter
resolves without being linked. -/
theorem rendered_links_differ :
    context.Documented ∧
      (statusContentPieces context (resolvedTargets context [] resolve overlapping) overlapping =
          some [.text [], .text "@al_https".toList, .text "://a.test".toList] ∧
        ¬RendersExtracted context [] resolve overlapping
          [.text [], .text "@al_https".toList, .text "://a.test".toList]) ∧
      statusContentPieces context (resolvedTargets context [] resolve capital) capital =
          some [.text [], .text "@al@A.test".toList, .text []] ∧
        ¬RendersExtracted context [] resolve capital
          [.text [], .text "@al@A.test".toList, .text []] := by
  refine ⟨documented, ⟨by decide +kernel, ?_⟩, by decide +kernel, ?_⟩
  · intro renders
    have urls : urlMatches context overlapping = [⟨4, 18, "https://a.test".toList⟩] := by
      decide +kernel
    have same := renders.urls
    rw [urls] at same
    cases same
  · intro renders
    have extracted : remoteMentionHandles context capital = ["al@A.test".toList] := by
      decide +kernel
    have rule := renders.handles "al@A.test".toList
    rw [extracted] at rule
    have linked := rule.mpr ⟨List.mem_cons_self, by decide⟩
    cases linked

end Roosty.Content
