import Roosty.Content.Html
import Roosty.Content.LinksProperties
import Roosty.Library.Intervals

/-!
# Rendering keeps the text

The HTML of a status is made of the renderer's own tags and escaped text. Read back, it is
the content with the name of each linked hashtag replaced by its normalized name.
-/

set_option autoImplicit false

namespace Roosty.Content

open Library Library.Offsets Library.Intervals

/-- The tags of the renderer. Only destinations vary, and they are escaped. -/
inductive StatusTag : List Char → Prop
  | paragraph : StatusTag "<p>".toList
  | paragraphEnd : StatusTag "</p>".toList
  | lineBreak : StatusTag "<br />".toList
  | mention (url : List Char) : StatusTag ("<a href=\"".toList ++ escapeHtml url ++
      "\" class=\"u-url mention\">".toList)
  | hashtag (url : List Char) : StatusTag ("<a href=\"".toList ++ escapeHtml url ++
      "\" class=\"mention hashtag\" rel=\"tag\">".toList)
  | link (url : List Char) : StatusTag ("<a href=\"".toList ++ escapeHtml url ++
      "\" target=\"_blank\" rel=\"nofollow noopener\" translate=\"no\">".toList)
  | linkEnd : StatusTag "</a>".toList
  | span : StatusTag "<span>".toList
  | invisible : StatusTag "<span class=\"invisible\">".toList
  | ellipsis : StatusTag "<span class=\"ellipsis\">".toList
  | spanEnd : StatusTag "</span>".toList

structure Renders (html text : List Char) : Prop where
  markup : Html.Markup StatusTag html
  shows : Html.Shows html text

/-!
## Pieces
-/

namespace Renders

theorem nil : Renders [] [] :=
  ⟨.nil, Html.shows_nil⟩

theorem append {front back text further : List Char} (first : Renders front text)
    (second : Renders back further) : Renders (front ++ back) (text ++ further) :=
  ⟨first.markup.append second.markup, first.shows.append second.shows⟩

theorem escaped (value : List Char) : Renders (escapeHtml value) value := by
  refine ⟨?_, Html.shows_escape value⟩
  have markup : Html.Markup StatusTag (Html.escape value ++ []) := Html.markup_escape value .nil
  rwa [List.append_nil] at markup

private theorem tag {html : List Char} (template : StatusTag html) (shows : Html.Shows html []) :
    Renders html [] := by
  refine ⟨?_, shows⟩
  have markup : Html.Markup StatusTag (html ++ []) := .tag template .nil
  rwa [List.append_nil] at markup

theorem lineBreak : Renders "<br />".toList ['\n'] := by
  refine ⟨?_, Html.shows_lineBreak⟩
  have markup : Html.Markup StatusTag ("<br />".toList ++ []) := .tag .lineBreak .nil
  exact markup

private theorem anchor {url : List Char} (attributes : List Char) (inside : '>' ∉ attributes)
    (template : StatusTag ("<a href=\"".toList ++ escapeHtml url ++ (attributes ++ ['>']))) :
    Renders ("<a href=\"".toList ++ escapeHtml url ++ (attributes ++ ['>'])) [] := by
  refine tag template ?_
  have before : '>' ∉ "a href=\"".toList := by decide
  have shows := Html.shows_attribute url before inside (by decide)
  simpa [escapeHtml] using shows

theorem mentionAnchor (url : List Char) : Renders ("<a href=\"".toList ++ escapeHtml url ++
    "\" class=\"u-url mention\">".toList) [] :=
  anchor "\" class=\"u-url mention\"".toList (by decide) (.mention url)

theorem hashtagAnchor (url : List Char) : Renders ("<a href=\"".toList ++ escapeHtml url ++
    "\" class=\"mention hashtag\" rel=\"tag\">".toList) [] :=
  anchor "\" class=\"mention hashtag\" rel=\"tag\"".toList (by decide) (.hashtag url)

theorem linkAnchor (url : List Char) : Renders ("<a href=\"".toList ++ escapeHtml url ++
    "\" target=\"_blank\" rel=\"nofollow noopener\" translate=\"no\">".toList) [] :=
  anchor "\" target=\"_blank\" rel=\"nofollow noopener\" translate=\"no\"".toList (by decide)
    (.link url)

theorem paragraph : Renders "<p>".toList [] := tag .paragraph fun _ => rfl

theorem paragraphEnd : Renders "</p>".toList [] := tag .paragraphEnd fun _ => rfl

theorem linkEnd : Renders "</a>".toList [] := tag .linkEnd fun _ => rfl

theorem span : Renders "<span>".toList [] := tag .span fun _ => rfl

theorem invisible : Renders "<span class=\"invisible\">".toList [] := tag .invisible fun _ => rfl

theorem ellipsis : Renders "<span class=\"ellipsis\">".toList [] := tag .ellipsis fun _ => rfl

theorem spanEnd : Renders "</span>".toList [] := tag .spanEnd fun _ => rfl

end Renders

private theorem pushEscapedHtmlWithBreaks_cons (character : Char) (value : List Char) :
    pushEscapedHtmlWithBreaks (character :: value) =
      (if character = '\n' then "<br />".toList else Html.escapeCharacter character) ++
        pushEscapedHtmlWithBreaks value := by
  unfold pushEscapedHtmlWithBreaks
  by_cases feed : character = '\n'
  · subst feed
    simp [splitInclusive, escapeHtml, Html.escape]
  · cases rest : splitInclusive '\n' value with
    | nil => simp [splitInclusive, feed, rest, escapeHtml, Html.escape]
    | cons segment segments =>
        -- the character joins the first segment
        have joined : splitInclusive '\n' (character :: value) =
            (character :: segment) :: segments := by simp [splitInclusive, feed, rest]
        rw [joined, if_neg feed, List.flatMap_cons, List.flatMap_cons, ← List.append_assoc]
        congr 1
        cases segment with
        | nil => simp [feed, escapeHtml, Html.escape]
        | cons first segment =>
            rw [List.getLast?_cons_cons, List.dropLast_cons_cons]
            split
            · simp [escapeHtml, Html.escape]
            · simp [escapeHtml, Html.escape]

theorem Renders.text (value : List Char) : Renders (pushEscapedHtmlWithBreaks value) value := by
  induction value with
  | nil => exact .nil
  | cons character value ih =>
      rw [pushEscapedHtmlWithBreaks_cons]
      split
      · next feed =>
        rw [feed]
        exact Renders.lineBreak.append ih
      · have single : escapeHtml [character] = Html.escapeCharacter character := by
          simp [escapeHtml, Html.escape]
        rw [← single]
        exact (Renders.escaped [character]).append ih

private theorem urlPrefix_append (url : List Char) :
    urlPrefix url ++ url.drop (urlPrefix url).length = url := by
  unfold urlPrefix
  cases found : (["https://www.".toList, "http://www.".toList, "https://".toList,
      "http://".toList].find? fun start => start.isPrefixOf url) with
  | none => rfl
  | some start =>
      have isPrefix := List.find?_some found
      obtain ⟨rest, rfl⟩ := List.isPrefixOf_iff_prefix.mp isPrefix
      simp

private theorem renders_shortened (url hidden visible suffix : List Char) :
    Renders ("<a href=\"".toList ++ escapeHtml url ++
      "\" target=\"_blank\" rel=\"nofollow noopener\" translate=\"no\">".toList ++
      "<span class=\"invisible\">".toList ++ escapeHtml hidden ++ "</span><span".toList ++
      (if !suffix.isEmpty then " class=\"ellipsis\"".toList else []) ++ ">".toList ++
      escapeHtml visible ++ "</span>".toList ++
      (if suffix.isEmpty then []
        else "<span class=\"invisible\">".toList ++ escapeHtml suffix ++ "</span>".toList) ++
      "</a>".toList) (hidden ++ visible ++ suffix) := by
  have start := (Renders.linkAnchor url).append
    ((Renders.invisible.append (.escaped hidden)).append .spanEnd)
  cases suffix with
  | nil =>
      have whole := (start.append (Renders.span.append (.escaped visible))).append
        (Renders.spanEnd.append .linkEnd)
      simpa using whole
  | cons first suffix =>
      have whole := ((start.append (Renders.ellipsis.append (.escaped visible))).append
        (Renders.spanEnd.append (Renders.invisible.append (.escaped (first :: suffix))))).append
        (Renders.spanEnd.append .linkEnd)
      simpa using whole

theorem Renders.url (url : List Char) : Renders (pushUrlHtml url) url := by
  have parts := urlPrefix_append url
  unfold pushUrlHtml
  dsimp only
  split
  · have shortened := renders_shortened url (urlPrefix url) (url.drop (urlPrefix url).length) []
    rw [List.append_nil, parts] at shortened
    exact shortened
  · have shortened := renders_shortened url (urlPrefix url)
      ((url.drop (urlPrefix url).length).take 30) ((url.drop (urlPrefix url).length).drop 30)
    rw [List.append_assoc (urlPrefix url), List.take_append_drop, parts] at shortened
    exact shortened

private theorem renders_mention (url name : List Char) :
    Renders ("<a href=\"".toList ++ escapeHtml url ++ "\" class=\"u-url mention\">@".toList ++
      escapeHtml name ++ "</a>".toList) ('@' :: name) := by
  have whole := (Renders.mentionAnchor url).append
    (((Renders.escaped ['@']).append (.escaped name)).append .linkEnd)
  have marker : escapeHtml ['@'] = ['@'] := by decide
  rw [marker] at whole
  simpa using whole

private theorem renders_hashtag (url name : List Char) :
    Renders ("<a href=\"".toList ++ escapeHtml url ++
      "\" class=\"mention hashtag\" rel=\"tag\">#<span>".toList ++ escapeHtml name ++
      "</span></a>".toList) ('#' :: name) := by
  have whole := (Renders.hashtagAnchor url).append
    (((Renders.escaped ['#']).append (Renders.span.append (.escaped name))).append
      (Renders.spanEnd.append .linkEnd))
  have marker : escapeHtml ['#'] = ['#'] := by decide
  rw [marker] at whole
  simpa using whole

/-!
## Links
-/

section

variable {context : TextContext} {targets : LinkTargets} {content : List Char}

def TextLinkMatch.linkedHashtag? (targets : LinkTargets) : TextLinkMatch → Option HashtagMatch
  | .hashtag found => if (lookup targets.tagUrls found.name).isSome then some found else none
  | _ => none

variable (context targets content) in
/-- The hashtags that become links: no link that is taken before them runs into them, and a
tag has their name. -/
def linkedHashtags : List HashtagMatch :=
  (select TextLinkMatch.start TextLinkMatch.stop (allLinkMatches context content) 0).filterMap
    (TextLinkMatch.linkedHashtag? targets)

variable (content) in
/-- The content from an offset on, with hashtags replaced by their normalized names. -/
def withNormalizedNames : List HashtagMatch → Nat → Option (List Char)
  | [], last => slice content last (byteLength content)
  | found :: hashtags, last => do
      let gap ← slice content last found.start
      let rest ← withNormalizedNames hashtags found.stop
      return gap ++ ('#' :: found.name ++ rest)

private theorem withNormalizedNames_cons {found : HashtagMatch} {hashtags : List HashtagMatch}
    {last : Nat} {gap rest : List Char} (before : slice content last found.start = some gap)
    (after : withNormalizedNames content hashtags found.stop = some rest) :
    withNormalizedNames content (found :: hashtags) last =
      some (gap ++ ('#' :: found.name ++ rest)) := by
  unfold withNormalizedNames
  rw [before, after]
  rfl

private theorem withNormalizedNames_verbatim {hashtags : List HashtagMatch} {last middle : Nat}
    {text shown : List Char} (kept : slice content last middle = some text)
    (shows : withNormalizedNames content hashtags middle = some shown) :
    withNormalizedNames content hashtags last = some (text ++ shown) := by
  cases hashtags with
  | nil => exact slice_append kept shows
  | cons found hashtags =>
      obtain ⟨gap, before, shows⟩ := Option.bind_eq_some_iff.mp shows
      obtain ⟨rest, after, shows⟩ := Option.bind_eq_some_iff.mp shows
      cases shows
      rw [← List.append_assoc]
      exact withNormalizedNames_cons (slice_append kept before) after

private theorem withNormalizedNames_same {hashtags : List HashtagMatch} {last : Nat}
    {shown : List Char} (same : ∀ found ∈ hashtags,
      slice content found.start found.stop = some ('#' :: found.name))
    (shows : withNormalizedNames content hashtags last = some shown) :
    slice content last (byteLength content) = some shown := by
  induction hashtags generalizing last shown with
  | nil => exact shows
  | cons found hashtags ih =>
      obtain ⟨gap, before, shows⟩ := Option.bind_eq_some_iff.mp shows
      obtain ⟨rest, after, shows⟩ := Option.bind_eq_some_iff.mp shows
      cases shows
      have here := same found List.mem_cons_self
      have later := ih (fun other member => same other (List.mem_cons_of_mem _ member)) after
      exact slice_append before (slice_append here later)

private theorem linkedHashtag?_eq_some_iff {link : TextLinkMatch} {found : HashtagMatch} :
    link.linkedHashtag? targets = some found ↔
      link = .hashtag found ∧ (lookup targets.tagUrls found.name).isSome = true := by
  cases link with
  | hashtag other =>
      dsimp only [TextLinkMatch.linkedHashtag?]
      split
      · next tagged =>
        constructor
        · intro same
          cases same
          exact ⟨rfl, tagged⟩
        · rintro ⟨same, _⟩
          cases same
          rfl
      · next untagged =>
        constructor
        · exact nofun
        · rintro ⟨same, tagged⟩
          cases same
          exact absurd tagged untagged
  | _ => simp [TextLinkMatch.linkedHashtag?]

/-- What a link shows: its own text, or the normalized name of a linked hashtag. -/
private def Displays (targets : LinkTargets) (link : TextLinkMatch) (text shown : List Char) :
    Prop :=
  match link.linkedHashtag? targets with
  | some found => found.start = link.start ∧ found.stop = link.stop ∧ shown = '#' :: found.name
  | none => shown = text

private theorem displays_unlinked {found : HashtagMatch} {text : List Char}
    (untagged : lookup targets.tagUrls found.name = none) :
    Displays targets (.hashtag found) text text := by
  have unlinked : (TextLinkMatch.hashtag found).linkedHashtag? targets = none :=
    if_neg (by rw [untagged]; exact Bool.false_ne_true)
  unfold Displays
  rw [unlinked]

private theorem displays_linked {found : HashtagMatch} {text url : List Char}
    (tagged : lookup targets.tagUrls found.name = some url) :
    Displays targets (.hashtag found) text ('#' :: found.name) := by
  have linked : (TextLinkMatch.hashtag found).linkedHashtag? targets = some found :=
    if_pos (by rw [tagged]; rfl)
  unfold Displays
  rw [linked]
  exact ⟨rfl, rfl, rfl⟩

private theorem renderLink_renders (targets : LinkTargets) (inBounds : context.LinksInBounds)
    {link : TextLinkMatch} (member : link ∈ allLinkMatches context content) :
    ∃ text piece shown, slice content link.start link.stop = some text ∧
      renderLink context targets content link = some piece ∧ Renders piece.html shown ∧
      Displays targets link text shown := by
  rw [allLinkMatches, List.mem_insertionSort] at member
  simp only [List.mem_append, List.mem_map] at member
  rcases member with ((⟨found, member, rfl⟩ | ⟨found, member, rfl⟩) | ⟨found, member, rfl⟩) |
    ⟨found, member, rfl⟩
  · obtain ⟨front, rest, placed⟩ := localMentionMatches_placed member
    have there : slice content found.start found.stop = some ('@' :: found.username) :=
      slice_eq_some_iff.mpr ⟨front, rest, placed.place, placed.start, placed.stop⟩
    refine ⟨'@' :: found.username, ?_⟩
    cases target : lookup (targets.mentionUrls context) found.username with
    | none =>
        exact ⟨.text ('@' :: found.username), _, there, by simp [renderLink, target, there],
          .text _, rfl⟩
    | some url =>
        refine ⟨.mention url found.username, _, there, by simp [renderLink, target], ?_,
          rfl⟩
        exact renders_mention url found.username
  · obtain ⟨front, rest, placed⟩ := remoteMentionMatches_placed member
    have there : slice content found.start found.stop = some ('@' :: found.handle) :=
      slice_eq_some_iff.mpr ⟨front, rest, placed.place, placed.start, placed.stop⟩
    refine ⟨'@' :: found.handle, ?_⟩
    cases target : lookup targets.remoteMentionUrls found.handle with
    | none =>
        exact ⟨.text ('@' :: found.handle), _, there, by simp [renderLink, target, there], .text _,
          rfl⟩
    | some url =>
        refine ⟨.remoteMention url found.handle, _, there, by simp [renderLink, target], ?_,
          rfl⟩
        exact renders_mention url found.handle
  · obtain ⟨front, name, rest, placed⟩ := localHashtagMatches_placed member
    have there : slice content found.start found.stop = some ('#' :: name) :=
      slice_eq_some_iff.mpr ⟨front, rest, placed.place, placed.start, placed.stop⟩
    refine ⟨'#' :: name, ?_⟩
    cases target : lookup targets.tagUrls found.name with
    | none =>
        exact ⟨.text ('#' :: name), _, there, by simp [renderLink, target, there], .text _,
          displays_unlinked target⟩
    | some url =>
        exact ⟨.hashtag url found.name, _, there, by simp [renderLink, target],
          renders_hashtag url found.name, displays_linked target⟩
  · have there := urlMatches_slice inBounds member
    exact ⟨found.url, .link found.url, found.url, there, rfl, .url _, rfl⟩

private theorem renderLinks_renders {links : List TextLinkMatch} {front rest : List Char}
    {last : Nat} (place : content = front ++ rest) (offset : byteLength front = last)
    (covers : ∀ link ∈ links, ∃ text piece shown, slice content link.start link.stop = some text ∧
      renderLink context targets content link = some piece ∧ Renders piece.html shown ∧
      Displays targets link text shown) :
    ∃ pieces shown, renderLinks context targets content links last = some pieces ∧
      Renders (pieces.flatMap Piece.html) shown ∧
      withNormalizedNames content ((select TextLinkMatch.start TextLinkMatch.stop links
        last).filterMap (TextLinkMatch.linkedHashtag? targets)) last = some shown := by
  induction links generalizing front rest last with
  | nil =>
      have there : slice content last (byteLength content) = some rest := by
        refine slice_eq_some_iff.mpr ⟨front, [], by simpa using place, offset, ?_⟩
        rw [place, byteLength_append, offset]
      refine ⟨[.text rest], rest, by simp [renderLinks, there], ?_, there⟩
      rw [List.flatMap_singleton]
      exact Renders.text rest
  | cons link links ih =>
      have later := fun link member => covers link (List.mem_cons_of_mem _ member)
      unfold renderLinks select
      split
      · exact ih place offset later
      · next further =>
        obtain ⟨text, piece, shown, there, rendered, renders, displayed⟩ :=
          covers link List.mem_cons_self
        obtain ⟨before, after, split, start, stop⟩ := slice_eq_some_iff.mp there
        have same : front ++ rest = before ++ (text ++ after) := place.symm.trans split
        obtain ⟨gap, rfl, rfl⟩ := prefix_of_byteLength_le same (by omega)
        have gapThere : slice content last link.start = some gap := by
          refine slice_eq_some_iff.mpr ⟨front, text ++ after, by simpa using split, offset, ?_⟩
          rw [← start, byteLength_append, offset]
        have next : content = (front ++ gap ++ text) ++ after := by simpa using split
        obtain ⟨pieces, following, result, rendersRest, displayedRest⟩ :=
          ih next (by rw [byteLength_append, start, stop]) later
        refine ⟨.text gap :: piece :: pieces, gap ++ (shown ++ following), ?_, ?_, ?_⟩
        · simp [gapThere, rendered, result]
        · rw [List.flatMap_cons, List.flatMap_cons]
          exact (Renders.text gap).append (renders.append rendersRest)
        · unfold Displays at displayed
          cases linked : link.linkedHashtag? targets with
          | none =>
              rw [linked] at displayed
              rw [List.filterMap_cons_none linked, displayed]
              exact withNormalizedNames_verbatim gapThere
                (withNormalizedNames_verbatim there displayedRest)
          | some found =>
              rw [linked] at displayed
              obtain ⟨start', stop', rfl⟩ := displayed
              rw [List.filterMap_cons_some linked]
              exact withNormalizedNames_cons (start' ▸ gapThere) (stop' ▸ displayedRest)

private theorem linkedHashtags_found {found : HashtagMatch}
    (member : found ∈ linkedHashtags context targets content) :
    found ∈ localHashtagMatches context content ∧ ∃ name,
      slice content found.start found.stop = some ('#' :: name) ∧
        found.name = context.toLowercase name := by
  obtain ⟨link, selected, linked⟩ := List.mem_filterMap.mp member
  obtain ⟨rfl, _⟩ := linkedHashtag?_eq_some_iff.mp linked
  have known := (select_sublist _ _).subset selected
  have listed : found ∈ localHashtagMatches context content := by
    simpa [allLinkMatches, List.mem_insertionSort] using known
  obtain ⟨front, name, rest, placed⟩ := localHashtagMatches_placed listed
  exact ⟨listed, name,
    slice_eq_some_iff.mpr ⟨front, rest, placed.place, placed.start, placed.stop⟩,
    placed.normalized⟩

theorem statusContentPieces_renders (inBounds : context.LinksInBounds) (targets : LinkTargets)
    (content : List Char) :
    ∃ pieces shown, statusContentPieces context targets content = some pieces ∧
      Renders (pieces.flatMap Piece.html) shown ∧
      withNormalizedNames content (linkedHashtags context targets content) 0 = some shown :=
  renderLinks_renders (List.nil_append content).symm byteLength_nil
    (fun _ member => renderLink_renders targets inBounds member)

theorem statusContentHtml_eq {targets : LinkTargets} {pieces : List Piece}
    (rendered : statusContentPieces context targets content = some pieces) :
    statusContentHtmlWithMentionsAndTags context targets content =
      some ("<p>".toList ++ pieces.flatMap Piece.html ++ "</p>".toList) := by
  unfold statusContentHtmlWithMentionsAndTags
  rw [rendered]
  rfl

/-- Rendering never fails, injects no markup, and reads as the content with the names of
linked hashtags in lower case. -/
theorem status_html_keeps_text (inBounds : context.LinksInBounds) (targets : LinkTargets)
    (content : List Char) :
    CandidatesInBounds context content ∧
    ∃ html, statusContentHtmlWithMentionsAndTags context targets content = some html ∧
      Html.Markup StatusTag html ∧
      withNormalizedNames content (linkedHashtags context targets content) 0 =
        some (Html.plainText html) ∧
      (∀ found ∈ linkedHashtags context targets content,
        found ∈ localHashtagMatches context content ∧ ∃ name,
          slice content found.start found.stop = some ('#' :: name) ∧
            found.name = context.toLowercase name) ∧
      ((∀ found ∈ linkedHashtags context targets content, ∀ name,
        slice content found.start found.stop = some ('#' :: name) →
          context.toLowercase name = name) → Html.plainText html = content) := by
  obtain ⟨pieces, shown, rendered, renders, displayed⟩ :=
    statusContentPieces_renders inBounds targets content
  have whole := (Renders.paragraph.append renders).append .paragraphEnd
  rw [List.nil_append, List.append_nil] at whole
  have success := statusContentHtml_eq rendered
  refine ⟨candidates_inBounds context content, _, success, whole.markup, ?_,
    fun _ => linkedHashtags_found, ?_⟩
  · rw [whole.shows.plainText]
    exact displayed
  · intro lower
    rw [whole.shows.plainText]
    have same : ∀ found ∈ linkedHashtags context targets content,
        slice content found.start found.stop = some ('#' :: found.name) := by
      intro found member
      obtain ⟨_, name, place, normalized⟩ := linkedHashtags_found member
      rw [normalized, lower found member name place]
      exact place
    have kept := withNormalizedNames_same same displayed
    rw [slice_whole] at kept
    exact (Option.some.inj kept).symm

end

namespace HtmlSample

def shouted : List Char := "#Rust".toList

def linked : List Char := "#rust <b> https://a.test".toList

def context : TextContext where
  isAlphanumeric := Char.isAlphanum
  toLowercase := fun text => text.map Char.toLower
  links := fun content => if content = linked then [(10, 24)] else []
  isHttpUrl := fun text => "https://".toList.isPrefixOf text
  publicBaseUrl := "https://local.test/".toList
  joinBaseUrl := fun path => some ("https://local.test/".toList ++ path)

def targets : LinkTargets :=
  ⟨[], [], [⟨"rust".toList, "https://local.test/tags/rust".toList⟩]⟩

theorem inBounds : context.LinksInBounds := by
  intro content span member
  unfold context at member
  dsimp only at member
  split at member
  · next same =>
    rw [List.mem_singleton.mp member, same]
    exact ⟨"https://a.test".toList, by decide⟩
  · cases member

end HtmlSample

open HtmlSample in
theorem status_html_keeps_text_sample :
    ∃ html, statusContentHtmlWithMentionsAndTags context targets linked = some html ∧
      Html.Markup StatusTag html ∧ Html.plainText html = linked := by
  obtain ⟨_, html, rendered, markup, _, hashtags, same⟩ :=
    status_html_keeps_text inBounds targets linked
  refine ⟨html, rendered, markup, same ?_⟩
  have matches' : localHashtagMatches context linked = [⟨0, 5, "rust".toList⟩] := by decide
  intro found member name place
  have listed := (hashtags found member).1
  rw [matches', List.mem_singleton] at listed
  subst listed
  have there : slice linked 0 5 = some "#rust".toList := by decide
  rw [there] at place
  cases place
  decide

open HtmlSample in
/-- A linked hashtag loses its capital letter. -/
theorem status_html_lowers_hashtags :
    context.LinksInBounds ∧
      (statusContentHtmlWithMentionsAndTags context targets shouted).map Html.plainText =
        some "#rust".toList ∧
      (statusContentHtmlWithMentionsAndTags context targets shouted).map Html.plainText ≠
        some shouted :=
  ⟨inBounds, by decide +kernel, by decide +kernel⟩

end Roosty.Content
