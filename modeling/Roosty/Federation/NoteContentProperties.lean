import Roosty.Content.HtmlProperties
import Roosty.Federation.NoteContent
import Roosty.Federation.RemoteStatusProperties
import Roosty.Library.WebUrlProperties

/-!
# Markup of outbound quotes

The id of a quoted status is put between the tags of the quote paragraph as it was sent.
The content is made of the server's own tags exactly when the id needs no escapes, or is
not inserted.
-/

set_option autoImplicit false

namespace Roosty.Federation.Outbound

open Library Inbox

/-- The tags of a status and those of the quote paragraph, whose destination is text. -/
inductive NoteTag : List Char → Prop
  | status {tag : List Char} (template : Content.StatusTag tag) : NoteTag tag
  | quoteParagraph : NoteTag "<p class=\"quote-inline\">".toList
  | quoteLink {url : List Char} (plain : ∀ character ∈ url, Html.isSpecial character = false) :
      NoteTag ("<a href=\"".toList ++ url ++ "\">".toList)

/-!
## The tags of the server
-/

private theorem isTag_anchor {url attributes : List Char}
    (plain : ∀ character ∈ url, Html.isSpecial character = false)
    (unopened : '<' ∉ attributes) (unclosed : '>' ∉ attributes) :
    Html.IsTag ("<a href=\"".toList ++ url ++ attributes ++ ['>']) := by
  have absent : ∀ character, Html.isSpecial character = true → character ∉ url := by
    intro character special member
    rw [plain character member] at special
    cases special
  refine ⟨"a href=\"".toList ++ url ++ attributes, by simp, ?_, ?_⟩
  · simp [absent '<' rfl, unopened]
  · simp [absent '>' rfl, unclosed]

private theorem isTag_escaped {attributes : List Char} (url : List Char)
    (unopened : '<' ∉ attributes) (unclosed : '>' ∉ attributes) :
    Html.IsTag ("<a href=\"".toList ++ Content.escapeHtml url ++ attributes ++ ['>']) :=
  isTag_anchor (fun _ member => Html.escape_plain member) unopened unclosed

private theorem isTag_statusTag {tag : List Char} (template : Content.StatusTag tag) :
    Html.IsTag tag := by
  cases template with
  | paragraph => exact ⟨"p".toList, by decide⟩
  | paragraphEnd => exact ⟨"/p".toList, by decide⟩
  | lineBreak => exact ⟨"br /".toList, by decide⟩
  | mention url =>
      simpa using isTag_escaped url (by decide : '<' ∉ "\" class=\"u-url mention\"".toList)
        (by decide)
  | hashtag url =>
      simpa using isTag_escaped url
        (by decide : '<' ∉ "\" class=\"mention hashtag\" rel=\"tag\"".toList) (by decide)
  | link url =>
      simpa using isTag_escaped url
        (by decide : '<' ∉
          "\" target=\"_blank\" rel=\"nofollow noopener\" translate=\"no\"".toList) (by decide)
  | linkEnd => exact ⟨"/a".toList, by decide⟩
  | span => exact ⟨"span".toList, by decide⟩
  | invisible => exact ⟨"span class=\"invisible\"".toList, by decide⟩
  | ellipsis => exact ⟨"span class=\"ellipsis\"".toList, by decide⟩
  | spanEnd => exact ⟨"/span".toList, by decide⟩

theorem isTag_noteTag (tag : List Char) (template : NoteTag tag) : Html.IsTag tag := by
  cases template with
  | status template => exact isTag_statusTag template
  | quoteParagraph => exact ⟨"p class=\"quote-inline\"".toList, by decide⟩
  | quoteLink plain =>
      simpa using isTag_anchor plain (by decide : '<' ∉ "\"".toList) (by decide)

/-!
## The quote paragraph
-/

section

variable {activitypubId html : List Char}

private theorem quoteInline_append (activitypubId html : List Char) :
    quoteInline activitypubId ++ html = "<p class=\"quote-inline\">".toList ++ ("RE: ".toList ++
      ("<a href=\"".toList ++ activitypubId ++ "\">".toList ++
        (activitypubId ++ ("</a>".toList ++ ("</p>".toList ++ html))))) := by
  have front : "<p class=\"quote-inline\">RE: <a href=\"".toList =
      "<p class=\"quote-inline\">".toList ++ ("RE: ".toList ++ "<a href=\"".toList) := by decide
  have back : "</a></p>".toList = "</a>".toList ++ "</p>".toList := by decide
  unfold quoteInline
  rw [front, back]
  simp only [List.append_assoc]

private theorem plain_label : ∀ character ∈ "RE: ".toList, Html.isSpecial character = false :=
  Text.eq_false_of_any (by decide)

theorem markup_quoteInline (markup : Html.Markup NoteTag html)
    (plain : ∀ character ∈ activitypubId, Html.isSpecial character = false) :
    Html.Markup NoteTag (quoteInline activitypubId ++ html) := by
  have ends : Html.Markup NoteTag ("</a>".toList ++ ("</p>".toList ++ html)) :=
    .tag (.status .linkEnd) (.tag (.status .paragraphEnd) markup)
  have link := Html.Markup.tag (NoteTag.quoteLink plain) (Html.markup_plain plain ends)
  rw [quoteInline_append]
  exact .tag .quoteParagraph (Html.markup_plain plain_label link)

theorem plain_of_markup_quoteInline
    (markup : Html.Markup NoteTag (quoteInline activitypubId ++ html)) :
    ∀ character ∈ activitypubId, Html.isSpecial character = false := by
  by_contra unplain
  push Not at unplain
  have found : (activitypubId.find? Html.isSpecial).isSome = true := by
    obtain ⟨character, member, special⟩ := unplain
    exact List.find?_isSome.mpr ⟨character, member, Bool.eq_true_of_not_eq_false special⟩
  obtain ⟨character, first⟩ := Option.isSome_iff_exists.mp found
  obtain ⟨special, before, after, split, plain⟩ := List.find?_eq_some_iff_append.mp first
  have plain : ∀ other ∈ before, Html.isSpecial other = false := by simpa using plain
  rw [quoteInline_append] at markup
  -- past the tag of the paragraph
  have paragraph : "<p class=\"quote-inline\">".toList =
      "<p class=\"quote-inline\"".toList ++ ['>'] := by decide
  rw [paragraph, List.append_assoc] at markup
  have anchor := (markup.afterClose isTag_noteTag).dropPlain isTag_noteTag plain_label
  -- past the tag of the link
  have quote : "\">".toList = "\"".toList ++ ['>'] := by decide
  rw [quote, ← List.append_assoc _ _ ['>'], List.append_assoc _ ['>']] at anchor
  have shown := anchor.afterClose isTag_noteTag
  rw [split, List.append_assoc] at shown
  obtain ⟨tag, rest, template, opened⟩ := (shown.dropPlain isTag_noteTag plain).opens special
  obtain ⟨body, rfl, _⟩ := isTag_noteTag tag template
  obtain ⟨rfl, _⟩ := List.cons.inj opened
  have unclosed : '>' ∉ "a href=\"".toList ++ before := by
    intro member
    rcases List.mem_append.mp member with member | member
    · exact absurd member (by decide)
    · cases plain '>' member
  have open' : "<a href=\"".toList = '<' :: "a href=\"".toList := by decide
  rw [split, open'] at anchor
  refine @Html.Markup.not_nested _ _ (after ++ ("\"".toList ++ (['>'] ++ (before ++ '<' :: (after ++
    ("</a>".toList ++ ("</p>".toList ++ html))))))) isTag_noteTag unclosed ?_
  simpa only [List.append_assoc, List.cons_append] using anchor

theorem markup_quoteInline_iff (markup : Html.Markup NoteTag html) :
    Html.Markup NoteTag (quoteInline activitypubId ++ html) ↔
      ∀ character ∈ activitypubId, Html.isSpecial character = false :=
  ⟨plain_of_markup_quoteInline, markup_quoteInline markup⟩

end

/-!
## The content of a Note
-/

section

variable {text : Content.TextContext} {accounts : List Content.LocalAccount}
  {remoteMentions : List Content.RemoteActor} {relations : Relations} {statusId : StatusId}
  {content : List Char}

/-- A status names what it quotes, or the id of that has nothing to escape. -/
def QuoteInert (text : Content.TextContext) (accounts : List Content.LocalAccount)
    (remoteMentions : List Content.RemoteActor) (content : List Char) (quote : StatusQuote) : Prop :=
  (∃ html, Content.statusContentHtmlWithMentionsAndTags text
    (noteLinkTargets text accounts remoteMentions content) content = some html ∧
      quote.quotedActivitypubId.toList <:+: html) ∨
  ∀ character ∈ quote.quotedActivitypubId.toList, Html.isSpecial character = false

/-- Every `<`, `>` and `"` of the content of a Note is one of the server's exactly when what
the status quotes is inert. -/
theorem note_quote_markup_iff (inBounds : text.LinksInBounds)
    (accounts : List Content.LocalAccount) (remoteMentions : List Content.RemoteActor)
    (relations : Relations) (statusId : StatusId) (content : List Char) :
    ∃ html, noteContent text accounts remoteMentions relations statusId content = some html ∧
      (Html.Markup NoteTag html ↔
        ∀ quote, quoteOf relations (.localStatus statusId) = some quote →
          QuoteInert text accounts remoteMentions content quote) := by
  obtain ⟨pieces, shown, rendered, renders, _⟩ := Content.statusContentPieces_renders inBounds
    (noteLinkTargets text accounts remoteMentions content) content
  have whole := (Content.Renders.paragraph.append renders).append .paragraphEnd
  have success := Content.statusContentHtml_eq rendered
  have markup := whole.markup.mono fun _ template => NoteTag.status template
  generalize "<p>".toList ++ pieces.flatMap Content.Piece.html ++ "</p>".toList = html at markup success
  refine ⟨withQuoteInline html (quoteOf relations (.localStatus statusId)), ?_, ?_⟩
  · unfold noteContent
    rw [success]
    rfl
  cases quoted : quoteOf relations (.localStatus statusId) with
  | none =>
      exact ⟨fun _ quote found => (by cases found), fun _ => markup⟩
  | some quote =>
      have inert : (∀ other, some quote = some other →
          QuoteInert text accounts remoteMentions content other) ↔
          quote.quotedActivitypubId.toList <:+: html ∨
            ∀ character ∈ quote.quotedActivitypubId.toList, Html.isSpecial character = false := by
        simp [QuoteInert, success]
      rw [inert]
      unfold withQuoteInline
      dsimp only
      by_cases named : quote.quotedActivitypubId.toList <:+: html
      · rw [if_pos named]
        exact ⟨fun _ => .inl named, fun _ => markup⟩
      · rw [if_neg named, markup_quoteInline_iff markup]
        exact ⟨.inr, fun inert => inert.resolve_left named⟩

end

namespace MarkupSample

def parsers : WebUrl.Parsers String where
  parseHost host :=
    if host.all fun character => character.isAlpha || character == '.' then some (String.ofList host)
    else none
  parseAbsolute _ _ := none
  parseAbsolute_scheme := by simp

def noteUri : String := "https://remote.example/\"><script>alert(1)</script>"

def note : InboundNote :=
  { Status.Sample.question "<p>Hello</p>" none 0 0 with
    id := noteUri
    type := .note
    poll := ⟨[], [], none, none, none⟩ }

def activity : Json := .object
  [("id", .string "https://remote.example/create/1"), ("type", .string "Create"),
    ("actor", .string Inbox.Sample.alice.activitypubId),
    ("object", .object [("id", .string noteUri), ("type", .string "Note"),
      ("attributedTo", .string Inbox.Sample.alice.activitypubId),
      ("content", .string "<p>Hello</p>"), ("published", .string Status.Sample.publishedText),
      ("to", .string publicAudience)])]

def receiver : Status.Server :=
  { Status.Sample.receiver with
    sameUrlOrigin := sameUrlOrigin parsers
    statusActivity := fun received => if received == activity then
      some ⟨.create, Inbox.Sample.alice.activitypubId, note⟩ else none }

def generated : Status.Generated :=
  ⟨⟨1⟩, ⟨0, 1, ⟨1⟩, fun index => index⟩, ⟨1, "", 1, fun _ => none⟩⟩

/-- The tables with the Note of Alice, and the row that was stored. -/
def stored : Option (Status.Db × RemoteStatus) :=
  match Status.processRemoteStatusActivity receiver Status.Sample.start generated
      "https://remote.example/create/1" activity Inbox.Sample.alice with
  | .ok (db, .upsert status _) => some (db, status)
  | _ => none

def quoting : Option Relations :=
  stored.bind fun (db, status) =>
    (createLocalStatusQuote db.toDb 1 ⟨5⟩ (.remoteStatus status.id) status.activitypubId .pending
      none none).toOption

def plainUri : String := "https://remote.example/notes/1"

def quotingPlain : Option Relations :=
  (createLocalStatusQuote Status.Sample.start.toDb 1 ⟨5⟩ (.remoteStatus ⟨1⟩) plainUri .pending
    none none).toOption

end MarkupSample

open MarkupSample in
/-- The quoted id opens a tag of its own. -/
theorem note_quote_injects :
    stored.map (fun (_, status) => status.activitypubId) = some noteUri ∧
    ∃ relations html, quoting = some relations ∧
      noteContent Content.HtmlSample.context [] [] relations ⟨5⟩ "Look".toList = some html ∧
      "<script>".toList <:+: html ∧ ¬ Html.Markup NoteTag html := by
  refine ⟨by decide +kernel, _, quoteInline noteUri.toList ++ "<p>Look</p>".toList, rfl,
    by decide +kernel, by decide +kernel, ?_⟩
  intro markup
  have plain := plain_of_markup_quoteInline markup '<' (by decide +kernel)
  cases plain

open MarkupSample in
theorem note_quote_markup_hello :
    ∃ relations, quotingPlain = some relations ∧
      noteContent Content.HtmlSample.context [] [] relations ⟨5⟩ "Look".toList =
        some (quoteInline plainUri.toList ++ "<p>Look</p>".toList) ∧
      Html.Markup NoteTag (quoteInline plainUri.toList ++ "<p>Look</p>".toList) := by
  cases quotes : quotingPlain with
  | none => exact absurd quotes (by decide +kernel)
  | some relations =>
      obtain ⟨html, content, iff⟩ := note_quote_markup_iff Content.HtmlSample.inBounds [] []
        relations ⟨5⟩ "Look".toList
      have written : quotingPlain.bind (fun relations => noteContent Content.HtmlSample.context
          [] [] relations ⟨5⟩ "Look".toList) =
            some (quoteInline plainUri.toList ++ "<p>Look</p>".toList) := by decide +kernel
      have named : quotingPlain.bind (fun relations => (quoteOf relations (.localStatus ⟨5⟩)).map
          StatusQuote.quotedActivitypubId) = some plainUri := by decide +kernel
      rw [quotes, Option.bind_some] at written named
      rw [written, Option.some.injEq] at content
      subst content
      refine ⟨relations, rfl, written, iff.mpr ?_⟩
      intro quote found
      rw [found, Option.map_some, Option.some.injEq] at named
      have inert : (plainUri.toList.all fun character => !Html.isSpecial character) = true := by
        decide +kernel
      rw [QuoteInert, named]
      exact .inr fun character member => by simpa using List.all_eq_true.mp inert character member

end Roosty.Federation.Outbound
