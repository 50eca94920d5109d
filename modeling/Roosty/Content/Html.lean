import Roosty.Content.Links
import Roosty.Library.Html

/-!
# HTML of local statuses

The links of a status are merged by position; text between them is escaped. Slices of the
content are partial, as they fail outside character boundaries.
-/

set_option autoImplicit false

namespace Roosty.Content

open Library Library.Offsets

def escapeHtml (value : List Char) : List Char :=
  Html.escape value

/-- `split_inclusive`: the pieces end with their separators. -/
def splitInclusive (separator : Char) : List Char → List (List Char)
  | [] => []
  | character :: rest =>
      if character == separator then [character] :: splitInclusive separator rest
      else
        match splitInclusive separator rest with
        | [] => [[character]]
        | segment :: segments => (character :: segment) :: segments

def pushEscapedHtmlWithBreaks (value : List Char) : List Char :=
  (splitInclusive '\n' value).flatMap fun segment =>
    if segment.getLast? == some '\n' then escapeHtml segment.dropLast ++ "<br />".toList
    else escapeHtml segment

def urlPrefix (url : List Char) : List Char :=
  (["https://www.".toList, "http://www.".toList, "https://".toList, "http://".toList].find?
    fun start => start.isPrefixOf url).getD []

def pushUrlHtml (url : List Char) : List Char :=
  let hidden := urlPrefix url
  let remainder := url.drop hidden.length
  let (visible, suffix) :=
    if (remainder.drop 30).length == 1 then (remainder, []) else (remainder.take 30, remainder.drop 30)
  let cutoff := !suffix.isEmpty
  "<a href=\"".toList ++ escapeHtml url ++
    "\" target=\"_blank\" rel=\"nofollow noopener\" translate=\"no\">".toList ++
    "<span class=\"invisible\">".toList ++ escapeHtml hidden ++ "</span><span".toList ++
    (if cutoff then " class=\"ellipsis\"".toList else []) ++ ">".toList ++ escapeHtml visible ++
    "</span>".toList ++
    (if suffix.isEmpty then []
      else "<span class=\"invisible\">".toList ++ escapeHtml suffix ++ "</span>".toList) ++
    "</a>".toList

/-- What the renderer appends: escaped text, or one of its links. -/
inductive Piece where
  | text (value : List Char)
  | mention (url username : List Char)
  | remoteMention (url handle : List Char)
  | hashtag (url name : List Char)
  | link (url : List Char)
deriving DecidableEq

def Piece.html : Piece → List Char
  | .text value => pushEscapedHtmlWithBreaks value
  | .mention url username =>
      "<a href=\"".toList ++ escapeHtml url ++ "\" class=\"u-url mention\">@".toList ++
        escapeHtml username ++ "</a>".toList
  | .remoteMention url handle =>
      "<a href=\"".toList ++ escapeHtml url ++ "\" class=\"u-url mention\">@".toList ++
        escapeHtml handle ++ "</a>".toList
  | .hashtag url name =>
      "<a href=\"".toList ++ escapeHtml url ++
        "\" class=\"mention hashtag\" rel=\"tag\">#<span>".toList ++ escapeHtml name ++
        "</span></a>".toList
  | .link url => pushUrlHtml url

inductive TextLinkMatch where
  | mention (found : MentionMatch)
  | remoteMention (found : RemoteMentionMatch)
  | hashtag (found : HashtagMatch)
  | url (found : UrlMatch)
deriving DecidableEq

namespace TextLinkMatch

def start : TextLinkMatch → Nat
  | .mention found => found.start
  | .remoteMention found => found.start
  | .hashtag found => found.start
  | .url found => found.start

def stop : TextLinkMatch → Nat
  | .mention found => found.stop
  | .remoteMention found => found.stop
  | .hashtag found => found.stop
  | .url found => found.stop

/-- The order of `(start, Reverse(end))`. -/
def before (left right : TextLinkMatch) : Bool :=
  left.start < right.start || (left.start == right.start && right.stop ≤ left.stop)

end TextLinkMatch

def lookup (pairs : List (List Char × List Char)) (key : List Char) : Option (List Char) :=
  (pairs.reverse.find? fun pair => pair.1 == key).map Prod.snd

structure LinkTargets where
  mentions : List LocalAccount
  remoteMentions : List RemoteActor
  tags : List TagResponse

section

variable (context : TextContext) (targets : LinkTargets)

def LinkTargets.mentionUrls : List (List Char × List Char) :=
  targets.mentions.map fun account =>
    (account.username, publicUrl context ('@' :: account.username))

def LinkTargets.remoteMentionUrls : List (List Char × List Char) :=
  targets.remoteMentions.map fun actor => (actor.handle, actor.activitypubId)

def LinkTargets.tagUrls : List (List Char × List Char) :=
  targets.tags.map fun tag => (tag.name, tag.url)

variable (content : List Char)

def allLinkMatches : List TextLinkMatch :=
  ((localMentionMatches content).map TextLinkMatch.mention ++
    (remoteMentionMatches content).map TextLinkMatch.remoteMention ++
    (localHashtagMatches context content).map TextLinkMatch.hashtag ++
    (urlMatches context content).map TextLinkMatch.url)
    |>.insertionSort fun left right => left.before right

def renderLink : TextLinkMatch → Option Piece
  | .mention found =>
      match lookup (targets.mentionUrls context) found.username with
      | some url => some (.mention url found.username)
      | none => (slice content found.start found.stop).map .text
  | .remoteMention found =>
      match lookup targets.remoteMentionUrls found.handle with
      | some url => some (.remoteMention url found.handle)
      | none => (slice content found.start found.stop).map .text
  | .hashtag found =>
      match lookup targets.tagUrls found.name with
      | some url => some (.hashtag url found.name)
      | none => (slice content found.start found.stop).map .text
  | .url found => some (.link found.url)

/-- The loop over the links, from an offset on; `none` when a slice fails. -/
def renderLinks : List TextLinkMatch → Nat → Option (List Piece)
  | [], last => do
      let rest ← slice content last (byteLength content)
      return [.text rest]
  | link :: links, last =>
      if link.start < last then renderLinks links last
      else do
        let gap ← slice content last link.start
        let piece ← renderLink context targets content link
        let pieces ← renderLinks links link.stop
        return .text gap :: piece :: pieces

def statusContentPieces : Option (List Piece) :=
  renderLinks context targets content (allLinkMatches context content) 0

def statusContentHtmlWithMentionsAndTags : Option (List Char) := do
  let pieces ← statusContentPieces context targets content
  return "<p>".toList ++ pieces.flatMap Piece.html ++ "</p>".toList

end

end Roosty.Content
