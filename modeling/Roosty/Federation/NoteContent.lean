import Mathlib.Data.List.Infix
import Roosty.Content.Html
import Roosty.Federation.Quote
import Roosty.Library.WebUrl

/-!
# Content of outbound Notes

The field `content` of the Note that is built for a local status: the HTML of the status,
after a paragraph that names the quoted status.
-/

set_option autoImplicit false

namespace Roosty.Federation.Outbound

open Library Inbox

/-- `same_url_origin`: two URLs of the scheme `https` with one host and port. -/
def sameUrlOrigin {Host : Type} [DecidableEq Host] (parsers : WebUrl.Parsers Host)
    (left right : String) : Bool :=
  match WebUrl.httpsOrigin parsers left.toList with
  | none => false
  | some origin => WebUrl.httpsOrigin parsers right.toList == some origin

/-- The accounts, actors and tags that the text of a status links to. -/
def noteLinkTargets (text : Content.TextContext) (accounts : List Content.LocalAccount)
    (remoteMentions : List Content.RemoteActor) (content : List Char) : Content.LinkTargets where
  mentions := (Content.mentionUsernames text content).filterMap
    (Content.findLocalAccountByUsername accounts)
  remoteMentions := remoteMentions
  tags := Content.localStatusContentTagLinks text content

/-- The paragraph in front of a status that does not name what it quotes. -/
def quoteInline (activitypubId : List Char) : List Char :=
  "<p class=\"quote-inline\">RE: <a href=\"".toList ++ activitypubId ++ "\">".toList ++
    activitypubId ++ "</a></p>".toList

def withQuoteInline (html : List Char) : Option StatusQuote → List Char
  | none => html
  | some quote =>
      if quote.quotedActivitypubId.toList <:+: html then html
      else quoteInline quote.quotedActivitypubId.toList ++ html

/-- The field `content` that `note_object_with_remote_audience` builds. -/
def noteContent (text : Content.TextContext) (accounts : List Content.LocalAccount)
    (remoteMentions : List Content.RemoteActor) (relations : Relations) (statusId : StatusId)
    (content : List Char) : Option (List Char) := do
  let html ← Content.statusContentHtmlWithMentionsAndTags text
    (noteLinkTargets text accounts remoteMentions content) content
  return withQuoteInline html (quoteOf relations (.localStatus statusId))

end Roosty.Federation.Outbound
