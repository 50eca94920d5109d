import Roosty.Federation.Quote

/-!
# Outbound Notes

The Note that is built for a local status: its mentions, and the collections and
actors that it is addressed to. Text, timestamps, attachments, quote and poll
are those of the status and pass through.
-/

set_option autoImplicit false

namespace Roosty.Federation.Outbound

open Library Inbox

structure MentionedActor extends RemoteActor where
  username : String
  domain : String
deriving DecidableEq

/-- Remote actors that affect both Note addressing and activity delivery. -/
structure StatusRemoteAudience where
  explicitMentions : List MentionedActor
  replyAuthor : Option MentionedActor

structure NoteBody where
  type : InboundNoteType
  content : String
  published : String
  updated : String
  inReplyTo : Option String
  attachment : List InboundAttachment
  quote : Option String
  quoteAuthorization : Option String
  poll : InboundPollFields

structure OutboundStatus where
  id : StatusId
  visibility : StatusVisibility
  quoteApprovalPolicy : QuoteApprovalPolicy
  mentionUsernames : List String
  body : NoteBody

structure MentionTag where
  href : String
  name : String
deriving DecidableEq

/-- A quote is serialized twice, as `quote` and as `quoteUri`. -/
structure Note where
  id : String
  attributedTo : String
  tag : List MentionTag
  /-- The field `to`. -/
  sentTo : List String
  cc : List String
  interactionPolicy : InboundQuotePolicy
  body : NoteBody

variable (context : Context)

def followersUrl (username : String) : String := actorUrl context username ++ "/followers"

def statusAudience (username : String) : StatusVisibility → List String × List String
  | .unlisted => ([followersUrl context username], [publicAudience])
  | .privateStatus => ([followersUrl context username], [])
  | .direct => ([], [])
  | .publicStatus => ([publicAudience], [followersUrl context username])

def MentionedActor.tag (actor : MentionedActor) : MentionTag :=
  ⟨actor.activitypubId, "@" ++ actor.username ++ "@" ++ actor.domain⟩

/-- Mentions of local accounts, explicit mentions of remote actors, and the author
of the status that is replied to. -/
def noteTags (accounts : List LocalAccount) (status : OutboundStatus)
    (audience : StatusRemoteAudience) : List MentionTag :=
  let localMentions := status.mentionUsernames.filterMap fun username =>
    accounts.find? fun account => account.username == username
  (localMentions.map fun account => ⟨actorUrl context account.username, "@" ++ account.username⟩) ++
    audience.explicitMentions.map MentionedActor.tag ++
    (audience.replyAuthor.filter fun actor =>
      !audience.explicitMentions.any fun mention => mention.id == actor.id).toList.map
        MentionedActor.tag

def automaticApproval (username : String) : QuoteApprovalPolicy → InboundAudienceValues
  | .everyone => .one publicAudience
  | .followers => .one (followersUrl context username)
  | .nobody => .many []

def noteObjectWithRemoteAudience (accounts : List LocalAccount) (username : String)
    (status : OutboundStatus) (audience : StatusRemoteAudience) : Note :=
  let tag := noteTags context accounts status audience
  let hrefs := tag.map MentionTag.href
  let (addressed, copied) := statusAudience context username status.visibility
  let sentTo := if status.visibility = .direct then hrefs else addressed
  let cc := if status.visibility = .privateStatus then copied ++ hrefs
    else copied ++ (audience.replyAuthor.map fun actor => actor.activitypubId).toList
  { id := statusUrl context username status.id
    attributedTo := actorUrl context username
    tag := tag
    sentTo := Poll.sortDedup sentTo
    cc := Poll.sortDedup cc
    interactionPolicy := ⟨automaticApproval context username status.quoteApprovalPolicy, .many []⟩
    body := status.body }

def MentionTag.received (tag : MentionTag) : InboundTag :=
  ⟨.mention, some tag.href, some tag.name, none⟩

/-- What the deserializer of another server reads. Its field `quote` has the alias
`quoteUri`, and a field that occurs twice is an error. -/
def Note.received (note : Note) : Option InboundNote :=
  if note.body.quote.isSome then none
  else some {
    id := note.id
    type := note.body.type
    attributedTo := note.attributedTo
    content := note.body.content
    summary := none
    sensitive := false
    published := note.body.published
    updated := some note.body.updated
    sentTo := note.sentTo
    cc := note.cc
    inReplyTo := note.body.inReplyTo
    replies := none
    tag := note.tag.map MentionTag.received
    attachment := note.body.attachment
    interactionPolicy := some (some note.interactionPolicy)
    quote := none
    quoteAuthorization := note.body.quoteAuthorization
    poll := note.body.poll }

/-!
## Mentions of a received Note
-/

def localMentionRecipients (base : String) (accounts : List LocalAccount) (urls : List String) :
    List AccountId :=
  urls.filterMap (addressedAccount base accounts)

/-- The accounts that a received Note mentions: those of its mention tags that are
addressed, and its explicit recipients. -/
def notificationRecipients (base : String) (accounts : List LocalAccount) (note : InboundNote)
    (audience : InboundAudience) : List AccountId :=
  let mentionUrls := (note.tag.filter fun tag => tag.type == .mention).filterMap InboundTag.href
  let addressed := note.sentTo ++ note.cc
  let recipients := localMentionRecipients base accounts (mentionUrls.filter addressed.contains) ++
    audience.explicitRecipients
  (Poll.sortDedup (recipients.map AccountId.value)).map AccountId.mk

end Roosty.Federation.Outbound
