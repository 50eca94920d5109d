import Roosty.Federation.Inbox
import Roosty.Poll.Tables

/-!
# Inbound Notes

A Note or Question of a remote actor after deserialization, the form in which it
is stored, and what is read from it: its poll, attachments, hashtags and
audience. Parsed timestamps count nanoseconds.
-/

set_option autoImplicit false

namespace Roosty.Federation

open Library

/-!
## Wire types
-/

inductive InboundNoteType where
  | note
  | question
deriving DecidableEq

structure InboundPollOption where
  name : String
  /-- `replies.totalItems`. -/
  totalItems : UInt64
deriving DecidableEq

structure InboundPollFields where
  oneOf : List InboundPollOption
  anyOf : List InboundPollOption
  endTime : Option String
  closed : Option String
  votersCount : Option UInt64
deriving DecidableEq

inductive InboundAudienceValues where
  | one (value : String)
  | many (values : List String)
  | missing
deriving DecidableEq

structure InboundQuotePolicy where
  automaticApproval : InboundAudienceValues
  manualApproval : InboundAudienceValues
deriving DecidableEq

inductive InboundAttachmentType where
  | document
  | link
  | other
deriving DecidableEq

structure InboundAttachment where
  type : InboundAttachmentType
  mediaType : Option String
  url : Option Json
  href : Option String
  name : Option Json
  summary : Option Json
deriving DecidableEq

inductive InboundTagType where
  | mention
  | hashtag
  | emoji
  | mastodonEmoji
  | other
deriving DecidableEq

structure InboundTag where
  type : InboundTagType
  href : Option String
  name : Option String
  /-- The `url` of an emoji icon. -/
  icon : Option Json
deriving DecidableEq

/-- Remote Note fields needed for the cache projection. The reply collection is
carried over to the stored object only. -/
structure InboundNote where
  id : String
  type : InboundNoteType
  attributedTo : String
  content : String
  summary : Option String
  sensitive : Bool
  published : String
  updated : Option String
  /-- The field `to`. -/
  sentTo : List String
  cc : List String
  inReplyTo : Option String
  replies : Option Json
  tag : List InboundTag
  attachment : List InboundAttachment
  /-- The interaction policy and its `canQuote`. -/
  interactionPolicy : Option (Option InboundQuotePolicy)
  quote : Option String
  quoteAuthorization : Option String
  poll : InboundPollFields
deriving DecidableEq

inductive InboundStatusType where
  | create
  | update
deriving DecidableEq

structure InboundStatusActivity where
  type : InboundStatusType
  actor : String
  object : InboundNote
deriving DecidableEq

/-!
## Serialization
-/

def nullable {α : Type} (toValue : α → Json) : Option α → Json
  | none => .null
  | some value => toValue value

def strings (values : List String) : Json := .array (values.map .string)

def unsigned (value : UInt64) : Json := .number (.posInt value.toNat)

def InboundNoteType.toValue : InboundNoteType → Json
  | .note => .string "Note"
  | .question => .string "Question"

def InboundPollOption.toValue (option : InboundPollOption) : Json := .object
  [("name", .string option.name), ("replies", .object [("totalItems", unsigned option.totalItems)])]

def InboundAudienceValues.toValue : InboundAudienceValues → Json
  | .one value => .string value
  | .many values => strings values
  | .missing => .null

def InboundQuotePolicy.toValue (policy : InboundQuotePolicy) : Json := .object
  [("automaticApproval", policy.automaticApproval.toValue),
    ("manualApproval", policy.manualApproval.toValue)]

def InboundAttachmentType.toValue : InboundAttachmentType → Json
  | .document => .string "Document"
  | .link => .string "Link"
  | .other => .string "Other"

def InboundAttachment.toValue (attachment : InboundAttachment) : Json := .object
  [("href", nullable .string attachment.href),
    ("mediaType", nullable .string attachment.mediaType),
    ("name", nullable id attachment.name),
    ("summary", nullable id attachment.summary),
    ("type", attachment.type.toValue),
    ("url", nullable id attachment.url)]

def InboundTagType.toValue : InboundTagType → Json
  | .mention => .string "Mention"
  | .hashtag => .string "Hashtag"
  | .emoji => .string "Emoji"
  | .mastodonEmoji => .string "http://joinmastodon.org/ns#Emoji"
  | .other => .string "Other"

def InboundTag.toValue (tag : InboundTag) : Json := .object
  [("href", nullable .string tag.href),
    ("icon", nullable (fun url => .object [("url", url)]) tag.icon),
    ("name", nullable .string tag.name),
    ("type", tag.type.toValue)]

/-- The stored object. Every spelling of a quote is stored as `quote`, and the
poll fields are members of the Note itself. -/
def InboundNote.toValue (note : InboundNote) : Json := .object
  ([("anyOf", .array (note.poll.anyOf.map InboundPollOption.toValue)),
    ("attachment", .array (note.attachment.map InboundAttachment.toValue)),
    ("attributedTo", .string note.attributedTo),
    ("cc", strings note.cc),
    ("closed", nullable .string note.poll.closed),
    ("content", .string note.content),
    ("endTime", nullable .string note.poll.endTime),
    ("id", .string note.id),
    ("inReplyTo", nullable .string note.inReplyTo),
    ("interactionPolicy", nullable (fun policy =>
      .object [("canQuote", nullable InboundQuotePolicy.toValue policy)]) note.interactionPolicy),
    ("oneOf", .array (note.poll.oneOf.map InboundPollOption.toValue)),
    ("published", .string note.published),
    ("quote", nullable .string note.quote),
    ("quoteAuthorization", nullable .string note.quoteAuthorization)] ++
  (note.replies.map fun replies => ("replies", replies)).toList ++
  [("sensitive", .bool note.sensitive),
    ("summary", nullable .string note.summary),
    ("tag", .array (note.tag.map InboundTag.toValue)),
    ("to", strings note.sentTo),
    ("type", note.type.toValue),
    ("updated", nullable .string note.updated),
    ("votersCount", nullable unsigned note.poll.votersCount)])

/-!
## Readers
-/

/-- Configuration and functions of other libraries that a Note is read with. -/
structure NoteContext where
  statusActivity : Json → Option InboundStatusActivity
  inboundNote : Json → Option InboundNote
  /-- Nanoseconds since the Unix epoch of an RFC 3339 timestamp. -/
  parseTimestamp : String → Option Int
  /-- Microseconds that a timestamp column holds for a number of nanoseconds. -/
  timestamptz : Int → Int
  toLowercase : String → String
  isAlphanumeric : Char → Bool

variable (notes : NoteContext)

def InboundAudienceValues.values : InboundAudienceValues → List String
  | .one value => [value]
  | .many values => values
  | .missing => []

def InboundNote.quoteAutomaticPolicy (note : InboundNote) : List String :=
  match note.interactionPolicy with
  | some (some policy) => policy.automaticApproval.values
  | _ => []

def InboundNote.quoteManualPolicy (note : InboundNote) : List String :=
  match note.interactionPolicy with
  | some (some policy) => policy.manualApproval.values
  | _ => []

def parsePollTime (value : Option String) (field : String) : Except RoostyError (Option Int) :=
  match value with
  | none => .ok none
  | some text =>
      match notes.parseTimestamp text with
      | none => .error (.invalidInput ("remote Question " ++ field ++ " timestamp is invalid"))
      | some time => .ok (some (notes.timestamptz time))

/-- Validate Mastodon's ActivityStreams `Question` projection at the wire boundary. -/
def remotePollFromNote (note : InboundNote) : Except RoostyError (Option Poll.RemoteStatusPoll) :=
  if note.type = .note then .ok none
  else
    match note.poll.oneOf, note.poll.anyOf with
    | [], [] | _ :: _, _ :: _ => .error
        (.invalidInput "remote Question must contain exactly one of oneOf or anyOf")
    | oneOf, anyOf => do
        let options := (oneOf ++ anyOf).map fun option =>
          (Text.trim option.name, option.totalItems.toNat)
        let titles := options.map Prod.fst
        if titles.any (· == "") then
          .error (.invalidInput "remote Question contains an empty option")
        else if (Poll.sortDedup titles).length ≠ options.length then
          .error (.invalidInput "remote Question contains duplicate options")
        else do
          let expiresAt ← parsePollTime notes note.poll.endTime "endTime"
          let closedAt ← parsePollTime notes note.poll.closed "closed"
          return some ⟨options, oneOf.isEmpty, expiresAt, closedAt,
            note.poll.votersCount.map UInt64.toNat⟩

def InboundAttachment.remoteUrl (attachment : InboundAttachment) : Option String :=
  match attachment.url with
  | some (.string url) => some url
  | some (.object members) => ((Json.object members).get? "href").bind Json.asStr?
  | _ => none

def nonEmptyText (value : Json) : Option String :=
  value.asStr?.filter (· != "")

def languageValue : Json → Option String
  | .string value => nonEmptyText (.string value)
  | .object members =>
      (((Json.object members).get? "und").bind nonEmptyText).or
        (((members.map Prod.fst).insertionSort (· ≤ ·)).findSome? fun language =>
          ((Json.object members).get? language).bind nonEmptyText)
  | _ => none

def InboundAttachment.description (attachment : InboundAttachment) : Option String :=
  (attachment.name.bind languageValue).or (attachment.summary.bind languageValue)

structure NewRemoteMediaAttachment where
  remoteUrl : String
  contentType : Option String
  description : Option String
deriving DecidableEq

def InboundNote.attachments (note : InboundNote) : List NewRemoteMediaAttachment :=
  (note.attachment.filter fun attachment => attachment.type == .document).filterMap
    fun attachment => attachment.remoteUrl.map fun url =>
      ⟨url, attachment.mediaType, attachment.description⟩

def isTagName (name : String) : Bool :=
  name != "" && name.toList.all fun character => notes.isAlphanumeric character || character == '_'

def remoteHashtagNames (tags : List InboundTag) : List String :=
  Poll.sortDedup ((((tags.filter fun tag => tag.type == .hashtag).filterMap InboundTag.name).filterMap
    fun name => (['#'].isPrefixOf? name.toList).map fun rest =>
      notes.toLowercase (String.ofList rest)).filter (isTagName notes))

/-!
## Audience
-/

/-- Mastodon visibility and explicit local recipients derived from a remote Note
audience. -/
inductive InboundAudience where
  | everyone
  | unlisted
  | followers (recipients : List AccountId)
  | direct (recipients : List AccountId)
deriving DecidableEq

def InboundAudience.visibility : InboundAudience → StatusVisibility
  | .everyone => .publicStatus
  | .unlisted => .unlisted
  | .followers _ => .privateStatus
  | .direct _ => .direct

def InboundAudience.explicitRecipients : InboundAudience → List AccountId
  | .followers recipients | .direct recipients => recipients
  | .everyone | .unlisted => []

def publicAudience : String := "https://www.w3.org/ns/activitystreams#Public"

def addressedAccount (base : String) (accounts : List Inbox.LocalAccount) (address : String) :
    Option AccountId := do
  let username ← (base ++ "/users/").toList.isPrefixOf? address.toList
  if username.contains '/' then none
  else do
    let account ← accounts.find? fun account => account.username.toList == username
    return account.id

/-- Classify a verified Note using exact actor and collection identifiers. -/
def classifyRemoteAudience (base : String) (accounts : List Inbox.LocalAccount)
    (localFollowers : List AccountId) (note : InboundNote) (author : Inbox.RemoteActor) :
    Except RoostyError InboundAudience :=
  let mentioned := note.tag.filter fun tag => tag.type == .mention
  let mentions := mentioned.filterMap InboundTag.href
  let audience := note.sentTo ++ note.cc
  let toFollowers (address : String) : Bool := author.followersUrl == some address
  let recipients := (Poll.sortDedup ((audience.filter mentions.contains).filterMap fun address =>
    (addressedAccount base accounts address).map AccountId.value)).map AccountId.mk
  if note.sentTo.contains publicAudience then .ok .everyone
  else if note.cc.contains publicAudience then .ok .unlisted
  else if mentioned.any fun tag => tag.href.isNone then
    .error (.invalidInput "remote Note has a malformed mention")
  else if audience.isEmpty then .error (.invalidInput "remote Note audience is empty")
  else if !audience.all fun address => mentions.contains address || toFollowers address then
    .error (.invalidInput "remote Note audience contains an unknown collection")
  else if audience.any toFollowers then
    if localFollowers.isEmpty && recipients.isEmpty then
      .error (.invalidInput "remote private Note has no eligible local recipient")
    else .ok (.followers recipients)
  else if recipients.isEmpty || mentions.any fun mention => !audience.contains mention then
    .error (.invalidInput "remote direct Note has no eligible local recipient")
  else .ok (.direct recipients)

end Roosty.Federation
