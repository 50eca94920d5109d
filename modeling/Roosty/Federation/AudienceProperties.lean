import Roosty.Federation.InboxProperties
import Roosty.Federation.OutboundNote

/-!
# Audience of a Note between two servers

One server builds the Note of a status, another classifies its audience and looks
up the accounts that it mentions. The visibility survives wherever the Note has a
recipient; mentions survive where the sender addresses them.
-/

set_option autoImplicit false

namespace Roosty.Federation.Outbound

open Library Inbox

/-- The sending server, its local accounts and the author; the receiving server,
its accounts and those of them that follow the author; the status. -/
structure Exchange where
  sender : Context
  senderAccounts : List LocalAccount
  username : String
  receiver : Context
  receiverAccounts : List LocalAccount
  localFollowers : List AccountId
  author : RemoteActor
  status : OutboundStatus
  audience : StatusRemoteAudience

namespace Exchange

variable (exchange : Exchange)

def note : Note :=
  noteObjectWithRemoteAudience exchange.sender exchange.senderAccounts exchange.username
    exchange.status exchange.audience

def followers : String := followersUrl exchange.sender exchange.username

def classified (note : InboundNote) : Except RoostyError InboundAudience :=
  classifyRemoteAudience exchange.receiver.base exchange.receiverAccounts exchange.localFollowers
    note exchange.author

/-- The status mentions the account: its stored mentions are the usernames of
accounts of its own server and remote actors. -/
def Mentions (account : LocalAccount) : Prop :=
  (∃ mentioned ∈ exchange.senderAccounts,
    mentioned.username ∈ exchange.status.mentionUsernames ∧
      actorUrl exchange.sender mentioned.username =
        actorUrl exchange.receiver account.username) ∨
    ∃ actor ∈ exchange.audience.explicitMentions,
      actor.activitypubId = actorUrl exchange.receiver account.username

def RepliesTo (account : LocalAccount) : Prop :=
  exchange.audience.replyAuthor.map (fun actor => actor.activitypubId) =
    some (actorUrl exchange.receiver account.username)

def actors : List MentionedActor :=
  exchange.audience.explicitMentions ++ exchange.audience.replyAuthor.toList

/-- Two servers that publish actors under their base URL. Usernames have no
slashes, and the ids of actors are not those of collections. -/
structure Federated : Prop where
  senderUrl : ∀ path, exchange.sender.publicUrl path = exchange.sender.base ++ "/" ++ path
  senderNames : ∀ account ∈ exchange.senderAccounts, '/' ∉ account.username.toList
  receiverUrl : ∀ path, exchange.receiver.publicUrl path = exchange.receiver.base ++ "/" ++ path
  receiverNames : ∀ account ∈ exchange.receiverAccounts, '/' ∉ account.username.toList
  usernames : ∀ one ∈ exchange.receiverAccounts, ∀ two ∈ exchange.receiverAccounts,
    one.username = two.username → one = two
  ids : ∀ one ∈ exchange.receiverAccounts, ∀ two ∈ exchange.receiverAccounts,
    one.id = two.id → one = two
  followersUrl : exchange.author.followersUrl = some exchange.followers
  rows : ∀ one ∈ exchange.actors, ∀ two ∈ exchange.actors, one.id = two.id → one = two
  ordinary : ∀ actor ∈ exchange.actors,
    actor.activitypubId ≠ publicAudience ∧ actor.activitypubId ≠ exchange.followers

/-- The Note is read and classified with the visibility of its status, and the
receiving server notifies exactly the named ones of its accounts. -/
def Delivers (Named : LocalAccount → Prop) : Prop :=
  ∃ received audience, exchange.note.received = some received ∧
    exchange.classified received = .ok audience ∧
    audience.visibility = exchange.status.visibility ∧
    ∀ account ∈ exchange.receiverAccounts,
      account.id ∈ notificationRecipients exchange.receiver.base exchange.receiverAccounts
        received audience ↔ Named account

/-- The Note arrives and mentions exactly the accounts that the status mentions or
replies to. -/
def Arrives : Prop :=
  exchange.Delivers fun account => exchange.Mentions account ∨ exchange.RepliesTo account

/-- A status that quotes nothing, and that mentions no account of the receiving
server but the author it replies to, or has an eligible recipient there. -/
def Addressed : Prop :=
  exchange.status.body.quote = none ∧
    match exchange.status.visibility with
    | .publicStatus | .unlisted => ∀ account ∈ exchange.receiverAccounts,
        exchange.Mentions account → exchange.RepliesTo account
    | .privateStatus => exchange.localFollowers ≠ [] ∨
        ∃ account ∈ exchange.receiverAccounts,
          exchange.Mentions account ∨ exchange.RepliesTo account
    | .direct => ∃ account ∈ exchange.receiverAccounts,
        exchange.Mentions account ∨ exchange.RepliesTo account

variable {exchange}

/-!
## URLs
-/

private theorem actorUrl_eq (url : ∀ path, exchange.receiver.publicUrl path =
      exchange.receiver.base ++ "/" ++ path) (username : String) :
    (actorUrl exchange.receiver username).toList =
      (exchange.receiver.base ++ "/users/").toList ++ username.toList := by
  unfold actorUrl
  rw [url]
  simp [String.toList_append]

private theorem addressedAccount_iff (federated : exchange.Federated) {account : LocalAccount}
    (member : account ∈ exchange.receiverAccounts) {address : String} :
    addressedAccount exchange.receiver.base exchange.receiverAccounts address = some account.id ↔
      address = actorUrl exchange.receiver account.username := by
  have url := actorUrl_eq federated.receiverUrl
  unfold addressedAccount
  constructor
  · intro found
    obtain ⟨name, stripped, found⟩ := Option.bind_eq_some_iff.mp found
    split at found
    next => cases found
    next =>
      obtain ⟨other, selected, same⟩ := Option.bind_eq_some_iff.mp found
      have named : other.username.toList = name := by
        have chosen := List.find?_some selected
        exact beq_iff_eq.mp chosen
      have sameAccount := federated.ids other (List.mem_of_find?_eq_some selected) account member
        (Option.some.inj same)
      rw [List.isPrefixOf?_eq_some_iff_append_eq, ← named, sameAccount, ← url] at stripped
      exact String.toList_injective stripped.symm
  · intro same
    subst same
    have stripped : (exchange.receiver.base ++ "/users/").toList.isPrefixOf?
        (actorUrl exchange.receiver account.username).toList = some account.username.toList := by
      rw [List.isPrefixOf?_eq_some_iff_append_eq]
      exact (url account.username).symm
    have plain : account.username.toList.contains '/' = false := by
      rw [Bool.eq_false_iff]
      intro contained
      exact federated.receiverNames account member (List.contains_iff_mem.mp contained)
    rw [stripped, Option.bind_eq_bind, Option.bind_some, plain, if_neg Bool.false_ne_true]
    cases found : exchange.receiverAccounts.find? fun other =>
        other.username.toList == account.username.toList with
    | none =>
        have missing := List.find?_eq_none.mp found account member
        exact absurd (beq_self_eq_true _) missing
    | some other =>
        have chosen := List.find?_some found
        have sameName := String.toList_injective (beq_iff_eq.mp chosen)
        rw [federated.usernames other (List.mem_of_find?_eq_some found) account member sameName]
        rfl

private theorem publicAudience_ne {before after : List Char}
    (same : publicAudience.toList = before ++ "/users/".toList ++ after) : False := by
  have infixed : "/users/".toList <:+: publicAudience.toList := ⟨before, after, same.symm⟩
  revert infixed
  decide +kernel

private theorem senderUrl_eq (federated : exchange.Federated) (username : String) :
    (actorUrl exchange.sender username).toList =
      exchange.sender.base.toList ++ "/users/".toList ++ username.toList := by
  unfold actorUrl
  rw [federated.senderUrl]
  simp [String.toList_append]

private theorem followers_eq (federated : exchange.Federated) :
    exchange.followers.toList = exchange.sender.base.toList ++ "/users/".toList ++
      (exchange.username.toList ++ "/followers".toList) := by
  unfold followers Outbound.followersUrl
  rw [String.toList_append, senderUrl_eq federated, List.append_assoc]

private theorem followers_ne (federated : exchange.Federated) :
    exchange.followers ≠ publicAudience := by
  intro same
  have text := followers_eq federated
  rw [same] at text
  exact publicAudience_ne text

/-!
## Tags
-/

variable (exchange) in
def tagUrls : List String :=
  (noteTags exchange.sender exchange.senderAccounts exchange.status exchange.audience).map
    MentionTag.href

variable (exchange) in
def Tagged (account : LocalAccount) : Prop :=
  actorUrl exchange.receiver account.username ∈ exchange.tagUrls

private theorem mem_localMentions {url : String} :
    url ∈ ((exchange.status.mentionUsernames.filterMap fun username =>
        exchange.senderAccounts.find? fun account => account.username == username).map
          fun account => actorUrl exchange.sender account.username) ↔
      ∃ mentioned ∈ exchange.senderAccounts,
        mentioned.username ∈ exchange.status.mentionUsernames ∧
          actorUrl exchange.sender mentioned.username = url := by
  constructor
  · intro member
    obtain ⟨account, named, rfl⟩ := List.mem_map.mp member
    obtain ⟨username, listed, found⟩ := List.mem_filterMap.mp named
    have same : account.username = username := beq_iff_eq.mp (List.find?_some found :)
    exact ⟨account, List.mem_of_find?_eq_some found, same ▸ listed, rfl⟩
  · rintro ⟨account, member, listed, rfl⟩
    cases found : exchange.senderAccounts.find? fun other =>
        other.username == account.username with
    | none =>
        have missing := List.find?_eq_none.mp found account member
        exact absurd (beq_self_eq_true _) missing
    | some other =>
        have same : other.username = account.username :=
          beq_iff_eq.mp (List.find?_some found :)
        exact List.mem_map.mpr
          ⟨other, List.mem_filterMap.mpr ⟨account.username, listed, found⟩, by rw [same]⟩

private theorem mem_replyTags (federated : exchange.Federated) {url : String} :
    url ∈ exchange.audience.explicitMentions.map (fun actor => actor.activitypubId) ++
        (exchange.audience.replyAuthor.filter fun actor =>
          !exchange.audience.explicitMentions.any fun mention => mention.id == actor.id).toList.map
            (fun actor => actor.activitypubId) ↔
      (∃ actor ∈ exchange.audience.explicitMentions, actor.activitypubId = url) ∨
        exchange.audience.replyAuthor.map (fun actor => actor.activitypubId) = some url := by
  rw [List.mem_append, List.mem_map]
  constructor
  · refine Or.imp_right ?_
    intro kept
    obtain ⟨actor, kept, same⟩ := List.mem_map.mp kept
    have author := (Option.filter_eq_some_iff.mp (Option.mem_toList.mp kept)).1
    exact Option.map_eq_some_iff.mpr ⟨actor, author, same⟩
  · rintro (mentioned | reply)
    · exact .inl mentioned
    obtain ⟨actor, author, same⟩ := Option.map_eq_some_iff.mp reply
    cases explicit : exchange.audience.explicitMentions.any
        fun mention => mention.id == actor.id with
    | true =>
        obtain ⟨mention, listed, row⟩ := List.any_eq_true.mp explicit
        have actors := federated.rows mention (List.mem_append_left _ listed) actor
          (List.mem_append_right _ (Option.mem_toList.mpr author)) (beq_iff_eq.mp row)
        exact .inl ⟨mention, listed, actors ▸ same⟩
    | false =>
        refine .inr ?_
        rw [author, Option.filter_some, explicit]
        exact List.mem_singleton.mpr same.symm

/-- The tags of a Note name the stored mentions and the author replied to. -/
private theorem mem_tagUrls (federated : exchange.Federated) {url : String} :
    url ∈ exchange.tagUrls ↔
      (∃ mentioned ∈ exchange.senderAccounts,
        mentioned.username ∈ exchange.status.mentionUsernames ∧
          actorUrl exchange.sender mentioned.username = url) ∨
      (∃ actor ∈ exchange.audience.explicitMentions, actor.activitypubId = url) ∨
        exchange.audience.replyAuthor.map (fun actor => actor.activitypubId) = some url := by
  rw [← mem_localMentions, ← mem_replyTags federated, ← List.mem_append]
  unfold tagUrls noteTags
  simp only [List.map_append, List.map_map, List.append_assoc]
  rfl

private theorem tagged_iff (federated : exchange.Federated) {account : LocalAccount} :
    exchange.Tagged account ↔ exchange.Mentions account ∨ exchange.RepliesTo account := by
  unfold Tagged Mentions RepliesTo
  rw [mem_tagUrls federated, or_assoc]

private theorem mention_ne (federated : exchange.Federated) {url : String}
    (member : url ∈ exchange.tagUrls) : url ≠ publicAudience ∧ url ≠ exchange.followers := by
  rcases (mem_tagUrls federated).mp member with
    ⟨account, known, _, rfl⟩ | ⟨actor, mentioned, rfl⟩ | reply
  · constructor
    · intro same
      have text := senderUrl_eq federated account.username
      rw [same] at text
      exact publicAudience_ne text
    · intro same
      have text := senderUrl_eq federated account.username
      rw [same, followers_eq federated] at text
      have name := List.append_cancel_left text
      apply federated.senderNames account known
      rw [← name]
      exact List.mem_append_right _ (by decide)
  · exact federated.ordinary actor (List.mem_append_left _ mentioned)
  · obtain ⟨actor, author, rfl⟩ := Option.map_eq_some_iff.mp reply
    exact federated.ordinary actor (List.mem_append_right _ (Option.mem_toList.mpr author))

/-!
## Addresses
-/

variable (exchange) in
def addresses : List String := exchange.note.sentTo ++ exchange.note.cc

private theorem mem_addresses_everyone {url : String}
    (visible : exchange.status.visibility = .publicStatus ∨
      exchange.status.visibility = .unlisted) :
    url ∈ exchange.addresses ↔ url = publicAudience ∨ url = exchange.followers ∨
      exchange.audience.replyAuthor.map (fun actor => actor.activitypubId) = some url := by
  unfold addresses note noteObjectWithRemoteAudience
  rcases visible with visible | visible
  · simp [visible, statusAudience, followers]
  · simp [visible, statusAudience, followers, or_left_comm]

private theorem mem_addresses_private {url : String}
    (visible : exchange.status.visibility = .privateStatus) :
    url ∈ exchange.addresses ↔ url = exchange.followers ∨ url ∈ exchange.tagUrls := by
  unfold addresses note noteObjectWithRemoteAudience
  simp [visible, statusAudience, followers, tagUrls]

private theorem mem_addresses_direct (federated : exchange.Federated) {url : String}
    (visible : exchange.status.visibility = .direct) :
    url ∈ exchange.addresses ↔ url ∈ exchange.tagUrls := by
  have replied : exchange.audience.replyAuthor.map (fun actor => actor.activitypubId) = some url →
      url ∈ exchange.tagUrls := fun reply => (mem_tagUrls federated).mpr (.inr (.inr reply))
  have stated : url ∈ exchange.addresses ↔ url ∈ exchange.tagUrls ∨
      exchange.audience.replyAuthor.map (fun actor => actor.activitypubId) = some url := by
    unfold addresses note noteObjectWithRemoteAudience
    simp [visible, statusAudience, tagUrls]
  rw [stated]
  exact or_iff_left_of_imp replied

/-!
## Classification
-/

variable (exchange) in
/-- An account that a mention tag and an address of the Note name. -/
def Reached (account : LocalAccount) : Prop :=
  exchange.Tagged account ∧ actorUrl exchange.receiver account.username ∈ exchange.addresses

variable {received : InboundNote}

private theorem received_fields (read : exchange.note.received = some received) :
    received.sentTo = exchange.note.sentTo ∧ received.cc = exchange.note.cc ∧
      received.tag = exchange.note.tag.map MentionTag.received := by
  unfold Note.received at read
  split at read
  · cases read
  · cases read
    exact ⟨rfl, rfl, rfl⟩

private theorem received_mentions (tags : List MentionTag) :
    ((tags.map MentionTag.received).filter fun tag => tag.type == .mention).filterMap
      InboundTag.href = tags.map MentionTag.href := by
  induction tags with
  | nil => rfl
  | cons tag tags inductive_hypothesis =>
      rw [List.map_cons, List.map_cons, List.filter_cons_of_pos rfl, ← inductive_hypothesis]
      rfl

private theorem received_wellFormed (tags : List MentionTag) :
    (((tags.map MentionTag.received).filter fun tag => tag.type == .mention).any fun tag =>
      tag.href.isNone) = false := by
  rw [List.any_eq_false]
  intro tag member
  obtain ⟨sent, _, rfl⟩ := List.mem_map.mp (List.mem_filter.mp member).1
  exact Bool.false_ne_true

private theorem mem_ids {id : AccountId} {ids : List AccountId} :
    id ∈ (Poll.sortDedup (ids.map AccountId.value)).map AccountId.mk ↔ id ∈ ids := by
  rw [List.mem_map]
  constructor
  · rintro ⟨value, member, rfl⟩
    obtain ⟨other, listed, rfl⟩ := List.mem_map.mp (Poll.mem_sortDedup.mp member)
    exact listed
  · intro listed
    exact ⟨id.value, Poll.mem_sortDedup.mpr (List.mem_map_of_mem listed), rfl⟩

private theorem mem_localMentionRecipients (federated : exchange.Federated) {urls : List String}
    {account : LocalAccount} (member : account ∈ exchange.receiverAccounts) :
    account.id ∈ localMentionRecipients exchange.receiver.base exchange.receiverAccounts urls ↔
      actorUrl exchange.receiver account.username ∈ urls := by
  unfold localMentionRecipients
  rw [List.mem_filterMap]
  constructor
  · rintro ⟨url, listed, found⟩
    rw [← (addressedAccount_iff federated member).mp found]
    exact listed
  · intro listed
    exact ⟨_, listed, (addressedAccount_iff federated member).mpr rfl⟩

private theorem localMentionRecipients_known {base : String} {accounts : List LocalAccount}
    {urls : List String} {id : AccountId}
    (member : id ∈ localMentionRecipients base accounts urls) :
    ∃ account ∈ accounts, account.id = id := by
  obtain ⟨url, _, found⟩ := List.mem_filterMap.mp member
  obtain ⟨name, _, found⟩ := Option.bind_eq_some_iff.mp found
  split at found
  · cases found
  · obtain ⟨account, selected, same⟩ := Option.bind_eq_some_iff.mp found
    exact ⟨account, List.mem_of_find?_eq_some selected, Option.some.inj same⟩

variable (exchange) in
/-- The recipients that the receiving server finds among the addresses. -/
def recipients : List AccountId :=
  (Poll.sortDedup ((localMentionRecipients exchange.receiver.base exchange.receiverAccounts
    (exchange.addresses.filter exchange.tagUrls.contains)).map AccountId.value)).map AccountId.mk

private theorem mem_recipients (federated : exchange.Federated) {account : LocalAccount}
    (member : account ∈ exchange.receiverAccounts) :
    account.id ∈ exchange.recipients ↔ exchange.Reached account := by
  unfold recipients Reached Tagged
  rw [mem_ids, mem_localMentionRecipients federated member, List.mem_filter,
    List.contains_iff_mem, and_comm]

private theorem recipients_isEmpty (federated : exchange.Federated) :
    exchange.recipients.isEmpty = false ↔
      ∃ account ∈ exchange.receiverAccounts, exchange.Reached account := by
  constructor
  · intro filled
    obtain ⟨id, listed⟩ := List.exists_mem_of_ne_nil exchange.recipients
      (fun empty => by rw [empty] at filled; cases filled)
    obtain ⟨account, member, rfl⟩ := localMentionRecipients_known (mem_ids.mp listed)
    exact ⟨account, member, (mem_recipients federated member).mp listed⟩
  · rintro ⟨account, member, reached⟩
    exact List.isEmpty_eq_false_iff_exists_mem.mpr
      ⟨account.id, (mem_recipients federated member).mpr reached⟩

private theorem classified_eq (federated : exchange.Federated)
    (read : exchange.note.received = some received) :
    exchange.classified received =
      if exchange.note.sentTo.contains publicAudience then .ok .everyone
      else if exchange.note.cc.contains publicAudience then .ok .unlisted
      else if exchange.addresses.isEmpty then .error (.invalidInput "remote Note audience is empty")
      else if !exchange.addresses.all fun address => exchange.tagUrls.contains address ||
          some exchange.followers == some address then
        .error (.invalidInput "remote Note audience contains an unknown collection")
      else if exchange.addresses.any fun address => some exchange.followers == some address then
        if exchange.localFollowers.isEmpty && exchange.recipients.isEmpty then
          .error (.invalidInput "remote private Note has no eligible local recipient")
        else .ok (.followers exchange.recipients)
      else if exchange.recipients.isEmpty ||
          exchange.tagUrls.any fun mention => !exchange.addresses.contains mention then
        .error (.invalidInput "remote direct Note has no eligible local recipient")
      else .ok (.direct exchange.recipients) := by
  obtain ⟨sentTo, cc, tag⟩ := received_fields read
  have mentions : exchange.note.tag.map MentionTag.href = exchange.tagUrls := rfl
  unfold classified classifyRemoteAudience recipients localMentionRecipients addresses
  dsimp only
  rw [sentTo, cc, tag, received_mentions, received_wellFormed, mentions, federated.followersUrl,
    if_neg Bool.false_ne_true, List.map_filterMap]

private theorem mem_notificationRecipients (federated : exchange.Federated)
    (read : exchange.note.received = some received) {audience : InboundAudience}
    (explicit : audience.explicitRecipients = [] ∨
      audience.explicitRecipients = exchange.recipients)
    {account : LocalAccount} (member : account ∈ exchange.receiverAccounts) :
    account.id ∈ notificationRecipients exchange.receiver.base exchange.receiverAccounts
      received audience ↔ exchange.Reached account := by
  obtain ⟨sentTo, cc, tag⟩ := received_fields read
  have mentions : exchange.note.tag.map MentionTag.href = exchange.tagUrls := rfl
  unfold notificationRecipients
  dsimp only
  rw [sentTo, cc, tag, received_mentions, mentions, mem_ids, List.mem_append,
    mem_localMentionRecipients federated member, List.mem_filter, List.contains_iff_mem]
  change exchange.Reached account ∨ _ ↔ _
  rcases explicit with explicit | explicit
  · rw [explicit]
    exact or_iff_left List.not_mem_nil
  · rw [explicit, mem_recipients federated member, or_self]

private theorem not_sentTo (federated : exchange.Federated)
    (visible : exchange.status.visibility ≠ .publicStatus) :
    exchange.note.sentTo.contains publicAudience = false := by
  have followers := followers_ne federated
  rw [Bool.eq_false_iff]
  intro sent
  rw [List.contains_iff_mem] at sent
  unfold note noteObjectWithRemoteAudience at sent
  dsimp only at sent
  cases visibility : exchange.status.visibility with
  | publicStatus => exact visible visibility
  | direct =>
      rw [visibility, if_pos rfl, Poll.mem_sortDedup] at sent
      exact (mention_ne federated sent).1 rfl
  | unlisted | privateStatus =>
      rw [visibility, if_neg (by decide), Poll.mem_sortDedup] at sent
      exact followers (List.mem_singleton.mp sent).symm

private theorem classified_everyone (federated : exchange.Federated)
    (read : exchange.note.received = some received)
    (visible : exchange.status.visibility = .publicStatus) :
    exchange.classified received = .ok .everyone := by
  rw [classified_eq federated read, if_pos]
  rw [List.contains_iff_mem]
  unfold note noteObjectWithRemoteAudience
  simp [visible, statusAudience]

private theorem classified_unlisted (federated : exchange.Federated)
    (read : exchange.note.received = some received)
    (visible : exchange.status.visibility = .unlisted) :
    exchange.classified received = .ok .unlisted := by
  have sent := not_sentTo federated (by rw [visible]; decide)
  have copied : exchange.note.cc.contains publicAudience = true := by
    rw [List.contains_iff_mem]
    unfold note noteObjectWithRemoteAudience
    simp [visible, statusAudience]
  rw [classified_eq federated read, sent, if_neg Bool.false_ne_true, copied, if_pos rfl]

private theorem not_public {addresses : List String}
    (listed : ∀ url ∈ addresses, url ∈ exchange.addresses)
    (ordinary : ∀ url ∈ exchange.addresses, url ≠ publicAudience) :
    addresses.contains publicAudience = false := by
  rw [Bool.eq_false_iff]
  intro sent
  exact ordinary _ (listed _ (List.contains_iff_mem.mp sent)) rfl

private theorem classified_restricted (federated : exchange.Federated)
    (read : exchange.note.received = some received)
    (ordinary : ∀ url ∈ exchange.addresses, url = exchange.followers ∨ url ∈ exchange.tagUrls)
    (filled : exchange.addresses ≠ []) :
    exchange.classified received =
      if exchange.addresses.any fun address => some exchange.followers == some address then
        if exchange.localFollowers.isEmpty && exchange.recipients.isEmpty then
          .error (.invalidInput "remote private Note has no eligible local recipient")
        else .ok (.followers exchange.recipients)
      else if exchange.recipients.isEmpty ||
          exchange.tagUrls.any fun mention => !exchange.addresses.contains mention then
        .error (.invalidInput "remote direct Note has no eligible local recipient")
      else .ok (.direct exchange.recipients) := by
  have secret : ∀ url ∈ exchange.addresses, url ≠ publicAudience := by
    intro url member
    rcases ordinary url member with same | mentioned
    · rw [same]
      exact followers_ne federated
    · exact (mention_ne federated mentioned).1
  have sent : exchange.note.sentTo.contains publicAudience = false := not_public
    (fun _ member => List.mem_append_left _ member) secret
  have copied : exchange.note.cc.contains publicAudience = false := not_public
    (fun _ member => List.mem_append_right _ member) secret
  have supported : (exchange.addresses.all fun address => exchange.tagUrls.contains address ||
      some exchange.followers == some address) = true := by
    rw [List.all_eq_true]
    intro address member
    rcases ordinary address member with same | mentioned
    · rw [same, beq_self_eq_true, Bool.or_true]
    · rw [List.contains_iff_mem.mpr mentioned, Bool.true_or]
  have nonempty : exchange.addresses.isEmpty = false := List.isEmpty_eq_false_iff.mpr filled
  rw [classified_eq federated read, sent, copied, nonempty, supported]
  rfl

private theorem classified_private (federated : exchange.Federated)
    (read : exchange.note.received = some received)
    (visible : exchange.status.visibility = .privateStatus) :
    exchange.classified received =
      if exchange.localFollowers.isEmpty && exchange.recipients.isEmpty then
        .error (.invalidInput "remote private Note has no eligible local recipient")
      else .ok (.followers exchange.recipients) := by
  have addressed : exchange.followers ∈ exchange.addresses :=
    (mem_addresses_private visible).mpr (.inl rfl)
  have collection : (exchange.addresses.any fun address =>
      some exchange.followers == some address) = true :=
    List.any_eq_true.mpr ⟨_, addressed, beq_self_eq_true _⟩
  rw [classified_restricted federated read
    (fun url member => (mem_addresses_private visible).mp member)
    (List.ne_nil_of_mem addressed), if_pos collection]

private theorem classified_direct (federated : exchange.Federated)
    (read : exchange.note.received = some received)
    (visible : exchange.status.visibility = .direct) {audience : InboundAudience} :
    exchange.classified received = .ok audience ↔
      exchange.recipients.isEmpty = false ∧ audience = .direct exchange.recipients := by
  have addressed : ∀ {url}, url ∈ exchange.addresses ↔ url ∈ exchange.tagUrls :=
    mem_addresses_direct federated visible
  by_cases empty : exchange.addresses = []
  · have unreached : exchange.recipients.isEmpty = true := by
      unfold recipients
      rw [empty]
      rfl
    have secret : ∀ url ∈ exchange.addresses, url ≠ publicAudience := by
      rw [empty]
      exact fun _ member => absurd member List.not_mem_nil
    have sent : exchange.note.sentTo.contains publicAudience = false := not_public
      (fun _ member => List.mem_append_left _ member) secret
    have copied : exchange.note.cc.contains publicAudience = false := not_public
      (fun _ member => List.mem_append_right _ member) secret
    rw [classified_eq federated read, sent, copied, empty, unreached]
    constructor
    · intro accepted
      cases accepted
    · rintro ⟨filled, _⟩
      cases filled
  · have collection : (exchange.addresses.any fun address =>
        some exchange.followers == some address) = false := by
      rw [List.any_eq_false]
      intro address member same
      have mentioned := addressed.mp member
      exact (mention_ne federated mentioned).2 (Option.some.inj (beq_iff_eq.mp same)).symm
    have complete : (exchange.tagUrls.any fun mention =>
        !exchange.addresses.contains mention) = false := by
      rw [List.any_eq_false]
      intro mention member
      rw [List.contains_iff_mem.mpr (addressed.mpr member)]
      exact Bool.false_ne_true
    rw [classified_restricted federated read
      (fun url member => .inr (addressed.mp member)) empty, if_neg (by rw [collection]; decide),
      complete, Bool.or_false]
    cases exchange.recipients.isEmpty with
    | true => simp
    | false => simp [eq_comm]

/-!
## Arrival
-/

private theorem reached_everyone (federated : exchange.Federated)
    (visible : exchange.status.visibility = .publicStatus ∨
      exchange.status.visibility = .unlisted) {account : LocalAccount} :
    exchange.Reached account ↔ exchange.Tagged account ∧ exchange.RepliesTo account := by
  unfold Reached RepliesTo
  rw [mem_addresses_everyone visible]
  constructor
  · rintro ⟨mentioned, same | same | reply⟩
    · exact absurd same (mention_ne federated mentioned).1
    · exact absurd same (mention_ne federated mentioned).2
    · exact ⟨mentioned, reply⟩
  · rintro ⟨mentioned, reply⟩
    exact ⟨mentioned, .inr (.inr reply)⟩

private theorem reached_private (visible : exchange.status.visibility = .privateStatus)
    {account : LocalAccount} : exchange.Reached account ↔ exchange.Tagged account := by
  unfold Reached
  rw [mem_addresses_private visible]
  exact ⟨And.left, fun mentioned => ⟨mentioned, .inr mentioned⟩⟩

private theorem reached_direct (federated : exchange.Federated)
    (visible : exchange.status.visibility = .direct)
    {account : LocalAccount} : exchange.Reached account ↔ exchange.Tagged account := by
  unfold Reached
  rw [mem_addresses_direct federated visible]
  exact ⟨And.left, fun mentioned => ⟨mentioned, mentioned⟩⟩

private theorem received_iff : exchange.status.body.quote = none ↔
    ∃ received, exchange.note.received = some received := by
  have body : exchange.note.body = exchange.status.body := rfl
  unfold Note.received
  rw [body]
  cases exchange.status.body.quote with
  | none => simp
  | some quote => simp

private theorem arrives_everyone_iff (federated : exchange.Federated) {audience : InboundAudience}
    (read : exchange.note.received = some received)
    (visible : exchange.status.visibility = .publicStatus ∨
      exchange.status.visibility = .unlisted)
    (classified : exchange.classified received = .ok audience)
    (explicit : audience.explicitRecipients = [])
    (same : audience.visibility = exchange.status.visibility) :
    exchange.Delivers exchange.Tagged ↔ ∀ account ∈ exchange.receiverAccounts,
      exchange.Tagged account → exchange.RepliesTo account := by
  constructor
  · rintro ⟨other, result, readAgain, accepted, _, mentioned⟩ account member named
    cases Option.some.inj (read.symm.trans readAgain)
    cases Except.ok.inj (classified.symm.trans accepted)
    have reached := (mem_notificationRecipients federated read (.inl explicit) member).mp
      ((mentioned account member).mpr named)
    exact ((reached_everyone federated visible).mp reached).2
  · intro replied
    refine ⟨received, audience, read, classified, same, ?_⟩
    intro account member
    rw [mem_notificationRecipients federated read (.inl explicit) member,
      reached_everyone federated visible]
    exact and_iff_left_of_imp (replied account member)

private theorem arrives_restricted_iff (federated : exchange.Federated) {audience : InboundAudience}
    {Eligible : Prop} (read : exchange.note.received = some received)
    (explicit : audience.explicitRecipients = exchange.recipients)
    (reached : ∀ {account}, exchange.Reached account ↔ exchange.Tagged account)
    (same : audience.visibility = exchange.status.visibility)
    (classified : ∀ result, exchange.classified received = .ok result ↔
      Eligible ∧ result = audience) :
    exchange.Delivers exchange.Tagged ↔ Eligible := by
  constructor
  · rintro ⟨other, result, readAgain, accepted, _, _⟩
    cases Option.some.inj (read.symm.trans readAgain)
    exact ((classified result).mp accepted).1
  · intro eligible
    refine ⟨received, audience, read, (classified audience).mpr ⟨eligible, rfl⟩, same, ?_⟩
    intro account member
    rw [mem_notificationRecipients federated read (.inr explicit) member, reached]

private theorem recipients_filled (federated : exchange.Federated)
    (reached : ∀ {account}, exchange.Reached account ↔ exchange.Tagged account) :
    exchange.recipients.isEmpty = false ↔
      ∃ account ∈ exchange.receiverAccounts, exchange.Tagged account := by
  rw [recipients_isEmpty federated]
  simp only [reached]

private theorem delivers_tagged_iff (federated : exchange.Federated) :
    exchange.Delivers exchange.Tagged ↔ exchange.Arrives := by
  unfold Arrives
  rw [show exchange.Tagged = _ from funext fun _ => propext (tagged_iff federated)]

private theorem arrives_iff (federated : exchange.Federated)
    (read : exchange.note.received = some received) :
    exchange.Arrives ↔ exchange.Addressed := by
  have unquoted : exchange.status.body.quote = none := received_iff.mpr ⟨received, read⟩
  unfold Addressed
  rw [and_iff_right unquoted, ← delivers_tagged_iff federated]
  simp only [← tagged_iff federated]
  -- A tag that is no reply is a stored mention.
  have mentioned : (∀ account ∈ exchange.receiverAccounts,
        exchange.Tagged account → exchange.RepliesTo account) ↔
      ∀ account ∈ exchange.receiverAccounts,
        exchange.Mentions account → exchange.RepliesTo account := by
    simp only [tagged_iff federated, or_imp, imp_self, and_true]
  cases visible : exchange.status.visibility with
  | publicStatus =>
      exact (arrives_everyone_iff federated read (.inl visible)
        (classified_everyone federated read visible) rfl visible.symm).trans mentioned
  | unlisted =>
      exact (arrives_everyone_iff federated read (.inr visible)
        (classified_unlisted federated read visible) rfl visible.symm).trans mentioned
  | privateStatus =>
      have reached : ∀ {account}, exchange.Reached account ↔ exchange.Tagged account :=
        reached_private visible
      have audience : (InboundAudience.followers exchange.recipients).explicitRecipients =
        exchange.recipients := rfl
      refine arrives_restricted_iff federated read audience reached visible.symm ?_
      intro result
      rw [classified_private federated read visible, ← recipients_filled federated reached]
      cases exchange.recipients.isEmpty with
      | true => cases exchange.localFollowers <;> simp [eq_comm]
      | false => simp [eq_comm]
  | direct =>
      have reached : ∀ {account}, exchange.Reached account ↔ exchange.Tagged account :=
        reached_direct federated visible
      have audience : (InboundAudience.direct exchange.recipients).explicitRecipients =
        exchange.recipients := rfl
      refine arrives_restricted_iff federated read audience reached visible.symm ?_
      intro result
      rw [classified_direct federated read visible, recipients_filled federated reached]

private theorem notified_iff (federated : exchange.Federated)
    (read : exchange.note.received = some received) {audience : InboundAudience}
    (accepted : exchange.classified received = .ok audience) {account : LocalAccount}
    (member : account ∈ exchange.receiverAccounts) :
    account.id ∈ notificationRecipients exchange.receiver.base exchange.receiverAccounts
      received audience ↔ exchange.Reached account := by
  refine mem_notificationRecipients federated read ?_ member
  cases visible : exchange.status.visibility with
  | publicStatus =>
      rw [classified_everyone federated read visible] at accepted
      cases accepted
      exact .inl rfl
  | unlisted =>
      rw [classified_unlisted federated read visible] at accepted
      cases accepted
      exact .inl rfl
  | privateStatus =>
      rw [classified_private federated read visible] at accepted
      split at accepted
      · cases accepted
      · cases accepted
        exact .inr rfl
  | direct =>
      obtain ⟨_, rfl⟩ := (classified_direct federated read visible).mp accepted
      exact .inr rfl

private theorem replied_reached (federated : exchange.Federated) {account : LocalAccount}
    (reply : exchange.RepliesTo account) : exchange.Reached account := by
  have tagged : exchange.Tagged account := (tagged_iff federated).mpr (.inr reply)
  cases visible : exchange.status.visibility with
  | publicStatus => exact (reached_everyone federated (.inl visible)).mpr ⟨tagged, reply⟩
  | unlisted => exact (reached_everyone federated (.inr visible)).mpr ⟨tagged, reply⟩
  | privateStatus => exact (reached_private visible).mpr tagged
  | direct => exact (reached_direct federated visible).mpr tagged

private theorem delivers_mentions_iff (federated : exchange.Federated) :
    exchange.Delivers exchange.Mentions ↔ exchange.Arrives ∧
      ∀ account ∈ exchange.receiverAccounts,
        exchange.RepliesTo account → exchange.Mentions account := by
  constructor
  · rintro ⟨received, audience, read, accepted, same, notified⟩
    have replied : ∀ account ∈ exchange.receiverAccounts,
        exchange.RepliesTo account → exchange.Mentions account := by
      intro account member reply
      have reached := replied_reached federated reply
      exact (notified account member).mp
        ((notified_iff federated read accepted member).mpr reached)
    refine ⟨⟨received, audience, read, accepted, same, ?_⟩, replied⟩
    intro account member
    exact (notified account member).trans (or_iff_left_of_imp (replied account member)).symm
  · rintro ⟨⟨received, audience, read, accepted, same, notified⟩, replied⟩
    refine ⟨received, audience, read, accepted, same, ?_⟩
    intro account member
    exact (notified account member).trans (or_iff_left_of_imp (replied account member))

/-- A restricted Note is never taken for a public one, and a Note arrives exactly
if it quotes nothing and its mentions or its recipients are addressed. An author
that is replied to without a mention is mentioned by the reply. -/
theorem audience_arrives_iff (federated : exchange.Federated) :
    (exchange.status.visibility = .privateStatus ∨ exchange.status.visibility = .direct →
      ∀ received audience, exchange.note.received = some received →
        exchange.classified received = .ok audience →
        audience.visibility ≠ .publicStatus ∧ audience.visibility ≠ .unlisted) ∧
      (exchange.Arrives ↔ exchange.Addressed) ∧
      (exchange.Delivers exchange.Mentions ↔ exchange.Addressed ∧
        ∀ account ∈ exchange.receiverAccounts,
          exchange.RepliesTo account → exchange.Mentions account) := by
  have arrives : exchange.Arrives ↔ exchange.Addressed := by
    constructor
    · intro arrives
      obtain ⟨received, audience, read, rest⟩ := arrives
      exact (arrives_iff federated read).mp ⟨received, audience, read, rest⟩
    · intro addressed
      obtain ⟨received, read⟩ := received_iff.mp addressed.1
      exact (arrives_iff federated read).mpr addressed
  have mentioned := delivers_mentions_iff federated
  rw [arrives] at mentioned
  refine ⟨?_, arrives, mentioned⟩
  rintro (visible | visible) received audience read accepted
  · rw [classified_private federated read visible] at accepted
    split at accepted
    · cases accepted
    · cases accepted
      exact ⟨nofun, nofun⟩
  · obtain ⟨_, rfl⟩ := (classified_direct federated read visible).mp accepted
    exact ⟨nofun, nofun⟩

end Exchange

/-!
## Two servers
-/

namespace Greeting

open Inbox.Sample (server)

def remote : Context :=
  { server with base := "https://remote.example", publicUrl := ("https://remote.example/" ++ ·) }

def bob : MentionedActor :=
  { id := ⟨2⟩, activitypubId := "https://local.example/users/bob", followersUrl := none
    username := "bob", domain := "local.example" }

def greeting (visibility : StatusVisibility) : Exchange where
  sender := remote
  senderAccounts := [⟨⟨1⟩, "alice", false⟩]
  username := "alice"
  receiver := server
  receiverAccounts := [⟨⟨1⟩, "bob", false⟩]
  localFollowers := []
  author := ⟨⟨7⟩, "https://remote.example/users/alice",
    some "https://remote.example/users/alice/followers"⟩
  status :=
    { id := ⟨5⟩, visibility := visibility, quoteApprovalPolicy := .everyone, mentionUsernames := []
      body := ⟨.note, "<p>Hello @bob@local.example</p>", "2026-07-01T00:00:00Z",
        "2026-07-01T00:00:00Z", none, [], none, none, ⟨[], [], none, none, none⟩⟩ }
  audience := ⟨[bob], none⟩

private theorem greeting_federated (visibility : StatusVisibility) :
    (greeting visibility).Federated where
  senderUrl path := by
    change "https://remote.example/" ++ path = "https://remote.example" ++ "/" ++ path
    congr 1
  senderNames := by cases visibility <;> decide
  receiverUrl path := by
    change "https://local.example/" ++ path = "https://local.example" ++ "/" ++ path
    congr 1
  receiverNames := by cases visibility <;> decide
  usernames := by cases visibility <;> decide
  ids := by cases visibility <;> decide
  followersUrl := by cases visibility <;> decide
  rows := by
    change ∀ one ∈ [bob], ∀ two ∈ [bob], one.id = two.id → one = two
    decide
  ordinary := by
    change ∀ actor ∈ [bob], actor.activitypubId ≠ publicAudience ∧
      actor.activitypubId ≠ "https://remote.example/users/alice/followers"
    decide

private theorem greeting_mentions (visibility : StatusVisibility) :
    ∀ account ∈ (greeting visibility).receiverAccounts,
      (greeting visibility).Mentions account := by
  unfold Exchange.Mentions
  cases visibility <;> decide +kernel

end Greeting

open Greeting in
theorem audience_arrives_iff_direct :
    (greeting .direct).Federated ∧ (greeting .direct).Addressed ∧ (greeting .direct).Arrives := by
  have federated := greeting_federated .direct
  have addressed : (greeting .direct).Addressed :=
    ⟨rfl, ⟨⟨1⟩, "bob", false⟩, List.mem_singleton.mpr rfl,
      .inl (greeting_mentions .direct _ (List.mem_singleton.mpr rfl))⟩
  exact ⟨federated, addressed, (Exchange.audience_arrives_iff federated).2.1.mpr addressed⟩

open Greeting in
/-- A mention in a public status is tagged but not addressed. -/
theorem public_mention_lost :
    (greeting .publicStatus).Federated ∧ (greeting .publicStatus).status.body.quote = none ∧
      ¬(greeting .publicStatus).Arrives ∧
      ¬(greeting .publicStatus).Delivers (greeting .publicStatus).Mentions := by
  have federated := greeting_federated .publicStatus
  have lost : ¬(greeting .publicStatus).Arrives := by
    intro arrives
    obtain ⟨received, audience, read, rest⟩ := arrives
    have addressed := (Exchange.arrives_iff federated read).mp ⟨received, audience, read, rest⟩
    have replied := addressed.2 ⟨⟨1⟩, "bob", false⟩ (List.mem_singleton.mpr rfl)
      (greeting_mentions .publicStatus _ (List.mem_singleton.mpr rfl))
    cases replied
  have exactly : ¬(greeting .publicStatus).Delivers (greeting .publicStatus).Mentions :=
    fun delivers => lost ((Exchange.delivers_mentions_iff federated).mp delivers).1
  exact ⟨federated, rfl, lost, exactly⟩

end Roosty.Federation.Outbound
