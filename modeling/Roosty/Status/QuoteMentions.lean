import Roosty.Content.MentionPlaces
import Roosty.Status.SchedulingProperties

/-!
# Mentions of quoted authors

A direct status may quote an author whom its text mentions. The check looks for a word, or
for a handle anywhere in the text; the recipients are the mentions that the extractors
find. The two agree where the handle stands by itself.
-/

set_option autoImplicit false

namespace Roosty.Status.Posting

open Library
open Content (TextContext IsMentionName IsMentionDomain MentionAt EndsName EndsDomain)

inductive QuotedAuthor where
  | localAccount (account : LocalAccount)
  | remoteActor (actor : RemoteActor)
deriving DecidableEq

namespace QuotedAuthor

def handle : QuotedAuthor → List Char
  | .localAccount account => account.username.toList
  | .remoteActor actor => actor.username.toList ++ '@' :: actor.domain.toList

def isMentioned (text : TextContext) (content : String) : QuotedAuthor → Bool
  | .localAccount account => mentionsLocalAuthor text account.username content
  | .remoteActor actor => mentionsRemoteAuthor actor content

/-- The names among which the recipients of a direct status are looked up. -/
def extracted (text : TextContext) (content : String) : QuotedAuthor → List (List Char)
  | .localAccount _ => Content.mentionUsernames text content.toList
  | .remoteActor _ => Content.remoteMentionHandles text content.toList

/-- The handle is well formed and stands somewhere by itself: where a mention may start,
with no further character of a name or a domain behind it, and in no URL. -/
def StandsAlone (text : TextContext) (content : String) : QuotedAuthor → Prop
  | .localAccount account =>
      IsMentionName account.username.toList ∧
        ∃ front rest, MentionAt text content.toList account.username.toList front rest ∧
          EndsName rest
  | .remoteActor actor =>
      IsMentionName actor.username.toList ∧ IsMentionDomain actor.domain.toList ∧
        ∃ front rest,
          MentionAt text content.toList (actor.username.toList ++ '@' :: actor.domain.toList)
            front rest ∧ EndsDomain rest

end QuotedAuthor

def quotedAuthor (db : Db) (rawId : String) : Option QuotedAuthor := do
  let id ← Text.parseUuid rawId
  match findLocalStatusById db ⟨id⟩ with
  | some target => (findLocalAccountById db target.accountId).map .localAccount
  | none =>
      let target ← findRemoteStatusById db ⟨id⟩
      (findRemoteActorById db target.remoteActorId).map .remoteActor

/-- Whether an account may quote the status that an id names, apart from the text. -/
def mayQuote (db : Db) (quotingAccount : AccountId) (rawId : String) : Bool :=
  match Text.parseUuid rawId with
  | none => false
  | some id => match findLocalStatusById db ⟨id⟩ with
    | some target =>
        statusVisibleToViewer db target quotingAccount && target.visibility != .direct &&
          !Timeline.localAccountsAreBlocked db.timeline quotingAccount target.accountId &&
          allowsLocalQuote db quotingAccount target
    | none => match findRemoteStatusById db ⟨id⟩ with
      | some target =>
          remoteStatusVisibleToAccount db target quotingAccount && target.visibility != .direct &&
            !localRemoteAccountsAreBlocked db quotingAccount target.remoteActorId &&
            (findRemoteActorById db target.remoteActorId).any fun actor =>
              allowsRemoteQuote db quotingAccount actor target
      | none => false

section

variable {env : Environment} {db : Db} {quotingAccount : AccountId} {content rawId : String}

private theorem resolveLocalQuoteTarget_direct_iff {target : LocalStatus} :
    (∃ result, resolveLocalQuoteTarget env db quotingAccount .direct content target = .ok result) ↔
      (statusVisibleToViewer db target quotingAccount && target.visibility != .direct &&
        !Timeline.localAccountsAreBlocked db.timeline quotingAccount target.accountId &&
        allowsLocalQuote db quotingAccount target) = true ∧
      ∃ author, findLocalAccountById db target.accountId = some author ∧
        mentionsLocalAuthor env.text author.username content = true := by
  unfold resolveLocalQuoteTarget
  constructor
  · rintro ⟨result, resolved⟩
    obtain ⟨_, visible, rest⟩ := bind_ok resolved
    obtain ⟨author, found, rest⟩ := bind_ok rest
    obtain ⟨_, allowed, rest⟩ := bind_ok rest
    obtain ⟨_, mentioned, _⟩ := bind_ok rest
    refine ⟨?_, author, okOr_ok found, ensure_ok mentioned⟩
    rw [ensure_ok visible, ensure_ok allowed]
    rfl
  · rintro ⟨quotable, author, found, mentioned⟩
    obtain ⟨visible, allowed⟩ := Bool.and_eq_true_iff.mp quotable
    refine ⟨(⟨.localStatus target.id, .accepted⟩,
      effectiveVisibility target.visibility .direct), ?_⟩
    rw [visible, ensure_true, ok_bind, found, okOr_some, ok_bind, allowed, ensure_true, ok_bind,
      mentioned, Bool.or_true, ensure_true, ok_bind]

private theorem resolveRemoteQuoteTarget_direct_iff {target : RemoteStatus} :
    (∃ result, resolveRemoteQuoteTarget db quotingAccount .direct content target = .ok result) ↔
      (remoteStatusVisibleToAccount db target quotingAccount && target.visibility != .direct &&
        !localRemoteAccountsAreBlocked db quotingAccount target.remoteActorId &&
        (findRemoteActorById db target.remoteActorId).any fun actor =>
          allowsRemoteQuote db quotingAccount actor target) = true ∧
      ∃ actor, findRemoteActorById db target.remoteActorId = some actor ∧
        mentionsRemoteAuthor actor content = true := by
  unfold resolveRemoteQuoteTarget
  constructor
  · rintro ⟨result, resolved⟩
    obtain ⟨_, visible, rest⟩ := bind_ok resolved
    obtain ⟨actor, found, rest⟩ := bind_ok rest
    obtain ⟨_, mentioned, rest⟩ := bind_ok rest
    obtain ⟨_, allowed, _⟩ := bind_ok rest
    refine ⟨?_, actor, okOr_ok found, ensure_ok mentioned⟩
    rw [ensure_ok visible, okOr_ok found, Option.any_some, ensure_ok allowed]
    rfl
  · rintro ⟨quotable, actor, found, mentioned⟩
    obtain ⟨visible, allowed⟩ := Bool.and_eq_true_iff.mp quotable
    rw [found, Option.any_some] at allowed
    refine ⟨(⟨.remoteStatus target.id, .pending⟩,
      effectiveVisibility target.visibility .direct), ?_⟩
    rw [visible, ensure_true, ok_bind, found, okOr_some, ok_bind, mentioned, Bool.or_true,
      ensure_true, ok_bind, allowed, ensure_true, ok_bind]

theorem resolveQuoteTarget_direct_iff :
    (∃ result, resolveQuoteTarget env db quotingAccount .direct content rawId = .ok result) ↔
      mayQuote db quotingAccount rawId = true ∧
        ∃ author, quotedAuthor db rawId = some author ∧
          author.isMentioned env.text content = true := by
  unfold resolveQuoteTarget mayQuote quotedAuthor
  cases Text.parseUuid rawId with
  | none => simp
  | some id =>
      dsimp only [Option.bind_eq_bind, Option.bind_some]
      cases findLocalStatusById db ⟨id⟩ with
      | some target =>
          rw [resolveLocalQuoteTarget_direct_iff]
          simp [QuotedAuthor.isMentioned]
      | none =>
          cases findRemoteStatusById db ⟨id⟩ with
          | some target =>
              rw [resolveRemoteQuoteTarget_direct_iff]
              simp [QuotedAuthor.isMentioned]
          | none => simp

private theorem handle_split {username domain name host : List Char}
    (nameFree : '@' ∉ name) (hostFree : '@' ∉ host)
    (same : username ++ '@' :: domain = name ++ '@' :: host) : username = name ∧ domain = host := by
  rcases List.append_eq_append_iff.mp same with ⟨between, whole, tail⟩ | ⟨between, whole, tail⟩
  · cases between with
    | nil =>
        rw [List.append_nil] at whole
        exact ⟨whole.symm, (List.cons.inj tail).2⟩
    | cons first between =>
        obtain ⟨rfl, _⟩ := List.cons.inj tail
        exact absurd (whole ▸ List.mem_append_right _ List.mem_cons_self) nameFree
  · cases between with
    | nil =>
        rw [List.append_nil] at whole
        exact ⟨whole, (List.cons.inj tail).2.symm⟩
    | cons first between =>
        obtain ⟨rfl, rest⟩ := List.cons.inj tail
        exact absurd (rest ▸ List.mem_append_right _ List.mem_cons_self) hostFree

theorem QuotedAuthor.handle_mem_extracted_iff {text : TextContext} {author : QuotedAuthor} :
    author.handle ∈ author.extracted text content ↔ author.StandsAlone text content := by
  cases author with
  | localAccount account => exact Content.mem_mentionUsernames_iff
  | remoteActor actor =>
      refine Content.mem_remoteMentionHandles_iff.trans ?_
      constructor
      · rintro ⟨name, host, same, isName, isHost, stands⟩
        have nameFree : '@' ∉ name := fun inside =>
          absurd (isName.characters '@' inside) (by decide)
        have hostFree : '@' ∉ host := fun inside =>
          absurd (isHost.characters '@' inside) (by decide)
        obtain ⟨rfl, rfl⟩ := handle_split nameFree hostFree same
        exact ⟨isName, isHost, stands⟩
      · rintro ⟨isName, isHost, stands⟩
        exact ⟨_, _, rfl, isName, isHost, stands⟩

/-!
## Direct quotes
-/

/-- Direct quotes mention the quoted author, as the recipients are found, exactly when a handle
that passes the check of the text stands alone in it. -/
theorem direct_quote_mentions_author_iff (env : Environment) (db : Db) (quotingAccount : AccountId)
    (content rawId : String) :
    (∀ result, resolveQuoteTarget env db quotingAccount .direct content rawId = .ok result →
      ∃ author, quotedAuthor db rawId = some author ∧
        author.handle ∈ author.extracted env.text content) ↔
    (mayQuote db quotingAccount rawId = true → ∀ author, quotedAuthor db rawId = some author →
      author.isMentioned env.text content = true → author.StandsAlone env.text content) := by
  constructor
  · intro mentions allowed author found mentioned
    obtain ⟨result, resolved⟩ :=
      (@resolveQuoteTarget_direct_iff env _ _ _ _).mpr ⟨allowed, author, found, mentioned⟩
    obtain ⟨other, same, extracted⟩ := mentions result resolved
    obtain rfl := Option.some.inj (same.symm.trans found)
    exact QuotedAuthor.handle_mem_extracted_iff.mp extracted
  · intro alone result resolved
    obtain ⟨allowed, author, found, mentioned⟩ :=
      resolveQuoteTarget_direct_iff.mp ⟨result, resolved⟩
    exact ⟨author, found, QuotedAuthor.handle_mem_extracted_iff.mpr
      (alone allowed author found mentioned)⟩

end

namespace QuoteSample

def bob : RemoteActor where
  id := ⟨2⟩
  domain := "remote.example"
  deletedAt := none
  suspendedAt := none
  dataPurgedAt := none
  username := "bob"
  followersUrl := none

def status : RemoteStatus where
  id := ⟨3⟩
  remoteActorId := bob.id
  visibility := .publicStatus
  inReplyTo := none
  inReplyToLocalStatusId := none
  inReplyToRemoteStatusId := none
  deletedAt := none
  quoteAutomaticPolicy := [publicCollection]
  quoteManualPolicy := []

def db : Db := { Sample.db with actors := [bob], remoteStatuses := [status] }

def quotedId : String := "00000000-0000-0000-0000-000000000003"

def longer : String := "for @bob@remote.example.org"

end QuoteSample

open QuoteSample in
/-- The check is passed by the beginning of another handle, whose actor is extracted. -/
theorem direct_quote_mentions_another :
    (∃ result, resolveQuoteTarget Sample.env db ⟨1⟩ .direct longer quotedId = .ok result) ∧
      quotedAuthor db quotedId = some (.remoteActor bob) ∧
      (QuotedAuthor.remoteActor bob).extracted Sample.env.text longer =
        ["bob@remote.example.org".toList] ∧
      (QuotedAuthor.remoteActor bob).handle ∉
        (QuotedAuthor.remoteActor bob).extracted Sample.env.text longer := by
  have extracted : (QuotedAuthor.remoteActor bob).extracted Sample.env.text longer =
      ["bob@remote.example.org".toList] := by decide +kernel
  refine ⟨⟨(⟨.remoteStatus status.id, .pending⟩, .direct), by decide +kernel⟩, by decide +kernel,
    extracted, ?_⟩
  rw [extracted]
  decide

end Roosty.Status.Posting
