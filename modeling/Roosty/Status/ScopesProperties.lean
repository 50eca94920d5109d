import Roosty.Auth.SuspendedAccess
import Roosty.Status.EditingProperties
import Roosty.Status.Scopes

/-!
# Scopes of the status handlers: what they protect

Creations and votes need a scope for writing. Edits, deletions and changes of policy need
the token alone, so that they are refused for other reasons only.
-/

set_option autoImplicit false

namespace Roosty.Status.Scopes

open Library
open Posting (StatusInput ownedStatus)

/-!
## Scope strings
-/

theorem allowsScope_write (scope : String) :
    StatusPermission.write.allowsScope (OAuthScope.parse scope) =
      (scope == "write" || scope == "write:statuses") := by
  unfold OAuthScope.parse
  split
  next whole =>
    have plain : scope ≠ "write:statuses" := by
      rintro rfl
      exact absurd whole (by decide)
    rw [beq_eq_false_iff_ne.mpr plain, Bool.or_false]
    split_ifs with isRead isWrite isFollow isPush
    · rw [isRead]
      rfl
    · rw [isWrite]
      rfl
    all_goals exact (beq_eq_false_iff_ne.mpr isWrite).symm
  next family resource split =>
    have separated : scope ≠ "write" := by
      rintro rfl
      have whole : Text.splitOnce ':' "write".toList = none := by decide
      rw [whole] at split
      cases split
    rw [beq_eq_false_iff_ne.mpr separated, Bool.false_or]
    by_cases statuses : scope = "write:statuses"
    · subst statuses
      have parts : Text.splitOnce ':' "write:statuses".toList =
          some ("write".toList, "statuses".toList) := by
        decide
      rw [parts] at split
      cases split
      rfl
    · rw [beq_eq_false_iff_ne.mpr statuses]
      split_ifs with isRead isWrite
      · rfl
      · have other : String.ofList resource ≠ "statuses" := by
          intro same
          have letters := Text.splitOnce_some split
          rw [isWrite, ← String.toList_ofList (l := resource), same] at letters
          exact statuses (String.toList_inj.mp letters)
        unfold OAuthScopeResource.parse
        split_ifs <;> rfl
      · rfl

theorem hasStatusScope_write (scopes : String) :
    hasStatusScope scopes .write = hasWriteStatusScope scopes := by
  unfold hasStatusScope hasWriteStatusScope
  rw [List.any_map]
  exact congrArg (splitAsciiWhitespace scopes).any (funext allowsScope_write)

def ReadOnly (scopes : String) : Prop :=
  "write" ∉ splitAsciiWhitespace scopes ∧ "write:statuses" ∉ splitAsciiWhitespace scopes

theorem hasWriteStatusScope_eq_false {scopes : String} (readOnly : ReadOnly scopes) :
    hasWriteStatusScope scopes = false := by
  rw [hasWriteStatusScope, List.any_eq_false]
  intro scope member
  rw [Bool.or_eq_true, beq_iff_eq, beq_iff_eq, not_or]
  exact ⟨fun same => readOnly.1 (same ▸ member), fun same => readOnly.2 (same ▸ member)⟩

/-!
## Requests with a token for reading
-/

section

variable {env : Environment} {now : Int} {state : State} {authorization : Option String}
  {account : Posting.LocalAccount} {scopes : String}

theorem authenticatedAccount_of_token
    (token : authenticatedAccessToken env now state authorization = .ok (account, scopes)) :
    authenticatedAccount env now state authorization = .ok account := by
  obtain ⟨grant, granted, rest⟩ := bind_ok token
  obtain ⟨row, found, same⟩ := bind_ok rest
  cases same
  obtain ⟨bearer, given, resolved⟩ := bind_ok (mapError_eq_ok_iff.mp granted)
  obtain ⟨stored, tokenFound, rest⟩ := Option.bind_eq_some_iff.mp (okOr_ok resolved)
  obtain ⟨id, has, rest⟩ := Option.bind_eq_some_iff.mp rest
  obtain ⟨active, free, same⟩ := Option.bind_eq_some_iff.mp rest
  cases same
  have here : Auth.Access.findAccountByAccessToken env.access now state.access bearer =
      some (active, stored.scopes) := by
    rw [Auth.Access.findAccountByAccessToken, tokenFound]
    change (stored.accountId.bind _) = _
    rw [has, Option.bind_some, free]
    rfl
  have account : Auth.Access.authenticatedAccount env.access now state.access authorization =
      .ok active := by
    rw [Auth.Access.authenticatedAccount, given, ok_bind, here, okOr_some, ok_bind]
  rw [authenticatedAccount, account]
  exact found

def Editable (env : Environment) (state : State) (account : AccountId) (id : StatusId)
    (input : StatusInput) : Prop :=
  (ownedStatus state.statuses id account).isSome = true ∧ input.quotedStatusId = none ∧
    ∃ mediaIds items, Posting.parseEditedMedia input.mediaIds = .ok mediaIds ∧
      Posting.parseMediaAttributes env.posting.parseF64 input.mediaAttributes = .ok items ∧
      Posting.checkEditedPoll env.posting.segmentation
        (Posting.editedHasMedia state.statuses id mediaIds) input.poll = .ok () ∧
      Posting.checkEditedText
        (Posting.editedHasMedia state.statuses id mediaIds || input.poll.isSome) input.status =
          .ok () ∧
      Posting.EditMediaAllowed state.statuses account id mediaIds ∧
      ∀ item ∈ items, item.mediaId ∈ Posting.finalMedia state.statuses id mediaIds

/-- The requests that a token for reading suffices for: an edit, a deletion and a change of
policy of an own status. -/
def NeedsNoScope (env : Environment) (state : State) (account : AccountId) : Handler → Prop
  | .createStatus .. | .votePoll .. => False
  | .updateStatus id body _ => ∃ input, body = .ok input ∧ Editable env state account id input
  | .deleteStatus id => (ownedStatus state.statuses id account).isSome = true
  | .updateInteractionPolicy id body => ∃ input, body = .ok input ∧
      input.quoteApprovalPolicy.isSome = true ∧
      (ownedStatus state.statuses id account).isSome = true

theorem createStatus_error
    (token : authenticatedAccessToken env now state authorization = .ok (account, scopes))
    (readOnly : ReadOnly scopes) {body : Except String StatusInput} {key : Option String}
    {resultId : Nat} {publicationId : StatusId} :
    createStatus env now state authorization body key resultId publicationId =
      .error outsideScopes := by
  rw [createStatus, token, ok_bind, hasStatusScope_write, hasWriteStatusScope_eq_false readOnly]
  rfl

theorem votePoll_error
    (token : authenticatedAccessToken env now state authorization = .ok (account, scopes))
    (readOnly : ReadOnly scopes) {context : Poll.Context} {pollId : Nat}
    {body : Except String (List UInt32)} {delivery : Job.NewJob} :
    votePoll env now state context authorization pollId body delivery = .error outsideScopes := by
  rw [votePoll, token, ok_bind, hasWriteStatusScope_eq_false readOnly]
  rfl

theorem updateStatus_isOk_iff (valid : state.statuses.Valid)
    (authenticated : authenticatedAccount env now state authorization = .ok account)
    {id : StatusId} {body : Except String StatusInput} {metadataChanged : Bool} :
    (∃ next, updateStatus env now state authorization id body metadataChanged = .ok next) ↔
      ∃ input, body = .ok input ∧ Editable env state account.id id input := by
  simp only [updateStatus, authenticated, Posting.existing_eq_owned valid, parsedBody,
    bind_eq_ok_iff, okOr_eq_ok_iff, mapError_eq_ok_iff, Except.ok.injEq]
  constructor
  · rintro ⟨_, _, rfl, status, owned, input, parsed, statuses, edited, _⟩
    have checks := (Posting.updateStatus_isOk_iff valid owned).mp ⟨statuses, edited⟩
    exact ⟨input, parsed, by rw [owned]; rfl, checks⟩
  · rintro ⟨input, parsed, owned, checks⟩
    obtain ⟨status, owned⟩ := Option.isSome_iff_exists.mp owned
    obtain ⟨statuses, edited⟩ := (@Posting.updateStatus_isOk_iff env.posting _ valid account id
      status owned input metadataChanged).mpr checks
    exact ⟨_, account, rfl, status, owned, input, parsed, statuses, edited, rfl⟩

theorem deleteOwnedLocalStatus_isOk_iff {db : Posting.Db} (valid : db.Valid) {id : StatusId}
    {owner : AccountId} :
    (∃ next, deleteOwnedLocalStatus now db id owner = .ok (some next)) ↔
      (ownedStatus db id owner).isSome = true := by
  rw [← Posting.existing_eq_owned valid]
  unfold deleteOwnedLocalStatus
  split
  next missing =>
    rw [missing]
    exact iff_of_false nofun Bool.false_ne_true
  next status found =>
    have live := List.find?_some found
    rw [Bool.and_eq_true] at live
    rw [found, Option.filter_some, live.2, Bool.and_true]
    split_ifs with other same same
    · exact absurd (beq_iff_eq.mp same) other
    · exact iff_of_false nofun Bool.false_ne_true
    · exact iff_of_true ⟨_, rfl⟩ rfl
    · exact absurd (beq_iff_eq.mpr (not_not.mp other)) same

theorem deleteStatus_isOk_iff (valid : state.statuses.Valid)
    (authenticated : authenticatedAccount env now state authorization = .ok account)
    {id : StatusId} :
    (∃ next, deleteStatus env now state authorization id = .ok next) ↔
      (ownedStatus state.statuses id account.id).isSome = true := by
  rw [← @deleteOwnedLocalStatus_isOk_iff now _ valid]
  simp only [deleteStatus, authenticated, ok_bind, bind_eq_ok_iff, okOr_eq_ok_iff,
    mapError_eq_ok_iff]
  constructor
  · rintro ⟨_, _, deleted, next, rfl, _⟩
    exact ⟨next, deleted⟩
  · rintro ⟨next, deleted⟩
    exact ⟨_, _, deleted, next, rfl, rfl⟩

theorem updateInteractionPolicy_isOk_iff (valid : state.statuses.Valid)
    (authenticated : authenticatedAccount env now state authorization = .ok account)
    {id : StatusId} {body : Except String StatusInput} :
    (∃ next, updateInteractionPolicy env now state authorization id body = .ok next) ↔
      ∃ input, body = .ok input ∧ input.quoteApprovalPolicy.isSome = true ∧
        (ownedStatus state.statuses id account.id).isSome = true := by
  simp only [updateInteractionPolicy, authenticated, parsedBody, ok_bind, bind_eq_ok_iff,
    mapError_eq_ok_iff, Posting.updateInteractionPolicy, okOr_eq_ok_iff]
  constructor
  · rintro ⟨_, input, parsed, next, ⟨policy, given, _, _, changed⟩, _⟩
    refine ⟨input, parsed, by rw [given]; rfl, ?_⟩
    rw [← Posting.updateLocalStatusQuotePolicy_isSome, changed]
    rfl
  · rintro ⟨input, parsed, given, owned⟩
    obtain ⟨policy, given⟩ := Option.isSome_iff_exists.mp given
    obtain ⟨status, here⟩ := Option.isSome_iff_exists.mp owned
    have changed : (Posting.updateLocalStatusQuotePolicy state.statuses id account.id
        policy).isSome = true := by
      rw [Posting.updateLocalStatusQuotePolicy_isSome, owned]
    obtain ⟨next, changed⟩ := Option.isSome_iff_exists.mp changed
    have existing : (Posting.findLocalStatusById state.statuses id).filter
        (fun status => status.accountId == account.id) = some status := by
      rw [← Posting.existing_eq_owned valid] at here
      obtain ⟨found, checks⟩ := Option.filter_eq_some_iff.mp here
      rw [Bool.and_eq_true] at checks
      exact Option.filter_eq_some_iff.mpr ⟨found, checks.1⟩
    exact ⟨_, input, parsed, next, ⟨policy, given, status, existing, changed⟩, rfl⟩

theorem respond_error_iff {handler : Handler} :
    (∃ error, respond env now state authorization handler = (state, some error)) ↔
      ¬ ∃ next, handle env now state authorization handler = .ok next := by
  unfold respond
  split
  next next served =>
    refine iff_of_false ?_ (not_not.mpr ⟨next, served⟩)
    rintro ⟨_, same⟩
    cases same
  next error failed =>
    refine iff_of_true ⟨error, rfl⟩ ?_
    rintro ⟨next, served⟩
    rw [failed] at served
    cases served

/-- The predicates of creations and votes agree, and a token for reading is refused exactly
where these are called, or where the handler refuses the request of any token. -/
theorem read_only_refused_iff (valid : state.statuses.Valid)
    (token : authenticatedAccessToken env now state authorization = .ok (account, scopes))
    (readOnly : ReadOnly scopes) (handler : Handler) :
    (∀ scopes, hasStatusScope scopes .write = hasWriteStatusScope scopes) ∧
      ((∃ error, respond env now state authorization handler = (state, some error)) ↔
        ¬ NeedsNoScope env state account.id handler) := by
  refine ⟨hasStatusScope_write, ?_⟩
  have authenticated := authenticatedAccount_of_token token
  rw [respond_error_iff, not_iff_not]
  cases handler with
  | createStatus body key resultId publicationId =>
      rw [handle, createStatus_error token readOnly]
      exact iff_of_false nofun id
  | updateStatus id body metadataChanged => exact updateStatus_isOk_iff valid authenticated
  | deleteStatus id => exact deleteStatus_isOk_iff valid authenticated
  | updateInteractionPolicy id body => exact updateInteractionPolicy_isOk_iff valid authenticated
  | votePoll context pollId body delivery =>
      rw [handle, votePoll_error token readOnly]
      exact iff_of_false nofun id

end

namespace Sample

def env : Environment := ⟨Auth.Access.Sample.env, Posting.Sample.env⟩

def status : Posting.LocalStatus where
  id := ⟨1⟩
  accountId := ⟨1⟩
  visibility := .publicStatus
  inReplyToId := none
  inReplyToRemoteStatusId := none
  deletedAt := none
  content := "first"
  sensitive := false
  spoilerText := ""
  language := none
  quoteApprovalPolicy := .everyone

def state : State where
  access := {
    accounts := [Auth.Access.Sample.account]
    applications := []
    codes := []
    tokens := [⟨9, "raw", some ⟨1⟩, 5, "read", 0, none, none⟩]
    data := () }
  statuses := { Posting.Sample.db with statuses := [status] }
  polls := ⟨[], [], [], [], [], [], []⟩
  creations := []

theorem valid : state.statuses.Valid :=
  { Posting.Sample.valid with
    statusKeys := List.nodup_singleton _
    mediaStatus := by
      intro media member id attached
      obtain rfl := List.mem_singleton.mp member
      cases attached
    pollStatus := nofun
    quoteStatus := nofun
    content := by
      intro row member
      obtain rfl := List.mem_singleton.mp member
      decide }

theorem token : authenticatedAccessToken env 0 state (some "Bearer raw") =
    .ok (Posting.Sample.account, "read") := by
  decide +kernel

theorem readOnly : ReadOnly "read" := by
  constructor <;> decide +kernel

end Sample

open Sample in
/-- A token for reading deletes a status. -/
theorem reader_deletes :
    ¬ ∀ (env : Environment) (now : Int) (state : State), state.statuses.Valid →
      ∀ authorization account scopes,
        authenticatedAccessToken env now state authorization = .ok (account, scopes) →
        ReadOnly scopes → ∀ handler, ∃ error,
          respond env now state authorization handler = (state, some error) := by
  intro always
  obtain ⟨error, refused⟩ := always env 0 state valid _ _ _ token readOnly (.deleteStatus ⟨1⟩)
  have served : (respond env 0 state (some "Bearer raw") (.deleteStatus ⟨1⟩)).2 = none := by
    decide +kernel
  rw [refused] at served
  cases served

open Sample in
theorem reader_does_not_create :
    ∃ error, respond env 0 state (some "Bearer raw")
      (.createStatus (.ok Posting.Sample.blank) none 3 ⟨4⟩) = (state, some error) :=
  (read_only_refused_iff valid token readOnly _).2.mpr id

end Roosty.Status.Scopes
