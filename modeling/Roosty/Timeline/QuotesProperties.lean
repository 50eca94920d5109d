import Roosty.Timeline.Quotes

/-!
# What the quotes of a status disclose

A listed status is rendered for a viewer whether or not the viewer may see it. The listing
is right exactly for those viewers from whom none of its statuses is kept.
-/

set_option autoImplicit false

namespace Roosty.Timeline

open Library
open Federation.Inbox (StatusQuote)

def VisibleTo (db : QuoteDb) (viewer : AccountId) : StatusBody → Prop
  | .localStatus status => statusVisibleToViewerOn db.toDb status (some viewer) = true
  | .remoteStatus status => remoteStatusVisibleToAccount db.toDb status viewer = true

/-- What keeps a status from a viewer: a block, or a visibility that does not reach them. -/
inductive Withheld (db : QuoteDb) (viewer : AccountId) : StatusReference → Prop where
  | blockedLocal {id : StatusId} {status : LocalStatus}
      (found : findLocalStatusById db.toDb id = some status)
      (blocked : localAccountsAreBlocked db.toDb viewer status.accountId = true) :
      Withheld db viewer (.localStatus id)
  | restrictedLocal {id : StatusId} {status : LocalStatus}
      (found : findLocalStatusById db.toDb id = some status)
      (restricted : isOpen status.visibility = false) (other : viewer ≠ status.accountId)
      (stranger : status.visibility = .privateStatus →
        follows db.toDb viewer status.accountId = false)
      (unaddressed : addresses db.localStatusRecipients status.id viewer = false) :
      Withheld db viewer (.localStatus id)
  | blockedRemote {id : StatusId} {status : RemoteStatus}
      (found : findRemoteStatusById db.toDb id = some status)
      (blocked : blocksRemote db.toDb viewer status.remoteActorId = true) :
      Withheld db viewer (.remoteStatus id)
  | restrictedRemote {id : StatusId} {status : RemoteStatus}
      (found : findRemoteStatusById db.toDb id = some status)
      (restricted : isOpen status.visibility = false)
      (stranger : status.visibility = .privateStatus →
        followsRemote db.toDb viewer status.remoteActorId = false)
      (unaddressed : addresses db.remoteStatusRecipients status.id viewer = false) :
      Withheld db viewer (.remoteStatus id)

section

variable {db : QuoteDb} {viewer : AccountId}

/-!
## One quote
-/

theorem withheld_local_iff {id : StatusId} {status : LocalStatus}
    (found : findLocalStatusById db.toDb id = some status) :
    Withheld db viewer (.localStatus id) ↔ ¬ VisibleTo db viewer (.localStatus status) := by
  change _ ↔ ¬ statusVisibleToViewerOn db.toDb status (some viewer) = true
  rw [statusVisibleToViewerOn_iff]
  constructor
  · rintro withheld ⟨unblocked, reason⟩
    cases withheld with
    | blockedLocal foundOther blocked =>
        cases found.symm.trans foundOther
        exact Bool.eq_false_iff.mp unblocked blocked
    | restrictedLocal foundOther restricted other stranger unaddressed =>
        cases found.symm.trans foundOther
        rcases reason with shown | own | ⟨limited, followed⟩ | addressed
        · exact Bool.eq_false_iff.mp restricted shown
        · exact other own
        · exact Bool.eq_false_iff.mp (stranger limited) followed
        · exact Bool.eq_false_iff.mp unaddressed addressed
  · intro unseen
    cases blocked : localAccountsAreBlocked db.toDb viewer status.accountId with
    | true => exact .blockedLocal found blocked
    | false =>
        have reasons := not_and.mp unseen blocked
        simp only [not_or, not_and] at reasons
        obtain ⟨restricted, other, stranger, unaddressed⟩ := reasons
        exact .restrictedLocal found (Bool.eq_false_iff.mpr restricted) other
          (fun limited => Bool.eq_false_iff.mpr (stranger limited))
          (Bool.eq_false_iff.mpr unaddressed)

theorem withheld_remote_iff {id : StatusId} {status : RemoteStatus}
    (found : findRemoteStatusById db.toDb id = some status) :
    Withheld db viewer (.remoteStatus id) ↔ ¬ VisibleTo db viewer (.remoteStatus status) := by
  change _ ↔ ¬ remoteStatusVisibleToAccount db.toDb status viewer = true
  rw [remoteStatusVisibleToAccount_iff]
  constructor
  · rintro withheld ⟨unblocked, reason⟩
    cases withheld with
    | blockedRemote foundOther blocked =>
        cases found.symm.trans foundOther
        exact Bool.eq_false_iff.mp unblocked blocked
    | restrictedRemote foundOther restricted stranger unaddressed =>
        cases found.symm.trans foundOther
        rcases reason with shown | ⟨limited, followed⟩ | addressed
        · exact Bool.eq_false_iff.mp restricted shown
        · exact Bool.eq_false_iff.mp (stranger limited) followed
        · exact Bool.eq_false_iff.mp unaddressed addressed
  · intro unseen
    cases blocked : blocksRemote db.toDb viewer status.remoteActorId with
    | true => exact .blockedRemote found blocked
    | false =>
        have reasons := not_and.mp unseen blocked
        simp only [not_or, not_and] at reasons
        obtain ⟨restricted, stranger, unaddressed⟩ := reasons
        exact .restrictedRemote found (Bool.eq_false_iff.mpr restricted)
          (fun limited => Bool.eq_false_iff.mpr (stranger limited))
          (Bool.eq_false_iff.mpr unaddressed)

theorem quotingStatus_visible_iff {quoting : StatusReference} {response : Option StatusBody}
    (rendered : quotingStatus db quoting = .ok response) :
    (∀ shown ∈ response, VisibleTo db viewer shown) ↔ ¬ Withheld db viewer quoting := by
  cases quoting with
  | localStatus id =>
      simp only [quotingStatus] at rendered
      cases found : findLocalStatusById db.toDb id with
      | none =>
          rw [found] at rendered
          cases rendered
          refine iff_of_true nofun fun withheld => ?_
          cases withheld with
          | blockedLocal other _ => cases found.symm.trans other
          | restrictedLocal other _ _ _ _ => cases found.symm.trans other
      | some status =>
          rw [found] at rendered
          obtain ⟨_, _, rendered⟩ := bind_ok rendered
          cases rendered
          rw [withheld_local_iff found, not_not]
          exact ⟨fun visible => visible _ rfl, fun visible shown same => by cases same; exact visible⟩
  | remoteStatus id =>
      simp only [quotingStatus] at rendered
      cases found : findRemoteStatusById db.toDb id with
      | none =>
          rw [found] at rendered
          cases rendered
          refine iff_of_true nofun fun withheld => ?_
          cases withheld with
          | blockedRemote other _ => cases found.symm.trans other
          | restrictedRemote other _ _ _ => cases found.symm.trans other
      | some status =>
          rw [found] at rendered
          obtain ⟨_, _, rendered⟩ := bind_ok rendered
          cases rendered
          rw [withheld_remote_iff found, not_not]
          exact ⟨fun visible => visible _ rfl, fun visible shown same => by cases same; exact visible⟩

/-!
## The listing
-/

theorem quotingStatuses_visible_iff {quotes : List StatusQuote} {responses : List StatusBody}
    (rendered : quotingStatuses db quotes = .ok responses) :
    (∀ response ∈ responses, VisibleTo db viewer response) ↔
      ∀ quote ∈ quotes, ¬ Withheld db viewer quote.quotingStatus := by
  induction quotes generalizing responses with
  | nil =>
      cases rendered
      exact iff_of_true nofun nofun
  | cons quote quotes ih =>
      obtain ⟨response, first, rendered⟩ := bind_ok rendered
      obtain ⟨rest, later, rendered⟩ := bind_ok rendered
      cases rendered
      rw [List.forall_mem_cons, ← ih later, ← quotingStatus_visible_iff first]
      change (∀ shown ∈ response.toList ++ rest, VisibleTo db viewer shown) ↔ _
      rw [List.forall_mem_append]
      exact and_congr_left fun _ => forall_congr' fun shown =>
        imp_congr_left Option.mem_toList

theorem liftInternal_ok {Value : Type} {computation : Except RoostyError Value} {value : Value}
    (success : liftInternal computation = .ok value) : computation = .ok value := by
  cases computation with
  | error error => cases success
  | ok found =>
      cases success
      rfl

theorem take_acceptedQuotesForStatus (status : StatusReference) (maxId sinceId : Option Nat)
    (limit : Nat) :
    (Paging.trimToPage (acceptedQuotesForStatus db status maxId sinceId (limit + 1)) limit).1 =
      acceptedQuotesForStatus db status maxId sinceId limit := by
  unfold acceptedQuotesForStatus Paging.trimToPage
  split
  next => rw [List.take_take, Nat.min_eq_left (Nat.le_succ limit)]
  next fits =>
    rw [List.length_take] at fits
    rw [List.take_of_length_le (by omega), List.take_of_length_le (by omega)]

/-- A listing keeps to what its viewer may see exactly when none of the quotes on the page is
by a status that is kept from the viewer. -/
theorem status_quotes_visible_iff {statusId : StatusId} {params : QuoteParams}
    {page : Paging.Page StatusBody} (answered : statusQuotes db viewer statusId params = .ok page) :
    ∃ target maxId sinceId, quoteTarget db viewer statusId = .ok target ∧
      parseQuoteCursor params.maxId = .ok maxId ∧ parseQuoteCursor params.sinceId = .ok sinceId ∧
      ((∀ response ∈ page.items, VisibleTo db viewer response) ↔
        ∀ quote ∈ acceptedQuotesForStatus db target maxId sinceId (timelineLimit params.limit),
          ¬ Withheld db viewer quote.quotingStatus) := by
  obtain ⟨target, seen, answered⟩ := bind_ok answered
  obtain ⟨maxId, parsedMax, answered⟩ := bind_ok answered
  obtain ⟨sinceId, parsedSince, answered⟩ := bind_ok answered
  refine ⟨target, maxId, sinceId, seen, parsedMax, parsedSince, ?_⟩
  rw [← take_acceptedQuotesForStatus]
  generalize Paging.trimToPage (acceptedQuotesForStatus db target maxId sinceId
    (timelineLimit params.limit + 1)) (timelineLimit params.limit) = trimmed at answered ⊢
  obtain ⟨responses, rendered, answered⟩ := bind_ok answered
  cases answered
  exact quotingStatuses_visible_iff (liftInternal_ok rendered)

end

namespace QuoteSample

def alice : AccountId := ⟨10⟩
def bob : AccountId := ⟨11⟩
def carol : AccountId := ⟨12⟩

/-- Bob quotes a public status of Alice in a direct status that addresses her. -/
def db : QuoteDb where
  localAccounts := [⟨alice, none⟩, ⟨bob, none⟩, ⟨carol, none⟩]
  remoteActors := []
  localStatuses := [⟨⟨1⟩, alice, .publicStatus, none, none, none⟩,
    ⟨⟨2⟩, bob, .direct, none, none, none⟩]
  remoteStatuses := []
  localFollows := []
  remoteFollowings := []
  localStatusRecipients := [⟨⟨2⟩, alice⟩]
  remoteStatusRecipients := []
  localAccountBlocks := []
  localRemoteAccountBlocks := []
  domainIsSuspended _ := false
  quotes := [⟨3, .localStatus ⟨2⟩, some (.localStatus ⟨1⟩),
    "https://example.org/users/alice/statuses/1", .accepted, none,
    some "https://example.org/quote-authorizations/4"⟩]

def params : QuoteParams := ⟨none, none, none⟩

def page : Paging.Page StatusBody :=
  ⟨[.localStatus ⟨⟨2⟩, bob, .direct, none, none, none⟩], some 3, some 3, false⟩

end QuoteSample

open QuoteSample in
theorem status_quotes_visible_alice :
    VisibleTo db alice (.localStatus ⟨⟨2⟩, bob, .direct, none, none, none⟩) := by
  obtain ⟨target, maxId, sinceId, seen, parsedMax, parsedSince, visible⟩ :=
    status_quotes_visible_iff (show statusQuotes db alice ⟨1⟩ params = .ok page by decide +kernel)
  refine visible.mpr (fun quote listed withheld => ?_) _ (List.mem_singleton_self _)
  have member := (List.mem_filter.mp (Paging.mem_newestFirst.mp (List.mem_of_mem_take listed))).1
  obtain rfl := List.mem_singleton.mp member
  cases withheld with
  | blockedLocal found blocked =>
      cases found
      exact absurd blocked (by decide)
  | restrictedLocal found _ _ _ unaddressed =>
      cases found
      exact absurd unaddressed (by decide)

open QuoteSample in
/-- Carol, who may see the quoted status, is shown the direct one. -/
theorem status_quotes_discloses : statusQuotes db carol ⟨1⟩ params = .ok page ∧
    ∃ response ∈ page.items, ¬ VisibleTo db carol response := by
  refine ⟨by decide +kernel, _, List.mem_singleton_self _, ?_⟩
  change ¬ statusVisibleToViewerOn db.toDb ⟨⟨2⟩, bob, .direct, none, none, none⟩
    (some carol) = true
  decide +kernel

end Roosty.Timeline
