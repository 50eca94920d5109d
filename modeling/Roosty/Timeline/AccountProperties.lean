import Roosty.Timeline.Account

/-!
# Listings and single statuses

A profile timeline, read to its end, holds each of the account's statuses that its
condition selects. For local accounts the condition is the check of a single status. For
remote actors it leaves out direct statuses and does not ask for blocks.
-/

set_option autoImplicit false

namespace Roosty.Timeline

open Library

/-- The check of one local status; without a viewer it has to be open. -/
def localStatusReadable (db : Db) (viewer : Option AccountId) (status : LocalStatus) : Bool :=
  match viewer with
  | none => isOpen status.visibility
  | some viewer => localStatusVisibleToAccount db status viewer

/-- The check of one remote status; without a viewer it has to be open. -/
def remoteStatusReadable (db : Db) (viewer : Option AccountId) (status : RemoteStatus) : Bool :=
  match viewer with
  | none => isOpen status.visibility
  | some viewer => remoteStatusVisibleToAccount db status viewer

/-- A timeline that ends, and lists exactly some statuses, each once. -/
def ListsExactly {Status : Type} (timeline : Option (List Status)) (expected : Status → Prop) :
    Prop :=
  ∃ items, timeline = some items ∧ items.Nodup ∧ ∀ status, status ∈ items ↔ expected status

/-- The viewer's timeline of a local account is what the viewer may read of it. -/
def LocalTimelineMatches (toLowercase : String → String) (db : AccountDb) (accountId : AccountId)
    (viewer : Option AccountId) (limit : Option Nat) : Prop :=
  ListsExactly (allLocalStatusesByAccount toLowercase db accountId viewer limit) fun status =>
    status ∈ db.localStatuses ∧ status.accountId = accountId ∧ status.deletedAt = none ∧
      localStatusReadable db.toDb viewer status = true

/-- The viewer's timeline of a remote actor is what the viewer may read of it. -/
def RemoteTimelineMatches (toLowercase : String → String) (db : AccountDb) (accountId : AccountId)
    (viewer : Option AccountId) (limit : Option Nat) : Prop :=
  ListsExactly (allRemoteStatusesByAccount toLowercase db accountId viewer limit) fun status =>
    status ∈ db.remoteStatuses ∧ status.remoteActorId = accountId ∧ status.deletedAt = none ∧
      remoteStatusReadable db.toDb viewer status = true

/-- A blocked actor has no open status, and no private one that reaches the viewer; another
actor has no direct status for the viewer. -/
def ReadAlike (db : Db) (accountId : AccountId) (viewer : Option AccountId) : Prop :=
  ∀ account, viewer = some account → ∀ status ∈ db.remoteStatuses,
    status.remoteActorId = accountId → status.deletedAt = none →
      if blocksRemote db account accountId then
        isOpen status.visibility = false ∧
          (status.visibility = .privateStatus →
            addresses db.remoteStatusRecipients status.id account = false ∧
              followsRemote db account accountId = false)
      else
        status.visibility = .direct → addresses db.remoteStatusRecipients status.id account = false

/-!
## Conditions
-/

section

variable {db : AccountDb} {accountId : AccountId} {viewer : Option AccountId}

theorem localStatusListed_eq {status : LocalStatus} (own : status.accountId = accountId) :
    localStatusListed db accountId viewer status = localStatusReadable db.toDb viewer status := by
  subst own
  cases viewer with
  | none => simp [localStatusListed, localStatusReadable]
  | some viewer =>
      by_cases owner : viewer = status.accountId
      · simp [localStatusListed, localStatusReadable, localStatusVisibleToAccount, owner]
      · have other : ¬status.accountId = viewer := fun same => owner same.symm
        rw [Bool.eq_iff_iff]
        cases kind : status.visibility <;>
          simp [localStatusListed, localStatusReadable, localStatusVisibleToAccount, isOpen, kind,
            owner, other, or_comm]

theorem remoteStatusListed_eq_iff {status : RemoteStatus} (own : status.remoteActorId = accountId) :
    remoteStatusListed db viewer status = remoteStatusReadable db.toDb viewer status ↔
      ∀ account, viewer = some account →
        if blocksRemote db.toDb account accountId then
          isOpen status.visibility = false ∧
            (status.visibility = .privateStatus →
              addresses db.remoteStatusRecipients status.id account = false ∧
                followsRemote db.toDb account accountId = false)
        else status.visibility = .direct →
          addresses db.remoteStatusRecipients status.id account = false := by
  subst own
  cases viewer with
  | none => simp [remoteStatusListed, remoteStatusReadable]
  | some account =>
      cases blocked : blocksRemote db.toDb account status.remoteActorId with
      | true =>
          rw [Bool.eq_iff_iff]
          cases kind : status.visibility <;>
            simp [remoteStatusListed, remoteStatusReadable, remoteStatusVisibleToAccount, isOpen,
              kind, blocked]
      | false =>
          rw [Bool.eq_iff_iff]
          cases kind : status.visibility <;>
            simp [remoteStatusListed, remoteStatusReadable, remoteStatusVisibleToAccount, isOpen,
              kind, blocked, or_comm]

end

/-!
## Timelines
-/

section

variable {toLowercase : String → String} {db : AccountDb} {accountId : AccountId}
  {viewer : Option AccountId} {limit : Option Nat}

private theorem timelineLimit_pos (limit : Option Nat) : 0 < timelineLimit limit := by
  unfold timelineLimit
  omega

private theorem pageQueryLimit_timelineLimit :
    pageQueryLimit (timelineLimit limit) = timelineLimit limit + 1 := by
  unfold pageQueryLimit timelineLimit
  omega

private theorem walk_listsExactly (limit : Option Nat) {Status : Type} {key : Status → Nat}
    {rows : List Status}
    {selected : Status → Bool} (distinct : (rows.map key).Nodup)
    {load : Option Nat → Paging.Page Status}
    (pages : ∀ cursor, load cursor = Paging.page key (timelineLimit limit) (timelineLimit limit + 1)
      ((rows.filter selected).filter (Paging.before key cursor))) :
    ListsExactly (Paging.walk load (rows.length + 1) none) fun row =>
      row ∈ rows ∧ selected row = true := by
  have keys : ((rows.filter selected).map key).Nodup :=
    (List.filter_sublist.map key).nodup distinct
  have enough : ((rows.filter selected).filter (Paging.before key none)).length < rows.length + 1 :=
    Nat.lt_succ_of_le (Nat.le_trans (List.length_filter_le _ _) (List.length_filter_le _ _))
  have walked := Paging.walk_page keys (timelineLimit_pos limit) enough
  rw [← funext pages] at walked
  refine ⟨_, walked, ?_, ?_⟩
  · have descending := Paging.newestFirst_descending
      ((List.filter_sublist.map key).nodup keys :
        (((rows.filter selected).filter (Paging.before key none)).map key).Nodup)
    refine descending.imp ?_
    rintro first second less rfl
    exact Nat.lt_irrefl _ less
  · intro row
    simp [Paging.before]

private theorem applyTimelineCursor_maxId {cursor : Option Nat} {id : StatusId} :
    applyTimelineCursor ⟨cursor.map StatusId.mk, none, none⟩ id =
      cursor.all (fun bound => id.value < bound) := by
  cases cursor <;> simp [applyTimelineCursor]

private theorem keys_nodup {Status : Type} {id : Status → StatusId} {rows : List Status}
    (distinct : (rows.map id).Nodup) : (rows.map fun status => (id status).value).Nodup := by
  have values := distinct.map (fun first second same => by
    cases first
    cases second
    exact congrArg StatusId.mk same : Function.Injective StatusId.value)
  rwa [List.map_map] at values

private theorem allLocalStatusesByAccount_lists (keyed : db.Keyed) :
    ListsExactly (allLocalStatusesByAccount toLowercase db accountId viewer limit) fun status =>
      status ∈ db.localStatuses ∧ (status.accountId == accountId && status.deletedAt.isNone &&
        localStatusListed db accountId viewer status) = true := by
  unfold allLocalStatusesByAccount walkTimeline
  refine walk_listsExactly limit (keys_nodup keyed.localStatuses) ?_
  intro cursor
  simp only [localStatusesByAccount, AccountStatusTimelineOptions.unfiltered, Bool.not_false,
    Bool.true_or, Bool.and_true, pageQueryLimit_timelineLimit, applyTimelineCursor_maxId]
  rfl

private theorem allRemoteStatusesByAccount_lists (keyed : db.Keyed) :
    ListsExactly (allRemoteStatusesByAccount toLowercase db accountId viewer limit) fun status =>
      status ∈ db.remoteStatuses ∧ (status.remoteActorId == accountId && status.deletedAt.isNone &&
        remoteStatusListed db viewer status) = true := by
  unfold allRemoteStatusesByAccount walkTimeline
  refine walk_listsExactly limit (keys_nodup keyed.remoteStatuses) ?_
  intro cursor
  simp only [remoteStatusesByAccount, AccountStatusTimelineOptions.unfiltered, Bool.not_false,
    Bool.true_or, Bool.and_true, pageQueryLimit_timelineLimit, applyTimelineCursor_maxId,
    List.filter_filter]
  congr 2
  funext status
  exact Bool.and_comm _ _

private theorem ListsExactly.congr_iff {Status : Type} {timeline : Option (List Status)}
    {first second : Status → Prop} (lists : ListsExactly timeline first) :
    ListsExactly timeline second ↔ ∀ status, first status ↔ second status := by
  obtain ⟨items, found, distinct, members⟩ := lists
  constructor
  · intro ⟨others, foundAgain, _, named⟩ status
    rw [found] at foundAgain
    cases foundAgain
    exact (members status).symm.trans (named status)
  · intro same
    exact ⟨items, found, distinct, fun status => (members status).trans (same status)⟩

/-- A local account's timeline always matches the check of single statuses. A remote
actor's does where the two ways in which it differs do not arise. -/
theorem account_timelines_match_iff (toLowercase : String → String) (keyed : db.Keyed)
    (accountId : AccountId) (viewer : Option AccountId) (limit : Option Nat) :
    LocalTimelineMatches toLowercase db accountId viewer limit ∧
      (RemoteTimelineMatches toLowercase db accountId viewer limit ↔
        ReadAlike db.toDb accountId viewer) := by
  constructor
  · refine (allLocalStatusesByAccount_lists keyed).congr_iff.mpr ?_
    intro status
    by_cases own : status.accountId = accountId
    · simp [own, localStatusListed_eq own]
    · simp [own]
  · refine (allRemoteStatusesByAccount_lists keyed).congr_iff.trans ?_
    constructor
    · intro same account seen status member own live
      have equal :
          remoteStatusListed db viewer status = remoteStatusReadable db.toDb viewer status := by
        rw [Bool.eq_iff_iff]
        simpa [member, own, live] using same status
      exact (remoteStatusListed_eq_iff own).mp equal account seen
    · intro alike status
      by_cases live : status ∈ db.remoteStatuses ∧ status.remoteActorId = accountId ∧
          status.deletedAt = none
      · obtain ⟨member, own, live⟩ := live
        have equal := (remoteStatusListed_eq_iff own).mpr
          (fun account seen => alike account seen status member own live)
        simp [member, own, live, equal]
      · simp only [Bool.and_eq_true, beq_iff_eq, Option.isNone_iff_eq_none]
        constructor
        · intro ⟨member, ⟨own, undeleted⟩, _⟩
          exact absurd ⟨member, own, undeleted⟩ live
        · intro ⟨member, own, undeleted, _⟩
          exact absurd ⟨member, own, undeleted⟩ live

end

namespace AccountSample

def actor : AccountId := ⟨2⟩

def viewer : AccountId := ⟨1⟩

def note (id : Nat) (visibility : StatusVisibility) : RemoteStatus :=
  ⟨⟨id⟩, actor, visibility, none, none, none, none⟩

def database (statuses : List RemoteStatus) (recipients : List Recipient)
    (blocks : List AccountPair) : AccountDb :=
  ⟨⟨[], [⟨actor, "remote.test", none, none, none⟩], [], statuses, [], [], [], recipients, [], blocks,
    fun _ => false⟩, [], [], [], [], []⟩

/-- An open and a private status that addresses the viewer, who blocks nobody. -/
def plain : AccountDb :=
  database [note 10 .publicStatus, note 11 .privateStatus] [⟨⟨11⟩, viewer⟩] []

def directed : AccountDb :=
  database [note 10 .direct] [⟨⟨10⟩, viewer⟩] []

/-- An open status of an actor that the viewer blocks. -/
def blocked : AccountDb :=
  database [note 10 .publicStatus] [] [⟨viewer, actor⟩]

end AccountSample

open AccountSample in
theorem account_timelines_match_sample :
    plain.Keyed ∧ RemoteTimelineMatches id plain actor (some viewer) (some 1) := by
  have keyed : plain.Keyed := ⟨by decide, by decide⟩
  have alike : ReadAlike plain.toDb actor (some viewer) := by
    intro account same
    cases same
    decide
  exact ⟨keyed, (account_timelines_match_iff id keyed actor (some viewer) (some 1)).2.mpr alike⟩

open AccountSample in
/-- A direct status is hidden from its recipient, and an open one of a blocked actor is
listed. -/
theorem account_timelines_differ :
    directed.Keyed ∧ blocked.Keyed ∧
      (remoteStatusVisibleToAccount directed.toDb (note 10 .direct) viewer = true ∧
        allRemoteStatusesByAccount id directed actor (some viewer) none = some []) ∧
      (remoteStatusVisibleToAccount blocked.toDb (note 10 .publicStatus) viewer = false ∧
        allRemoteStatusesByAccount id blocked actor (some viewer) none =
          some [note 10 .publicStatus]) ∧
      ¬RemoteTimelineMatches id directed actor (some viewer) none ∧
      ¬RemoteTimelineMatches id blocked actor (some viewer) none := by
  refine ⟨⟨by decide, by decide⟩, ⟨by decide, by decide⟩, by decide, by decide, ?_, ?_⟩
  · intro ⟨items, found, _, named⟩
    have none : allRemoteStatusesByAccount id directed actor (some viewer) none = some [] := by decide
    rw [none] at found
    cases found
    exact List.not_mem_nil ((named (note 10 .direct)).mpr (by decide))
  · intro ⟨items, found, _, named⟩
    have one : allRemoteStatusesByAccount id blocked actor (some viewer) none =
        some [note 10 .publicStatus] := by decide
    rw [one] at found
    cases found
    exact absurd ((named (note 10 .publicStatus)).mp List.mem_cons_self) (by decide)

end Roosty.Timeline
