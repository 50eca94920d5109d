import Roosty.Timeline.Home

/-!
# Who is shown a boosted status

The home timeline shows statuses that its viewer may read. A boost is shown where the
query or the rendering asks for the viewer; each kind of boost leaves out a part of that.
A stream sends one rendering of a boost to all followers of the booster.
-/

set_option autoImplicit false

namespace Roosty.Timeline

open Library

/-!
## Readable responses
-/

def StatusBody.author : StatusBody → StatusAccountResponse
  | .localStatus status => .localAccount status.accountId
  | .remoteStatus status => .remoteActor status.remoteActorId

def StatusResponse.body : StatusResponse → StatusBody
  | .status shown => shown
  | .reblog _ _ original => original

def StatusResponse.account : StatusResponse → StatusAccountResponse
  | .status shown => shown.author
  | .reblog _ account _ => account

section

variable (db : HomeDb) (viewer : AccountId)

def mayRead : StatusBody → Bool
  | .localStatus status => statusVisibleToViewerOn db.toDb status (some viewer)
  | .remoteStatus status => remoteStatusVisibleToAccount db.toDb status viewer

def mutes : StatusAccountResponse → Bool
  | .localAccount account => activeLocalAccountMute db viewer account
  | .remoteActor actor => activeLocalRemoteAccountMute db viewer actor

def blocks : StatusAccountResponse → Bool
  | .localAccount account => db.localAccountBlocks.any fun row =>
      row.accountId == viewer && row.targetId == account
  | .remoteActor actor => blocksRemote db.toDb viewer actor

/-- The viewer neither mutes nor blocks an account. -/
def Tolerates (account : StatusAccountResponse) : Prop :=
  mutes db viewer account = false ∧ blocks db viewer account = false

/-- The viewer may read what a response holds, and neither mutes nor blocks who wrote or
boosted it. -/
structure Suits (response : StatusResponse) : Prop where
  readable : mayRead db viewer response.body = true
  author : Tolerates db viewer response.body.author
  account : Tolerates db viewer response.account

def HomeTimelineSuits : Prop :=
  ∀ limit cursor responses, homeTimeline db viewer limit cursor = .ok responses →
    ∀ response ∈ responses, Suits db viewer response

def EventSuits (event : HomeUpdate) : Prop :=
  ∀ account ∈ db.localAccounts, event.isVisibleToUser account.id = true →
    Suits db account.id event.payload

def BoostSuits (proofs : ActivityProofs) (booster : AccountId) (statusId newId : StatusId) : Prop :=
  ∀ after outcome, statusCollectionReblog db proofs booster statusId newId = .ok (after, outcome) →
    ∀ event ∈ publishOutcome booster outcome, EventSuits after event

def RemoteBoostSuits (actor : AccountId) (activityId : String) : Prop :=
  ∀ event, publishRemoteReblogUpdate db actor activityId = .ok (some event) → EventSuits db event

end

def findBoosted (db : HomeDb) : StatusReference → Option StatusBody
  | .localStatus id => (findLocalStatusById db.toDb id).map .localStatus
  | .remoteStatus id => (findRemoteStatusById db.toDb id).map .remoteStatus

/-!
## Conditions
-/

/-- The boosts that a home timeline shows: a readable local status has an author that is not
muted; a remote one boosted by a local account is open, or followed and private, or addresses
the viewer, who neither mutes nor blocks the booster. -/
structure HomeBoostsSuit (db : HomeDb) (viewer : AccountId) : Prop where
  reblogs : ∀ reblog ∈ db.localStatusReblogs, reblogListed db viewer reblog = true →
    ∀ original, findLocalStatusById db.toDb reblog.statusId = some original →
      statusVisibleToViewerOn db.toDb original (some viewer) = true →
        activeLocalAccountMute db viewer original.accountId = false
  localRemoteReblogs : ∀ reblog ∈ db.localRemoteStatusReblogs,
    localRemoteReblogListed db viewer reblog = true →
    ∀ original, findRemoteStatusById db.toDb reblog.remoteStatusId = some original →
      remoteStatusAvailable db original = true →
      remoteAccountIsHiddenForViewer db viewer original.remoteActorId = false →
        Tolerates db viewer (.localAccount reblog.localAccountId) ∧
          (isOpen original.visibility = true ∨
            (original.visibility = .privateStatus ∧
              followsRemote db.toDb viewer original.remoteActorId = true) ∨
            addresses db.remoteStatusRecipients original.id viewer = true)
  remoteReblogs : ∀ reblog ∈ db.remoteStatusReblogs, remoteReblogListed db viewer reblog = true →
    ∀ actor, findRemoteActorById db.toDb reblog.remoteActorId = some actor →
      actorIsSuspended db actor = false →
    ∀ original, findBoosted db reblog.target = some original → mayRead db viewer original = true →
      mutes db viewer original.author = false

/-- A boosted local status has an author whom no one that receives the boost mutes, blocks
or is blocked by, and addresses them if it is direct. -/
def LocalBoostSuits (db : HomeDb) (booster : AccountId) (status : LocalStatus) : Prop :=
  ∀ account ∈ db.localAccounts,
    (account.id = booster ∨ account.id ∈ reblogStreamRecipients db booster) →
      localAccountIsHiddenForViewer db account.id status.accountId = false ∧
        (status.visibility = .direct → account.id = status.accountId ∨
          addresses db.localStatusRecipients status.id account.id = true)

/-- A boosted remote status has an author whom no one that receives the boost mutes or
blocks, and addresses them if it is direct. -/
def LocalRemoteBoostSuits (db : HomeDb) (booster : AccountId) (status : RemoteStatus) : Prop :=
  ∀ account ∈ db.localAccounts,
    (account.id = booster ∨ account.id ∈ reblogStreamRecipients db booster) →
      remoteAccountIsHiddenForViewer db account.id status.remoteActorId = false ∧
        (status.visibility = .direct →
          addresses db.remoteStatusRecipients status.id account.id = true)

/-- What a boost request finds. A request that is refused sends nothing. -/
def BoostedSuits (db : HomeDb) (proofs : ActivityProofs) (booster : AccountId)
    (statusId : StatusId) : Prop :=
  match visibleStatusForAccount db statusId booster with
  | some status =>
      (status.visibility = .privateStatus → status.accountId = booster) →
        LocalBoostSuits db booster status
  | none => ∀ remote, findRemoteStatusById db.toDb statusId = some remote →
      remoteStatusVisibleToAccount db.toDb remote booster = true →
      remote.visibility ≠ .privateStatus →
      ((findRemoteStatusReblog db booster remote.id).isSome ∨
        proofs.proveLocalActivity booster = .ok ()) →
        LocalRemoteBoostSuits db booster remote

/-- A remote boost whose original the first recipient may read: the others may read it too,
and none mutes its author. -/
def RemoteBoostedSuits (db : HomeDb) (actor : AccountId) (activityId : String) : Prop :=
  ∀ reblog, findRemoteStatusReblogByActivityId db actor activityId = some reblog →
  ∀ row, findRemoteActorById db.toDb actor = some row → actorIsSuspended db row = false →
  ∀ first others, remoteReblogRecipients db actor = first :: others →
  ∀ original, findBoosted db reblog.target = some original → mayRead db first original = true →
    (∀ account ∈ db.localAccounts, account.id ∈ others → mayRead db account.id original = true) ∧
      ∀ account ∈ db.localAccounts, account.id ∈ first :: others →
        mutes db account.id original.author = false

/-!
## Mutes, blocks and visibility
-/

section

variable {db : HomeDb} {viewer : AccountId}

private theorem mutedIds_contains {mutes : List AccountMute} {target : AccountId} :
    (mutedIds db mutes viewer).contains target = activeMute db mutes viewer target := by
  rw [Bool.eq_iff_iff]
  simp only [mutedIds, activeMute, List.contains_iff_mem, List.mem_map, List.mem_filter,
    List.any_eq_true, Bool.and_eq_true, beq_iff_eq]
  constructor
  · intro ⟨row, ⟨member, own, active⟩, same⟩
    exact ⟨row, member, ⟨own, same⟩, active⟩
  · intro ⟨row, member, ⟨own, same⟩, active⟩
    exact ⟨row, ⟨member, own, active⟩, same⟩

private theorem blockedIds_contains (keyed : db.Keyed) {target : AccountId} :
    (blockedLocalAccountIdsForAccount db viewer).contains target =
      localAccountsAreBlocked db.toDb viewer target := by
  rw [Bool.eq_iff_iff]
  simp only [blockedLocalAccountIdsForAccount, localAccountsAreBlocked, List.contains_iff_mem,
    List.mem_map, List.mem_filter, List.any_eq_true, Bool.and_eq_true, Bool.or_eq_true, beq_iff_eq,
    bne_iff_ne]
  constructor
  · rintro ⟨row, ⟨member, either⟩, same⟩
    have apart := keyed.blocks row member
    by_cases own : row.accountId = viewer
    · rw [if_pos own] at same
      exact ⟨fun equal => apart (own.trans (equal.trans same.symm)), row, member, .inl ⟨own, same⟩⟩
    · rw [if_neg own] at same
      have back := either.resolve_left own
      exact ⟨fun equal => apart (same.trans (equal.symm.trans back.symm)), row, member,
        .inr ⟨same, back⟩⟩
  · rintro ⟨apart, row, member, pair⟩
    cases pair with
    | inl pair => exact ⟨row, ⟨member, .inl pair.1⟩, by rw [if_pos pair.1]; exact pair.2⟩
    | inr pair =>
        refine ⟨row, ⟨member, .inr pair.2⟩, ?_⟩
        rw [if_neg fun own => apart (own.symm.trans pair.1)]
        exact pair.1

theorem hiddenLocalAccountIds_contains (keyed : db.Keyed) {target : AccountId} :
    (hiddenLocalAccountIdsForAccount db viewer).contains target =
      localAccountIsHiddenForViewer db viewer target := by
  rw [hiddenLocalAccountIdsForAccount, List.contains_append, blockedIds_contains keyed,
    mutedIds_contains]
  rfl

theorem hiddenRemoteActorIds_contains {target : AccountId} :
    (hiddenRemoteActorIdsForAccount db viewer).contains target =
      remoteAccountIsHiddenForViewer db viewer target := by
  have blocked : ((db.localRemoteAccountBlocks.filter fun row => row.accountId == viewer).map
      AccountPair.targetId).contains target = blocksRemote db.toDb viewer target := by
    rw [Bool.eq_iff_iff]
    simp only [blocksRemote, List.contains_iff_mem, List.mem_map, List.mem_filter,
      List.any_eq_true, Bool.and_eq_true, beq_iff_eq, and_assoc]
  rw [hiddenRemoteActorIdsForAccount, List.contains_append, blocked, mutedIds_contains]
  rfl

private theorem blocks_local (keyed : db.Keyed) {target : AccountId}
    (blocked : localAccountsAreBlocked db.toDb viewer target = false) :
    blocks db viewer (.localAccount target) = false := by
  refine Bool.eq_false_iff.mpr fun found => ?_
  obtain ⟨row, member, pair⟩ := List.any_eq_true.mp found
  simp only [Bool.and_eq_true, beq_iff_eq] at pair
  have apart := keyed.blocks row member
  rw [pair.1, pair.2] at apart
  refine Bool.eq_false_iff.mp blocked ?_
  simp only [localAccountsAreBlocked, Bool.and_eq_true, bne_iff_ne, List.any_eq_true]
  exact ⟨apart, row, member, by simp [pair]⟩

theorem tolerates_local (keyed : db.Keyed) {target : AccountId}
    (shown : localAccountIsHiddenForViewer db viewer target = false) :
    Tolerates db viewer (.localAccount target) := by
  obtain ⟨blocked, muted⟩ := Bool.or_eq_false_iff.mp shown
  exact ⟨muted, blocks_local keyed blocked⟩

theorem tolerates_remote {actor : AccountId} :
    Tolerates db viewer (.remoteActor actor) ↔
      remoteAccountIsHiddenForViewer db viewer actor = false := by
  rw [remoteAccountIsHiddenForViewer, Bool.or_eq_false_iff, and_comm]
  rfl

private theorem not_hidden_self (keyed : db.Keyed) (account : AccountId) :
    localAccountIsHiddenForViewer db account account = false := by
  refine Bool.or_eq_false_iff.mpr ⟨by simp [localAccountsAreBlocked], ?_⟩
  refine Bool.eq_false_iff.mpr fun muted => ?_
  obtain ⟨row, member, pair⟩ := List.any_eq_true.mp muted
  simp only [Bool.and_eq_true, beq_iff_eq] at pair
  exact keyed.mutes row member (pair.1.1.trans pair.1.2.symm)

end

/-!
## Rendered boosts
-/

section

variable {db : HomeDb} {viewer : AccountId}

private theorem findLocalAccountById_id {id : AccountId} {account : LocalAccount}
    (found : findLocalAccountById db.toDb id = some account) :
    account.id = id ∧ account ∈ db.localAccounts :=
  ⟨by simpa using List.find?_some found, List.mem_of_find?_eq_some found⟩

private theorem findRemoteActorById_id {id : AccountId} {actor : RemoteActor}
    (found : findRemoteActorById db.toDb id = some actor) :
    actor.id = id ∧ actor ∈ db.remoteActors :=
  ⟨by simpa using List.find?_some found, List.mem_of_find?_eq_some found⟩

theorem statusWithAuthor_ok (keyed : db.Keyed) {status : LocalStatus}
    (member : status ∈ db.localStatuses) : statusWithAuthor db status = .ok (.localStatus status) := by
  obtain ⟨account, found⟩ := Option.isSome_iff_exists.mp (keyed.localAuthors status member)
  simp only [statusWithAuthor, found, okOr_some, ok_bind]
  rfl

theorem remoteStatusResponseForViewer_ok (keyed : db.Keyed) {status : RemoteStatus}
    (member : status ∈ db.remoteStatuses) :
    remoteStatusResponseForViewer db status = .ok (.remoteStatus status) := by
  obtain ⟨actor, found⟩ := Option.isSome_iff_exists.mp (keyed.remoteAuthors status member)
  simp only [remoteStatusResponseForViewer, found, okOr_some, ok_bind]
  rfl

theorem reblogResponse_eq (viewer : AccountId) (keyed : db.Keyed) (reblog : LocalStatusReblog)
    (booster : (findLocalAccountById db.toDb reblog.accountId).isSome) :
    reblogResponse db reblog (some viewer) =
      .ok (((findLocalStatusById db.toDb reblog.statusId).filter fun original =>
        statusVisibleToViewerOn db.toDb original (some viewer)).map fun original =>
          .reblog reblog.id (.localAccount reblog.accountId) (.localStatus original)) := by
  obtain ⟨account, found⟩ := Option.isSome_iff_exists.mp booster
  unfold reblogResponse
  cases located : findLocalStatusById db.toDb reblog.statusId with
  | none => rfl
  | some original =>
      have member := ((findLocalStatusById_eq_some_iff keyed.toKeyed).mp located).1
      cases visible : statusVisibleToViewerOn db.toDb original (some viewer) with
      | false => simp [visible, Option.filter]
      | true =>
          simp only [visible, found, statusWithAuthor_ok keyed member, ok_bind, Option.filter,
            (findLocalAccountById_id found).1, Bool.not_true, Bool.false_eq_true, if_false, if_true]
          rfl

theorem localRemoteReblogResponse_eq (keyed : db.Keyed) (reblog : LocalRemoteStatusReblog)
    (booster : (findLocalAccountById db.toDb reblog.localAccountId).isSome) :
    localRemoteReblogResponse db reblog =
      .ok ((findRemoteStatusById db.toDb reblog.remoteStatusId).map fun original =>
        .reblog reblog.id (.localAccount reblog.localAccountId) (.remoteStatus original)) := by
  obtain ⟨account, found⟩ := Option.isSome_iff_exists.mp booster
  unfold localRemoteReblogResponse
  cases located : findRemoteStatusById db.toDb reblog.remoteStatusId with
  | none => rfl
  | some original =>
      have member := ((findRemoteStatusById_eq_some_iff keyed.toKeyed).mp located).1
      simp only [found, remoteStatusResponseForViewer_ok keyed member, ok_bind,
        (findLocalAccountById_id found).1]
      rfl

theorem remoteReblogOriginal_eq (keyed : db.Keyed) (target : StatusReference) :
    remoteReblogOriginal db target (some viewer) =
      .ok ((findBoosted db target).filter (mayRead db viewer)) := by
  cases target with
  | localStatus id =>
      dsimp only [remoteReblogOriginal, findBoosted]
      cases located : findLocalStatusById db.toDb id with
      | none => rfl
      | some status =>
          have member := ((findLocalStatusById_eq_some_iff keyed.toKeyed).mp located).1
          cases visible : statusVisibleToViewerOn db.toDb status (some viewer) with
          | false => simp [visible, mayRead, Option.filter]
          | true =>
              simp only [visible, statusWithAuthor_ok keyed member, mayRead, Option.filter,
                Option.map, Bool.not_true, Bool.false_eq_true, if_false, if_true]
              rfl
  | remoteStatus id =>
      dsimp only [remoteReblogOriginal, findBoosted]
      cases located : findRemoteStatusById db.toDb id with
      | none => rfl
      | some status =>
          have member := ((findRemoteStatusById_eq_some_iff keyed.toKeyed).mp located).1
          cases visible : remoteStatusVisibleToAccount db.toDb status viewer with
          | false => simp [visible, mayRead, Option.filter, remoteStatusVisibleToViewer]
          | true =>
              simp only [visible, remoteStatusResponseForViewer_ok keyed member, mayRead,
                Option.filter, Option.map, remoteStatusVisibleToViewer, Bool.not_true,
                Bool.false_eq_true, if_false, if_true]
              rfl

theorem remoteReblogResponse_eq (viewer : AccountId) (keyed : db.Keyed)
    {reblog : RemoteStatusReblog}
    {actor : RemoteActor} (found : findRemoteActorById db.toDb reblog.remoteActorId = some actor) :
    remoteReblogResponse db reblog (some viewer) =
      .ok (if actorIsSuspended db actor ||
          remoteAccountIsHiddenForViewer db viewer reblog.remoteActorId then none
        else ((findBoosted db reblog.target).filter (mayRead db viewer)).map
          (.reblog reblog.id (.remoteActor reblog.remoteActorId))) := by
  unfold remoteReblogResponse
  cases suspended : actorIsSuspended db actor with
  | true =>
      simp only [found, okOr_some, ok_bind, suspended, Bool.true_or, if_true]
      rfl
  | false =>
      cases hidden : remoteAccountIsHiddenForViewer db viewer reblog.remoteActorId with
      | true => simp [found, hidden]
      | false =>
          simp [found, suspended, hidden, remoteReblogOriginal_eq keyed,
            (findRemoteActorById_id found).1]

end

/-!
## Pages
-/

def ItemListed (db : HomeDb) (viewer : AccountId) : HomeTimelineItem → Prop
  | .status status => status ∈ db.localStatuses ∧ statusListed db viewer status = true
  | .reblog reblog => reblog ∈ db.localStatusReblogs ∧ reblogListed db viewer reblog = true
  | .remoteStatus status =>
      status ∈ db.remoteStatuses ∧ remoteStatusHomeListed db viewer status = true
  | .localRemoteReblog reblog =>
      reblog ∈ db.localRemoteStatusReblogs ∧ localRemoteReblogListed db viewer reblog = true
  | .remoteReblog reblog =>
      reblog ∈ db.remoteStatusReblogs ∧ remoteReblogListed db viewer reblog = true

def cursorFrom (id : StatusId) : TimelineCursor :=
  ⟨some ⟨id.value + 1⟩, none, none⟩

section

variable {Row : Type} {id : Row → StatusId} {listed : Row → Bool} {limit : Nat}
  {cursor : TimelineCursor} {rows : List Row}

private theorem mem_newestListed {row : Row}
    (member : row ∈ newestListed id listed limit cursor rows) :
    row ∈ rows ∧ listed row = true ∧ applyTimelineCursor cursor (id row) = true := by
  have inside := Paging.mem_newestFirst.mp (List.mem_of_mem_take member)
  simpa using inside

private theorem selected_distinct (distinct : (rows.map id).Nodup) (selected : Row → Bool) :
    ((rows.filter selected).map fun row => (id row).value).Nodup := by
  have injective : Function.Injective StatusId.value := by
    intro first second same
    cases first
    cases second
    cases same
    rfl
  have values := distinct.map injective
  rw [List.map_map] at values
  exact (List.filter_sublist.map _).nodup values

private theorem newestListed_distinct (distinct : (rows.map id).Nodup) :
    ((newestListed id listed limit cursor rows).map fun row => (id row).value).Nodup := by
  have sorted := ((List.perm_insertionSort (fun left right => (id right).value ≤ (id left).value)
    (rows.filter fun row => listed row && applyTimelineCursor cursor (id row))).map
      fun row => (id row).value).nodup_iff.mpr (selected_distinct distinct _)
  exact ((List.take_sublist _ _).map _).nodup sorted

private theorem value_of_cursorFrom {first other : StatusId}
    (within : applyTimelineCursor (cursorFrom first) other = true)
    (above : first.value ≤ other.value) : other.value = first.value := by
  simp [applyTimelineCursor, cursorFrom] at within
  omega

private theorem cursorFrom_self (first : StatusId) :
    applyTimelineCursor (cursorFrom first) first = true := by
  simp [applyTimelineCursor, cursorFrom]

private theorem newestListed_few (listed : Row → Bool) (limit : Nat)
    (make : Row → HomeTimelineItem) (distinct : (rows.map id).Nodup)
    (made : ∀ row, timelineItemId (make row) = id row) (first : StatusId) :
    (((newestListed id listed limit (cursorFrom first) rows).map make).filter fun item =>
      first.value ≤ (timelineItemId item).value).length ≤ 1 := by
  rw [List.filter_map, List.length_map]
  have same : ∀ row ∈ newestListed id listed limit (cursorFrom first) rows,
      ((fun item => decide (first.value ≤ (timelineItemId item).value)) ∘ make) row = true →
        (id row).value = first.value := by
    intro row member above
    rw [Function.comp_apply, made, decide_eq_true_eq] at above
    exact value_of_cursorFrom (mem_newestListed member).2.2 above
  exact Paging.length_filter_le_one (newestListed_distinct distinct) same

private theorem mem_newestListed_cursorFrom (distinct : (rows.map id).Nodup) {row : Row}
    (member : row ∈ rows) (selected : listed row = true) :
    row ∈ newestListed id listed limit (cursorFrom (id row)) rows := by
  refine Paging.mem_take_newestFirst ?_ ?_
  · simp [member, selected, cursorFrom_self]
  · have same : ∀ other ∈ rows.filter (fun other =>
          listed other && applyTimelineCursor (cursorFrom (id row)) (id other)),
        decide ((id row).value ≤ (id other).value) = true → (id other).value = (id row).value := by
      intro other inside above
      have within := (List.mem_filter.mp inside).2
      rw [Bool.and_eq_true] at within
      exact value_of_cursorFrom within.2 (decide_eq_true_eq.mp above)
    have room : 1 ≤ pageQueryLimit limit := by
      unfold pageQueryLimit
      omega
    exact Nat.le_trans (Paging.length_filter_le_one (selected_distinct distinct _) same) room

end

section

variable {db : HomeDb} {viewer : AccountId} {limit : Nat} {cursor : TimelineCursor}

theorem itemListed_of_mem {item : HomeTimelineItem}
    (member : item ∈ (homeTimelineForAccount db viewer limit cursor).items) :
    ItemListed db viewer item := by
  have candidate : item ∈ homeTimelineCandidates db viewer limit cursor :=
    Paging.mem_newestFirst.mp (Paging.mem_of_mem_trimToPage member)
  simp only [homeTimelineCandidates, List.mem_append, List.mem_map] at candidate
  obtain (((⟨row, inside, rfl⟩ | ⟨row, inside, rfl⟩) | ⟨row, inside, rfl⟩) | ⟨row, inside, rfl⟩) |
    ⟨row, inside, rfl⟩ := candidate <;>
    exact ⟨(mem_newestListed inside).1, (mem_newestListed inside).2.1⟩

private theorem mem_candidates (keyed : db.Keyed) {item : HomeTimelineItem}
    (listed : ItemListed db viewer item) :
    item ∈ homeTimelineCandidates db viewer limit (cursorFrom (timelineItemId item)) := by
  simp only [homeTimelineCandidates, List.mem_append, List.mem_map]
  cases item with
  | status status =>
      exact .inl (.inl (.inl (.inl ⟨status,
        mem_newestListed_cursorFrom keyed.localStatuses listed.1 listed.2, rfl⟩)))
  | reblog reblog =>
      exact .inl (.inl (.inl (.inr ⟨reblog,
        mem_newestListed_cursorFrom keyed.localStatusReblogs listed.1 listed.2, rfl⟩)))
  | remoteStatus status =>
      exact .inl (.inl (.inr ⟨status,
        mem_newestListed_cursorFrom keyed.remoteStatuses listed.1 listed.2, rfl⟩))
  | localRemoteReblog reblog =>
      exact .inl (.inr ⟨reblog,
        mem_newestListed_cursorFrom keyed.localRemoteStatusReblogs listed.1 listed.2, rfl⟩)
  | remoteReblog reblog =>
      exact .inr ⟨reblog,
        mem_newestListed_cursorFrom keyed.remoteStatusReblogs listed.1 listed.2, rfl⟩

private theorem candidates_few (keyed : db.Keyed) (first : StatusId) :
    ((homeTimelineCandidates db viewer limit (cursorFrom first)).filter fun item =>
      first.value ≤ (timelineItemId item).value).length ≤ 5 := by
  have statuses := newestListed_few (statusListed db viewer) limit .status
    keyed.localStatuses (fun _ => rfl) first
  have reblogs := newestListed_few (reblogListed db viewer) limit .reblog
    keyed.localStatusReblogs (fun _ => rfl) first
  have remoteStatuses := newestListed_few (remoteStatusHomeListed db viewer) limit .remoteStatus
    keyed.remoteStatuses (fun _ => rfl) first
  have localRemoteReblogs := newestListed_few (localRemoteReblogListed db viewer) limit
    .localRemoteReblog keyed.localRemoteStatusReblogs (fun _ => rfl) first
  have remoteReblogs := newestListed_few (remoteReblogListed db viewer) limit .remoteReblog
    keyed.remoteStatusReblogs (fun _ => rfl) first
  simp only [homeTimelineCandidates, List.filter_append, List.length_append]
  omega

theorem mem_homeTimeline_cursorFrom (keyed : db.Keyed) {item : HomeTimelineItem}
    (listed : ItemListed db viewer item) {limit : Nat} (room : 5 ≤ limit) :
    item ∈ (homeTimelineForAccount db viewer limit (cursorFrom (timelineItemId item))).items := by
  refine Paging.mem_trimToPage_of_mem_take (Paging.mem_take_newestFirst ?_ ?_)
  · exact mem_candidates keyed listed
  · exact Nat.le_trans (candidates_few keyed _) room

theorem mem_homeTimelineModels {items : List HomeTimelineItem} {responses : List StatusResponse}
    (rendered : homeTimelineModels db viewer items = .ok responses) {response : StatusResponse} :
    response ∈ responses ↔
      ∃ item ∈ items, homeTimelineModel db viewer item = .ok (some response) := by
  induction items generalizing responses with
  | nil =>
      cases rendered
      simp
  | cons item items ih =>
      obtain ⟨head, headRendered, rest⟩ := bind_ok rendered
      obtain ⟨tail, tailRendered, result⟩ := bind_ok rest
      cases result
      simp [ih tailRendered, headRendered, Option.mem_toList]

theorem homeTimelineModel_total (keyed : db.Keyed) {item : HomeTimelineItem}
    (listed : ItemListed db viewer item) :
    ∃ response, homeTimelineModel db viewer item = .ok response := by
  cases item with
  | status status =>
      exact ⟨_, by simp only [homeTimelineModel, statusWithAuthor_ok keyed listed.1, ok_bind]; rfl⟩
  | reblog reblog =>
      exact ⟨_, reblogResponse_eq viewer keyed reblog (keyed.localBoosters reblog listed.1)⟩
  | remoteStatus status =>
      cases available : remoteStatusAvailable db status with
      | false => exact ⟨none, by simp [homeTimelineModel, available]⟩
      | true =>
          refine ⟨some (.status (.remoteStatus status)), ?_⟩
          simp only [homeTimelineModel, available, remoteStatusResponseForViewer_ok keyed listed.1,
            ok_bind, Bool.not_true, Bool.false_eq_true, if_false]
          rfl
  | localRemoteReblog reblog =>
      have response := localRemoteReblogResponse_eq keyed reblog
        (keyed.localRemoteBoosters reblog listed.1)
      dsimp only [homeTimelineModel]
      split
      · exact ⟨none, rfl⟩
      · split
        · exact ⟨none, rfl⟩
        · exact ⟨_, response⟩
  | remoteReblog reblog =>
      obtain ⟨actor, found⟩ := Option.isSome_iff_exists.mp (keyed.remoteBoosters reblog listed.1)
      exact ⟨_, remoteReblogResponse_eq viewer keyed found⟩

private theorem homeTimelineModels_total (keyed : db.Keyed) {items : List HomeTimelineItem}
    (listed : ∀ item ∈ items, ItemListed db viewer item) :
    ∃ responses, homeTimelineModels db viewer items = .ok responses := by
  induction items with
  | nil => exact ⟨[], rfl⟩
  | cons item items ih =>
      obtain ⟨response, head⟩ := homeTimelineModel_total keyed (listed item List.mem_cons_self)
      obtain ⟨responses, tail⟩ := ih fun other member => listed other (List.mem_cons_of_mem _ member)
      exact ⟨_, by simp only [homeTimelineModels, head, tail, ok_bind]; rfl⟩

theorem homeTimelineSuits_iff_items (keyed : db.Keyed) :
    HomeTimelineSuits db viewer ↔
      ∀ item, ItemListed db viewer item → ∀ response,
        homeTimelineModel db viewer item = .ok (some response) → Suits db viewer response := by
  constructor
  · intro suits item listed response rendered
    have room : 5 ≤ timelineLimit (some 5) := by decide
    have present := mem_homeTimeline_cursorFrom keyed listed room
    have allListed : ∀ other ∈ (homeTimelineForAccount db viewer (timelineLimit (some 5))
        (cursorFrom (timelineItemId item))).items, ItemListed db viewer other :=
      fun _ member => itemListed_of_mem member
    obtain ⟨responses, page⟩ := homeTimelineModels_total keyed allListed
    exact suits (some 5) _ responses page response
      ((mem_homeTimelineModels page).mpr ⟨item, present, rendered⟩)
  · intro suits limit cursor responses page response member
    obtain ⟨item, present, rendered⟩ := (mem_homeTimelineModels page).mp member
    exact suits item (itemListed_of_mem present) response rendered

end

/-!
## The home timeline
-/

section

variable {db : HomeDb} {viewer : AccountId}

private theorem follows_of_followedIds {author : AccountId}
    (followed : (followedIds db viewer).contains author = true) :
    follows db.toDb viewer author = true := by
  simp only [followedIds, List.contains_iff_mem, List.mem_map, List.mem_filter, Bool.and_eq_true]
    at followed
  obtain ⟨row, ⟨member, follower, _⟩, rfl⟩ := followed
  exact List.any_eq_true.mpr ⟨row, member, by simpa using follower⟩

private theorem isFollowable_iff {visibility : StatusVisibility} :
    isFollowable visibility = true ↔ isOpen visibility = true ∨ visibility = .privateStatus := by
  cases visibility <;> decide

theorem status_suits (keyed : db.Keyed) {status : LocalStatus}
    (listed : statusListed db viewer status = true) :
    Suits db viewer (.status (.localStatus status)) := by
  simp only [statusListed, Bool.and_eq_true, Bool.or_eq_true, Bool.not_eq_true', beq_iff_eq,
    isFollowable_iff] at listed
  obtain ⟨⟨⟨reason, _⟩, shown⟩, _⟩ := listed
  rw [hiddenLocalAccountIds_contains keyed] at shown
  have tolerated := tolerates_local keyed shown
  refine ⟨statusVisibleToViewerOn_iff.mpr ⟨(Bool.or_eq_false_iff.mp shown).1, ?_⟩, tolerated,
    tolerated⟩
  obtain ((own | followed) | addressed) | tagged := reason
  · exact .inr (.inl own.symm)
  · obtain ⟨followed, visible | kept⟩ := followed
    · exact .inl visible
    · exact .inr (.inr (.inl ⟨kept, follows_of_followedIds followed⟩))
  · exact .inr (.inr (.inr addressed.2))
  · exact .inl (by rw [tagged.1]; rfl)

theorem remoteStatus_suits {status : RemoteStatus}
    (listed : remoteStatusHomeListed db viewer status = true) :
    Suits db viewer (.status (.remoteStatus status)) := by
  simp only [remoteStatusHomeListed, Bool.and_eq_true, Bool.or_eq_true, Bool.not_eq_true',
    beq_iff_eq, isFollowable_iff] at listed
  obtain ⟨⟨⟨reason, _⟩, shown⟩, _⟩ := listed
  rw [hiddenRemoteActorIds_contains] at shown
  have tolerated := tolerates_remote.mpr shown
  refine ⟨remoteStatusVisibleToAccount_iff.mpr ⟨tolerated.2, ?_⟩, tolerated, tolerated⟩
  obtain (followed | addressed) | tagged := reason
  · obtain ⟨⟨followed, _⟩, visible | kept⟩ := followed
    · exact .inl visible
    · exact .inr (.inl ⟨kept, followed⟩)
  · exact .inr (.inr addressed.2)
  · exact .inl (by rw [tagged.1]; rfl)

private theorem blocks_author (keyed : db.Keyed) {body : StatusBody}
    (readable : mayRead db viewer body = true) : blocks db viewer body.author = false := by
  cases body with
  | localStatus status =>
      exact blocks_local keyed (statusVisibleToViewerOn_iff.mp readable).1
  | remoteStatus status => exact (remoteStatusVisibleToAccount_iff.mp readable).1

private theorem suits_reblog_iff (keyed : db.Keyed) {id : StatusId} {body : StatusBody}
    {booster : StatusAccountResponse} (readable : mayRead db viewer body = true)
    (tolerated : Tolerates db viewer booster) :
    Suits db viewer (.reblog id booster body) ↔ mutes db viewer body.author = false :=
  ⟨fun suits => suits.author.1,
    fun unmuted => ⟨readable, ⟨unmuted, blocks_author keyed readable⟩, tolerated⟩⟩

private def ItemSuits (db : HomeDb) (viewer : AccountId) (item : HomeTimelineItem) : Prop :=
  ∀ response, homeTimelineModel db viewer item = .ok (some response) → Suits db viewer response

private theorem reblogItem_suits_iff (keyed : db.Keyed) {reblog : LocalStatusReblog}
    (member : reblog ∈ db.localStatusReblogs) (listed : reblogListed db viewer reblog = true) :
    ItemSuits db viewer (.reblog reblog) ↔
      ∀ original, findLocalStatusById db.toDb reblog.statusId = some original →
        statusVisibleToViewerOn db.toDb original (some viewer) = true →
          activeLocalAccountMute db viewer original.accountId = false := by
  have rendered := reblogResponse_eq viewer keyed reblog (keyed.localBoosters reblog member)
  rw [reblogListed, Bool.and_eq_true, Bool.not_eq_true', hiddenLocalAccountIds_contains keyed]
    at listed
  have tolerated := tolerates_local keyed listed.2
  constructor
  · intro suits original located visible
    rw [located, Option.filter_some, if_pos visible] at rendered
    exact (suits _ rendered).author.1
  · intro unmuted response shown
    rw [homeTimelineModel, rendered, Except.ok.injEq, Option.map_eq_some_iff] at shown
    obtain ⟨original, found, rfl⟩ := shown
    obtain ⟨located, visible⟩ := Option.filter_eq_some_iff.mp found
    have readable : mayRead db viewer (.localStatus original) = true := visible
    exact (suits_reblog_iff keyed readable tolerated).mpr (unmuted original located visible)

private theorem localRemoteReblogItem_suits_iff (keyed : db.Keyed)
    {reblog : LocalRemoteStatusReblog} (member : reblog ∈ db.localRemoteStatusReblogs) :
    ItemSuits db viewer (.localRemoteReblog reblog) ↔
      ∀ original, findRemoteStatusById db.toDb reblog.remoteStatusId = some original →
        remoteStatusAvailable db original = true →
        remoteAccountIsHiddenForViewer db viewer original.remoteActorId = false →
          Tolerates db viewer (.localAccount reblog.localAccountId) ∧
            (isOpen original.visibility = true ∨
              (original.visibility = .privateStatus ∧
                followsRemote db.toDb viewer original.remoteActorId = true) ∨
              addresses db.remoteStatusRecipients original.id viewer = true) := by
  have response := localRemoteReblogResponse_eq keyed reblog (keyed.localRemoteBoosters reblog member)
  constructor
  · intro suits original located available shown
    have rendered : homeTimelineModel db viewer (.localRemoteReblog reblog) =
        localRemoteReblogResponse db reblog := by
      simp [homeTimelineModel, located, available, shown]
    rw [response, located] at rendered
    have suited := suits _ rendered
    exact ⟨suited.account, (remoteStatusVisibleToAccount_iff.mp suited.readable).2⟩
  · intro allowed shown rendered
    rw [homeTimelineModel] at rendered
    split at rendered
    · cases rendered
    case h_2 original located =>
      split at rendered
      · cases rendered
      case isFalse served =>
        rw [response, located] at rendered
        cases rendered
        rw [Bool.or_eq_true, not_or, Bool.not_eq_true, Bool.not_eq_false', Bool.not_eq_true]
          at served
        obtain ⟨tolerated, reason⟩ := allowed original located served.1 served.2
        have author := tolerates_remote.mpr served.2
        exact ⟨remoteStatusVisibleToAccount_iff.mpr ⟨author.2, reason⟩, author, tolerated⟩

private theorem remoteReblogItem_suits_iff (keyed : db.Keyed) {reblog : RemoteStatusReblog}
    (listed : remoteReblogListed db viewer reblog = true) {actor : RemoteActor}
    (found : findRemoteActorById db.toDb reblog.remoteActorId = some actor) :
    ItemSuits db viewer (.remoteReblog reblog) ↔
      (actorIsSuspended db actor = false →
        ∀ original, findBoosted db reblog.target = some original →
          mayRead db viewer original = true → mutes db viewer original.author = false) := by
  have rendered := remoteReblogResponse_eq viewer keyed found
  simp only [remoteReblogListed, Bool.and_eq_true, Bool.not_eq_true', hiddenRemoteActorIds_contains]
    at listed
  have tolerated := tolerates_remote.mpr listed.2
  rw [listed.2, Bool.or_false] at rendered
  constructor
  · intro suits active original located readable
    rw [active, located, Option.filter_some, if_pos readable] at rendered
    exact (suits _ rendered).author.1
  · intro unmuted response shown
    cases active : actorIsSuspended db actor with
    | true =>
        rw [homeTimelineModel, rendered, active] at shown
        cases shown
    | false =>
        rw [homeTimelineModel, rendered, active, Except.ok.injEq, if_neg Bool.false_ne_true,
          Option.map_eq_some_iff] at shown
        obtain ⟨original, kept, rfl⟩ := shown
        obtain ⟨located, readable⟩ := Option.filter_eq_some_iff.mp kept
        exact (suits_reblog_iff keyed readable tolerated).mpr
          (unmuted active original located readable)

private theorem statusItem_suits (keyed : db.Keyed) {status : LocalStatus}
    (listed : statusListed db viewer status = true) : ItemSuits db viewer (.status status) := by
  intro response rendered
  obtain ⟨body, authored, result⟩ := bind_ok rendered
  obtain ⟨_, _, result'⟩ := bind_ok authored
  cases result
  cases result'
  exact status_suits keyed listed

private theorem remoteStatusItem_suits {status : RemoteStatus}
    (listed : remoteStatusHomeListed db viewer status = true) :
    ItemSuits db viewer (.remoteStatus status) := by
  intro response rendered
  rw [homeTimelineModel] at rendered
  split at rendered
  · cases rendered
  · obtain ⟨body, authored, result⟩ := bind_ok rendered
    obtain ⟨_, _, result'⟩ := bind_ok authored
    cases result
    cases result'
    exact remoteStatus_suits listed

theorem homeTimelineSuits_iff (keyed : db.Keyed) :
    HomeTimelineSuits db viewer ↔ HomeBoostsSuit db viewer := by
  rw [homeTimelineSuits_iff_items keyed]
  constructor
  · intro suits
    refine ⟨?_, ?_, ?_⟩
    · intro reblog member listed
      exact (reblogItem_suits_iff keyed member listed).mp (suits (.reblog reblog) ⟨member, listed⟩)
    · intro reblog member listed
      exact (localRemoteReblogItem_suits_iff keyed member).mp
        (suits (.localRemoteReblog reblog) ⟨member, listed⟩)
    · intro reblog member listed actor found
      exact (remoteReblogItem_suits_iff keyed listed found).mp
        (suits (.remoteReblog reblog) ⟨member, listed⟩)
  · intro boosts item listed
    cases item with
    | status status => exact statusItem_suits keyed listed.2
    | reblog reblog =>
        exact (reblogItem_suits_iff keyed listed.1 listed.2).mpr
          (boosts.reblogs reblog listed.1 listed.2)
    | remoteStatus status => exact remoteStatusItem_suits listed.2
    | localRemoteReblog reblog =>
        exact (localRemoteReblogItem_suits_iff keyed listed.1).mpr
          (boosts.localRemoteReblogs reblog listed.1 listed.2)
    | remoteReblog reblog =>
        obtain ⟨actor, found⟩ := Option.isSome_iff_exists.mp (keyed.remoteBoosters reblog listed.1)
        exact (remoteReblogItem_suits_iff keyed listed.2 found).mpr
          (boosts.remoteReblogs reblog listed.1 listed.2 actor found)

end

/-!
## Streams of boosts
-/

section

variable {db : HomeDb} {proofs : ActivityProofs} {booster : AccountId} {statusId newId : StatusId}

private theorem mem_reblogStreamRecipients {account : AccountId}
    (member : account ∈ reblogStreamRecipients db booster) :
    follows db.toDb account booster = true ∧
      localAccountIsHiddenForViewer db account booster = false := by
  obtain ⟨follower, shown⟩ := List.mem_filter.mp member
  simp only [localFollowerIdsForAccount, List.mem_map, List.mem_filter, Bool.and_eq_true]
    at follower
  obtain ⟨row, ⟨inside, followed, _⟩, rfl⟩ := follower
  exact ⟨List.any_eq_true.mpr ⟨row, inside, by simpa using followed⟩, by simpa using shown⟩

private theorem receiver_shows (keyed : db.Keyed) {account : AccountId}
    (receives : account = booster ∨ account ∈ reblogStreamRecipients db booster) :
    localAccountIsHiddenForViewer db account booster = false := by
  cases receives with
  | inl own =>
      rw [own]
      exact not_hidden_self keyed booster
  | inr member => exact (mem_reblogStreamRecipients member).2

private def boostEvent (db : HomeDb) (booster : AccountId) (id : StatusId) (body : StatusBody) :
    HomeUpdate :=
  ⟨.reblog id (.localAccount booster) body, booster, reblogStreamRecipients db booster⟩

private theorem boostEvent_visible_iff {id : StatusId} {body : StatusBody} {account : AccountId} :
    (boostEvent db booster id body).isVisibleToUser account = true ↔
      account = booster ∨ account ∈ reblogStreamRecipients db booster := by
  rw [HomeUpdate.isVisibleToUser, Bool.or_eq_true, beq_iff_eq, List.contains_iff_mem, eq_comm]
  rfl

private theorem localBoost_suits_iff (keyed : db.Keyed) {id : StatusId} {status : LocalStatus}
    (own : status.visibility = .privateStatus → status.accountId = booster) :
    EventSuits db (boostEvent db booster id (.localStatus status)) ↔
      LocalBoostSuits db booster status := by
  refine forall₂_congr fun account _ => ?_
  rw [boostEvent_visible_iff]
  refine imp_congr_right fun receives => ?_
  have shown := receiver_shows keyed receives
  constructor
  · intro suits
    obtain ⟨unblocked, reason⟩ := statusVisibleToViewerOn_iff.mp suits.readable
    refine ⟨Bool.or_eq_false_iff.mpr ⟨unblocked, suits.author.1⟩, ?_⟩
    intro direct
    rw [direct] at reason
    obtain opened | author | kept | addressed := reason
    · cases opened
    · exact .inl author
    · cases kept.1
    · exact .inr addressed
  · intro ⟨authorShown, addressed⟩
    refine ⟨statusVisibleToViewerOn_iff.mpr ⟨(Bool.or_eq_false_iff.mp authorShown).1, ?_⟩,
      tolerates_local keyed authorShown, tolerates_local keyed shown⟩
    cases kind : status.visibility with
    | publicStatus => exact .inl rfl
    | unlisted => exact .inl rfl
    | privateStatus =>
        rw [own kind]
        cases receives with
        | inl self => exact .inr (.inl self)
        | inr member =>
            exact .inr (.inr (.inl ⟨rfl, (mem_reblogStreamRecipients member).1⟩))
    | direct =>
        cases addressed kind with
        | inl author => exact .inr (.inl author)
        | inr recipient => exact .inr (.inr (.inr recipient))

private theorem localRemoteBoost_suits_iff (keyed : db.Keyed) (id : StatusId) {status : RemoteStatus}
    (notPrivate : status.visibility ≠ .privateStatus) :
    EventSuits db (boostEvent db booster id (.remoteStatus status)) ↔
      LocalRemoteBoostSuits db booster status := by
  refine forall₂_congr fun account _ => ?_
  rw [boostEvent_visible_iff]
  refine imp_congr_right fun receives => ?_
  have shown := receiver_shows keyed receives
  constructor
  · intro suits
    refine ⟨tolerates_remote.mp suits.author, ?_⟩
    intro direct
    obtain ⟨_, reason⟩ := remoteStatusVisibleToAccount_iff.mp suits.readable
    rw [direct] at reason
    obtain opened | kept | addressed := reason
    · cases opened
    · cases kept.1
    · exact addressed
  · intro ⟨authorShown, addressed⟩
    have author := tolerates_remote.mpr authorShown
    refine ⟨remoteStatusVisibleToAccount_iff.mpr ⟨author.2, ?_⟩, author,
      tolerates_local keyed shown⟩
    cases kind : status.visibility with
    | publicStatus => exact .inl rfl
    | unlisted => exact .inl rfl
    | privateStatus => exact absurd kind notPrivate
    | direct => exact .inr (.inr (addressed kind))

private theorem eventSuits_reblogs {event : HomeUpdate} (reblogs : List LocalStatusReblog)
    (remoteReblogs : List LocalRemoteStatusReblog) :
    EventSuits { db with localStatusReblogs := reblogs, localRemoteStatusReblogs := remoteReblogs }
      event ↔ EventSuits db event :=
  forall₂_congr fun _ _ => imp_congr_right fun _ =>
    ⟨fun suits => ⟨suits.readable, suits.author, suits.account⟩,
      fun suits => ⟨suits.readable, suits.author, suits.account⟩⟩

private theorem reblogLocalStatus_eq (db : HomeDb) (account : AccountId) (statusId newId : StatusId) :
    ∃ reblogs id, reblogLocalStatus db account statusId newId =
      ({ db with localStatusReblogs := reblogs }, ⟨id, account, statusId⟩) := by
  unfold reblogLocalStatus
  split
  case h_1 reblog found =>
    have own := List.find?_some found
    simp only [Bool.and_eq_true, beq_iff_eq] at own
    obtain ⟨rfl, rfl⟩ := own
    exact ⟨db.localStatusReblogs, reblog.id, rfl⟩
  case h_2 => exact ⟨_, newId, rfl⟩

private theorem reblogActionLocal_ok (newId : StatusId) (keyed : db.Keyed)
    (known : (findLocalAccountById db.toDb booster).isSome) {status : LocalStatus}
    (visible : visibleStatusForAccount db statusId booster = some status) :
    ∃ reblogs id outcome, reblogActionLocal db booster status newId =
        .ok ({ db with localStatusReblogs := reblogs }, outcome) ∧
      publishOutcome booster outcome = [boostEvent db booster id (.localStatus status)] := by
  obtain ⟨located, readable⟩ := Option.filter_eq_some_iff.mp visible
  have same := ((findLocalStatusById_eq_some_iff keyed.toKeyed).mp located).2.1
  rw [← same] at located
  obtain ⟨reblogs, id, stored⟩ := reblogLocalStatus_eq db booster status.id newId
  have rendered := reblogResponse_eq booster keyed ⟨id, booster, status.id⟩ known
  rw [located, Option.filter_some, if_pos readable] at rendered
  -- the rendering reads no rows of boosts
  have stored' : reblogResponse { db with localStatusReblogs := reblogs }
      ⟨id, booster, status.id⟩ (some booster) = .ok (some _) := rendered
  unfold reblogActionLocal
  rw [stored]
  dsimp only
  rw [stored']
  exact ⟨reblogs, id, _, rfl, rfl⟩

private theorem reblogRemoteStatus_ok (newId : StatusId) (keyed : db.Keyed)
    (known : (findLocalAccountById db.toDb booster).isSome) {remote : RemoteStatus}
    (member : remote ∈ db.remoteStatuses)
    (prepared : (findRemoteStatusReblog db booster remote.id).isSome ∨
      proofs.proveLocalActivity booster = .ok ()) :
    ∃ reblogs id, reblogRemoteStatus db proofs booster remote newId =
      .ok ({ db with localRemoteStatusReblogs := reblogs }, ⟨id, booster, remote.id⟩) := by
  unfold reblogRemoteStatus
  cases existing : findRemoteStatusReblog db booster remote.id with
  | some reblog =>
      have own := List.find?_some existing
      simp only [Bool.and_eq_true, beq_iff_eq] at own
      rw [← own.1, ← own.2]
      exact ⟨db.localRemoteStatusReblogs, reblog.id, rfl⟩
  | none =>
      obtain ⟨account, found⟩ := Option.isSome_iff_exists.mp known
      obtain ⟨actor, author⟩ := Option.isSome_iff_exists.mp (keyed.remoteAuthors remote member)
      have proved : proofs.proveLocalActivity booster = .ok () := by
        simpa [existing] using prepared
      have announced : prepareRemoteReblog db proofs booster remote = .ok () := by
        simp only [prepareRemoteReblog, found, author, okOr_some, ok_bind, proved]
      simp only [announced, ok_bind]
      exact ⟨_, newId, rfl⟩

private theorem reblogActionRemote_ok (newId : StatusId) (keyed : db.Keyed)
    (known : (findLocalAccountById db.toDb booster).isSome) {remote : RemoteStatus}
    (located : findRemoteStatusById db.toDb statusId = some remote)
    (prepared : (findRemoteStatusReblog db booster remote.id).isSome ∨
      proofs.proveLocalActivity booster = .ok ()) :
    ∃ reblogs id outcome, reblogActionRemote db proofs booster remote newId =
        .ok ({ db with localRemoteStatusReblogs := reblogs }, outcome) ∧
      publishOutcome booster outcome = [boostEvent db booster id (.remoteStatus remote)] := by
  obtain ⟨member, same, _⟩ := (findRemoteStatusById_eq_some_iff keyed.toKeyed).mp located
  rw [← same] at located
  obtain ⟨reblogs, id, stored⟩ := reblogRemoteStatus_ok newId keyed known member prepared
  have rendered := localRemoteReblogResponse_eq keyed ⟨id, booster, remote.id⟩ known
  rw [located] at rendered
  -- the rendering reads no rows of boosts
  have stored' : localRemoteReblogResponse { db with localRemoteStatusReblogs := reblogs }
      ⟨id, booster, remote.id⟩ = .ok (some _) := rendered
  unfold reblogActionRemote
  rw [stored]
  simp only [liftInternal, ok_bind, stored']
  exact ⟨reblogs, id, _, rfl, rfl⟩

private theorem reblogActionRemote_error {remote : RemoteStatus}
    (unprepared : ¬((findRemoteStatusReblog db booster remote.id).isSome ∨
      proofs.proveLocalActivity booster = .ok ())) {result : HomeDb × StatusCollectionOutcome} :
    reblogActionRemote db proofs booster remote newId ≠ .ok result := by
  intro accepted
  obtain ⟨stored, lifted, _⟩ := bind_ok accepted
  have missing : findRemoteStatusReblog db booster remote.id = none := by
    simpa using fun present => unprepared (.inl present)
  rw [reblogRemoteStatus, missing] at lifted
  cases announced : prepareRemoteReblog db proofs booster remote with
  | error error =>
      rw [announced] at lifted
      cases lifted
  | ok value =>
      obtain ⟨_, _, rest⟩ := bind_ok announced
      obtain ⟨_, _, proved⟩ := bind_ok rest
      exact unprepared (.inr proved)

private theorem boostSuits_of_ok {reblogs : List LocalStatusReblog}
    {remoteReblogs : List LocalRemoteStatusReblog} {outcome : StatusCollectionOutcome}
    {event : HomeUpdate}
    (accepted : statusCollectionReblog db proofs booster statusId newId =
      .ok ({ db with localStatusReblogs := reblogs, localRemoteStatusReblogs := remoteReblogs },
        outcome))
    (events : publishOutcome booster outcome = [event]) :
    BoostSuits db proofs booster statusId newId ↔ EventSuits db event := by
  rw [← eventSuits_reblogs reblogs remoteReblogs]
  constructor
  · intro suits
    exact suits _ _ accepted event (by rw [events]; exact List.mem_singleton_self event)
  · intro suits after outcome' accepted' event' member
    rw [accepted] at accepted'
    cases accepted'
    rw [events] at member
    obtain rfl := List.mem_singleton.mp member
    exact suits

private theorem statusCollectionReblog_local (proofs : ActivityProofs) (newId : StatusId)
    {status : LocalStatus}
    (visible : visibleStatusForAccount db statusId booster = some status) :
    statusCollectionReblog db proofs booster statusId newId =
      if status.visibility = .privateStatus ∧ status.accountId ≠ booster then
        .error (.badRequest "private statuses cannot be boosted")
      else reblogActionLocal db booster status newId := by
  rw [statusCollectionReblog, visible]

private theorem statusCollectionReblog_remote (proofs : ActivityProofs) (newId : StatusId)
    {remote : RemoteStatus}
    (invisible : visibleStatusForAccount db statusId booster = none)
    (located : findRemoteStatusById db.toDb statusId = some remote)
    (readable : remoteStatusVisibleToAccount db.toDb remote booster = true)
    (notPrivate : remote.visibility ≠ .privateStatus) :
    statusCollectionReblog db proofs booster statusId newId =
      reblogActionRemote db proofs booster remote newId := by
  rw [statusCollectionReblog, invisible]
  simp [located, readable, notPrivate]

private theorem statusCollectionReblog_remote_ok
    (invisible : visibleStatusForAccount db statusId booster = none)
    {result : HomeDb × StatusCollectionOutcome}
    (accepted : statusCollectionReblog db proofs booster statusId newId = .ok result) :
    ∃ remote, findRemoteStatusById db.toDb statusId = some remote ∧
      remoteStatusVisibleToAccount db.toDb remote booster = true ∧
      remote.visibility ≠ .privateStatus ∧
      ((findRemoteStatusReblog db booster remote.id).isSome ∨
        proofs.proveLocalActivity booster = .ok ()) := by
  rw [statusCollectionReblog, invisible] at accepted
  obtain ⟨remote, found, rest⟩ := bind_ok accepted
  have located := okOr_ok found
  cases readable : remoteStatusVisibleToAccount db.toDb remote booster with
  | false =>
      rw [readable] at rest
      cases rest
  | true =>
      by_cases hidden : remote.visibility = .privateStatus
      · simp [readable, hidden] at rest
        cases rest
      · refine ⟨remote, located, readable, hidden, Classical.byContradiction fun unprepared => ?_⟩
        simp only [readable, hidden] at rest
        exact reblogActionRemote_error unprepared rest

theorem boostSuits_iff (keyed : db.Keyed)
    (known : (findLocalAccountById db.toDb booster).isSome) :
    BoostSuits db proofs booster statusId newId ↔ BoostedSuits db proofs booster statusId := by
  unfold BoostedSuits
  cases visible : visibleStatusForAccount db statusId booster with
  | some status =>
      have request := statusCollectionReblog_local proofs newId visible
      by_cases own : status.visibility = .privateStatus → status.accountId = booster
      · rw [if_neg fun refused => refused.2 (own refused.1)] at request
        obtain ⟨reblogs, id, outcome, accepted, events⟩ :=
          reblogActionLocal_ok newId keyed known visible
        rw [boostSuits_of_ok (request.trans accepted) events, localBoost_suits_iff keyed own]
        exact ⟨fun suits _ => suits, fun suits => suits own⟩
      · rw [if_pos (by simpa using own)] at request
        refine ⟨fun _ given => absurd given own, fun _ after outcome accepted => ?_⟩
        rw [request] at accepted
        cases accepted
  | none =>
      constructor
      · intro suits remote located readable notPrivate prepared
        have request := statusCollectionReblog_remote proofs newId visible located readable notPrivate
        obtain ⟨reblogs, id, outcome, accepted, events⟩ :=
          reblogActionRemote_ok newId keyed known located prepared
        rw [boostSuits_of_ok (request.trans accepted) events] at suits
        exact (localRemoteBoost_suits_iff keyed id notPrivate).mp suits
      · intro suits after outcome accepted
        obtain ⟨remote, located, readable, notPrivate, prepared⟩ :=
          statusCollectionReblog_remote_ok visible accepted
        have request := statusCollectionReblog_remote proofs newId visible located readable notPrivate
        obtain ⟨reblogs, id, outcome', accepted', events⟩ :=
          reblogActionRemote_ok newId keyed known located prepared
        have suited := (localRemoteBoost_suits_iff keyed id notPrivate).mpr
          (suits remote located readable notPrivate prepared)
        exact (boostSuits_of_ok (request.trans accepted') events).mpr suited after outcome accepted

end

/-!
## Streams of remote boosts
-/

section

variable {db : HomeDb} {actor : AccountId} {activityId : String}

private theorem remoteRecipient_shows {account : AccountId}
    (member : account ∈ remoteReblogRecipients db actor) :
    Tolerates db account (.remoteActor actor) := by
  refine tolerates_remote.mpr ?_
  simpa using (List.mem_filter.mp member).2

private theorem remoteEvent_visible_iff (keyed : db.Keyed) {row : RemoteActor}
    (found : findRemoteActorById db.toDb actor = some row) {response : StatusResponse}
    {recipients : List AccountId} {account : LocalAccount} (member : account ∈ db.localAccounts) :
    (publishHomeUpdate response actor recipients).isVisibleToUser account.id = true ↔
      account.id ∈ recipients := by
  obtain ⟨same, inside⟩ := findRemoteActorById_id found
  have apart : actor ≠ account.id := by
    rw [← same]
    exact Ne.symm (keyed.accountsApart account member row inside)
  rw [HomeUpdate.isVisibleToUser, publishHomeUpdate, Bool.or_eq_true, beq_iff_eq,
    List.contains_iff_mem]
  exact ⟨fun visible => visible.resolve_left apart, .inr⟩

private theorem remoteEvent_suits_iff (keyed : db.Keyed) {row : RemoteActor}
    (found : findRemoteActorById db.toDb actor = some row) {first : AccountId}
    {others : List AccountId} (recipients : remoteReblogRecipients db actor = first :: others)
    {id : StatusId} {original : StatusBody} (readable : mayRead db first original = true) :
    EventSuits db (publishHomeUpdate (.reblog id (.remoteActor actor) original) actor
        (first :: others)) ↔
      (∀ account ∈ db.localAccounts, account.id ∈ others → mayRead db account.id original = true) ∧
        ∀ account ∈ db.localAccounts, account.id ∈ first :: others →
          mutes db account.id original.author = false := by
  constructor
  · intro suits
    constructor
    · intro account member later
      exact (suits account member ((remoteEvent_visible_iff keyed found member).mpr
        (List.mem_cons_of_mem first later))).readable
    · intro account member receives
      exact (suits account member
        ((remoteEvent_visible_iff keyed found member).mpr receives)).author.1
  · intro ⟨others, unmuted⟩ account member visible
    have receives := (remoteEvent_visible_iff keyed found member).mp visible
    have allowed : mayRead db account.id original = true := by
      cases List.mem_cons.mp receives with
      | inl same =>
          rw [same]
          exact readable
      | inr later => exact others account member later
    have tolerated : Tolerates db account.id (.remoteActor actor) :=
      remoteRecipient_shows (by rw [recipients]; exact receives)
    exact (suits_reblog_iff keyed allowed tolerated).mpr (unmuted account member receives)

private theorem publishRemoteReblogUpdate_eq (keyed : db.Keyed) {reblog : RemoteStatusReblog}
    (announced : findRemoteStatusReblogByActivityId db actor activityId = some reblog)
    {row : RemoteActor} (found : findRemoteActorById db.toDb actor = some row) {first : AccountId}
    {others : List AccountId} (recipients : remoteReblogRecipients db actor = first :: others) :
    publishRemoteReblogUpdate db actor activityId =
      .ok (if actorIsSuspended db row then none
        else ((findBoosted db reblog.target).filter (mayRead db first)).map fun original =>
          publishHomeUpdate (.reblog reblog.id (.remoteActor actor) original) actor
            (first :: others)) := by
  have own : reblog.remoteActorId = actor := by
    have matched := List.find?_some announced
    simp only [Bool.and_eq_true, beq_iff_eq] at matched
    exact matched.1
  subst own
  have shown : remoteAccountIsHiddenForViewer db first reblog.remoteActorId = false :=
    tolerates_remote.mp (remoteRecipient_shows (by rw [recipients]; exact List.mem_cons_self))
  have rendered := remoteReblogResponse_eq first keyed found
  rw [shown, Bool.or_false] at rendered
  simp only [publishRemoteReblogUpdate, announced, recipients, List.head?_cons, rendered, ok_bind]
  cases actorIsSuspended db row with
  | true => rfl
  | false =>
      rw [if_neg Bool.false_ne_true, if_neg Bool.false_ne_true, Option.map_map]
      rfl

theorem remoteBoostSuits_iff (keyed : db.Keyed) :
    RemoteBoostSuits db actor activityId ↔ RemoteBoostedSuits db actor activityId := by
  constructor
  · intro suits reblog announced row found active first others recipients original located readable
    have published := publishRemoteReblogUpdate_eq keyed announced found recipients
    rw [active, if_neg Bool.false_ne_true, located, Option.filter_some, if_pos readable] at published
    exact (remoteEvent_suits_iff keyed found recipients readable).mp (suits _ published)
  · intro suits event published
    cases announced : findRemoteStatusReblogByActivityId db actor activityId with
    | none =>
        rw [publishRemoteReblogUpdate, announced] at published
        cases published
    | some reblog =>
        have matched := List.find?_some announced
        simp only [Bool.and_eq_true, beq_iff_eq] at matched
        obtain ⟨row, found⟩ := Option.isSome_iff_exists.mp
          (keyed.remoteBoosters reblog (List.mem_of_find?_eq_some announced))
        rw [matched.1] at found
        cases recipients : remoteReblogRecipients db actor with
        | nil =>
            -- there is no one to receive the event
            rw [publishRemoteReblogUpdate, announced] at published
            obtain ⟨response, _, result⟩ := bind_ok published
            rw [recipients] at result
            cases response with
            | none => cases result
            | some response =>
                cases result
                intro account member visible
                cases (remoteEvent_visible_iff keyed found member).mp visible
        | cons first others =>
            rw [publishRemoteReblogUpdate_eq keyed announced found recipients, Except.ok.injEq]
              at published
            cases active : actorIsSuspended db row with
            | true =>
                rw [active] at published
                cases published
            | false =>
                rw [active, if_neg Bool.false_ne_true, Option.map_eq_some_iff] at published
                obtain ⟨original, kept, rfl⟩ := published
                obtain ⟨located, readable⟩ := Option.filter_eq_some_iff.mp kept
                exact (remoteEvent_suits_iff keyed found recipients readable).mpr
                  (suits reblog announced row found active first others recipients original located
                    readable)

end

/-- Home timelines, boosts by local accounts and boosts by remote actors suit those who see
them exactly under the conditions on their originals. -/
theorem boosted_statuses_suit_iff (db : HomeDb) (keyed : db.Keyed) :
    (∀ viewer, HomeTimelineSuits db viewer ↔ HomeBoostsSuit db viewer) ∧
      (∀ booster ∈ db.localAccounts, ∀ proofs statusId newId,
        BoostSuits db proofs booster.id statusId newId ↔
          BoostedSuits db proofs booster.id statusId) ∧
      ∀ actor activityId,
        RemoteBoostSuits db actor activityId ↔ RemoteBoostedSuits db actor activityId := by
  refine ⟨fun viewer => homeTimelineSuits_iff keyed, ?_, fun _ _ => remoteBoostSuits_iff keyed⟩
  intro booster member proofs statusId newId
  refine boostSuits_iff keyed (List.find?_isSome.mpr ⟨booster, member, ?_⟩)
  exact beq_self_eq_true booster.id

namespace HomeSample

def author : AccountId := ⟨1⟩

def booster : AccountId := ⟨2⟩

def follower : AccountId := ⟨3⟩

def writer : AccountId := ⟨10⟩

def announcer : AccountId := ⟨11⟩

def letter : LocalStatus := ⟨⟨100⟩, author, .direct, none, none, none⟩

def post : LocalStatus := ⟨⟨101⟩, author, .publicStatus, none, none, none⟩

def ownPost : LocalStatus := ⟨⟨102⟩, booster, .publicStatus, none, none, none⟩

def remoteLetter : RemoteStatus := ⟨⟨200⟩, writer, .direct, none, none, none, none⟩

def sample : HomeDb where
  localAccounts := [⟨author, none⟩, ⟨booster, none⟩, ⟨follower, none⟩]
  remoteActors := [⟨writer, "remote.example", none, none, none⟩,
    ⟨announcer, "remote.example", none, none, none⟩]
  localStatuses := [letter, post, ownPost]
  remoteStatuses := [remoteLetter]
  localFollows := [⟨follower, booster, true⟩]
  remoteFollowings := [⟨booster, announcer, .accepted, true, none⟩,
    ⟨follower, announcer, .accepted, true, none⟩]
  localStatusRecipients := [⟨letter.id, booster⟩]
  remoteStatusRecipients := [⟨remoteLetter.id, booster⟩]
  localAccountBlocks := []
  localRemoteAccountBlocks := []
  domainIsSuspended := fun _ => false
  now := 0
  localAccountMutes := [⟨follower, author, none⟩]
  localRemoteAccountMutes := []
  remoteLocalAccountBlocks := []
  localStatusReblogs := []
  localRemoteStatusReblogs := [⟨⟨300⟩, booster, remoteLetter.id⟩]
  remoteStatusReblogs := [⟨⟨301⟩, announcer, .localStatus post.id, "announce"⟩,
    ⟨⟨302⟩, announcer, .localStatus ownPost.id, "announce-own"⟩]
  localLists := []
  localListLocalMembers := []
  localListRemoteMembers := []
  localTagFollows := []
  localStatusTags := []
  remoteStatusTags := []

def proofs : ActivityProofs := ⟨fun _ => .ok ()⟩

theorem sample_keyed : sample.Keyed where
  localStatuses := by decide
  remoteStatuses := by decide
  localStatusReblogs := by decide
  localRemoteStatusReblogs := by decide
  remoteStatusReblogs := by decide
  localAuthors := by decide
  remoteAuthors := by decide
  localBoosters := by decide
  localRemoteBoosters := by decide
  remoteBoosters := by decide
  blocks := by decide
  mutes := by decide
  accountsApart := by decide

end HomeSample

open HomeSample in
/-- The booster may see all that is sent there, and a boost of the booster's own status may
go to the follower. -/
theorem boosted_statuses_suit_sample :
    sample.Keyed ∧ HomeTimelineSuits sample booster ∧
      BoostSuits sample proofs booster ownPost.id ⟨400⟩ ∧
      RemoteBoostSuits sample announcer "announce-own" := by
  obtain ⟨home, boosts, remoteBoosts⟩ := boosted_statuses_suit_iff sample sample_keyed
  refine ⟨sample_keyed, (home booster).mpr ?_, (boosts ⟨booster, none⟩ ?_ proofs _ _).mpr ?_,
    (remoteBoosts announcer _).mpr ?_⟩
  · refine ⟨?_, ?_, ?_⟩
    · intro reblog member
      cases member
    · intro reblog member _ original located _ _
      obtain rfl := List.mem_singleton.mp member
      obtain rfl : remoteLetter = original := Option.some.inj located
      exact ⟨⟨by decide, by decide⟩, .inr (.inr (by decide))⟩
    · intro reblog member _ actor _ _ original located _
      obtain rfl | own := List.mem_cons.mp member
      · obtain rfl : .localStatus post = original := Option.some.inj located
        decide
      · obtain rfl := List.mem_singleton.mp own
        obtain rfl : .localStatus ownPost = original := Option.some.inj located
        decide
  · decide
  · have suited : LocalBoostSuits sample booster ownPost := by
      unfold LocalBoostSuits
      decide
    exact fun _ => suited
  · intro reblog announced row _ _ first others recipients original located _
    obtain rfl : (⟨⟨302⟩, announcer, .localStatus ownPost.id, "announce-own"⟩ :
      RemoteStatusReblog) = reblog := Option.some.inj announced
    obtain ⟨rfl, rfl⟩ : booster = first ∧ [follower] = others := List.cons.inj recipients
    obtain rfl : .localStatus ownPost = original := Option.some.inj located
    decide

open HomeSample in
/-- A direct status that is boosted reaches a follower of the booster whom it does not address,
on the stream and in the home timeline; a remote boost reaches a follower who mutes the
author. -/
theorem boosted_statuses_do_not_suit :
    sample.Keyed ∧ ¬BoostSuits sample proofs booster letter.id ⟨400⟩ ∧
      ¬HomeTimelineSuits sample follower ∧ ¬RemoteBoostSuits sample announcer "announce" := by
  refine ⟨sample_keyed, ?_, ?_, ?_⟩
  · intro suits
    have suited := suits _ _ rfl _ List.mem_cons_self ⟨follower, none⟩ (by decide) (by decide)
    exact absurd suited.readable (by decide)
  · intro suits
    have suited := suits none ⟨none, none, none⟩ _ rfl
      (.reblog ⟨300⟩ (.localAccount booster) (.remoteStatus remoteLetter)) (by decide)
    exact absurd suited.readable (by decide)
  · intro suits
    have suited := suits _ rfl ⟨follower, none⟩ (by decide) (by decide)
    exact absurd suited.author.1 (by decide)

end Roosty.Timeline
