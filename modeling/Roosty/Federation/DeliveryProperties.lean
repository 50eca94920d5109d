import Mathlib.Algebra.Group.Nat.Defs
import Mathlib.Data.List.Dedup
import Roosty.Federation.Delivery
import Roosty.Job.QueueProperties

/-!
# Inboxes served

Each inbox of an activity's recipients gets one job. The recipients that the job looks at
are the group it was made of, and it posts when one of them is reached that is eligible.
-/

set_option autoImplicit false

namespace Roosty.Federation.Delivery

open Library Network Discovery DomainBlock Job

/-!
## Payloads
-/

private theorem readAccountId_value {id : AccountId} (bounded : id.value < 2 ^ 128) :
    readAccountId (accountIdValue id) = some id := by
  simp [readAccountId, accountIdValue, Json.asStr?, Text.parseUuid_uuidText bounded]

private theorem mapM_readAccountId {ids : List AccountId}
    (bounded : ∀ id ∈ ids, id.value < 2 ^ 128) :
    (ids.map accountIdValue).mapM readAccountId = some ids := by
  induction ids with
  | nil => rfl
  | cons id ids ih =>
      rw [List.map_cons, List.mapM_cons, readAccountId_value (bounded id List.mem_cons_self),
        ih fun other member => bounded other (List.mem_cons_of_mem _ member)]
      rfl

theorem read_toValue (delivery : StatusDelivery)
    (localBounded : delivery.localAccountId.value < 2 ^ 128)
    (remoteBounded : delivery.remoteActorId.value < 2 ^ 128)
    (bounded : ∀ id ∈ delivery.remoteActorIds, id.value < 2 ^ 128) :
    StatusDelivery.read delivery.toValue = some delivery := by
  obtain ⟨localAccountId, remoteActorId, remoteActorIds, inboxUrl, activity, personalInbox⟩ :=
    delivery
  have localRead := readAccountId_value localBounded
  have remoteRead := readAccountId_value remoteBounded
  have idsRead := mapM_readAccountId bounded
  cases remoteActorIds with
  | nil =>
      cases inboxUrl with
      | none =>
          simp [StatusDelivery.toValue, StatusDelivery.read, Json.get?, memberOr, localRead,
            remoteRead]
      | some inboxUrl =>
          simp [StatusDelivery.toValue, StatusDelivery.read, Json.get?, memberOr, localRead,
            remoteRead]
  | cons id ids =>
      rw [List.map_cons] at idsRead
      cases inboxUrl with
      | none =>
          simp [StatusDelivery.toValue, StatusDelivery.read, Json.get?, memberOr, localRead,
            remoteRead, idsRead]
      | some inboxUrl =>
          simp [StatusDelivery.toValue, StatusDelivery.read, Json.get?, memberOr, localRead,
            remoteRead, idsRead]

/-!
## Recipients
-/

def Directory.Keyed (directory : Directory) : Prop :=
  (directory.remoteActors.map fun row => row.id).Nodup

/-- What a delivery asks of a recipient before the domain policy. -/
structure Admitted (directory : Directory) (outgoing : Outgoing) (row : StoredActor) : Prop where
  allowed : federationDomainIsAllowed directory row.domain = true
  unsuspended : row.suspendedAt = none
  unblocked : moderationActivity outgoing.activity = true ∨
    (outgoing.localAccountId, row.id) ∉ directory.localRemoteAccountBlocks ∧
      (outgoing.localAccountId, row.id) ∉ directory.remoteLocalAccountBlocks

section

variable (parseHost : String → Option Host) (directory : Directory) (outgoing : Outgoing)

def EligibleRow (row : StoredActor) : Prop :=
  Admitted directory outgoing row ∧ ∃ policy,
    federationDomainPolicy parseHost directory.domainRules row.domain = .ok policy ∧
      policy.isSuspended = false

def UndecidedRow (row : StoredActor) : Prop :=
  Admitted directory outgoing row ∧ ∃ error,
    federationDomainPolicy parseHost directory.domainRules row.domain = .error error

/-- A recipient is stored and nothing stands against the delivery. -/
def Eligible (remote : RemoteActor) : Prop :=
  ∃ row ∈ directory.remoteActors, row.id = remote.id ∧ EligibleRow parseHost directory outgoing row

def Undecided (remote : RemoteActor) : Prop :=
  ∃ row ∈ directory.remoteActors, row.id = remote.id ∧
    UndecidedRow parseHost directory outgoing row

end

section

variable {parseHost : String → Option Host} {directory : Directory} {outgoing : Outgoing}

private theorem accountId_of_value {left right : AccountId} (same : left.value = right.value) :
    left = right := by
  cases left
  cases right
  exact congrArg AccountId.mk same

private theorem mem_remoteActorsById {rows : List StoredActor} {ids : List AccountId}
    (unique : (rows.map fun row => row.id).Nodup) {row : StoredActor} :
    row ∈ remoteActorsById rows ids ↔ row ∈ rows ∧ row.id ∈ ids := by
  induction ids generalizing rows with
  | nil => simp [remoteActorsById]
  | cons id ids ih =>
      unfold remoteActorsById
      cases found : rows.find? fun row => row.id == id with
      | none =>
          have absent : ∀ other ∈ rows, other.id ≠ id := by
            simpa using List.find?_eq_none.mp found
          dsimp only
          rw [ih unique, List.mem_cons]
          constructor
          · exact fun ⟨member, listed⟩ => ⟨member, .inr listed⟩
          · rintro ⟨member, same | listed⟩
            · exact absurd same (absent row member)
            · exact ⟨member, listed⟩
      | some first =>
          have member := List.mem_of_find?_eq_some found
          have named : first.id = id := by simpa using List.find?_some found
          have rest : ((Table.deleteWhere (fun other => other.id == id) rows).map
              fun row => row.id).Nodup := unique.sublist (List.filter_sublist.map _)
          dsimp only
          rw [List.mem_cons, ih rest, Table.mem_deleteWhere, List.mem_cons, beq_eq_false_iff_ne]
          constructor
          · rintro (rfl | ⟨⟨other, _⟩, listed⟩)
            · exact ⟨member, .inl named⟩
            · exact ⟨other, .inr listed⟩
          · rintro ⟨other, listed⟩
            by_cases same : row.id = id
            · exact .inl (List.inj_on_of_nodup_map unique other member (same.trans named.symm))
            · exact .inr ⟨⟨other, same⟩, listed.resolve_left same⟩

private theorem remoteActorsById_ordered {rows : List StoredActor} {ids : List AccountId}
    (unique : (rows.map fun row => row.id).Nodup)
    (ordered : ids.Pairwise fun left right => left.value ≤ right.value) :
    (remoteActorsById rows ids).Pairwise fun left right => left.id.value < right.id.value := by
  induction ids generalizing rows with
  | nil => exact List.Pairwise.nil
  | cons id ids ih =>
      obtain ⟨least, ordered⟩ := List.pairwise_cons.mp ordered
      unfold remoteActorsById
      cases found : rows.find? fun row => row.id == id with
      | none => exact ih unique ordered
      | some first =>
          have named : first.id = id := by simpa using List.find?_some found
          have rest : ((Table.deleteWhere (fun other => other.id == id) rows).map
              fun row => row.id).Nodup := unique.sublist (List.filter_sublist.map _)
          refine List.pairwise_cons.mpr ⟨fun later member => ?_, ih rest ordered⟩
          obtain ⟨kept, listed⟩ := (mem_remoteActorsById rest).mp member
          have different : later.id ≠ id := by simpa using (Table.mem_deleteWhere.mp kept).2
          rw [named]
          exact lt_of_le_of_ne (least _ listed) fun same =>
            different (accountId_of_value same.symm)

private theorem anyEligible_iff {blocked : List AccountId} {inboxUrl : String}
    {personalInbox : Bool} {rows : List StoredActor}
    (ordered : rows.Pairwise fun left right => left.id.value < right.id.value)
    (checks : ∀ row ∈ rows, passesChecks directory blocked inboxUrl personalInbox row = true ↔
      Admitted directory outgoing row) :
    anyEligible parseHost directory blocked inboxUrl personalInbox rows = .ok true ↔
      ∃ first ∈ rows, EligibleRow parseHost directory outgoing first ∧
        ∀ other ∈ rows, other.id.value < first.id.value →
          ¬UndecidedRow parseHost directory outgoing other := by
  induction rows with
  | nil => simp [anyEligible]
  | cons row rows ih =>
      obtain ⟨least, ordered⟩ := List.pairwise_cons.mp ordered
      have later := ih ordered fun other member => checks other (List.mem_cons_of_mem _ member)
      have check := checks row List.mem_cons_self
      -- A row that neither decides nor fails leaves the answer to the rows behind it.
      have skip (ineligible : ¬EligibleRow parseHost directory outgoing row)
          (decided : ¬UndecidedRow parseHost directory outgoing row) :
          (∃ first ∈ rows, EligibleRow parseHost directory outgoing first ∧
            ∀ other ∈ rows, other.id.value < first.id.value →
              ¬UndecidedRow parseHost directory outgoing other) ↔
          ∃ first ∈ row :: rows, EligibleRow parseHost directory outgoing first ∧
            ∀ other ∈ row :: rows, other.id.value < first.id.value →
              ¬UndecidedRow parseHost directory outgoing other := by
        constructor
        · rintro ⟨first, member, eligible, before⟩
          refine ⟨first, List.mem_cons_of_mem _ member, eligible, fun other known lower => ?_⟩
          rcases List.mem_cons.mp known with rfl | known
          · exact decided
          · exact before other known lower
        · rintro ⟨first, member, eligible, before⟩
          rcases List.mem_cons.mp member with rfl | member
          · exact absurd eligible ineligible
          · exact ⟨first, member, eligible, fun other known =>
              before other (List.mem_cons_of_mem _ known)⟩
      rw [anyEligible]
      by_cases passes : passesChecks directory blocked inboxUrl personalInbox row = true
      · have admitted := check.mp passes
        rw [passes, Bool.not_true, if_neg Bool.false_ne_true]
        cases policyOf : federationDomainPolicy parseHost directory.domainRules row.domain with
        | error error =>
            have undecided : UndecidedRow parseHost directory outgoing row :=
              ⟨admitted, error, policyOf⟩
            constructor
            · intro impossible
              cases impossible
            · rintro ⟨first, member, ⟨_, policy, resolved, _⟩, before⟩
              rcases List.mem_cons.mp member with rfl | member
              · cases policyOf.symm.trans resolved
              · exact absurd undecided (before row List.mem_cons_self (least first member))
        | ok policy =>
            have decided : ¬UndecidedRow parseHost directory outgoing row := by
              rintro ⟨_, error, failed⟩
              cases policyOf.symm.trans failed
            rw [ok_bind]
            by_cases suspended : policy.isSuspended = true
            · rw [if_pos suspended, later, skip _ decided]
              rintro ⟨_, other, resolved, unsuspended⟩
              cases policyOf.symm.trans resolved
              cases unsuspended.symm.trans suspended
            · rw [if_neg suspended]
              refine iff_of_true rfl ⟨row, List.mem_cons_self,
                ⟨admitted, policy, policyOf, by simpa using suspended⟩, fun other known lower => ?_⟩
              rcases List.mem_cons.mp known with rfl | known
              · exact decided
              · exact absurd (least other known) (by omega)
      · have refused : ¬Admitted directory outgoing row := fun admitted =>
          passes (check.mpr admitted)
        rw [Bool.eq_false_iff.mpr passes, Bool.not_false, if_pos rfl, later,
          skip (fun eligible => refused eligible.1) fun undecided => refused undecided.1]

end

/-!
## Groups
-/

/-- The recipients that the job of an inbox looks at: all of them in shared mode, the one
with the lowest identifier in personal mode. -/
structure Leads (personalInbox : Bool) (recipients : List RemoteActor) (inboxUrl : String)
    (ids : List AccountId) : Prop where
  ordered : ids.Pairwise fun left right => left.value ≤ right.value
  known : ∀ id ∈ ids, ∃ remote ∈ recipients, effectiveInbox personalInbox remote = inboxUrl ∧
    remote.id = id
  shared : personalInbox = false → ∀ remote ∈ recipients,
    effectiveInbox personalInbox remote = inboxUrl → remote.id ∈ ids
  personal : personalInbox = true → ∀ id ∈ ids, ∀ other ∈ recipients,
    effectiveInbox personalInbox other = inboxUrl → id.value ≤ other.id.value

private instance : Std.Total fun left right : AccountId => left.value ≤ right.value where
  total left right := le_total left.value right.value

private instance : IsTrans AccountId fun left right => left.value ≤ right.value where
  trans _ _ _ := le_trans

section

variable {recipients : List RemoteActor} {inboxUrl : String} {group : DeliveryGroup}

private theorem personal_leads
    (found : (deliveryGroups recipients true).find? (fun group => group.inboxUrl == inboxUrl) =
      some group) : Leads true recipients inboxUrl group.remoteActorIds := by
  obtain ⟨matched, before, after, split, earlier⟩ := List.find?_eq_some_iff_append.mp found
  have sorted := deliveryGroups_sorted recipients
  have made {other : DeliveryGroup} : other ∈ deliveryGroups recipients true ↔
      ∃ remote ∈ recipients, ⟨remote.inboxUrl, [remote.id]⟩ = other := by
    simp only [deliveryGroups, if_true, List.mem_insertionSort, List.mem_map]
  have member : group ∈ deliveryGroups recipients true := by simp [split]
  obtain ⟨first, recipient, rfl⟩ := made.mp member
  have same : first.inboxUrl = inboxUrl := by simpa using matched
  refine ⟨List.pairwise_singleton _ _, ?_,
    fun impossible => absurd impossible.symm Bool.false_ne_true, ?_⟩
  · intro id member
    exact ⟨first, recipient, same, (List.mem_singleton.mp member).symm⟩
  · intro _ id member other known url
    rw [List.mem_singleton.mp member]
    have url : other.inboxUrl = inboxUrl := url
    have listed : (⟨other.inboxUrl, [other.id]⟩ : DeliveryGroup) ∈
        deliveryGroups recipients true := made.mpr ⟨other, known, rfl⟩
    rw [split] at listed sorted
    rcases List.mem_append.mp listed with early | late
    · have outside := earlier _ early
      simp [url] at outside
    · rcases List.mem_cons.mp late with equal | late
      · injection equal with _ ids
        injection ids with sameId
        rw [sameId]
      · have ordered := (List.pairwise_cons.mp (List.pairwise_append.mp sorted).2.1).1 _ late
        exact ordered (same.trans url.symm) _ _ rfl rfl

private theorem shared_leads
    (found : (deliveryGroups recipients false).find? (fun group => group.inboxUrl == inboxUrl) =
      some group) : Leads false recipients inboxUrl group.remoteActorIds := by
  have matched := List.find?_some found
  have member := List.mem_of_find?_eq_some found
  simp only [deliveryGroups, Bool.false_eq_true, if_false] at member
  obtain ⟨url, _, rfl⟩ := List.mem_map.mp member
  have same : url = inboxUrl := by simpa using matched
  subst same
  have listed {id : AccountId} : id ∈ ((recipients.filter fun remote =>
      remote.sharedInboxUrl.getD remote.inboxUrl == url).map RemoteActor.id).insertionSort
        (fun left right => left.value ≤ right.value) ↔
      ∃ remote ∈ recipients, effectiveInbox false remote = url ∧ remote.id = id := by
    simp [effectiveInbox, List.mem_filter, and_assoc]
  exact ⟨List.pairwise_insertionSort (fun left right : AccountId => left.value ≤ right.value) _,
    fun id => listed.mp, fun _ remote recipient url => listed.mpr ⟨remote, recipient, url, rfl⟩,
    fun impossible => absurd impossible Bool.false_ne_true⟩

theorem deliveryGroups_leads {personalInbox : Bool}
    (found : (deliveryGroups recipients personalInbox).find?
      (fun group => group.inboxUrl == inboxUrl) = some group) :
    Leads personalInbox recipients inboxUrl group.remoteActorIds := by
  cases personalInbox with
  | true => exact personal_leads found
  | false => exact shared_leads found

theorem deliveryGroups_urls {personalInbox : Bool} :
    (∀ remote ∈ recipients, ∃ group ∈ deliveryGroups recipients personalInbox,
      group.inboxUrl = effectiveInbox personalInbox remote) ∧
    ∀ group ∈ deliveryGroups recipients personalInbox, group.remoteActorIds ≠ [] := by
  cases personalInbox with
  | true =>
      simp only [deliveryGroups, if_true, List.mem_insertionSort, List.mem_map]
      constructor
      · intro remote recipient
        exact ⟨_, ⟨remote, recipient, rfl⟩, rfl⟩
      · rintro group ⟨remote, _, rfl⟩
        exact List.cons_ne_nil _ _
  | false =>
      simp only [deliveryGroups, Bool.false_eq_true, if_false, List.mem_map,
        List.mem_insertionSort, List.mem_dedup]
      constructor
      · intro remote recipient
        exact ⟨_, ⟨_, ⟨remote, recipient, rfl⟩, rfl⟩, rfl⟩
      · rintro group ⟨url, ⟨remote, recipient, rfl⟩, rfl⟩
        refine List.ne_nil_of_mem (a := remote.id) ((List.mem_insertionSort _).mpr ?_)
        exact List.mem_map_of_mem (List.mem_filter.mpr ⟨recipient, by simp⟩)

end

/-!
## Jobs
-/

def Signs (decryptPrivateKey : LocalActorKey → Except RoostyError Unit) (directory : Directory)
    (localAccountId : AccountId) : Prop :=
  directory.localAccounts.contains localAccountId = true ∧
    ∃ key, (directory.actorKeys.find? fun key => key.accountId == localAccountId) = some key ∧
      decryptPrivateKey key = .ok ()

structure StoredAs (outgoing : Outgoing) (group : DeliveryGroup) (job : JobRow) : Prop where
  key : activeKey job =
    some (.federationStatusDelivery, outgoing.activityId ++ ":" ++ group.inboxUrl)
  payload : ∃ remoteActorId ∈ group.remoteActorIds, job.payload = StatusDelivery.toValue {
    localAccountId := outgoing.localAccountId
    remoteActorId := remoteActorId
    remoteActorIds := group.remoteActorIds
    inboxUrl := some group.inboxUrl
    activity := outgoing.activity
    personalInbox := outgoing.personalInbox }

section

variable {outgoing : Outgoing} {jobId : JobId} {clocks : Clocks} {rows after : List JobRow}
  {group : DeliveryGroup}

private theorem newJobRow_storedAs {remoteActorId : AccountId}
    (member : remoteActorId ∈ group.remoteActorIds) :
    StoredAs outgoing group
      (newJobRow jobId clocks.database (deliveryJob outgoing clocks.process group remoteActorId)) :=
  ⟨rfl, remoteActorId, member, rfl⟩

private theorem enqueueGroup_ok (valid : TableValid rows) (someone : group.remoteActorIds ≠ [])
    (success : enqueueGroup outgoing jobId clocks rows group = .ok after) :
    TableValid after ∧
      ((after = rows ∧ ∃ row ∈ rows, activeKey row =
          some (.federationStatusDelivery, outgoing.activityId ++ ":" ++ group.inboxUrl)) ∨
        ∃ job, after = rows ++ [job] ∧ StoredAs outgoing group job ∧
          ∀ row ∈ rows, activeKey row ≠
            some (.federationStatusDelivery, outgoing.activityId ++ ":" ++ group.inboxUrl)) := by
  unfold enqueueGroup at success
  split at success
  next empty => exact absurd empty someone
  next remoteActorId _ ids =>
    obtain ⟨result, enqueued, success⟩ := bind_ok success
    cases success
    have member : remoteActorId ∈ group.remoteActorIds := by simp [ids]
    have kept := step_tableValid rows (.enqueue jobId clocks
      (deliveryJob outgoing clocks.process group remoteActorId)) valid
    refine ⟨kept, ?_⟩
    rcases enqueue_ok valid.keyed enqueued with ⟨same, row, stored, conflict⟩ | ⟨added, free⟩
    · refine .inl ⟨same, row, stored, ?_⟩
      simpa [conflicting, deliveryJob] using conflict
    · refine .inr ⟨_, added, newJobRow_storedAs member, fun row stored => ?_⟩
      simpa [conflicting, deliveryJob] using free row stored

end

/-- What the rounds for the groups `done` have added to `before`: for each inbox the job of
its first group. -/
structure Progress (outgoing : Outgoing) (before : List JobRow) (done : List DeliveryGroup)
    (rows : List JobRow) : Prop where
  valid : TableValid rows
  added : ∃ jobs, rows = before ++ jobs ∧
    (∀ job ∈ jobs, ∃ group,
      done.find? (fun other => other.inboxUrl == group.inboxUrl) = some group ∧
        StoredAs outgoing group job) ∧
    ∀ group ∈ done, ∃ job ∈ jobs, activeKey job =
      some (.federationStatusDelivery, outgoing.activityId ++ ":" ++ group.inboxUrl)

def Unsent (outgoing : Outgoing) (rows : List JobRow) : Prop :=
  ∀ row ∈ rows, ∀ inboxUrl, activeKey row ≠
    some (.federationStatusDelivery, outgoing.activityId ++ ":" ++ inboxUrl)

private theorem Progress.round {outgoing : Outgoing} {before rows after : List JobRow}
    {done : List DeliveryGroup} {group : DeliveryGroup} {jobId : JobId} {clocks : Clocks}
    (progress : Progress outgoing before done rows) (unsent : Unsent outgoing before)
    (someone : group.remoteActorIds ≠ [])
    (success : enqueueGroup outgoing jobId clocks rows group = .ok after) :
    Progress outgoing before (done ++ [group]) after := by
  obtain ⟨jobs, rfl, made, covered⟩ := progress.added
  obtain ⟨valid, outcome⟩ := enqueueGroup_ok progress.valid someone success
  -- The first group of an inbox stays the first one.
  have earlier : ∀ job ∈ jobs, ∃ first,
      (done ++ [group]).find? (fun other => other.inboxUrl == first.inboxUrl) = some first ∧
        StoredAs outgoing first job := by
    intro job member
    obtain ⟨first, found, stored⟩ := made job member
    exact ⟨first, by rw [List.find?_append, found, Option.some_or], stored⟩
  refine ⟨valid, ?_⟩
  rcases outcome with ⟨rfl, row, member, taken⟩ | ⟨job, rfl, stored, free⟩
  · refine ⟨jobs, rfl, earlier, fun other known => ?_⟩
    rcases List.mem_append.mp known with old | new
    · exact covered other old
    · rw [List.mem_singleton.mp new]
      rcases List.mem_append.mp member with past | present
      · exact absurd taken (unsent row past _)
      · exact ⟨row, present, taken⟩
  · refine ⟨jobs ++ [job], by rw [List.append_assoc], ?_, fun other known => ?_⟩
    · intro other member
      rcases List.mem_append.mp member with old | new
      · exact earlier other old
      · rw [List.mem_singleton.mp new]
        have first : done.find? (fun other => other.inboxUrl == group.inboxUrl) = none := by
          rw [List.find?_eq_none]
          intro other known same
          obtain ⟨old, oldMember, taken⟩ := covered other known
          have same : other.inboxUrl = group.inboxUrl := by simpa using same
          exact free old (List.mem_append_right _ oldMember) (same ▸ taken)
        refine ⟨group, ?_, stored⟩
        rw [List.find?_append, first, Option.none_or, List.find?_cons_of_pos (by simp)]
    · rcases List.mem_append.mp known with old | new
      · obtain ⟨first, member, taken⟩ := covered other old
        exact ⟨first, List.mem_append_left _ member, taken⟩
      · rw [List.mem_singleton.mp new]
        exact ⟨job, List.mem_append_right _ List.mem_cons_self, stored.key⟩

theorem enqueueStatusDeliveryGroups_ok {outgoing : Outgoing} {jobId : Nat → JobId}
    {clocks : Clocks} {rows after : List JobRow} {recipients : List RemoteActor}
    (valid : TableValid rows) (unsent : Unsent outgoing rows)
    (success : enqueueStatusDeliveryGroups outgoing jobId clocks rows recipients = .ok after) :
    Progress outgoing rows (deliveryGroups recipients outgoing.personalInbox) after := by
  have start : Progress outgoing rows [] rows :=
    ⟨valid, [], (List.append_nil rows).symm, fun _ member => (nomatch member),
      fun _ member => nomatch member⟩
  have finished := foldlM_ok
    (fun done state => Progress outgoing rows (done.map Prod.fst) state) start
    (fun done item state updated member progress ran => ?_) success
  · rwa [List.zipIdx_map_fst] at finished
  · have listed : item.1 ∈ deliveryGroups recipients outgoing.personalInbox := by
      rw [← List.zipIdx_map_fst 0 (deliveryGroups recipients outgoing.personalInbox)]
      exact List.mem_map_of_mem member
    rw [List.map_append]
    exact progress.round unsent (deliveryGroups_urls.2 item.1 listed) ran

/-!
## Posts
-/

/-- The stored endpoints of the recipients are those they were grouped by. -/
def Unchanged (directory : Directory) (recipients : List RemoteActor) : Prop :=
  ∀ remote ∈ recipients, ∀ row ∈ directory.remoteActors, row.id = remote.id →
    row.inboxUrl = remote.inboxUrl ∧ row.sharedInboxUrl = remote.sharedInboxUrl

/-- An eligible recipient of an inbox is reached: in personal mode it is the one with the
lowest identifier, and no recipient with a lower one is without a policy. -/
def Reached (parseHost : String → Option Host) (directory : Directory) (outgoing : Outgoing)
    (recipients : List RemoteActor) (inboxUrl : String) : Prop :=
  ∃ first ∈ recipients, effectiveInbox outgoing.personalInbox first = inboxUrl ∧
    Eligible parseHost directory outgoing first ∧
    (outgoing.personalInbox = true → ∀ other ∈ recipients,
      effectiveInbox outgoing.personalInbox other = inboxUrl → first.id.value ≤ other.id.value) ∧
    ∀ other ∈ recipients, effectiveInbox outgoing.personalInbox other = inboxUrl →
      other.id.value < first.id.value → ¬Undecided parseHost directory outgoing other

section

variable {parseHost : String → Option Host}
  {decryptPrivateKey : LocalActorKey → Except RoostyError Unit} {directory : Directory}
  {outgoing : Outgoing} {recipients : List RemoteActor} {inboxUrl : String}
  {ids : List AccountId}

private theorem passesChecks_iff {row : StoredActor} (listed : row.id ∈ ids)
    (inbox : effectiveInbox outgoing.personalInbox row.toRemoteActor = inboxUrl) :
    passesChecks directory
        (blockedRecipients directory outgoing.localAccountId ids outgoing.activity)
        inboxUrl outgoing.personalInbox row = true ↔ Admitted directory outgoing row := by
  simp only [passesChecks, inbox, beq_self_eq_true, Bool.true_and, Bool.and_eq_true,
    Option.isNone_iff_eq_none, Bool.not_eq_true']
  have unblocked : (blockedRecipients directory outgoing.localAccountId ids
        outgoing.activity).contains row.id = false ↔
      moderationActivity outgoing.activity = true ∨
        (outgoing.localAccountId, row.id) ∉ directory.localRemoteAccountBlocks ∧
          (outgoing.localAccountId, row.id) ∉ directory.remoteLocalAccountBlocks := by
    unfold blockedRecipients
    cases moderationActivity outgoing.activity with
    | true => simp
    | false => simp [blockedRemoteActorIdsForLocalAccount, listed]
  rw [unblocked]
  constructor
  · rintro ⟨⟨allowed, unsuspended⟩, unblocked⟩
    exact ⟨allowed, unsuspended, unblocked⟩
  · rintro ⟨allowed, unsuspended, unblocked⟩
    exact ⟨⟨allowed, unsuspended⟩, unblocked⟩

private theorem reached_iff (keyed : directory.Keyed)
    (leads : Leads outgoing.personalInbox recipients inboxUrl ids) (someone : ids ≠ []) :
    (∃ first ∈ remoteActorsById directory.remoteActors ids,
      EligibleRow parseHost directory outgoing first ∧
        ∀ other ∈ remoteActorsById directory.remoteActors ids,
          other.id.value < first.id.value → ¬UndecidedRow parseHost directory outgoing other) ↔
      Reached parseHost directory outgoing recipients inboxUrl := by
  constructor
  · rintro ⟨row, member, eligible, before⟩
    obtain ⟨stored, listed⟩ := (mem_remoteActorsById keyed).mp member
    obtain ⟨remote, recipient, inbox, same⟩ := leads.known row.id listed
    refine ⟨remote, recipient, inbox, ⟨row, stored, same.symm, eligible⟩, ?_, ?_⟩
    · intro mode other known url
      rw [same]
      exact leads.personal mode row.id listed other known url
    · rintro other known url lower ⟨found, foundStored, foundId, undecided⟩
      have shared : outgoing.personalInbox = false := by
        by_contra mode
        have lowest := leads.personal (by simpa using mode) row.id listed other known url
        rw [same] at lower
        omega
      have foundListed : found.id ∈ ids := foundId ▸ leads.shared shared other known url
      refine before found ((mem_remoteActorsById keyed).mpr ⟨foundStored, foundListed⟩) ?_
        undecided
      rwa [foundId, ← same]
  · rintro ⟨remote, recipient, inbox, ⟨row, stored, same, eligible⟩, lowest, before⟩
    have listed : row.id ∈ ids := by
      rw [same]
      cases mode : outgoing.personalInbox with
      | false => exact leads.shared mode remote recipient inbox
      | true =>
          obtain ⟨id, member⟩ := List.exists_mem_of_ne_nil ids someone
          obtain ⟨other, known, url, otherId⟩ := leads.known id member
          have least := leads.personal mode id member remote recipient inbox
          have most := lowest mode other known url
          rw [otherId] at most
          exact accountId_of_value (le_antisymm least most) ▸ member
    refine ⟨row, (mem_remoteActorsById keyed).mpr ⟨stored, listed⟩, eligible, ?_⟩
    intro other member lower undecided
    obtain ⟨otherStored, otherListed⟩ := (mem_remoteActorsById keyed).mp member
    obtain ⟨found, known, url, foundId⟩ := leads.known other.id otherListed
    refine before found known url ?_ ⟨other, otherStored, foundId.symm, undecided⟩
    rwa [foundId, ← same]

private theorem deliverGroupedActivity_posts (keyed : directory.Keyed)
    (signs : Signs decryptPrivateKey directory outgoing.localAccountId)
    (unchanged : Unchanged directory recipients)
    (leads : Leads outgoing.personalInbox recipients inboxUrl ids) (someone : ids ≠ []) :
    ∃ keyId, ∀ post, deliverGroupedActivity parseHost decryptPrivateKey directory
        outgoing.localAccountId ids inboxUrl outgoing.activity outgoing.personalInbox =
          .ok (some post) ↔
      Reached parseHost directory outgoing recipients inboxUrl ∧
        post = ⟨inboxUrl, keyId, outgoing.activity⟩ := by
  obtain ⟨known, key, found, decrypts⟩ := signs
  have checks : ∀ row ∈ remoteActorsById directory.remoteActors ids,
      passesChecks directory
          (blockedRecipients directory outgoing.localAccountId ids outgoing.activity) inboxUrl
          outgoing.personalInbox row = true ↔ Admitted directory outgoing row := by
    intro row member
    obtain ⟨stored, listed⟩ := (mem_remoteActorsById keyed).mp member
    obtain ⟨remote, recipient, inbox, same⟩ := leads.known row.id listed
    obtain ⟨inboxSame, sharedSame⟩ := unchanged remote recipient row stored same.symm
    refine passesChecks_iff listed ?_
    rw [← inbox]
    simp only [effectiveInbox, inboxSame, sharedSame]
  have decided : anyEligible parseHost directory
      (blockedRecipients directory outgoing.localAccountId ids outgoing.activity) inboxUrl
      outgoing.personalInbox (remoteActorsById directory.remoteActors ids) = .ok true ↔
        Reached parseHost directory outgoing recipients inboxUrl :=
    (anyEligible_iff (remoteActorsById_ordered keyed leads.ordered) checks).trans
      (reached_iff keyed leads someone)
  refine ⟨key.keyId, fun post => ?_⟩
  rw [← decided]
  simp only [deliverGroupedActivity, findLocalActor, known, ensure_true, ok_bind]
  cases anyEligible parseHost directory
      (blockedRecipients directory outgoing.localAccountId ids outgoing.activity) inboxUrl
      outgoing.personalInbox (remoteActorsById directory.remoteActors ids) with
  | error error => exact ⟨fun impossible => (nomatch impossible), fun reached => nomatch reached.1⟩
  | ok eligible =>
      cases eligible with
      | false => exact ⟨fun impossible => (nomatch impossible), fun reached => nomatch reached.1⟩
      | true =>
          simp only [signPost, found, okOr_some, ok_bind, decrypts]
          constructor
          · intro posted
            cases posted
            exact ⟨trivial, rfl⟩
          · rintro ⟨_, rfl⟩
            rfl

private theorem jobPost_iff {group : DeliveryGroup} {job : JobRow}
    (stored : StoredAs outgoing group job)
    (leads : Leads outgoing.personalInbox recipients group.inboxUrl group.remoteActorIds)
    (localBounded : outgoing.localAccountId.value < 2 ^ 128)
    (bounded : ∀ remote ∈ recipients, remote.id.value < 2 ^ 128)
    {directory : String → Directory} (keyed : (directory group.inboxUrl).Keyed)
    (signs : Signs decryptPrivateKey (directory group.inboxUrl) outgoing.localAccountId)
    (unchanged : Unchanged (directory group.inboxUrl) recipients) :
    ∃ keyId, ∀ post, jobPost parseHost decryptPrivateKey directory job = some post ↔
      Reached parseHost (directory group.inboxUrl) outgoing recipients group.inboxUrl ∧
        post = ⟨group.inboxUrl, keyId, outgoing.activity⟩ := by
  obtain ⟨remoteActorId, member, payload⟩ := stored.payload
  have idsBounded : ∀ id ∈ group.remoteActorIds, id.value < 2 ^ 128 := by
    intro id listed
    obtain ⟨remote, recipient, _, rfl⟩ := leads.known id listed
    exact bounded remote recipient
  have read := read_toValue ⟨outgoing.localAccountId, remoteActorId, group.remoteActorIds,
    some group.inboxUrl, outgoing.activity, outgoing.personalInbox⟩ localBounded
    (idsBounded _ member) idsBounded
  have inbox : jobInbox job = group.inboxUrl := by
    rw [jobInbox, payload, read]
    rfl
  have run : deliverStatusActivity parseHost decryptPrivateKey (directory (jobInbox job))
      job.payload = deliverGroupedActivity parseHost decryptPrivateKey (directory group.inboxUrl)
        outgoing.localAccountId group.remoteActorIds group.inboxUrl outgoing.activity
        outgoing.personalInbox := by
    rw [inbox, payload, deliverStatusActivity, read]
    rfl
  obtain ⟨keyId, posts⟩ :=
    deliverGroupedActivity_posts keyed signs unchanged leads (List.ne_nil_of_mem member)
  refine ⟨keyId, fun post => ?_⟩
  rw [← posts post, ← run, jobPost]
  split
  next result answer => rw [answer, Except.ok.injEq]
  next error answer => simp [answer]

end

private theorem enqueuedJobs_append {rows jobs : List JobRow} (valid : TableValid (rows ++ jobs)) :
    enqueuedJobs rows (rows ++ jobs) = jobs := by
  have distinct : (rows ++ jobs).Pairwise fun left right => left.id ≠ right.id := by
    have keys := valid.primaryKey
    rw [Table.UniqueOn, List.filterMap_eq_map', List.Nodup, List.pairwise_map] at keys
    exact keys
  have apart := (List.pairwise_append.mp distinct).2.2
  rw [enqueuedJobs, List.filter_append, List.filter_eq_nil_iff.mpr, List.nil_append,
    List.filter_eq_self.mpr]
  · intro job member
    simpa using fun row known => apart row known job member
  · intro row member
    simpa using ⟨row, member, rfl⟩

private theorem filterMap_keys {Row Result Key : Type} {give : Row → Option Result}
    {key : Row → Option Key} {own : Result → Key} {rows : List Row}
    (same : ∀ row ∈ rows, ∀ result, give row = some result → key row = some (own result)) :
    ((rows.filterMap give).map own).Sublist (rows.filterMap key) := by
  induction rows with
  | nil => exact List.Sublist.refl _
  | cons row rows ih =>
      have later := ih fun other member => same other (List.mem_cons_of_mem _ member)
      cases given : give row with
      | none =>
          rw [List.filterMap_cons_none given]
          cases keyed : key row with
          | none => rwa [List.filterMap_cons_none keyed]
          | some value =>
              rw [List.filterMap_cons_some keyed]
              exact later.cons value
      | some result =>
          rw [List.filterMap_cons_some given,
            List.filterMap_cons_some (same row List.mem_cons_self result given), List.map_cons]
          exact later.cons_cons _

/-- Every inbox is posted to at most once, and exactly when one of its recipients is
eligible at the time of the delivery. -/
structure EachInboxServed (parseHost : String → Option Host) (directory : String → Directory)
    (outgoing : Outgoing) (recipients : List RemoteActor) (posts : List Post) : Prop where
  once : (posts.map Post.inboxUrl).Nodup
  exact : ∀ inboxUrl, inboxUrl ∈ posts.map Post.inboxUrl ↔
    ∃ remote ∈ recipients, effectiveInbox outgoing.personalInbox remote = inboxUrl ∧
      Eligible parseHost (directory inboxUrl) outgoing remote

/-- The jobs of the groups serve each inbox exactly when an eligible recipient is reached
wherever there is one. -/
theorem each_inbox_served_iff (parseHost : String → Option Host)
    (decryptPrivateKey : LocalActorKey → Except RoostyError Unit) (outgoing : Outgoing)
    (jobId : Nat → JobId) (clocks : Clocks) {rows after : List JobRow}
    {recipients : List RemoteActor} {directory : String → Directory}
    (localBounded : outgoing.localAccountId.value < 2 ^ 128)
    (bounded : ∀ remote ∈ recipients, remote.id.value < 2 ^ 128)
    (valid : TableValid rows) (unsent : Unsent outgoing rows)
    (enqueued : enqueueStatusDeliveryGroups outgoing jobId clocks rows recipients = .ok after)
    (keyed : ∀ inboxUrl, (directory inboxUrl).Keyed)
    (signs : ∀ inboxUrl, Signs decryptPrivateKey (directory inboxUrl) outgoing.localAccountId)
    (unchanged : ∀ inboxUrl, Unchanged (directory inboxUrl) recipients) :
    EachInboxServed parseHost directory outgoing recipients
        (runJobs parseHost decryptPrivateKey directory (enqueuedJobs rows after)) ↔
      ∀ inboxUrl, (∃ remote ∈ recipients, effectiveInbox outgoing.personalInbox remote = inboxUrl ∧
          Eligible parseHost (directory inboxUrl) outgoing remote) →
        Reached parseHost (directory inboxUrl) outgoing recipients inboxUrl := by
  have progress := enqueueStatusDeliveryGroups_ok valid unsent enqueued
  obtain ⟨jobs, rfl, made, covered⟩ := progress.added
  rw [enqueuedJobs_append progress.valid]
  have job_posts : ∀ job ∈ jobs, ∃ group, StoredAs outgoing group job ∧ ∃ keyId, ∀ post,
      jobPost parseHost decryptPrivateKey directory job = some post ↔
        Reached parseHost (directory group.inboxUrl) outgoing recipients group.inboxUrl ∧
          post = ⟨group.inboxUrl, keyId, outgoing.activity⟩ := by
    intro job member
    obtain ⟨group, found, stored⟩ := made job member
    exact ⟨group, stored, jobPost_iff stored (deliveryGroups_leads found) localBounded bounded
      (keyed _) (signs _) (unchanged _)⟩
  have posted : ∀ inboxUrl, inboxUrl ∈ (runJobs parseHost decryptPrivateKey directory jobs).map
      Post.inboxUrl ↔ Reached parseHost (directory inboxUrl) outgoing recipients inboxUrl := by
    intro inboxUrl
    rw [List.mem_map]
    constructor
    · rintro ⟨post, member, rfl⟩
      obtain ⟨job, known, answer⟩ := List.mem_filterMap.mp member
      obtain ⟨group, _, keyId, posts⟩ := job_posts job known
      obtain ⟨reached, rfl⟩ := (posts post).mp answer
      exact reached
    · intro reached
      have ⟨first, recipient, inbox, _⟩ := reached
      obtain ⟨group, listed, url⟩ := deliveryGroups_urls.1 first recipient
      obtain ⟨job, known, taken⟩ := covered group listed
      obtain ⟨stored, storedAs, keyId, posts⟩ := job_posts job known
      have keys := Option.some.inj (storedAs.key.symm.trans taken)
      have same : stored.inboxUrl = inboxUrl :=
        ((String.append_right_inj _).mp (Prod.mk.inj keys).2).trans (url.trans inbox)
      subst same
      exact ⟨_, List.mem_filterMap.mpr ⟨job, known, (posts _).mpr ⟨reached, rfl⟩⟩, rfl⟩
  have once : ((runJobs parseHost decryptPrivateKey directory jobs).map Post.inboxUrl).Nodup := by
    have active : (jobs.filterMap activeKey).Nodup := by
      have keys := progress.valid.activeKeys
      rw [Table.UniqueOn, List.filterMap_append] at keys
      exact (List.nodup_append.mp keys).2.1
    -- Active deduplication keys name the inboxes.
    have named : ((runJobs parseHost decryptPrivateKey directory jobs).map fun post =>
        (JobKind.federationStatusDelivery, outgoing.activityId ++ ":" ++ post.inboxUrl)).Sublist
          (jobs.filterMap activeKey) := by
      refine filterMap_keys fun job known post answer => ?_
      obtain ⟨group, storedAs, keyId, posts⟩ := job_posts job known
      obtain ⟨_, rfl⟩ := (posts post).mp answer
      exact storedAs.key
    have distinct := active.sublist named
    rw [← Function.comp_def (fun url =>
      (JobKind.federationStatusDelivery, outgoing.activityId ++ ":" ++ url)) Post.inboxUrl,
      ← List.map_map] at distinct
    exact distinct.of_map _
  constructor
  · intro served inboxUrl eligible
    exact (posted inboxUrl).mp ((served.exact inboxUrl).mpr eligible)
  · intro reach
    refine ⟨once, fun inboxUrl => (posted inboxUrl).trans ⟨?_, reach inboxUrl⟩⟩
    rintro ⟨first, recipient, inbox, eligible, _⟩
    exact ⟨first, recipient, inbox, eligible⟩

namespace Sample

def parseHost (text : String) : Option Host :=
  if text.toList.all fun letter => letter.isLower || letter == '.' then some (.domain text)
  else none

def recipient (id : Nat) : RemoteActor where
  id := ⟨id⟩
  activitypubId := "https://a.test/actor/" ++ toString id
  username := toString id
  domain := "a.test"
  invalidHandle := false
  actorType := .person
  inboxUrl := "https://a.test/inbox"
  sharedInboxUrl := none
  followersUrl := none
  featuredUrl := none
  featuredTagsUrl := none
  publicKeyId := "https://a.test/actor#key"
  publicKeyPem := "pem"
  expiresAt := 0
  profileCreatedAt := none

def recipients : List RemoteActor := [recipient 1, recipient 2]

/-- The account blocks the first recipient. -/
def directory : Directory where
  localAccounts := [⟨7⟩]
  actorKeys := [⟨⟨7⟩, "https://roosty.test/users/seven#main-key", []⟩]
  remoteActors := recipients.map fun remote => ⟨remote, none⟩
  localRemoteAccountBlocks := [(⟨7⟩, ⟨1⟩)]
  remoteLocalAccountBlocks := []
  domainRules := []
  federationAllowedDomains := ["*"]

def outgoing (personalInbox : Bool) : Outgoing where
  localAccountId := ⟨7⟩
  activity := .object [("type", .string "Create")]
  activityId := "https://roosty.test/activities/1"
  personalInbox := personalInbox

def decryptPrivateKey (_ : LocalActorKey) : Except RoostyError Unit := .ok ()

def enqueue (personalInbox : Bool) : Except RoostyError (List JobRow) :=
  enqueueStatusDeliveryGroups (outgoing personalInbox) JobId.mk ⟨0, 0⟩ [] recipients

def jobs (personalInbox : Bool) : List JobRow :=
  match enqueue personalInbox with
  | .ok rows => rows
  | .error _ => []

theorem enqueued (personalInbox : Bool) : enqueue personalInbox = .ok (jobs personalInbox) := by
  cases personalInbox <;> decide +kernel

theorem resolved : federationDomainPolicy parseHost directory.domainRules "a.test" =
    .ok ⟨.noop, false, false⟩ := by decide +kernel

theorem eligible (personalInbox : Bool) :
    Eligible parseHost directory (outgoing personalInbox) (recipient 2) := by
  refine ⟨⟨recipient 2, none⟩, by simp [directory, recipients], rfl, ⟨by decide +kernel, rfl, ?_⟩,
    _, resolved, rfl⟩
  exact .inr ⟨by simp [directory, recipient], List.not_mem_nil⟩

end Sample

open Sample in
theorem each_inbox_served_shared :
    EachInboxServed parseHost (fun _ => directory) (outgoing false) recipients
      (runJobs parseHost decryptPrivateKey (fun _ => directory)
        (enqueuedJobs [] (jobs false))) := by
  refine (each_inbox_served_iff parseHost decryptPrivateKey (outgoing false) JobId.mk ⟨0, 0⟩
    (by decide) (by decide) tableValid_nil (fun _ member => (nomatch member)) (enqueued false)
    (fun _ => ?_) (fun _ => ⟨by decide, _, rfl, rfl⟩) (fun _ => ?_)).mpr ?_
  · unfold Directory.Keyed
    decide
  · intro remote member row stored same
    obtain ⟨other, known, rfl⟩ := List.mem_map.mp stored
    have inboxes : ∀ remote ∈ recipients, remote.inboxUrl = "https://a.test/inbox" ∧
        remote.sharedInboxUrl = none := by decide
    exact ⟨(inboxes other known).1.trans (inboxes remote member).1.symm,
      (inboxes other known).2.trans (inboxes remote member).2.symm⟩
  · rintro inboxUrl ⟨remote, member, inbox, _⟩
    have inboxes : ∀ remote ∈ recipients,
        effectiveInbox false remote = effectiveInbox false (recipient 2) := by decide
    refine ⟨recipient 2, by simp [recipients], (inboxes remote member).symm.trans inbox,
      eligible false, fun impossible => (nomatch impossible), ?_⟩
    rintro other _ _ _ ⟨row, stored, _, _, error, failed⟩
    obtain ⟨found, known, rfl⟩ := List.mem_map.mp stored
    have domains : ∀ remote ∈ recipients, remote.domain = "a.test" := by decide
    rw [domains found known, resolved] at failed
    cases failed

open Sample in
/-- In personal mode a blocked recipient takes the inbox away from the one behind it. -/
theorem each_inbox_unserved :
    enqueue true = .ok (jobs true) ∧
      ¬EachInboxServed parseHost (fun _ => directory) (outgoing true) recipients
        (runJobs parseHost decryptPrivateKey (fun _ => directory)
          (enqueuedJobs [] (jobs true))) := by
  refine ⟨enqueued true, fun served => ?_⟩
  have silent : runJobs parseHost decryptPrivateKey (fun _ => directory)
      (enqueuedJobs [] (jobs true)) = [] := by decide +kernel
  have posted := (served.exact "https://a.test/inbox").mpr
    ⟨recipient 2, by simp [recipients], rfl, eligible true⟩
  rw [silent] at posted
  cases posted

end Roosty.Federation.Delivery
