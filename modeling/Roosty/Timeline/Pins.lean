import Roosty.Library.Machine
import Roosty.Library.PagingMerge
import Roosty.Timeline.Collections

/-!
# Pinned statuses

An account features a few of its statuses. Other servers read the collection, or keep it up
to date by the activities that every change sends to them.
-/

set_option autoImplicit false

namespace Roosty.Timeline.Pins

open Library

structure LocalStatusPin where
  id : StatusId
  accountId : AccountId
  statusId : StatusId
  pinnedAt : Int

structure PinDb where
  localStatuses : List LocalStatus
  pins : List LocalStatusPin

inductive PinStatusResult where
  | pinned
  | alreadyPinned
  | unpinned
  | alreadyUnpinned
  | notFound
  | notOwned
  | unsupportedVisibility
  | limitReached

inductive ApiError where
  | notFound (message : String)
  | unprocessable (message : String)
  | internal (error : RoostyError)

/-- An `Add` to the featured collection or a `Remove` from it. -/
structure PinActivity where
  pinned : Bool
  object : StatusId

def maxPinnedStatuses : Nat := 5

def findLocalStatusById (db : PinDb) (id : StatusId) : Option LocalStatus :=
  db.localStatuses.find? fun status => status.id == id && status.deletedAt.isNone

def isLocalStatusPinned (db : PinDb) (id : StatusId) : Bool :=
  db.pins.any (·.statusId == id)

/-- Pin an owned public or unlisted status while enforcing a cross-process account limit. -/
def pinLocalStatus (db : PinDb) (statusId : StatusId) (accountId : AccountId) (limit : Nat)
    (id : StatusId) (now : Int) : Except RoostyError (PinDb × PinStatusResult) :=
  match findLocalStatusById db statusId with
  | none => .ok (db, .notFound)
  | some status =>
      if status.accountId ≠ accountId then .ok (db, .notOwned)
      else if ¬(status.visibility = .publicStatus ∨ status.visibility = .unlisted) then
        .ok (db, .unsupportedVisibility)
      else if isLocalStatusPinned db statusId then .ok (db, .alreadyPinned)
      else if limit ≤ db.pins.countP (·.accountId == accountId) then .ok (db, .limitReached)
      else if db.pins.any (·.id == id) then .error (.database "local_status_pin_pkey")
      else .ok (⟨db.localStatuses, db.pins ++ [⟨id, accountId, statusId, now⟩]⟩, .pinned)

def unpinLocalStatus (db : PinDb) (statusId : StatusId) (accountId : AccountId) :
    PinDb × PinStatusResult :=
  let selected := fun (pin : LocalStatusPin) => pin.statusId == statusId && pin.accountId == accountId
  match findLocalStatusById db statusId with
  | none => (db, .notFound)
  | some status =>
      if status.accountId ≠ accountId then (db, .notOwned)
      else (⟨db.localStatuses, Table.deleteWhere selected db.pins⟩,
        if Table.affected selected db.pins = 0 then .alreadyUnpinned else .unpinned)

def mutateStatusPin (db : PinDb) (accountId : AccountId) (statusId : StatusId) (pin : Bool)
    (id : StatusId) (now : Int) : Except ApiError (PinDb × Option PinActivity) := do
  let (next, result) ←
    if pin then (pinLocalStatus db statusId accountId maxPinnedStatuses id now).mapError .internal
    else .ok (unpinLocalStatus db statusId accountId)
  match result with
  | .pinned | .unpinned => .ok (next, some ⟨pin, statusId⟩)
  | .alreadyPinned | .alreadyUnpinned => .ok (next, none)
  | .notFound => .error (.notFound "Record not found")
  | .notOwned => .error (.unprocessable "You can only pin your own statuses")
  | .unsupportedVisibility =>
      .error (.unprocessable "Only public and unlisted statuses can be pinned")
  | .limitReached =>
      .error (.unprocessable "You have already pinned the maximum number of statuses")

/-- Soft-delete a local status when the authenticated account owns it. -/
def deleteOwnedLocalStatus (db : PinDb) (statusId : StatusId) (accountId : AccountId)
    (now : Int) : Except RoostyError (PinDb × Option LocalStatus) :=
  match findLocalStatusById db statusId with
  | none => .ok (db, none)
  | some status =>
      if status.accountId ≠ accountId then
        .error (.invalidInput "status is owned by another account")
      else .ok (⟨Table.updateWhere (·.id == statusId) ({ · with deletedAt := some now })
        db.localStatuses, Table.deleteWhere (·.statusId == statusId) db.pins⟩,
        some { status with deletedAt := some now })

/-- `ORDER BY pinned_at DESC, id DESC`. -/
def newerFirst (left right : LocalStatusPin) : Prop :=
  right.pinnedAt < left.pinnedAt ∨
    (right.pinnedAt = left.pinnedAt ∧ right.id.value ≤ left.id.value)

instance : DecidableRel newerFirst := fun _ _ => inferInstanceAs (Decidable (_ ∨ _))

def pinnedLocalStatusesByAccount (db : PinDb) (accountId : AccountId) (limit : Nat)
    (cursor : TimelineCursor) : Paging.Page LocalStatus :=
  let query := db.pins.filter fun pin =>
    pin.accountId == accountId && applyTimelineCursor cursor pin.id
  let (pins, hasMore) :=
    Paging.trimToPage ((query.insertionSort newerFirst).take (pageQueryLimit limit)) limit
  ⟨pins.filterMap fun pin => findLocalStatusById db pin.statusId,
    pins.head?.map fun pin => pin.id.value, pins.getLast?.map fun pin => pin.id.value, hasMore⟩

/-- The items of the `featured` collection. -/
def featured (db : PinDb) (accountId : AccountId) : List LocalStatus :=
  (pinnedLocalStatusesByAccount db accountId maxPinnedStatuses ⟨none, none, none⟩).items

/-- Whether `note` serves a status. -/
def dereferenceable (db : PinDb) (status : LocalStatus) : Prop :=
  status.visibility = .publicStatus ∨
    (status.visibility = .unlisted ∧ isLocalStatusPinned db status.id = true)

inductive PinCall where
  | create (status : LocalStatus)
  | mutate (accountId : AccountId) (statusId : StatusId) (pin : Bool) (id : StatusId) (now : Int)
  | delete (accountId : AccountId) (statusId : StatusId) (now : Int)

/-- Requests do not overlap. Pins and unpins of an account wait for each other by a lock, which
`delete_owned_local_status` does not take. -/
def pinMachine : Machine PinDb PinCall (Option PinActivity) where
  step db
    | .create status =>
        if db.localStatuses.any (·.id == status.id) then (db, none)
        else (⟨db.localStatuses ++ [{ status with deletedAt := none }], db.pins⟩, none)
    | .mutate accountId statusId pin id now =>
        ((mutateStatusPin db accountId statusId pin id now).toOption).getD (db, none)
    | .delete accountId statusId now =>
        (((deleteOwnedLocalStatus db statusId accountId now).toOption.map Prod.fst).getD db, none)

def PinActivity.apply (held : List StatusId) (activity : PinActivity) : List StatusId :=
  if activity.pinned then activity.object :: held else held.filter (· ≠ activity.object)

/-- What a follower holds that has applied the activities of a run. -/
def followed (calls : List PinCall) : List StatusId :=
  ((pinMachine.trace ⟨[], []⟩ calls).filterMap Prod.snd).foldl PinActivity.apply []

/-!
## Invariant
-/

/-- What holds between requests; `held` is what a follower holds. -/
structure Kept (db : PinDb) (held : List StatusId) : Prop where
  ids : (db.localStatuses.map LocalStatus.id).Nodup
  once : (db.pins.map LocalStatusPin.statusId).Nodup
  few : ∀ account, db.pins.countP (·.accountId == account) ≤ maxPinnedStatuses
  own : ∀ pin ∈ db.pins, ∃ status ∈ db.localStatuses, status.id = pin.statusId ∧
    status.deletedAt = none ∧ status.accountId = pin.accountId ∧
    (status.visibility = .publicStatus ∨ status.visibility = .unlisted)
  known : ∀ id ∈ held, id ∈ db.localStatuses.map LocalStatus.id
  told : ∀ status ∈ db.localStatuses, status.deletedAt = none →
    (status.id ∈ held ↔ status.id ∈ db.pins.map LocalStatusPin.statusId)

section

variable {db next : PinDb} {held : List StatusId} {status : LocalStatus} {id statusId : StatusId}
  {account : AccountId} {pin : Bool} {now : Int} {activity : Option PinActivity}

theorem isLocalStatusPinned_iff :
    isLocalStatusPinned db id = true ↔ id ∈ db.pins.map LocalStatusPin.statusId := by
  simp [isLocalStatusPinned]

theorem Kept.find_eq_some_iff (kept : Kept db held) :
    findLocalStatusById db id = some status ↔
      status ∈ db.localStatuses ∧ status.id = id ∧ status.deletedAt = none := by
  unfold findLocalStatusById
  rw [Table.find?_key_eq_some_iff kept.ids]
  simp

/-- The status of a successful request is left as it was, or is pinned, or is unpinned. -/
theorem mutateStatusPin_ok
    (success : mutateStatusPin db account statusId pin id now = .ok (next, activity)) :
    ∃ status, findLocalStatusById db statusId = some status ∧ status.accountId = account ∧
      ((next = db ∧ activity = none) ∨
        (next = ⟨db.localStatuses, db.pins ++ [⟨id, account, statusId, now⟩]⟩ ∧
          activity = some ⟨true, statusId⟩ ∧
          (status.visibility = .publicStatus ∨ status.visibility = .unlisted) ∧
          isLocalStatusPinned db statusId = false ∧
          db.pins.countP (·.accountId == account) < maxPinnedStatuses) ∨
        (next = ⟨db.localStatuses, Table.deleteWhere
            (fun pin => pin.statusId == statusId && pin.accountId == account) db.pins⟩ ∧
          activity = some ⟨false, statusId⟩)) := by
  cases pin with
  | true =>
      simp only [mutateStatusPin, if_true, pinLocalStatus] at success
      split at success
      case h_1 => cases success
      case h_2 status found =>
        refine ⟨status, found, ?_⟩
        split_ifs at success with other visible pinned full taken
        all_goals cases success
        · exact ⟨not_not.mp other, .inl ⟨rfl, rfl⟩⟩
        · exact ⟨not_not.mp other, .inr (.inl ⟨rfl, rfl, visible,
            Bool.eq_false_iff.mpr pinned, Nat.lt_of_not_le full⟩)⟩
  | false =>
      simp only [mutateStatusPin, Bool.false_eq_true, if_false, unpinLocalStatus] at success
      split at success
      case h_1 => cases success
      case h_2 status found =>
        refine ⟨status, found, ?_⟩
        split_ifs at success with other unpinned
        all_goals cases success
        · refine ⟨not_not.mp other, .inl ⟨?_, rfl⟩⟩
          rw [Table.deleteWhere_eq_self_iff.mpr (Table.affected_eq_zero.mp unpinned)]
        · exact ⟨not_not.mp other, .inr (.inr ⟨rfl, rfl⟩)⟩

theorem Kept.create (kept : Kept db held) (fresh : ∀ other ∈ db.localStatuses, other.id ≠ status.id) :
    Kept ⟨db.localStatuses ++ [status], db.pins⟩ held where
  ids := by
    rw [List.map_append, List.nodup_append]
    refine ⟨kept.ids, List.nodup_singleton _, ?_⟩
    simpa using fresh
  once := kept.once
  few := kept.few
  own pin member := by
    obtain ⟨owned, stored, rest⟩ := kept.own pin member
    exact ⟨owned, List.mem_append_left _ stored, rest⟩
  known id member := by
    rw [List.map_append]
    exact List.mem_append_left _ (kept.known id member)
  told other member live := by
    rcases List.mem_append.mp member with stored | new
    · exact kept.told other stored live
    · -- nobody knows of the new status
      rw [List.mem_singleton.mp new]
      refine iff_of_false (fun inside => ?_) fun inside => ?_
      · obtain ⟨known, stored, same⟩ := List.mem_map.mp (kept.known _ inside)
        exact fresh known stored same
      · obtain ⟨pin, pinned, same⟩ := List.mem_map.mp inside
        obtain ⟨owned, stored, equal, _⟩ := kept.own pin pinned
        exact fresh owned stored (equal.trans same)

theorem Kept.addPin (kept : Kept db held) (found : findLocalStatusById db statusId = some status)
    (owner : status.accountId = account)
    (visible : status.visibility = .publicStatus ∨ status.visibility = .unlisted)
    (unpinned : isLocalStatusPinned db statusId = false)
    (room : db.pins.countP (·.accountId == account) < maxPinnedStatuses) :
    Kept ⟨db.localStatuses, db.pins ++ [⟨id, account, statusId, now⟩]⟩ (statusId :: held) := by
  obtain ⟨stored, same, live⟩ := kept.find_eq_some_iff.mp found
  have absent : statusId ∉ db.pins.map LocalStatusPin.statusId := fun inside =>
    Bool.eq_false_iff.mp unpinned (isLocalStatusPinned_iff.mpr inside)
  constructor
  case ids => exact kept.ids
  case once =>
    rw [List.map_append, List.nodup_append]
    refine ⟨kept.once, List.nodup_singleton _, fun other member _ new equal => absent ?_⟩
    have here : other = statusId := equal.trans (List.mem_singleton.mp new)
    rwa [← here]
  case few =>
    intro other
    rw [List.countP_append, List.countP_singleton]
    by_cases equal : account = other
    · subst equal
      simpa using Nat.succ_le_of_lt room
    · simpa [equal] using kept.few other
  case own =>
    intro pin member
    rcases List.mem_append.mp member with old | new
    · exact kept.own pin old
    · rw [List.mem_singleton.mp new]
      exact ⟨status, stored, same, live, owner, visible⟩
  case known =>
    intro other member
    rcases List.mem_cons.mp member with rfl | old
    · exact same ▸ List.mem_map_of_mem stored
    · exact kept.known other old
  case told =>
    intro other member alive
    rw [List.mem_cons, List.map_append, List.mem_append, kept.told other member alive, or_comm]
    simp

theorem Kept.removePin (kept : Kept db held) (found : findLocalStatusById db statusId = some status)
    (owner : status.accountId = account) :
    Kept ⟨db.localStatuses, Table.deleteWhere
      (fun pin => pin.statusId == statusId && pin.accountId == account) db.pins⟩
      (held.filter (· ≠ statusId)) := by
  obtain ⟨stored, same, _⟩ := kept.find_eq_some_iff.mp found
  refine ⟨kept.ids, kept.once.sublist (List.filter_sublist.map _), fun other =>
    le_trans (List.filter_sublist.countP_le) (kept.few other),
    fun pin member => kept.own pin (List.mem_of_mem_filter member),
    fun other member => kept.known other (List.mem_of_mem_filter member),
    fun other member live => ?_⟩
  rw [List.mem_filter, kept.told other member live]
  simp only [List.mem_map, Table.mem_deleteWhere, Bool.and_eq_false_iff, beq_eq_false_iff_ne,
    decide_eq_true_eq]
  constructor
  · rintro ⟨⟨pin, pinned, equal⟩, different⟩
    exact ⟨pin, ⟨pinned, .inl (equal ▸ different)⟩, equal⟩
  · rintro ⟨pin, ⟨pinned, kept'⟩, equal⟩
    refine ⟨⟨pin, pinned, equal⟩, fun this => ?_⟩
    -- the pin belongs to the owner of its status
    obtain ⟨owned, ownedStored, ownedSame, _, ownedBy, _⟩ := kept.own pin pinned
    have one : owned = status := List.inj_on_of_nodup_map kept.ids ownedStored stored
      (ownedSame.trans (equal.trans (this.trans same.symm)))
    rcases kept' with other | other
    · exact other (equal.trans this)
    · exact other (ownedBy.symm.trans (one ▸ owner))

theorem Kept.delete (kept : Kept db held) :
    Kept ⟨Table.updateWhere (·.id == statusId) ({ · with deletedAt := some now }) db.localStatuses,
      Table.deleteWhere (·.statusId == statusId) db.pins⟩ held := by
  have ids : (Table.updateWhere (·.id == statusId) ({ · with deletedAt := some now })
      db.localStatuses).map LocalStatus.id = db.localStatuses.map LocalStatus.id :=
    Table.map_updateWhere fun _ _ _ => rfl
  constructor
  case ids => exact ids ▸ kept.ids
  case once => exact kept.once.sublist (List.filter_sublist.map _)
  case few => exact fun other => le_trans (List.filter_sublist.countP_le) (kept.few other)
  case own =>
    intro pin member
    obtain ⟨pinned, different⟩ := Table.mem_deleteWhere.mp member
    obtain ⟨owned, stored, same, rest⟩ := kept.own pin pinned
    exact ⟨owned, Table.mem_updateWhere.mpr (.inl ⟨stored, same ▸ different⟩), same, rest⟩
  case known => exact fun other member => ids ▸ kept.known other member
  case told =>
    intro other member live
    rcases Table.mem_updateWhere.mp member with ⟨stored, different⟩ | ⟨before, _, _, rfl⟩
    · rw [kept.told other stored live]
      simp only [List.mem_map, Table.mem_deleteWhere]
      constructor
      · rintro ⟨pin, pinned, equal⟩
        exact ⟨pin, ⟨pinned, equal ▸ different⟩, equal⟩
      · rintro ⟨pin, ⟨pinned, _⟩, equal⟩
        exact ⟨pin, pinned, equal⟩
    · cases live

theorem Kept.step (kept : Kept db held) (call : PinCall) :
    Kept (pinMachine.step db call).1
      ((pinMachine.step db call).2.toList.foldl PinActivity.apply held) := by
  cases call with
  | create status =>
      dsimp only [pinMachine]
      split
      case isTrue => exact kept
      case isFalse new =>
        have fresh : ∀ other ∈ db.localStatuses, other.id ≠ status.id := by simpa using new
        exact kept.create fresh
  | mutate account statusId pin id now =>
      dsimp only [pinMachine]
      cases answer : mutateStatusPin db account statusId pin id now with
      | error => exact kept
      | ok pair =>
          obtain ⟨next, activity⟩ := pair
          obtain ⟨status, found, owner, ⟨rfl, rfl⟩ | ⟨rfl, rfl, visible, unpinned, room⟩ |
            ⟨rfl, rfl⟩⟩ := mutateStatusPin_ok answer
          · exact kept
          · exact kept.addPin found owner visible unpinned room
          · exact kept.removePin found owner
  | delete account statusId now =>
      dsimp only [pinMachine, deleteOwnedLocalStatus]
      split
      case h_1 => exact kept
      case h_2 =>
        split
        case isTrue => exact kept
        case isFalse => exact kept.delete

theorem Kept.featured_eq (kept : Kept db held) (account : AccountId) :
    ∃ pins : List LocalStatusPin, pins.Perm (db.pins.filter (·.accountId == account)) ∧
      featured db account = pins.filterMap fun pin => findLocalStatusById db pin.statusId := by
  have few := kept.few account
  rw [List.countP_eq_length_filter,
    ← (List.perm_insertionSort newerFirst _).length_eq] at few
  refine ⟨_, List.perm_insertionSort newerFirst _, ?_⟩
  unfold featured pinnedLocalStatusesByAccount
  simp only [Paging.trimToPage_eq, applyTimelineCursor, Option.all_none, Bool.and_true]
  rw [List.take_of_length_le (le_trans few (by decide)), List.take_of_length_le few]

theorem Kept.mem_featured (kept : Kept db held) :
    status ∈ featured db account ↔ status ∈ db.localStatuses ∧ status.deletedAt = none ∧
      status.accountId = account ∧ status.id ∈ db.pins.map LocalStatusPin.statusId := by
  obtain ⟨pins, perm, same⟩ := kept.featured_eq account
  simp only [same, List.mem_filterMap, perm.mem_iff, List.mem_filter, beq_iff_eq,
    kept.find_eq_some_iff, List.mem_map]
  constructor
  · rintro ⟨pin, ⟨member, owner⟩, stored, equal, live⟩
    obtain ⟨owned, ownedStored, ownedSame, _, ownedBy, _⟩ := kept.own pin member
    have one := List.inj_on_of_nodup_map kept.ids ownedStored stored (ownedSame.trans equal.symm)
    exact ⟨stored, live, one ▸ ownedBy.trans owner, pin, member, equal.symm⟩
  · rintro ⟨stored, live, owner, pin, member, equal⟩
    obtain ⟨owned, ownedStored, ownedSame, _, ownedBy, _⟩ := kept.own pin member
    have one := List.inj_on_of_nodup_map kept.ids ownedStored stored (ownedSame.trans equal)
    exact ⟨pin, ⟨member, by rw [← ownedBy, one, owner]⟩, stored, equal.symm, live⟩

theorem kept_run (calls : List PinCall) :
    Kept (pinMachine.run ⟨[], []⟩ calls) (followed calls) := by
  induction calls using List.reverseRecOn with
  | nil =>
      constructor
      all_goals simp [followed]
  | append_singleton calls call ih =>
      have next := ih.step call
      rw [Machine.run_snoc, followed, Machine.trace_snoc, List.filterMap_append, List.foldl_append]
      cases sent : (pinMachine.step (pinMachine.run ⟨[], []⟩ calls) call).2
      all_goals simpa [followed, sent] using next

end

/-- After every run, a reader of an account's collection and a follower that has applied the
activities see the same statuses, all of which are served. -/
theorem featured_collections_agree (calls : List PinCall) (account : AccountId) :
    let db := pinMachine.run ⟨[], []⟩ calls
    (featured db account).Nodup ∧ (featured db account).length ≤ maxPinnedStatuses ∧
      (∀ status ∈ featured db account, dereferenceable db status) ∧
      ∀ status, status ∈ featured db account ↔ status ∈ db.localStatuses ∧
        status.deletedAt = none ∧ status.accountId = account ∧ status.id ∈ followed calls := by
  have kept := kept_run calls
  obtain ⟨pins, perm, same⟩ := kept.featured_eq account
  have ids : (featured (pinMachine.run ⟨[], []⟩ calls) account).map LocalStatus.id =
      pins.map LocalStatusPin.statusId := by
    rw [same]
    refine Table.map_filterMap_lookup fun pin member => ?_
    obtain ⟨owned, stored, equal, live, _⟩ :=
      kept.own pin (List.mem_of_mem_filter (perm.mem_iff.mp member))
    exact ⟨owned, kept.find_eq_some_iff.mpr ⟨stored, equal, live⟩, equal⟩
  refine ⟨?_, ?_, fun status member => ?_, fun status => ?_⟩
  · refine List.Nodup.of_map LocalStatus.id (ids ▸ ?_)
    exact (perm.map _).nodup_iff.mpr (kept.once.sublist (List.filter_sublist.map _))
  · have sizes := congrArg List.length ids
    rw [List.length_map, List.length_map, perm.length_eq, ← List.countP_eq_length_filter] at sizes
    exact sizes ▸ kept.few account
  · obtain ⟨stored, live, _, pinned⟩ := kept.mem_featured.mp member
    obtain ⟨pin, inside, equal⟩ := List.mem_map.mp pinned
    obtain ⟨owned, ownedStored, ownedSame, _, _, visible⟩ := kept.own pin inside
    have one := List.inj_on_of_nodup_map kept.ids ownedStored stored (ownedSame.trans equal)
    exact (one ▸ visible).imp id fun unlisted => ⟨unlisted, isLocalStatusPinned_iff.mpr pinned⟩
  · rw [kept.mem_featured]
    refine and_congr_right fun stored => and_congr_right fun live => and_congr_right fun _ => ?_
    exact (kept.told status stored live).symm

end Roosty.Timeline.Pins
