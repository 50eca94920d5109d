import Roosty.Preview.HostLease

/-!
# Fetches of preview hosts

Releasing a host asks nobody whose lease it is. Still only one fetch at a time reads from a
host, exactly as long as no worker comes for it while a fetch outlasts its lease.
-/

set_option autoImplicit false

namespace Roosty.Preview

open Library

def Workers.Exclusive (workers : Workers) : Prop :=
  workers.fetches.Pairwise fun earlier later =>
    earlier.host = later.host → ¬(earlier.state = .running ∧ later.state = .running)

/-- A fetch that still runs is younger than its lease when a worker comes for the host. -/
def FetchCall.Timely (workers : Workers) : FetchCall → Prop
  | .acquire host now => ∀ fetch ∈ workers.fetches, fetch.host = host → fetch.state = .running →
      now < fetch.since + leaseTime
  | _ => True

/-- A host may be fetched from again: a second after the fetch began, and not before it was
released or its lease ran out. -/
def Fetch.Allows (fetch : Fetch) (now : Int) : Prop :=
  fetch.since + spacing ≤ now ∧ (fetch.state = .finished ∨ fetch.since + leaseTime ≤ now)

def rowOf (rows : List PreviewFetchHost) (host : String) : Option PreviewFetchHost :=
  rows.find? fun row => row.host == host

def lastFetch (fetches : List Fetch) (host : String) : Option Fetch :=
  (fetches.filter fun fetch => fetch.host == host).getLast?

def Fetch.lease (fetch : Fetch) : Option Int :=
  if fetch.state = .finished then none else some (fetch.since + leaseTime)

def leaseOf (rows : List PreviewFetchHost) (host : String) : Option (Option Int × Int) :=
  (rowOf rows host).map fun row => (row.leaseUntil, row.nextFetchAt)

/-- The table knows the last fetch from each host, and no other fetch still runs. -/
structure Recorded (workers : Workers) : Prop where
  hosts : Table.UniqueOn (fun row => some row.host) workers.rows
  rows : ∀ host, leaseOf workers.rows host =
    (lastFetch workers.fetches host).map fun fetch => (fetch.lease, fetch.since + spacing)
  ordered : workers.fetches.Pairwise fun earlier later => earlier.host = later.host →
    earlier.Allows later.since ∧ earlier.state ≠ .running

/-!
## The table
-/

section

variable {rows : List PreviewFetchHost} {host : String} {now : Int}

private def entered (rows : List PreviewFetchHost) (host : String) (now : Int) :
    List PreviewFetchHost :=
  if rows.any fun row => row.host == host then rows else rows ++ [⟨host, none, now, now⟩]

private theorem entered_unique (unique : Table.UniqueOn (fun row => some row.host) rows) :
    Table.UniqueOn (fun row => some row.host) (entered rows host now) := by
  unfold entered
  split
  case isTrue => exact unique
  case isFalse absent =>
    apply unique.insert
    intro value same other member equal
    cases same
    apply absent
    rw [List.any_eq_true]
    exact ⟨other, member, beq_iff_eq.mpr (Option.some.inj equal)⟩

private theorem rowOf_entered (other : String) :
    rowOf (entered rows host now) other =
      if other = host then (rowOf rows host).or (some ⟨host, none, now, now⟩)
      else rowOf rows other := by
  unfold entered rowOf
  split
  case isTrue present =>
    obtain ⟨row, found, _⟩ := Table.exists_find?_of_any present
    split
    case isTrue same => rw [same, found, Option.some_or]
    case isFalse => rfl
  case isFalse absent =>
    have none : rows.find? (fun row => row.host == host) = none := by
      rw [List.find?_eq_none]
      intro row member same
      exact absent (List.any_eq_true.mpr ⟨row, member, same⟩)
    rw [List.find?_append]
    split
    case isTrue same => simp [same, none]
    case isFalse differs => simp [Ne.symm differs]

theorem acquire_unique (unique : Table.UniqueOn (fun row => some row.host) rows) :
    Table.UniqueOn (fun row => some row.host) (acquirePreviewHostLease rows host now).1 :=
  (entered_unique unique).updateWhere fun _ _ _ => .inl rfl

theorem acquire_granted_iff (unique : Table.UniqueOn (fun row => some row.host) rows) :
    (acquirePreviewHostLease rows host now).2 = true ↔
      ∀ row, rowOf rows host = some row → row.isFree host now = true := by
  have here : ∃ row, rowOf (entered rows host now) host = some row ∧
      (row.isFree host now = true ↔
        ∀ row, rowOf rows host = some row → row.isFree host now = true) := by
    rw [rowOf_entered, if_pos rfl]
    cases found : rowOf rows host with
    | none => exact ⟨_, rfl, by simp [PreviewFetchHost.isFree]⟩
    | some row => exact ⟨row, rfl, by simp⟩
  obtain ⟨row, found, free⟩ := here
  have member : row ∈ entered rows host now := List.mem_of_find?_eq_some found
  have granted : (acquirePreviewHostLease rows host now).2 = true ↔
      Table.affected (PreviewFetchHost.isFree host now) (entered rows host now) = 1 := by
    simp [acquirePreviewHostLease, entered]
  rw [granted, ← free]
  have keyed : ∀ other ∈ entered rows host now, other.isFree host now = true →
      some other.host = some host := by
    intro other _ isFree
    simp only [PreviewFetchHost.isFree, Bool.and_eq_true, beq_iff_eq] at isFree
    rw [isFree.1.1]
  constructor
  · intro one
    have some : ∃ other ∈ entered rows host now, other.isFree host now = true := by
      by_contra none
      have zero := Table.affected_eq_zero.mpr fun other member =>
        Bool.eq_false_iff.mpr fun isFree => none ⟨other, member, isFree⟩
      omega
    obtain ⟨other, inside, isFree⟩ := some
    have sameHost : row.host = host := by simpa using List.find?_some found
    have same := (entered_unique unique).eq_of_key inside member (keyed other inside isFree)
      (congrArg Option.some sameHost)
    rwa [← same]
  · exact (entered_unique unique).affected_eq_one host keyed member

theorem rowOf_acquire (other : String) :
    rowOf (acquirePreviewHostLease rows host now).1 other =
      (rowOf (entered rows host now) other).map fun row =>
        if row.isFree host now then
          { row with
            leaseUntil := some (now + leaseTime)
            nextFetchAt := now + spacing
            updatedAt := now }
        else row :=
  Table.find?_updateWhere fun _ _ _ => rfl

theorem rowOf_release (other : String) :
    rowOf (releasePreviewHostLease rows host now) other =
      (rowOf rows other).map fun row =>
        if row.host == host then { row with leaseUntil := none, updatedAt := now } else row :=
  Table.find?_updateWhere fun _ _ _ => rfl

theorem host_of_rowOf {row : PreviewFetchHost} (found : rowOf rows host = some row) :
    row.host = host := by
  simpa using List.find?_some found

theorem leaseOf_granted (unique : Table.UniqueOn (fun row => some row.host) rows)
    (granted : (acquirePreviewHostLease rows host now).2 = true) (other : String) :
    leaseOf (acquirePreviewHostLease rows host now).1 other =
      if other = host then some (some (now + leaseTime), now + spacing) else leaseOf rows other := by
  have free := (acquire_granted_iff unique).mp granted
  unfold leaseOf
  rw [rowOf_acquire, rowOf_entered]
  by_cases same : other = host
  · rw [if_pos same, if_pos same]
    cases found : rowOf rows host with
    | none => simp [PreviewFetchHost.isFree]
    | some row => simp [free row found]
  · rw [if_neg same, if_neg same]
    cases found : rowOf rows other with
    | none => rfl
    | some row =>
        have differs : row.host ≠ host := by
          rw [host_of_rowOf found]
          exact same
        simp [PreviewFetchHost.isFree, differs]

theorem leaseOf_refused (unique : Table.UniqueOn (fun row => some row.host) rows)
    (refused : (acquirePreviewHostLease rows host now).2 = false) (other : String) :
    leaseOf (acquirePreviewHostLease rows host now).1 other = leaseOf rows other := by
  have taken : ∃ row, rowOf rows host = some row ∧ row.isFree host now = false := by
    by_contra none
    have granted := (@acquire_granted_iff rows host now unique).mpr fun row found => by
      by_contra held
      exact none ⟨row, found, Bool.eq_false_iff.mpr held⟩
    rw [refused] at granted
    cases granted
  obtain ⟨held, found, isHeld⟩ := taken
  unfold leaseOf
  rw [rowOf_acquire, rowOf_entered]
  by_cases same : other = host
  · rw [if_pos same, same, found]
    simp [isHeld]
  · rw [if_neg same]
    cases foundOther : rowOf rows other with
    | none => rfl
    | some row =>
        have differs : row.host ≠ host := by
          rw [host_of_rowOf foundOther]
          exact same
        simp [PreviewFetchHost.isFree, differs]

theorem leaseOf_release (other : String) :
    leaseOf (releasePreviewHostLease rows host now) other =
      (leaseOf rows other).map fun entry => if other = host then (none, entry.2) else entry := by
  unfold leaseOf
  rw [rowOf_release]
  cases found : rowOf rows other with
  | none => rfl
  | some row =>
      have own := host_of_rowOf found
      by_cases same : other = host
      · simp [own, same]
      · simp [own, same]

theorem granted_iff_leaseOf (unique : Table.UniqueOn (fun row => some row.host) rows) :
    (acquirePreviewHostLease rows host now).2 = true ↔
      ∀ entry, leaseOf rows host = some entry → entry.2 ≤ now ∧ ∀ lease, entry.1 = some lease →
        lease ≤ now := by
  rw [acquire_granted_iff unique]
  unfold leaseOf
  cases found : rowOf rows host with
  | none => simp
  | some row =>
      have own := host_of_rowOf found
      cases lease : row.leaseUntil with
      | none => simp [PreviewFetchHost.isFree, own, lease]
      | some time => simp [PreviewFetchHost.isFree, own, lease]

end

/-!
## Fetches
-/

section

variable {fetches front back : List Fetch} {fetch other : Fetch} {host : String}

theorem lastFetch_append (fetches : List Fetch) (fetch : Fetch) (host : String) :
    lastFetch (fetches ++ [fetch]) host =
      if fetch.host = host then some fetch else lastFetch fetches host := by
  unfold lastFetch
  rw [List.filter_append]
  by_cases same : fetch.host = host
  · simp [same]
  · simp [same]

theorem lastFetch_split (latest : ∀ later ∈ back, fetch.host ≠ later.host) (host : String) :
    lastFetch (front ++ fetch :: back) host =
      if fetch.host = host then some fetch else lastFetch (front ++ back) host := by
  unfold lastFetch
  rw [List.filter_append, List.filter_append]
  by_cases same : fetch.host = host
  · have none : back.filter (fun later => later.host == host) = [] := by
      rw [List.filter_eq_nil_iff]
      intro later member equal
      exact latest later member (same.trans (beq_iff_eq.mp equal).symm)
    simp [same, none]
  · simp [same]

theorem mem_lastFetch (last : lastFetch fetches host = some fetch) :
    fetch ∈ fetches ∧ fetch.host = host := by
  have member := List.mem_of_getLast? last
  rw [List.mem_filter] at member
  exact ⟨member.1, beq_iff_eq.mp member.2⟩

theorem lastFetch_cases {relation : Fetch → Fetch → Prop} (ordered : fetches.Pairwise relation)
    (member : other ∈ fetches) (here : other.host = host) :
    ∃ last, lastFetch fetches host = some last ∧ (other = last ∨ relation other last) := by
  have inside : other ∈ fetches.filter fun fetch => fetch.host == host :=
    List.mem_filter.mpr ⟨member, beq_iff_eq.mpr here⟩
  obtain ⟨front, last, split⟩ := List.eq_nil_or_concat (fetches.filter fun fetch => fetch.host == host)
    |>.resolve_left (List.ne_nil_of_mem inside)
  refine ⟨last, by rw [lastFetch, split, List.concat_eq_append, List.getLast?_concat], ?_⟩
  have kept := ordered.filter fun fetch => fetch.host == host
  rw [split, List.concat_eq_append] at kept inside
  rcases List.mem_append.mp inside with early | late
  · exact .inr ((List.pairwise_append.mp kept).2.2 other early last List.mem_cons_self)
  · exact .inl (List.mem_singleton.mp late)

end

/-!
## Steps
-/

section

variable {workers : Workers}

theorem Fetch.Allows.mono {fetch : Fetch} {now later : Int} (allows : fetch.Allows now)
    (after : now ≤ later) : fetch.Allows later :=
  ⟨by have first := allows.1; omega, allows.2.imp_right fun elapsed => by omega⟩

theorem Recorded.granted_iff (recorded : Recorded workers) {host : String} {now : Int} :
    (acquirePreviewHostLease workers.rows host now).2 = true ↔
      ∀ fetch ∈ workers.fetches, fetch.host = host → fetch.Allows now := by
  have last : (acquirePreviewHostLease workers.rows host now).2 = true ↔
      ∀ fetch, lastFetch workers.fetches host = some fetch → fetch.Allows now := by
    rw [granted_iff_leaseOf recorded.hosts, recorded.rows host]
    cases lastFetch workers.fetches host with
    | none => simp
    | some fetch =>
        by_cases finished : fetch.state = .finished
        · simp [Fetch.Allows, Fetch.lease, finished]
        · simp [Fetch.Allows, Fetch.lease, finished]
  rw [last]
  constructor
  · intro allows fetch member here
    obtain ⟨latest, found, same | earlier⟩ := lastFetch_cases recorded.ordered member here
    · rw [same]
      exact allows latest found
    · obtain ⟨first, _⟩ := earlier (here.trans (mem_lastFetch found).2.symm)
      have next := (allows latest found).1
      exact first.mono (by unfold spacing at next; omega)
  · intro allows fetch found
    obtain ⟨member, here⟩ := mem_lastFetch found
    exact allows fetch member here

theorem Recorded.acquire (recorded : Recorded workers) {host : String} {now : Int}
    (timely : (FetchCall.acquire host now).Timely workers) :
    Recorded (fetchMachine.step workers (.acquire host now)).1 := by
  have unique := @acquire_unique workers.rows host now recorded.hosts
  cases reply : (acquirePreviewHostLease workers.rows host now).2 with
  | false =>
      simp only [fetchMachine, reply, Bool.false_eq_true, if_false]
      refine ⟨unique, fun other => ?_, recorded.ordered⟩
      rw [leaseOf_refused recorded.hosts reply]
      exact recorded.rows other
  | true =>
      have allows := recorded.granted_iff.mp reply
      simp only [fetchMachine, reply, if_true]
      refine ⟨unique, fun other => ?_, ?_⟩
      · rw [leaseOf_granted recorded.hosts reply, lastFetch_append]
        by_cases same : other = host
        · simp [same, Fetch.lease]
        · rw [if_neg same, if_neg (Ne.symm same)]
          exact recorded.rows other
      · refine List.pairwise_append.mpr ⟨recorded.ordered, List.pairwise_singleton _ _, ?_⟩
        intro fetch member new isNew here
        rw [List.mem_singleton.mp isNew] at here ⊢
        have first := allows fetch member here
        refine ⟨first, fun running => ?_⟩
        have young := timely fetch member here running
        rcases first.2 with finished | elapsed
        · rw [running] at finished
          cases finished
        · omega

theorem Workers.close_cases (workers : Workers) (index : Nat) (state : FetchState)
    (release : Fetch → List PreviewFetchHost) :
    workers.close index state release = workers ∨
      ∃ front fetch back, workers.fetches = front ++ fetch :: back ∧ fetch.state = .running ∧
        workers.close index state release =
          ⟨release fetch, front ++ { fetch with state := state } :: back⟩ := by
  unfold Workers.close
  cases found : workers.fetches[index]? with
  | none => exact .inl rfl
  | some fetch =>
      by_cases running : fetch.state = .running
      · obtain ⟨less, same⟩ := List.getElem?_eq_some_iff.mp found
        have split : workers.fetches =
            workers.fetches.take index ++ fetch :: workers.fetches.drop (index + 1) := by
          rw [← same, ← List.drop_eq_getElem_cons less, List.take_append_drop]
        refine .inr ⟨_, _, _, split, running, ?_⟩
        simp only [if_pos running]
        rw [List.set_eq_take_append_cons_drop, if_pos less]
      · exact .inl (by simp only [if_neg running])

theorem Recorded.latest (recorded : Recorded workers) {front back : List Fetch} {fetch : Fetch}
    (split : workers.fetches = front ++ fetch :: back) (running : fetch.state = .running) :
    ∀ later ∈ back, fetch.host ≠ later.host := by
  intro later member same
  have ordered := recorded.ordered
  rw [split] at ordered
  have behind := (List.pairwise_cons.mp (List.pairwise_append.mp ordered).2.1).1 later member same
  exact behind.2 running

theorem Recorded.close (recorded : Recorded workers) (index : Nat) {state : FetchState}
    {release : Fetch → List PreviewFetchHost}
    (unique : ∀ fetch, Table.UniqueOn (fun row => some row.host) (release fetch))
    (leaves : ∀ fetch ∈ workers.fetches, fetch.state = .running →
      leaseOf workers.rows fetch.host = some (fetch.lease, fetch.since + spacing) →
      ∀ host, leaseOf (release fetch) host =
        if fetch.host = host then
          some (({ fetch with state := state } : Fetch).lease, fetch.since + spacing)
        else leaseOf workers.rows host) :
    Recorded (workers.close index state release) := by
  rcases workers.close_cases index state release with same | ⟨front, fetch, back, split, running, same⟩
  · rw [same]
    exact recorded
  · have latest := recorded.latest split running
    have member : fetch ∈ workers.fetches := by simp [split]
    have known : leaseOf workers.rows fetch.host = some (fetch.lease, fetch.since + spacing) := by
      rw [recorded.rows, split, lastFetch_split latest, if_pos rfl]
      rfl
    rw [same]
    refine ⟨unique fetch, fun host => ?_, ?_⟩
    · rw [leaves fetch member running known, @lastFetch_split front back { fetch with state := state }
        latest host]
      by_cases here : fetch.host = host
      · simp only [if_pos here]
        rfl
      · rw [if_neg here, if_neg here, recorded.rows, split, lastFetch_split latest, if_neg here]
    · have ordered := recorded.ordered
      rw [split] at ordered
      obtain ⟨ahead, behind, across⟩ := List.pairwise_append.mp ordered
      obtain ⟨_, rest⟩ := List.pairwise_cons.mp behind
      refine List.pairwise_append.mpr ⟨ahead, List.pairwise_cons.mpr ⟨?_, rest⟩, ?_⟩
      · intro later inside sameHost
        exact absurd sameHost (latest later inside)
      · intro earlier inside later behind
        rcases List.mem_cons.mp behind with rfl | further
        · exact across earlier inside fetch List.mem_cons_self
        · exact across earlier inside later (List.mem_cons_of_mem _ further)

theorem Recorded.step (recorded : Recorded workers) {call : FetchCall} (timely : call.Timely workers) :
    Recorded (fetchMachine.step workers call).1 := by
  cases call with
  | acquire host now => exact recorded.acquire timely
  | finish index now =>
      refine recorded.close index
        (fun fetch => recorded.hosts.updateWhere fun _ _ _ => .inl rfl) ?_
      intro fetch member running known host
      rw [leaseOf_release]
      by_cases here : fetch.host = host
      · rw [← here, known]
        simp [Fetch.lease]
      · rw [if_neg here]
        cases leaseOf workers.rows host with
        | none => rfl
        | some entry => rw [Option.map_some, if_neg (Ne.symm here)]
  | lose index =>
      refine recorded.close index (fun _ => recorded.hosts) ?_
      intro fetch member running known host
      by_cases here : fetch.host = host
      · rw [if_pos here, ← here, known]
        simp [Fetch.lease, running]
      · rw [if_neg here]

theorem Recorded.exclusive (recorded : Recorded workers) : workers.Exclusive :=
  recorded.ordered.imp fun earlier same both => (earlier same).2 both.1

theorem Recorded.timely_of_exclusive (recorded : Recorded workers) {call : FetchCall}
    (exclusive : (fetchMachine.step workers call).1.Exclusive) : call.Timely workers := by
  cases call with
  | finish index now => trivial
  | lose index => trivial
  | acquire host now =>
      intro fetch member here running
      by_contra late
      have elapsed : fetch.since + leaseTime ≤ now := Int.not_lt.mp late
      have granted : (acquirePreviewHostLease workers.rows host now).2 = true := by
        refine recorded.granted_iff.mpr fun other inside sameHost => ?_
        have allows : fetch.Allows now := by
          refine ⟨?_, .inr elapsed⟩
          unfold leaseTime at elapsed
          unfold spacing
          omega
        obtain ⟨last, found, equal | earlier⟩ := lastFetch_cases recorded.ordered member here
        · obtain ⟨latest, foundAgain, same | before⟩ :=
            lastFetch_cases recorded.ordered inside sameHost
          · rw [found] at foundAgain
            cases foundAgain
            rw [same, ← equal]
            exact allows
          · rw [found] at foundAgain
            cases foundAgain
            obtain ⟨first, _⟩ := before (sameHost.trans (mem_lastFetch found).2.symm)
            have next := allows.1
            rw [equal] at next
            exact first.mono (by unfold spacing at next; omega)
        · exact absurd running (earlier (here.trans (mem_lastFetch found).2.symm)).2
      simp only [fetchMachine, granted, if_true, Workers.Exclusive] at exclusive
      have both := (List.pairwise_append.mp exclusive).2.2 fetch member _ List.mem_cons_self
      exact both here ⟨running, rfl⟩

end

theorem recorded_start : Recorded .start :=
  ⟨.nil _, fun _ => rfl, List.Pairwise.nil⟩

theorem preview_fetches_exclusive_iff (calls : List FetchCall) :
    (∀ before after, calls = before ++ after → (fetchMachine.run .start before).Exclusive) ↔
      fetchMachine.Guarded FetchCall.Timely .start calls := by
  constructor
  · intro exclusive
    have recorded : ∀ before after, calls = before ++ after →
        Recorded (fetchMachine.run .start before) := by
      intro before
      induction before using List.reverseRecOn with
      | nil => exact fun _ _ => recorded_start
      | append_singleton before call ih =>
          intro after same
          have earlier := ih (call :: after) (by rw [same, List.append_assoc]; rfl)
          have next := exclusive (before ++ [call]) after same
          rw [Machine.run_snoc] at next ⊢
          exact earlier.step (earlier.timely_of_exclusive next)
    intro before call after same
    have next := exclusive (before ++ [call]) after (by rw [same, List.append_assoc]; rfl)
    rw [Machine.run_snoc] at next
    exact (recorded before (call :: after) same).timely_of_exclusive next
  · intro guarded before after same
    subst same
    have recorded := fetchMachine.guarded_invariant Recorded (fun _ _ timely recorded =>
      Recorded.step recorded timely) recorded_start guarded.of_append
    exact recorded.exclusive

theorem preview_lease_exact {calls : List FetchCall}
    (guarded : fetchMachine.Guarded FetchCall.Timely .start calls) (host : String) (now : Int) :
    (fetchMachine.step (fetchMachine.run .start calls) (.acquire host now)).2 = true ↔
      ∀ fetch ∈ (fetchMachine.run .start calls).fetches, fetch.host = host → fetch.Allows now :=
  (fetchMachine.guarded_invariant Recorded (fun _ _ timely recorded => Recorded.step recorded timely)
    recorded_start guarded).granted_iff

theorem preview_lease_exact_released :
    (fetchMachine.step (fetchMachine.run .start [.acquire "example.org" 0, .finish 0 400000])
      (.acquire "example.org" 1000000)).2 = true := by
  refine (preview_lease_exact ?_ "example.org" 1000000).mpr ?_
  · refine Machine.guarded_cons ?_ (Machine.guarded_cons trivial Machine.guarded_nil)
    exact fun fetch member => absurd member List.not_mem_nil
  · intro fetch member _
    have only : fetch = ⟨"example.org", 0, .finished⟩ := List.mem_singleton.mp member
    subst only
    exact ⟨by decide, .inl rfl⟩

/-!
## Spacing
-/

/-- The table holds every host back for a second after its last fetch. -/
structure HeldBack (workers : Workers) : Prop where
  hosts : Table.UniqueOn (fun row => some row.host) workers.rows
  rows : ∀ fetch ∈ workers.fetches, ∃ lease next,
    leaseOf workers.rows fetch.host = some (lease, next) ∧ fetch.since + spacing ≤ next
  spaced : workers.fetches.Pairwise fun earlier later =>
    earlier.host = later.host → earlier.since + spacing ≤ later.since

theorem HeldBack.acquire {workers : Workers} (heldBack : HeldBack workers) (host : String)
    (now : Int) : HeldBack (fetchMachine.step workers (.acquire host now)).1 := by
  have unique := @acquire_unique workers.rows host now heldBack.hosts
  cases reply : (acquirePreviewHostLease workers.rows host now).2 with
  | false =>
      simp only [fetchMachine, reply, Bool.false_eq_true, if_false]
      refine ⟨unique, fun fetch member => ?_, heldBack.spaced⟩
      rw [leaseOf_refused heldBack.hosts reply]
      exact heldBack.rows fetch member
  | true =>
      have free := (granted_iff_leaseOf heldBack.hosts).mp reply
      have past : ∀ fetch ∈ workers.fetches, fetch.host = host → fetch.since + spacing ≤ now := by
        intro fetch member here
        obtain ⟨lease, next, known, held⟩ := heldBack.rows fetch member
        rw [here] at known
        have elapsed : next ≤ now := (free _ known).1
        omega
      simp only [fetchMachine, reply, if_true]
      refine ⟨unique, fun fetch member => ?_, ?_⟩
      · rw [leaseOf_granted heldBack.hosts reply]
        by_cases here : fetch.host = host
        · rw [if_pos here]
          refine ⟨_, _, rfl, ?_⟩
          rcases List.mem_append.mp member with old | new
          · have before := past fetch old here
            unfold spacing at before ⊢
            omega
          · rw [List.mem_singleton.mp new]
        · rw [if_neg here]
          rcases List.mem_append.mp member with old | new
          · exact heldBack.rows fetch old
          · rw [List.mem_singleton.mp new] at here
            exact absurd rfl here
      · refine List.pairwise_append.mpr ⟨heldBack.spaced, List.pairwise_singleton _ _, ?_⟩
        intro fetch member new isNew here
        rw [List.mem_singleton.mp isNew] at here ⊢
        exact past fetch member here

theorem HeldBack.close {workers : Workers} (heldBack : HeldBack workers) (index : Nat)
    (state : FetchState) {release : Fetch → List PreviewFetchHost}
    (unique : ∀ fetch, Table.UniqueOn (fun row => some row.host) (release fetch))
    (leaves : ∀ fetch host lease next, leaseOf workers.rows host = some (lease, next) →
      ∃ lease, leaseOf (release fetch) host = some (lease, next)) :
    HeldBack (workers.close index state release) := by
  rcases workers.close_cases index state release with same | ⟨front, fetch, back, split, _, same⟩
  · rw [same]
    exact heldBack
  · have rows := heldBack.rows
    have spaced := heldBack.spaced
    rw [split] at rows spaced
    obtain ⟨ahead, behind, across⟩ := List.pairwise_append.mp spaced
    obtain ⟨later, rest⟩ := List.pairwise_cons.mp behind
    rw [same]
    refine ⟨unique fetch, fun other member => ?_,
      List.pairwise_append.mpr ⟨ahead, List.pairwise_cons.mpr ⟨later, rest⟩, ?_⟩⟩
    · have known : ∃ old ∈ front ++ fetch :: back, old.host = other.host ∧ old.since = other.since := by
        rcases List.mem_append.mp member with early | late
        · exact ⟨other, List.mem_append_left _ early, rfl, rfl⟩
        · rcases List.mem_cons.mp late with rfl | late
          · exact ⟨fetch, List.mem_append_right _ List.mem_cons_self, rfl, rfl⟩
          · exact ⟨other, List.mem_append_right _ (List.mem_cons_of_mem _ late), rfl, rfl⟩
      obtain ⟨old, inside, sameHost, sameSince⟩ := known
      obtain ⟨lease, next, row, held⟩ := rows old inside
      obtain ⟨released, kept⟩ := leaves fetch old.host lease next row
      exact ⟨released, next, sameHost ▸ kept, sameSince ▸ held⟩
    · intro earlier inside other behind
      rcases List.mem_cons.mp behind with rfl | further
      · exact across earlier inside fetch List.mem_cons_self
      · exact across earlier inside other (List.mem_cons_of_mem _ further)

theorem preview_fetches_spaced (calls : List FetchCall) :
    (fetchMachine.run .start calls).fetches.Pairwise fun earlier later =>
      earlier.host = later.host → earlier.since + spacing ≤ later.since := by
  have heldBack : HeldBack (fetchMachine.run .start calls) := by
    refine fetchMachine.run_invariant HeldBack (fun workers call heldBack => ?_)
      ⟨.nil _, fun _ => (absurd · List.not_mem_nil), List.Pairwise.nil⟩ calls
    cases call with
    | acquire host now => exact heldBack.acquire host now
    | finish index now =>
        refine heldBack.close index .finished
          (fun fetch => heldBack.hosts.updateWhere fun _ _ _ => .inl rfl) ?_
        intro fetch host lease next row
        rw [leaseOf_release, row, Option.map_some]
        by_cases here : host = fetch.host
        · exact ⟨none, by rw [if_pos here]⟩
        · exact ⟨lease, by rw [if_neg here]⟩
    | lose index =>
        exact heldBack.close index .lost (fun _ => heldBack.hosts)
          fun _ _ lease _ row => ⟨lease, row⟩
  exact heldBack.spaced

end Roosty.Preview
