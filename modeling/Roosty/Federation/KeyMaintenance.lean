import Roosty.Federation.ActorKeysProperties
import Roosty.Library.Keyset

/-!
# Batches of key maintenance

A maintenance run locks the first accounts that have keys, by id, before it is known which of
them need new ones. An account behind them is reached only when one of them needs keys, too.
Whatever a run does, active keys stay unique and retired ones are published until they expire.
-/

set_option autoImplicit false

namespace Roosty.Federation.ActorKeys

open Library Discovery

/-- An account with the column that excludes it from maintenance. -/
structure MaintainedAccount extends LocalAccount where
  suspendedAt : Option Int
deriving DecidableEq

structure Generator where
  seed : AccountId → GeneratedKey
  generated : AccountId → GeneratedKeys

def hasKeys (rows : List LocalActorKey) (accountId : AccountId) : Bool :=
  rows.any fun row => row.accountId == accountId

/-- Maintenance is for accounts that are not suspended and have keys. -/
def eligible (rows : List LocalActorKey) (account : MaintainedAccount) : Bool :=
  account.suspendedAt.isNone && hasKeys rows account.id

/-- The accounts that a run locks, when no other transaction holds a lock on one. -/
def lockedAccounts (accounts : List MaintainedAccount) (rows : List LocalActorKey) :
    List MaintainedAccount :=
  (Keyset.arrange (fun account => account.id.value) (accounts.filter (eligible rows))).take 50

def expireKeys (now : Int) (rows : List LocalActorKey) : List LocalActorKey :=
  Table.deleteWhere (fun row => row.expiresAt.any (· ≤ now)) rows

/-- What one run reads: its configuration, its clock, the accounts and what it generates. -/
structure Maintenance where
  federationEnabled : Bool
  config : RotationConfig
  now : Int
  accounts : List MaintainedAccount
  primaryKey : (accounts.map fun account => account.id.value).Nodup
  generator : Generator

def Maintenance.due (call : Maintenance) (account : MaintainedAccount) : Due where
  account := account.toLocalAccount
  seed := some (call.generator.seed account.id)
  generated := call.generator.generated account.id

section

variable (encoder : Encoder)

/-- A run that no other transaction disturbs. Where federation is enabled, the secret that
encrypts new keys is configured. -/
def runMaintenance (call : Maintenance) (rows : List LocalActorKey) :
    Except RoostyError (List LocalActorKey) :=
  if !call.federationEnabled then .ok rows
  else maintainActorKeys encoder call.config rows call.now
    ((lockedAccounts call.accounts (expireKeys call.now rows)).map call.due)

/-- A run that fails is rolled back. -/
def upkeep : Machine (List LocalActorKey) Maintenance (Except RoostyError Unit) where
  step rows call :=
    match runMaintenance encoder call rows with
    | .ok next => (next, .ok ())
    | .error error => (rows, .error error)

end

/-!
## Accounts that need keys
-/

/-- An account has no active Ed25519 key, or two active keys that are both due for rotation. -/
def Overdue (config : RotationConfig) (now : Int) (rows : List LocalActorKey)
    (accountId : AccountId) : Prop :=
  findActiveLocalActorKey rows accountId .ed25519 = none ∨
    ∃ rsa ed25519, findActiveLocalActorKey rows accountId .rsaPkcs1Sha256 = some rsa ∧
      findActiveLocalActorKey rows accountId .ed25519 = some ed25519 ∧
      rsa.activatedAt ≤ now - config.interval ∧ ed25519.activatedAt ≤ now - config.interval

def Maintained (call : Maintenance) (rows : List LocalActorKey) : Prop :=
  ∀ account ∈ call.accounts, eligible rows account = true →
    ¬ Overdue call.config call.now rows account.id

def ahead (call : Maintenance) (rows : List LocalActorKey) (account : MaintainedAccount) :
    List MaintainedAccount :=
  call.accounts.filter fun other => eligible rows other && other.id.value < account.id.value

/-- Where an account needs keys, federation is enabled, and a key has expired or an account that
needs keys has fewer than fifty others ahead of it. -/
def Reaches (call : Maintenance) (rows : List LocalActorKey) : Prop :=
  (∃ account ∈ call.accounts, eligible rows account = true ∧
    Overdue call.config call.now rows account.id) →
      call.federationEnabled = true ∧
        ((∃ row ∈ rows, row.expiresAt.any (· ≤ call.now) = true) ∨
          ∃ account ∈ call.accounts, eligible rows account = true ∧
            Overdue call.config call.now rows account.id ∧ (ahead call rows account).length < 50)

/-!
## Steps
-/

/-- What maintenance does to the keys of accounts: it creates and retires active ones. -/
inductive Upkeep (config : RotationConfig) (now : Int) :
    List LocalActorKey → List LocalActorKey → Prop
  | keep {rows : List LocalActorKey} : Upkeep config now rows rows
  | create {rows next last : List LocalActorKey} {key : LocalActorKey}
      (active : key.retiringAt = none) (permanent : key.expiresAt = none)
      (created : createLocalActorKey rows key = .ok next) (rest : Upkeep config now next last) :
      Upkeep config now rows last
  | retire {rows last : List LocalActorKey} (selected : LocalActorKey → Bool)
      (rest : Upkeep config now (Table.updateWhere
        (fun row => selected row && row.retiringAt.isNone)
        (fun row => { row with retiringAt := some now, expiresAt := some (now + config.overlap) })
        rows) last) : Upkeep config now rows last

section

variable {encoder : Encoder} {config : RotationConfig} {now : Int}
  {rows next : List LocalActorKey} {due : Due} {seed : GeneratedKey}

theorem Upkeep.trans {last : List LocalActorKey} (first : Upkeep config now rows next)
    (second : Upkeep config now next last) : Upkeep config now rows last := by
  induction first with
  | keep => exact second
  | create active permanent created _ ih => exact .create active permanent created (ih second)
  | retire selected _ ih => exact .retire selected (ih second)

private theorem rotateActorKeys_upkeep {account : LocalAccount} {generated : GeneratedKeys}
    {rsa ed25519 : LocalActorKey}
    (success : rotateActorKeys encoder config rows now account generated rsa ed25519 = .ok next) :
    Upkeep config now rows next ∧ rows.length < next.length := by
  obtain ⟨renewed, first, second⟩ := bind_ok success
  refine ⟨.retire (fun row => row.id == rsa.id || row.id == ed25519.id)
    (.create rfl rfl first (.create rfl rfl second .keep)), ?_⟩
  rw [(create_ok second).1, (create_ok first).1]
  simp [Table.updateWhere]

theorem not_overdue_of_recent {accountId : AccountId}
    (recent : (findActiveLocalActorKey rows accountId .ed25519).any
      (fun key => now - config.interval < key.activatedAt) = true) :
    ¬ Overdue config now rows accountId := by
  rintro (missing | ⟨_, ed25519, _, found, _, old⟩)
  · rw [missing] at recent
    cases recent
  · rw [found, Option.any_some, decide_eq_true_eq] at recent
    exact absurd recent (Int.not_lt.mpr old)

theorem maintainAccountKeys_current (current : ¬ Overdue config now rows due.account.id) :
    maintainAccountKeys encoder config now rows due = .ok rows := by
  unfold Overdue at current
  rw [not_or] at current
  obtain ⟨present, recent⟩ := current
  obtain ⟨ed25519, found⟩ := Option.ne_none_iff_exists'.mp present
  have seeded : seedActorKey encoder now rows due = .ok (some rows) := by
    unfold seedActorKey
    rw [found]
  unfold maintainAccountKeys
  rw [seeded, ok_bind]
  dsimp only
  rw [found]
  cases active : findActiveLocalActorKey rows due.account.id .rsaPkcs1Sha256 with
  | none => rfl
  | some rsa =>
      have young : now - config.interval < rsa.activatedAt ∨
          now - config.interval < ed25519.activatedAt := by
        by_contra old
        push Not at old
        exact recent ⟨rsa, ed25519, active, found, old.1, old.2⟩
      dsimp only
      rw [if_pos young]
      rfl

theorem maintainAccountKeys_upkeep (own : due.seed = some seed)
    (success : maintainAccountKeys encoder config now rows due = .ok next) :
    Upkeep config now rows next ∧
      (Overdue config now rows due.account.id → rows.length < next.length) := by
  by_cases overdue : Overdue config now rows due.account.id
  swap
  · rw [maintainAccountKeys_current overdue] at success
    cases success
    exact ⟨.keep, fun needed => absurd needed overdue⟩
  obtain ⟨seeded, ran, success⟩ := bind_ok success
  unfold seedActorKey at ran
  rw [own] at ran
  cases found : findActiveLocalActorKey rows due.account.id .ed25519 with
  | some ed25519 =>
      rw [found] at ran
      cases ran
      obtain missing | ⟨rsa, other, first, second, rsaOld, edOld⟩ := overdue
      · rw [found] at missing
        cases missing
      dsimp only at success
      rw [first, second] at success
      have notYoung : ¬ (now - config.interval < rsa.activatedAt ∨
          now - config.interval < other.activatedAt) := by omega
      simp only [if_neg notYoung] at success
      obtain ⟨upkeep, grown⟩ := rotateActorKeys_upkeep success
      exact ⟨upkeep, fun _ => grown⟩
  | none =>
      rw [found] at ran
      dsimp only at ran
      cases created : ensureEd25519ActorKey encoder rows due.account now seed with
      | error error =>
          rw [created] at ran
          cases ran
      | ok result =>
          rw [created] at ran
          cases ran
          rw [ensureEd25519ActorKey, found] at created
          have grown : rows.length < result.length := by
            rw [(create_ok created).1]
            simp
          dsimp only at success
          split at success
          · split at success
            · cases success
              exact ⟨.create rfl rfl created .keep, fun _ => grown⟩
            · obtain ⟨upkeep, further⟩ := rotateActorKeys_upkeep success
              exact ⟨.create rfl rfl created upkeep, fun _ => grown.trans further⟩
          · cases success
            exact ⟨.create rfl rfl created .keep, fun _ => grown⟩

theorem maintain_upkeep {dues : List Due} (own : ∀ due ∈ dues, ∃ seed, due.seed = some seed)
    (success : dues.foldlM (maintainAccountKeys encoder config now) rows = .ok next) :
    Upkeep config now rows next := by
  induction dues generalizing rows with
  | nil =>
      cases success
      exact .keep
  | cons due dues ih =>
      obtain ⟨seed, seeds⟩ := own due List.mem_cons_self
      obtain ⟨middle, first, rest⟩ := bind_ok success
      exact (maintainAccountKeys_upkeep seeds first).1.trans
        (ih (fun other member => own other (List.mem_cons_of_mem _ member)) rest)

theorem Upkeep.length_le (upkeep : Upkeep config now rows next) : rows.length ≤ next.length := by
  induction upkeep with
  | keep => exact le_refl _
  | create _ _ created _ ih =>
      rw [(create_ok created).1, List.length_append] at ih
      omega
  | retire selected _ ih => simpa [Table.updateWhere] using ih

theorem maintain_length_lt {dues : List Due} (own : ∀ due ∈ dues, ∃ seed, due.seed = some seed)
    (overdue : ∃ due ∈ dues, Overdue config now rows due.account.id)
    (success : dues.foldlM (maintainAccountKeys encoder config now) rows = .ok next) :
    rows.length < next.length := by
  induction dues with
  | nil =>
      obtain ⟨_, member, _⟩ := overdue
      cases member
  | cons due dues ih =>
      obtain ⟨seed, seeds⟩ := own due List.mem_cons_self
      have others := fun other member => own other (List.mem_cons_of_mem due member)
      obtain ⟨middle, first, rest⟩ := bind_ok success
      by_cases here : Overdue config now rows due.account.id
      · have grown := (maintainAccountKeys_upkeep seeds first).2 here
        exact Nat.lt_of_lt_of_le grown (maintain_upkeep others rest).length_le
      · -- the accounts before the first one that needs keys change nothing
        rw [maintainAccountKeys_current here] at first
        cases first
        obtain ⟨found, member, needs⟩ := overdue
        rcases List.mem_cons.mp member with rfl | later
        · exact absurd needs here
        · exact ih others ⟨found, later, needs⟩ rest

theorem maintain_current {dues : List Due}
    (current : ∀ due ∈ dues, ¬ Overdue config now rows due.account.id) :
    dues.foldlM (maintainAccountKeys encoder config now) rows = .ok rows := by
  induction dues with
  | nil => rfl
  | cons due dues ih =>
      rw [List.foldlM_cons, maintainAccountKeys_current (current due List.mem_cons_self), ok_bind]
      exact ih fun other member => current other (List.mem_cons_of_mem _ member)

theorem Upkeep.unexpired (upkeep : Upkeep config now rows next)
    (alive : ∀ row ∈ rows, row.expiresAt.any (· ≤ now) = false) :
    ∀ row ∈ next, row.expiresAt.any (· ≤ now) = false := by
  induction upkeep with
  | keep => exact alive
  | create _ permanent created _ ih =>
      refine ih ?_
      obtain ⟨rfl, _⟩ := create_ok created
      intro row member
      rcases List.mem_append.mp member with old | added
      · exact alive row old
      · rw [List.mem_singleton.mp added, permanent]
        rfl
  | retire selected _ ih =>
      refine ih fun row member => ?_
      rcases Table.mem_updateWhere.mp member with ⟨kept, _⟩ | ⟨_, _, _, rfl⟩
      · exact alive row kept
      · have positive := config.positive
        simp only [Option.any_some, decide_eq_false_iff_not]
        omega

theorem Upkeep.unique (upkeep : Upkeep config now rows next)
    (unique : Table.UniqueOn activeAlgorithm rows) : Table.UniqueOn activeAlgorithm next := by
  induction upkeep with
  | keep => exact unique
  | create _ _ created _ ih =>
      obtain ⟨rfl, _, _, alone⟩ := create_ok created
      exact ih (unique.insert alone)
  | retire selected _ ih => exact ih (unique.updateWhere fun _ _ _ => .inr rfl)

theorem Upkeep.mem_of_retiring (upkeep : Upkeep config now rows next) {row : LocalActorKey}
    (retiring : row.retiringAt.isSome = true) (member : row ∈ rows) : row ∈ next := by
  induction upkeep with
  | keep => exact member
  | create _ _ created _ ih =>
      obtain ⟨rfl, _⟩ := create_ok created
      exact ih (List.mem_append_left _ member)
  | retire selected _ ih =>
      refine ih (Table.mem_updateWhere.mpr (.inl ⟨member, ?_⟩))
      simp [retiring]

theorem Upkeep.mem_of_active (upkeep : Upkeep config now rows next) {row : LocalActorKey}
    (member : row ∈ rows) :
    row ∈ next ∨
      { row with retiringAt := some now, expiresAt := some (now + config.overlap) } ∈ next := by
  induction upkeep with
  | keep => exact .inl member
  | create _ _ created _ ih =>
      obtain ⟨rfl, _⟩ := create_ok created
      exact ih (List.mem_append_left _ member)
  | retire selected rest ih =>
      by_cases chosen : (selected row && row.retiringAt.isNone) = true
      · refine .inr (rest.mem_of_retiring rfl (Table.mem_updateWhere.mpr (.inr ?_)))
        exact ⟨row, member, chosen, rfl⟩
      · exact ih (Table.mem_updateWhere.mpr (.inl ⟨member, Bool.eq_false_iff.mpr chosen⟩))

end

/-!
## Runs
-/

section

variable {encoder : Encoder} {call : Maintenance} {rows next : List LocalActorKey}

private theorem mem_expireKeys {now : Int} {row : LocalActorKey} :
    row ∈ expireKeys now rows ↔ row ∈ rows ∧ row.expiresAt.any (· ≤ now) = false := by
  simp [expireKeys]

private theorem expireKeys_of_unexpired {now : Int}
    (unexpired : ∀ row ∈ rows, row.expiresAt.any (· ≤ now) = false) : expireKeys now rows = rows :=
  Table.deleteWhere_eq_self_iff.mpr unexpired

private theorem due_seed : ∀ due ∈ (lockedAccounts call.accounts rows).map call.due,
    ∃ seed, due.seed = some seed := by
  intro due member
  obtain ⟨account, _, rfl⟩ := List.mem_map.mp member
  exact ⟨_, rfl⟩

private theorem mem_lockedAccounts {account : MaintainedAccount} :
    account ∈ lockedAccounts call.accounts rows ↔
      account ∈ call.accounts ∧ eligible rows account = true ∧
        (ahead call rows account).length < 50 := by
  have distinct : ((call.accounts.filter (eligible rows)).map
      fun account => account.id.value).Nodup :=
    (List.filter_sublist.map fun account : MaintainedAccount => account.id.value).nodup
      call.primaryKey
  have arranged := Keyset.arrange_arranged distinct
  have counted : ((Keyset.arrange (fun account => account.id.value)
      (call.accounts.filter (eligible rows))).filter fun other =>
        other.id.value < account.id.value).length = (ahead call rows account).length := by
    rw [((Keyset.arrange_perm _ _).filter _).length_eq, List.filter_filter]
    unfold ahead
    simp only [Bool.and_comm]
  unfold lockedAccounts
  constructor
  · intro taken
    have member := List.mem_of_mem_take taken
    have few := (Keyset.mem_take_iff arranged member).mp taken
    obtain ⟨stored, kept⟩ := List.mem_filter.mp (Keyset.mem_arrange.mp member)
    exact ⟨stored, kept, counted ▸ few⟩
  · rintro ⟨stored, kept, few⟩
    have member := List.mem_filter.mpr ⟨stored, kept⟩
    refine (Keyset.mem_take_iff arranged (Keyset.mem_arrange.mpr member)).mpr ?_
    rw [counted]
    exact few

theorem runMaintenance_upkeep (enabled : call.federationEnabled = true)
    (success : runMaintenance encoder call rows = .ok next) :
    Upkeep call.config call.now (expireKeys call.now rows) next := by
  unfold runMaintenance at success
  rw [enabled] at success
  exact maintain_upkeep due_seed success

theorem runMaintenance_idle
    (idle : call.federationEnabled = true →
      (∀ row ∈ rows, row.expiresAt.any (· ≤ call.now) = false) ∧
        ∀ locked ∈ lockedAccounts call.accounts rows,
          ¬ Overdue call.config call.now rows locked.id) :
    runMaintenance encoder call rows = .ok rows := by
  unfold runMaintenance
  cases enabled : call.federationEnabled with
  | false => rfl
  | true =>
      obtain ⟨unexpired, current⟩ := idle enabled
      have kept := expireKeys_of_unexpired unexpired
      have batch : ∀ due ∈ (lockedAccounts call.accounts rows).map call.due,
          ¬ Overdue call.config call.now rows due.account.id := by
        intro due member
        obtain ⟨account, locked, rfl⟩ := List.mem_map.mp member
        exact current account locked
      have same := @maintain_current encoder _ _ _ _ batch
      rw [kept]
      unfold maintainActorKeys
      rw [← expireKeys, kept]
      exact same

theorem unchanged_maintained_iff :
    (runMaintenance encoder call rows = .ok rows → Maintained call rows) ↔ Reaches call rows := by
  constructor
  · rintro maintained ⟨account, member, active, overdue⟩
    by_contra unreached
    refine maintained (runMaintenance_idle fun enabled => ?_) account member active overdue
    rw [not_and, not_or] at unreached
    obtain ⟨alive, current⟩ := unreached enabled
    push Not at alive current
    refine ⟨fun row stored => Bool.eq_false_iff.mpr (alive row stored), ?_⟩
    intro locked taken needs
    obtain ⟨stored, kept, few⟩ := mem_lockedAccounts.mp taken
    exact absurd few (Nat.not_lt.mpr (current locked stored kept needs))
  · intro reaches unchanged account member active overdue
    obtain ⟨enabled, cause⟩ := reaches ⟨account, member, active, overdue⟩
    have upkeep := runMaintenance_upkeep enabled unchanged
    have alive := upkeep.unexpired fun row stored => (mem_expireKeys.mp stored).2
    rcases cause with ⟨row, stored, expired⟩ | ⟨locked, stored, kept, needs, few⟩
    · rw [alive row stored] at expired
      cases expired
    · have same := expireKeys_of_unexpired alive
      unfold runMaintenance at unchanged
      rw [enabled, same] at unchanged
      unfold maintainActorKeys at unchanged
      rw [← expireKeys, same] at unchanged
      have inBatch := mem_lockedAccounts.mpr ⟨stored, kept, few⟩
      have grown := maintain_length_lt due_seed
        ⟨call.due locked, List.mem_map_of_mem inBatch, needs⟩ unchanged
      exact absurd grown (Nat.lt_irrefl _)

private theorem step_cases :
    ((upkeep encoder).step rows call).1 = rows ∨
      Upkeep call.config call.now (expireKeys call.now rows)
        ((upkeep encoder).step rows call).1 := by
  unfold upkeep
  dsimp only
  cases success : runMaintenance encoder call rows with
  | error error => exact .inl rfl
  | ok next =>
      cases enabled : call.federationEnabled with
      | true => exact .inr (runMaintenance_upkeep enabled success)
      | false =>
          unfold runMaintenance at success
          rw [enabled] at success
          cases success
          exact .inl rfl

private theorem step_unique (unique : Table.UniqueOn activeAlgorithm rows) :
    Table.UniqueOn activeAlgorithm ((upkeep encoder).step rows call).1 := by
  rcases @step_cases encoder call rows with same | upkeep
  · rw [same]
    exact unique
  · exact upkeep.unique (unique.deleteWhere _)

private theorem step_retiring {row : LocalActorKey} {expires : Int}
    (retiring : row.retiringAt.isSome = true) (expiry : row.expiresAt = some expires)
    (before : call.now < expires) (member : row ∈ rows) :
    row ∈ ((upkeep encoder).step rows call).1 := by
  rcases @step_cases encoder call rows with same | upkeep
  · rw [same]
    exact member
  · refine upkeep.mem_of_retiring retiring (mem_expireKeys.mpr ⟨member, ?_⟩)
    simp [expiry, before]

private theorem step_active {row : LocalActorKey} (permanent : row.expiresAt = none)
    (member : row ∈ rows) :
    row ∈ ((upkeep encoder).step rows call).1 ∨
      { row with
        retiringAt := some call.now
        expiresAt := some (call.now + call.config.overlap) } ∈
          ((upkeep encoder).step rows call).1 := by
  rcases @step_cases encoder call rows with same | upkeep
  · rw [same]
    exact .inl member
  · exact upkeep.mem_of_active (mem_expireKeys.mpr ⟨member, by rw [permanent]; rfl⟩)

private theorem run_retiring {row : LocalActorKey} {expires : Int}
    (retiring : row.retiringAt.isSome = true) (expiry : row.expiresAt = some expires)
    {calls : List Maintenance} (before : ∀ call ∈ calls, call.now < expires)
    (member : row ∈ rows) : row ∈ (upkeep encoder).run rows calls := by
  induction calls generalizing rows with
  | nil => exact member
  | cons call calls ih =>
      rw [Machine.run_cons]
      exact ih (fun other later => before other (List.mem_cons_of_mem _ later))
        (step_retiring retiring expiry (before call List.mem_cons_self) member)

end

/-- What holds of the keys that runs of maintenance reach: an account has one active key of an
algorithm at most, an active key that a run removes begins to retire and expires after the
overlap, and a retiring key is published until it expires, whatever further runs do. -/
structure Kept (encoder : Encoder) (rows : List LocalActorKey) : Prop where
  unique : ∀ first ∈ rows, ∀ second ∈ rows, first.retiringAt = none → second.retiringAt = none →
    first.accountId = second.accountId → first.algorithm = second.algorithm → first = second
  succeeded : ∀ row ∈ rows, row.retiringAt = none → row.expiresAt = none → ∀ call : Maintenance,
    row ∈ ((upkeep encoder).step rows call).1 ∨
      { row with
        retiringAt := some call.now
        expiresAt := some (call.now + call.config.overlap) } ∈
          ((upkeep encoder).step rows call).1
  published : ∀ row ∈ rows, row.retiringAt.isSome = true → ∀ expires,
    row.expiresAt = some expires → ∀ further : List Maintenance,
      (∀ call ∈ further, call.now < expires) → ∀ now, now < expires →
        row ∈ publishableLocalActorKeys ((upkeep encoder).run rows further) row.accountId now

/-- A run that changes no key has left no account behind exactly when the accounts that it locks
or expired keys stand for the others, and the keys are kept in every state that runs reach. -/
theorem key_maintenance_reaches_iff (encoder : Encoder) :
    (∀ (call : Maintenance) (rows : List LocalActorKey),
      (runMaintenance encoder call rows = .ok rows → Maintained call rows) ↔ Reaches call rows) ∧
    ∀ start : List LocalActorKey, Table.UniqueOn activeAlgorithm start →
      ∀ calls : List Maintenance, Kept encoder ((upkeep encoder).run start calls) := by
  refine ⟨fun _ _ => unchanged_maintained_iff, fun start unique calls => ?_⟩
  have reached := (upkeep encoder).run_invariant (Table.UniqueOn activeAlgorithm)
    (fun _ _ unique => step_unique unique) unique calls
  refine ⟨?_, ?_, ?_⟩
  · intro first firstMember second secondMember firstActive secondActive owner algorithm
    have indexed : activeAlgorithm first = some (first.accountId, first.algorithm) := by
      simp [activeAlgorithm, firstActive]
    have same : activeAlgorithm second = some (first.accountId, first.algorithm) := by
      simp [activeAlgorithm, secondActive, owner, algorithm]
    exact reached.eq_of_key firstMember secondMember indexed same
  · intro row member _ permanent call
    exact step_active permanent member
  · intro row member retiring expires expiry further before now early
    have stays := @run_retiring encoder _ row expires retiring expiry further before member
    refine List.mem_insertionSort _ |>.mpr (List.mem_filter.mpr ⟨stays, ?_⟩)
    simp [publishable, expiry, early]

namespace MaintenanceSample

def encoder : Encoder where
  publicUrl path := path
  base58Btc _ := ""
  formatRfc3339 _ := none
  formatTimestamp _ := ""

def account (number : Nat) : MaintainedAccount where
  id := ⟨number⟩
  username := ""
  displayName := ""
  note := ""
  locked := false
  discoverable := false
  indexable := false
  bot := false
  createdAt := 0
  suspendedAt := none

def key (number id : Nat) (algorithm : ActorKeyAlgorithm) : LocalActorKey :=
  ⟨id, ⟨number⟩, "", algorithm, [], 0, none, none⟩

/-- Fifty accounts with both keys, and one behind them without an Ed25519 key. -/
def rows : List LocalActorKey :=
  (List.range 50).flatMap (fun number =>
    [key number (2 * number) .rsaPkcs1Sha256, key number (2 * number + 1) .ed25519]) ++
    [key 50 100 .rsaPkcs1Sha256]

def call : Maintenance where
  federationEnabled := true
  config := ⟨90, 7, by decide, by decide⟩
  now := 1
  accounts := (List.range 51).map account
  primaryKey := by decide +kernel
  generator := ⟨fun _ => ⟨0, "", []⟩, fun _ => ⟨⟨0, "", []⟩, ⟨0, "", []⟩⟩⟩

end MaintenanceSample

open MaintenanceSample in
/-- The first fifty accounts have their keys, so that the run changes nothing, as does every later
one until their keys are due. -/
theorem key_maintenance_starves :
    Table.UniqueOn activeAlgorithm rows ∧
      runMaintenance encoder call rows = .ok rows ∧ ¬ Maintained call rows := by
  refine ⟨by decide +kernel, runMaintenance_idle fun _ => ⟨by decide +kernel, ?_⟩, ?_⟩
  · have recent : ∀ locked ∈ lockedAccounts call.accounts rows,
        (findActiveLocalActorKey rows locked.id .ed25519).any
          (fun key => call.now - call.config.interval < key.activatedAt) = true := by
      decide +kernel
    exact fun locked taken => not_overdue_of_recent (recent locked taken)
  · exact fun maintained => maintained (account 50) (by decide +kernel) (by decide +kernel)
      (.inl (by decide +kernel))

open MaintenanceSample in
theorem key_maintenance_reaches_sample :
    ((runMaintenance encoder call [] = .ok [] → Maintained call []) ↔ Reaches call []) ∧
      Kept encoder ((upkeep encoder).run rows [call]) :=
  ⟨(key_maintenance_reaches_iff encoder).1 call [],
    (key_maintenance_reaches_iff encoder).2 rows (by decide +kernel) [call]⟩

end Roosty.Federation.ActorKeys
