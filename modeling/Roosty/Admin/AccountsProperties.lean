import Mathlib.Data.String.Basic
import Roosty.Admin.Accounts
import Roosty.Library.Windows

/-!
# Turning the pages of the account browser

The pages of a view are windows of its full list. Whoever passes the next cursors obtains
all of it, and every page that a reader comes to can be turned in both directions.
-/

set_option autoImplicit false

namespace Roosty.Admin

open Library

/-!
## Orders
-/

section

variable {Row Key : Type} [LinearOrder Key] {key : Row → Key} {rows front back : List Row} {row : Row}

def Precedes (direction : AdminAccountSortDirection) (first second : Key) : Prop :=
  match direction with
  | .ascending => first < second
  | .descending => second < first

theorem orderBy_perm (direction : AdminAccountSortDirection) (key : Row → Key) (rows : List Row) :
    (orderBy direction key rows).Perm rows := by
  cases direction with
  | ascending => exact Keyset.arrange_perm key rows
  | descending => exact Keyset.arrange_perm (OrderDual.toDual ∘ key) rows

omit [LinearOrder Key] in
theorem dual_distinct (distinct : (rows.map key).Nodup) :
    (rows.map (OrderDual.toDual ∘ key)).Nodup := by
  rw [← List.map_map]
  exact distinct.map OrderDual.toDual.injective

theorem orderBy_sorted (distinct : (rows.map key).Nodup) (direction : AdminAccountSortDirection) :
    (orderBy direction key rows).Pairwise fun first second =>
      Precedes direction (key first) (key second) := by
  cases direction with
  | ascending => exact Keyset.arrange_arranged distinct
  | descending => exact Keyset.arrange_arranged (dual_distinct distinct)

theorem orderBy_reverse (distinct : (rows.map key).Nodup) (direction : AdminAccountSortDirection) :
    orderBy (reverseAdminSortDirection direction) key rows = (orderBy direction key rows).reverse := by
  cases direction with
  | ascending => exact Keyset.arrange_dual distinct
  | descending =>
      change Keyset.arrange key rows = (Keyset.arrange (OrderDual.toDual ∘ key) rows).reverse
      rw [Keyset.arrange_dual distinct, List.reverse_reverse]

theorem orderBy_behind (distinct : (rows.map key).Nodup) {direction : AdminAccountSortDirection}
    (split : orderBy direction key rows = front ++ row :: back) {kept : Row → Bool}
    (later : ∀ other ∈ rows, kept other = true ↔ Precedes direction (key row) (key other)) :
    orderBy direction key (rows.filter kept) = back := by
  cases direction with
  | ascending => exact Keyset.arrange_behind distinct split later
  | descending => exact Keyset.arrange_behind (dual_distinct distinct) split later

end

section

variable [LinearOrder Collated]

theorem adminAccountCursorCondition_iff (direction : AdminAccountSortDirection)
    (key : AdminAccountCursorKey) (id : AccountId) (cursor : AdminAccountCursor) :
    adminAccountCursorCondition direction key id cursor = true ↔
      Precedes direction (toLex (cursor.key, cursor.id.value)) (toLex (key, id.value)) := by
  cases direction with
  | ascending =>
      simp only [adminAccountCursorCondition, Precedes, Prod.Lex.toLex_lt_toLex, Bool.or_eq_true,
        Bool.and_eq_true, decide_eq_true_eq]
      exact or_congr_right (and_congr_left fun _ => eq_comm)
  | descending =>
      simp only [adminAccountCursorCondition, Precedes, Prod.Lex.toLex_lt_toLex, Bool.or_eq_true,
        Bool.and_eq_true, decide_eq_true_eq]

/-!
## Queries
-/

section

variable {Row : Type} {sort : AdminAccountSort} {sortExpr : Row → AdminAccountCursorKey}
variable {id : Row → AccountId} {make : Row → AdminAccount} {rows : List Row}
variable {direction : AdminAccountSortDirection}

omit [LinearOrder Collated] in
theorem position_distinct (distinct : (rows.map fun row => (id row).value).Nodup) :
    (rows.map (position sortExpr id)).Nodup := by
  refine List.Nodup.of_map (fun place => (ofLex place).2) ?_
  rw [List.map_map]
  exact distinct

theorem selectAccounts_none (direction : AdminAccountSortDirection) (count : Nat) :
    selectAccounts sort sortExpr id make rows none direction count =
      .ok (((orderBy direction (position sortExpr id) rows).map make).take count) := by
  have every : (rows.filter fun row => (none : Option AdminAccountCursor).all
      (adminAccountCursorCondition direction (sortExpr row) (id row))) = rows :=
    List.filter_eq_self.mpr fun _ _ => rfl
  rw [selectAccounts, Option.any_none]
  simp only [Bool.false_eq_true, if_false, every, List.map_take]

theorem selectAccounts_some (distinct : (rows.map fun row => (id row).value).Nodup)
    {front back : List AdminAccount} {account : AdminAccount} {cursor : AdminAccountCursor}
    (split : (orderBy direction (position sortExpr id) rows).map make = front ++ account :: back)
    (typed : comparable sort cursor.key = true)
    (named : ∀ row ∈ rows, make row = account → sortExpr row = cursor.key ∧ id row = cursor.id)
    (count : Nat) :
    selectAccounts sort sortExpr id make rows (some cursor) direction count =
      .ok (back.take count) := by
  obtain ⟨frontRows, rest, ordered, rfl, restMade⟩ := List.map_eq_append_iff.mp split
  obtain ⟨row, backRows, rfl, made, rfl⟩ := List.map_eq_cons_iff.mp restMade
  have member : row ∈ orderBy direction (position sortExpr id) rows := by
    rw [ordered]
    exact List.mem_append_right _ List.mem_cons_self
  have stored : row ∈ rows := (orderBy_perm _ _ _).mem_iff.mp member
  obtain ⟨key, identified⟩ := named row stored made
  have behind : orderBy direction (position sortExpr id) (rows.filter fun other =>
      (some cursor).all (adminAccountCursorCondition direction (sortExpr other) (id other))) =
        backRows := by
    refine orderBy_behind (position_distinct distinct) ordered fun other _ => ?_
    rw [Option.all_some, adminAccountCursorCondition_iff, position, position, key, identified]
  rw [selectAccounts, Option.any_some, typed]
  simp only [Bool.not_true, Bool.false_eq_true, if_false, behind, List.map_take]

end

/-!
## Views
-/

def Accepted (options : AdminAccountPageOptions) : Prop :=
  ¬(options.origin = .remoteOrigin ∧ (options.sort = .email ∨ options.sort = .role))

structure AccountsDb.Keyed (db : AccountsDb) : Prop where
  localAccounts : (db.localAccounts.map fun account => account.id.value).Nodup
  remoteActors : (db.remoteActors.map fun actor => actor.id.value).Nodup

section

variable (env : Environment) (db : AccountsDb) (options : AdminAccountPageOptions)

def Belongs (account : AdminAccount) : Prop :=
  let query := env.toLowercase (Text.trim options.query)
  match options.origin with
  | .localOrigin => ∃ row ∈ db.localAccounts,
      localSelected env query row = true ∧ localAdminAccount row = account
  | .remoteOrigin => ∃ actor ∈ db.remoteActors,
      remoteSelected env query actor = true ∧ remoteAdminAccount actor = account

/-- The sort expression of the database is the key of the program on every row. -/
structure Agrees : Prop where
  localKeys : ∀ account ∈ db.localAccounts,
    adminAccountCursorKey env (localAdminAccount account) options.sort =
      .ok (localAdminAccountSortExpr env options.sort account)
  remoteKeys : ∀ sortExpr, remoteAdminAccountSortExpr env options.sort = .ok sortExpr →
    ∀ actor ∈ db.remoteActors,
      adminAccountCursorKey env (remoteAdminAccount actor) options.sort = .ok (sortExpr actor)

def cursorOf (navigation : AdminAccountCursorNavigation) (key : AdminAccountCursorKey)
    (id : AccountId) : AdminAccountCursor :=
  ⟨1, options.origin, options.sort, options.direction, navigation, key, id⟩

def Serializes : Prop :=
  ∀ account, Belongs env db options account → ∀ key,
    adminAccountCursorKey env account options.sort = .ok key → ∀ navigation, ∃ bytes,
      env.toVec (cursorOf options navigation key account.id) = some bytes ∧
        env.fromSlice bytes = some (cursorOf options navigation key account.id)

/-- The full list of a view: its accounts, each once, in the requested order. -/
structure Listed (all : List AdminAccount) : Prop where
  accounts : ∀ account, account ∈ all ↔ Belongs env db options account
  once : (all.map fun account => account.id.value).Nodup
  ordered : all.Pairwise fun first second => ∃ key other,
    adminAccountCursorKey env first options.sort = .ok key ∧
      adminAccountCursorKey env second options.sort = .ok other ∧
      Precedes options.direction (toLex (key, first.id.value)) (toLex (other, second.id.value))

def Names (cursor : AdminAccountCursor) (account : AdminAccount) : Prop :=
  adminAccountCursorKey env account options.sort = .ok cursor.key ∧ account.id = cursor.id

structure Fetches (all : List AdminAccount) : Prop where
  whole : ∀ count, fetchAccounts env db options none options.direction count = .ok (all.take count)
  behind : ∀ front account back cursor count, all = front ++ account :: back →
    Names env options cursor account →
      fetchAccounts env db options (some cursor) options.direction count = .ok (back.take count)
  ahead : ∀ front account back cursor count, all = front ++ account :: back →
    Names env options cursor account →
      fetchAccounts env db options (some cursor) (reverseAdminSortDirection options.direction) count =
        .ok (front.reverse.take count)

end

omit [LinearOrder Collated] in
theorem comparable_key {env : Environment} {account : AdminAccount} {sort : AdminAccountSort}
    {key : AdminAccountCursorKey} (own : adminAccountCursorKey env account sort = .ok key) :
    comparable sort key = true := by
  cases sort with
  | account =>
      cases own
      rfl
  | email =>
      unfold adminAccountCursorKey at own
      dsimp only at own
      split at own
      · cases own
        rfl
      · cases own
  | role =>
      cases own
      rfl
  | state =>
      cases own
      rfl
  | createdAt =>
      cases own
      rfl

section

variable {env : Environment} {db : AccountsDb} {options : AdminAccountPageOptions}
variable {Row : Type} {sortExpr : Row → AdminAccountCursorKey} {id : Row → AccountId}
variable {make : Row → AdminAccount} {rows : List Row}

theorem fetches_select (distinct : (rows.map fun row => (id row).value).Nodup)
    (fetch : ∀ cursor direction count, fetchAccounts env db options cursor direction count =
      selectAccounts options.sort sortExpr id make rows cursor direction count)
    (ids : ∀ row, (make row).id = id row)
    (keys : ∀ row ∈ rows, adminAccountCursorKey env (make row) options.sort = .ok (sortExpr row)) :
    Fetches env db options ((orderBy options.direction (position sortExpr id) rows).map make) := by
  have named : ∀ cursor account, Names env options cursor account →
      comparable options.sort cursor.key = true ∧ ∀ row ∈ rows, make row = account →
        sortExpr row = cursor.key ∧ id row = cursor.id := by
    rintro cursor account ⟨key, identified⟩
    refine ⟨comparable_key key, ?_⟩
    rintro row stored rfl
    rw [keys row stored] at key
    exact ⟨Except.ok.inj key, (ids row).symm.trans identified⟩
  refine ⟨?_, ?_, ?_⟩
  · intro count
    rw [fetch, selectAccounts_none]
  · intro front account back cursor count split names
    obtain ⟨typed, own⟩ := named cursor account names
    rw [fetch, selectAccounts_some distinct split typed own]
  · intro front account back cursor count split names
    obtain ⟨typed, own⟩ := named cursor account names
    have reversed : (orderBy (reverseAdminSortDirection options.direction) (position sortExpr id)
        rows).map make = back.reverse ++ account :: front.reverse := by
      rw [orderBy_reverse (position_distinct distinct), List.map_reverse, split]
      simp
    rw [fetch, selectAccounts_some distinct reversed typed own]

theorem listed_select (distinct : (rows.map fun row => (id row).value).Nodup)
    (ids : ∀ row, (make row).id = id row)
    (keys : ∀ row ∈ rows, adminAccountCursorKey env (make row) options.sort = .ok (sortExpr row))
    (belongs : ∀ account, Belongs env db options account ↔ ∃ row ∈ rows, make row = account) :
    Listed env db options ((orderBy options.direction (position sortExpr id) rows).map make) := by
  have perm := orderBy_perm options.direction (position sortExpr id) rows
  refine ⟨?_, ?_, ?_⟩
  · intro account
    rw [belongs, List.mem_map]
    exact ⟨fun ⟨row, member, made⟩ => ⟨row, perm.mem_iff.mp member, made⟩,
      fun ⟨row, member, made⟩ => ⟨row, perm.mem_iff.mpr member, made⟩⟩
  · have values : ((orderBy options.direction (position sortExpr id) rows).map make).map
        (fun account => account.id.value) =
        (orderBy options.direction (position sortExpr id) rows).map fun row => (id row).value := by
      rw [List.map_map]
      refine List.map_congr_left fun row _ => ?_
      rw [Function.comp_apply, ids]
    rw [values]
    exact (perm.map _).nodup_iff.mpr distinct
  · rw [List.pairwise_map]
    refine (orderBy_sorted (position_distinct distinct) options.direction).imp_of_mem ?_
    intro first second firstMember secondMember before
    refine ⟨sortExpr first, sortExpr second, keys first (perm.mem_iff.mp firstMember),
      keys second (perm.mem_iff.mp secondMember), ?_⟩
    rw [ids, ids]
    exact before

end

theorem exists_listed {env : Environment} {db : AccountsDb} {options : AdminAccountPageOptions}
    (keyed : db.Keyed) (accepted : Accepted options) (agrees : Agrees env db options) :
    ∃ all, Listed env db options all ∧ Fetches env db options all := by
  cases origin : options.origin with
  | localOrigin =>
      let rows := db.localAccounts.filter
        (localSelected env (env.toLowercase (Text.trim options.query)))
      have distinct : (rows.map fun account => account.id.value).Nodup :=
        keyed.localAccounts.sublist (List.filter_sublist.map _)
      have keys : ∀ account ∈ rows, adminAccountCursorKey env (localAdminAccount account)
          options.sort = .ok (localAdminAccountSortExpr env options.sort account) :=
        fun account member => agrees.localKeys account (List.mem_filter.mp member).1
      refine ⟨_, listed_select distinct (fun _ => rfl) keys fun account => ?_,
        fetches_select distinct (fun _ _ _ => ?_) (fun _ => rfl) keys⟩
      · simp only [Belongs, origin, rows, List.mem_filter, and_assoc]
      · simp only [fetchAccounts, origin, rows]
  | remoteOrigin =>
      have sorted : ∃ sortExpr, remoteAdminAccountSortExpr env options.sort = .ok sortExpr := by
        cases sort : options.sort with
        | account => exact ⟨_, rfl⟩
        | email => exact absurd ⟨origin, .inl sort⟩ accepted
        | role => exact absurd ⟨origin, .inr sort⟩ accepted
        | state => exact ⟨_, rfl⟩
        | createdAt => exact ⟨_, rfl⟩
      obtain ⟨sortExpr, isSort⟩ := sorted
      let rows := db.remoteActors.filter
        (remoteSelected env (env.toLowercase (Text.trim options.query)))
      have distinct : (rows.map fun actor => actor.id.value).Nodup :=
        keyed.remoteActors.sublist (List.filter_sublist.map _)
      have keys : ∀ actor ∈ rows, adminAccountCursorKey env (remoteAdminAccount actor)
          options.sort = .ok (sortExpr actor) :=
        fun actor member => agrees.remoteKeys sortExpr isSort actor (List.mem_filter.mp member).1
      refine ⟨_, listed_select distinct (fun _ => rfl) keys fun account => ?_,
        fetches_select distinct (fun _ _ _ => ?_) (fun _ => rfl) keys⟩
      · simp only [Belongs, origin, rows, List.mem_filter, and_assoc]
      · simp only [fetchAccounts, origin, isSort, rows, ok_bind]

/-!
## Cursors
-/

section

variable {env : Environment} {db : AccountsDb} {options : AdminAccountPageOptions}
variable {all : List AdminAccount} {account : AdminAccount}

def AdminAccountPageOptions.pageLimit (options : AdminAccountPageOptions) : Nat :=
  max 1 (min options.limit 100)

def cursorText (env : Environment) (options : AdminAccountPageOptions)
    (navigation : AdminAccountCursorNavigation) (account : AdminAccount) : String :=
  match encodeAdminAccountCursor env account options navigation with
  | .ok text => text
  | .error _ => ""

omit [LinearOrder Collated] in
theorem encode_cursor (serializes : Serializes env db options)
    (belongs : Belongs env db options account)
    {key : AdminAccountCursorKey} (own : adminAccountCursorKey env account options.sort = .ok key)
    (navigation : AdminAccountCursorNavigation) :
    encodeAdminAccountCursor env account options navigation =
        .ok (cursorText env options navigation account) ∧
      decodeAdminAccountCursor env (cursorText env options navigation account) =
        .ok (cursorOf options navigation key account.id) := by
  obtain ⟨bytes, written, read⟩ := serializes account belongs key own navigation
  have encoded : encodeAdminAccountCursor env account options navigation =
      .ok (String.ofList (Base64.encodeUrl bytes)) := by
    unfold cursorOf at written
    rw [encodeAdminAccountCursor, own, ok_bind]
    dsimp only
    rw [written, okOr_some, ok_bind]
  have text : cursorText env options navigation account = String.ofList (Base64.encodeUrl bytes) := by
    rw [cursorText, encoded]
  refine ⟨by rw [encoded, text], ?_⟩
  rw [decodeAdminAccountCursor, text, String.toList_ofList, Base64.decodeUrl_encodeUrl, okOr_some,
    ok_bind, read, okOr_some]

omit [LinearOrder Collated] in
theorem requestedCursor_text (serializes : Serializes env db options)
    (belongs : Belongs env db options account) {key : AdminAccountCursorKey}
    (own : adminAccountCursorKey env account options.sort = .ok key)
    (navigation : AdminAccountCursorNavigation) :
    requestedCursor env { options with cursor := some (cursorText env options navigation account) } =
      .ok (some (cursorOf options navigation key account.id)) := by
  have decoded := (encode_cursor serializes belongs own navigation).2
  rw [requestedCursor]
  dsimp only
  rw [decoded, ok_bind]
  exact if_neg (by simp [cursorOf])

omit [LinearOrder Collated] in
theorem edgeCursor_eq {navigation : AdminAccountCursorNavigation} {present : Bool}
    {edge : Option AdminAccount} (encodes : ∀ account, edge = some account →
      encodeAdminAccountCursor env account options navigation =
        .ok (cursorText env options navigation account)) :
    edgeCursor env options navigation present edge =
      .ok (if present then edge.map (cursorText env options navigation) else none) := by
  cases present with
  | false => rfl
  | true =>
      cases edge with
      | none => rfl
      | some account =>
          rw [edgeCursor, encodes account rfl]
          rfl

/-!
## Pages
-/

def pageOf (env : Environment) (options : AdminAccountPageOptions) (shown : List AdminAccount)
    (hasPrevious hasNext : Bool) : AdminAccountPage where
  accounts := shown
  previousCursor := if hasPrevious then shown.head?.map (cursorText env options .previous) else none
  nextCursor := if hasNext then shown.getLast?.map (cursorText env options .next) else none

theorem adminAccountPage_eq (accepted : Accepted options) {cursor : Option AdminAccountCursor}
    {value : Option String}
    (requested : requestedCursor env { options with cursor := value } = .ok cursor)
    {backwards : Bool} (turned : cursor.any (fun cursor => cursor.navigation = .previous) = backwards)
    {accounts : List AdminAccount}
    (fetched : fetchAccounts env db options cursor
      (if backwards then reverseAdminSortDirection options.direction else options.direction)
      (options.pageLimit + 1) = .ok accounts)
    (encodes : ∀ account ∈ accounts, ∀ navigation,
      encodeAdminAccountCursor env account options navigation =
        .ok (cursorText env options navigation account)) :
    adminAccountPage env db { options with cursor := value } =
      .ok (pageOf env options
        (if backwards then (accounts.take options.pageLimit).reverse
          else accounts.take options.pageLimit)
        (if backwards then decide (options.pageLimit < accounts.length) else cursor.isSome)
        (if backwards then cursor.isSome else decide (options.pageLimit < accounts.length))) := by
  have inside : ∀ account ∈ (if backwards then (accounts.take options.pageLimit).reverse
      else accounts.take options.pageLimit), account ∈ accounts := by
    intro account member
    split at member
    · exact List.mem_of_mem_take (List.mem_reverse.mp member)
    · exact List.mem_of_mem_take member
  have first := @edgeCursor_eq env options .previous
    (if backwards then decide (options.pageLimit < accounts.length) else cursor.isSome) _
    fun account isFirst => encodes account (inside account (List.mem_of_head? isFirst)) .previous
  have last := @edgeCursor_eq env options .next
    (if backwards then cursor.isSome else decide (options.pageLimit < accounts.length)) _
    fun account isLast => encodes account (inside account (List.mem_of_getLast? isLast)) .next
  unfold adminAccountPage
  rw [if_neg accepted, requested, ok_bind]
  dsimp only
  rw [turned]
  have fetch : fetchAccounts env db { options with cursor := value } cursor
      (if backwards then reverseAdminSortDirection options.direction else options.direction)
      (max 1 (min options.limit 100) + 1) = .ok accounts := fetched
  rw [fetch, ok_bind]
  have before : edgeCursor env { options with cursor := value } .previous
      (if backwards then decide (max 1 (min options.limit 100) < accounts.length) else cursor.isSome)
      (if backwards then (accounts.take (max 1 (min options.limit 100))).reverse
        else accounts.take (max 1 (min options.limit 100))).head? = _ := first
  have after : edgeCursor env { options with cursor := value } .next
      (if backwards then cursor.isSome else decide (max 1 (min options.limit 100) < accounts.length))
      (if backwards then (accounts.take (max 1 (min options.limit 100))).reverse
        else accounts.take (max 1 (min options.limit 100))).getLast? = _ := last
  rw [before, ok_bind, after, ok_bind]
  rfl

omit [LinearOrder Collated] in
theorem key_of_belongs (accepted : Accepted options) (agrees : Agrees env db options)
    (belongs : Belongs env db options account) :
    ∃ key, adminAccountCursorKey env account options.sort = .ok key := by
  unfold Belongs at belongs
  dsimp only at belongs
  split at belongs
  next =>
    obtain ⟨row, stored, -, rfl⟩ := belongs
    exact ⟨_, agrees.localKeys row stored⟩
  next origin =>
    obtain ⟨actor, stored, -, rfl⟩ := belongs
    cases sorted : remoteAdminAccountSortExpr env options.sort with
    | ok sortExpr => exact ⟨_, agrees.remoteKeys sortExpr sorted actor stored⟩
    | error error =>
        unfold remoteAdminAccountSortExpr at sorted
        split at sorted
        · cases sorted
        · cases sorted
        · cases sorted
        · rename_i email
          exact absurd ⟨origin, .inl email⟩ accepted
        · rename_i role
          exact absurd ⟨origin, .inr role⟩ accepted

/-- The account browser of a view, as a book whose pages are turned. -/
def book (env : Environment) (db : AccountsDb) (options : AdminAccountPageOptions) :
    Windows.Book AdminAccount AdminAccountPage String where
  load cursor := (adminAccountPage env db { options with cursor := cursor }).toOption
  items := AdminAccountPage.accounts
  previous := AdminAccountPage.previousCursor
  next := AdminAccountPage.nextCursor
  previousOf := cursorText env options .previous
  nextOf := cursorText env options .next

theorem pageOf_shows {window : Windows.Window AdminAccount} {hasPrevious hasNext : Bool}
    (previous : hasPrevious = true ↔ window.front ≠ []) (next : hasNext = true ↔ window.back ≠ []) :
    (book env db options).Shows window (pageOf env options window.shown hasPrevious hasNext) := by
  refine ⟨rfl, ?_, ?_⟩
  · change (if hasPrevious then _ else _) = _
    by_cases empty : window.front = []
    · rw [if_pos empty, if_neg fun some_ => previous.mp some_ empty]
    · rw [if_neg empty, if_pos (previous.mpr empty)]
      rfl
  · change (if hasNext then _ else _) = _
    by_cases empty : window.back = []
    · rw [if_pos empty, if_neg fun some_ => next.mp some_ empty]
    · rw [if_neg empty, if_pos (next.mpr empty)]
      rfl

theorem opens_listed (accepted : Accepted options) (agrees : Agrees env db options)
    (serializes : Serializes env db options) (listed : Listed env db options all)
    (fetches : Fetches env db options all) :
    (book env db options).Opens options.pageLimit all := by
  have own : ∀ account ∈ all, ∃ key, adminAccountCursorKey env account options.sort = .ok key :=
    fun account member => key_of_belongs accepted agrees ((listed.accounts account).mp member)
  have encodes : ∀ account ∈ all, ∀ navigation,
      encodeAdminAccountCursor env account options navigation =
        .ok (cursorText env options navigation account) := by
    intro account member navigation
    obtain ⟨key, hasKey⟩ := own account member
    exact (encode_cursor serializes ((listed.accounts account).mp member) hasKey navigation).1
  have further : ∀ rows : List AdminAccount, ∀ count,
      decide (count < (rows.take (count + 1)).length) = true ↔ rows.drop count ≠ [] := by
    intro rows count
    rw [decide_eq_true_eq, List.length_take, ne_eq, List.drop_eq_nil_iff]
    omega
  have trimmed : ∀ rows : List AdminAccount, ∀ count,
      (rows.take (count + 1)).take count = rows.take count := by
    intro rows count
    rw [List.take_take, Nat.min_eq_left (Nat.le_succ count)]
  refine ⟨?_, ?_, ?_⟩
  · have fetched := fetches.whole (options.pageLimit + 1)
    have page := @adminAccountPage_eq _ env db options accepted none none rfl false rfl _ fetched
      fun account member => encodes account (List.mem_of_mem_take member)
    refine ⟨_, congrArg Except.toOption page, ?_⟩
    simp only [Bool.false_eq_true, if_false, trimmed]
    exact @pageOf_shows _ env db options ⟨[], all.take options.pageLimit,
      all.drop options.pageLimit⟩ false _ (by simp) (further all options.pageLimit)
  · intro front account back split _
    have member : account ∈ all := split ▸ List.mem_append_right _ List.mem_cons_self
    obtain ⟨key, hasKey⟩ := own account member
    have requested := requestedCursor_text serializes ((listed.accounts account).mp member) hasKey .next
    have fetched := fetches.behind front account back _ (options.pageLimit + 1) split
      (⟨hasKey, rfl⟩ : Names env options (cursorOf options .next key account.id) account)
    have inside : ∀ other ∈ back.take (options.pageLimit + 1), other ∈ all := fun other taken =>
      split ▸ List.mem_append_right _ (List.mem_cons_of_mem _ (List.mem_of_mem_take taken))
    have page := @adminAccountPage_eq _ env db options accepted _ _ requested false rfl _ fetched
      fun other taken => encodes other (inside other taken)
    refine ⟨_, congrArg Except.toOption page, ?_⟩
    simp only [Bool.false_eq_true, if_false, trimmed, Option.isSome_some]
    exact @pageOf_shows _ env db options ⟨front ++ [account], back.take options.pageLimit,
      back.drop options.pageLimit⟩ true _ (by simp) (further back options.pageLimit)
  · intro front account back split _
    have member : account ∈ all := split ▸ List.mem_append_right _ List.mem_cons_self
    obtain ⟨key, hasKey⟩ := own account member
    have requested :=
      requestedCursor_text serializes ((listed.accounts account).mp member) hasKey .previous
    have fetched := fetches.ahead front account back _ (options.pageLimit + 1) split
      (⟨hasKey, rfl⟩ : Names env options (cursorOf options .previous key account.id) account)
    have inside : ∀ other ∈ front.reverse.take (options.pageLimit + 1), other ∈ all :=
      fun other taken =>
        split ▸ List.mem_append_left _ (List.mem_reverse.mp (List.mem_of_mem_take taken))
    have page := @adminAccountPage_eq _ env db options accepted _ _ requested true rfl _ fetched
      fun other taken => encodes other (inside other taken)
    -- the query in the other direction begins at the end of what stands before
    have shown : (front.reverse.take options.pageLimit).reverse =
        front.drop (front.length - options.pageLimit) := by
      rw [List.take_reverse, List.reverse_reverse]
    have extra : decide (options.pageLimit < (front.reverse.take (options.pageLimit + 1)).length) =
        true ↔ front.take (front.length - options.pageLimit) ≠ [] := by
      rw [further, ne_eq, ne_eq, List.drop_eq_nil_iff, List.length_reverse, List.take_eq_nil_iff,
        not_iff_not]
      constructor
      · intro few
        exact .inl (Nat.sub_eq_zero_of_le few)
      · rintro (few | none)
        · omega
        · simp [none]
    refine ⟨_, congrArg Except.toOption page, ?_⟩
    simp only [if_true, trimmed, shown, Option.isSome_some]
    exact @pageOf_shows _ env db options ⟨front.take (front.length - options.pageLimit),
      front.drop (front.length - options.pageLimit), account :: back⟩ _ true extra (by simp)

structure Browsed (env : Environment) (db : AccountsDb) (options : AdminAccountPageOptions)
    (all : List AdminAccount) : Prop where
  listed : Listed env db options all
  read : ∀ rounds, all.length < rounds → ∃ pages,
    Links.follow (book env db options).load (fun page => page.nextCursor.map some) rounds none =
      some pages ∧ pages.flatMap AdminAccountPage.accounts = all
  /-- Every page that a reader comes to is a part of the list and can be turned. -/
  turned : ∀ page, (book env db options).Visited page →
    ∃ window, (book env db options).Turns options.pageLimit all page window

/-- The pages of every accepted view are turned in both directions without loss. -/
theorem admin_accounts_browsed (keyed : db.Keyed) (accepted : Accepted options)
    (agrees : Agrees env db options) (serializes : Serializes env db options) :
    ∃ all, Browsed env db options all := by
  obtain ⟨all, listed, fetches⟩ := exists_listed keyed accepted agrees
  have positive : 0 < options.pageLimit := by
    rw [AdminAccountPageOptions.pageLimit]
    omega
  have opens := opens_listed accepted agrees serializes listed fetches
  exact ⟨all, listed, fun _ enough => Windows.follow_all positive opens enough,
    fun _ visited => visited.turns positive opens⟩

end

end

/-!
## Two accounts
-/

namespace Sample

deriving instance DecidableEq for Collated
deriving instance DecidableEq for AdminAccountCursorKey
deriving instance DecidableEq for AdminAccountCursor

@[reducible] def collation : LinearOrder Collated :=
  LinearOrder.lift' Collated.value fun first second same => by
    cases first
    cases second
    cases same
    rfl

def lowercase (text : String) : String := String.ofList (Text.toAsciiLowercase text.toList)

def navigationName : AdminAccountCursorNavigation → String
  | .previous => "previous"
  | .next => "next"

def toVec : AdminAccountCursor → Option (List UInt8)
  | ⟨1, .localOrigin, .account, .ascending, navigation, .text key, id⟩ =>
      let json := "\x7b\"version\":1,\"origin\":\"local\",\"sort\":\"account\"," ++
        "\"direction\":\"ascending\",\"navigation\":\"" ++ navigationName navigation ++
        "\",\"key\":\x7b\"type\":\"text\",\"value\":\"" ++ key.value ++ "\"\x7d,\"id\":\"" ++
        Text.uuidText id.value ++ "\"\x7d"
      some (json.toList.map fun letter => UInt8.ofNat letter.toNat)
  | _ => none

def options : AdminAccountPageOptions :=
  ⟨" ", .localOrigin, .account, .ascending, 1, none⟩

def cursor (navigation : AdminAccountCursorNavigation) (username : String) (id : AccountId) :
    AdminAccountCursor :=
  cursorOf options navigation (.text ⟨username⟩) id

def cursors : List AdminAccountCursor :=
  [cursor .previous "alice" ⟨1⟩, cursor .next "alice" ⟨1⟩, cursor .previous "bob" ⟨2⟩,
    cursor .next "bob" ⟨2⟩]

def env : Environment where
  lower := lowercase
  toLowercase := lowercase
  toVec := toVec
  fromSlice bytes := cursors.find? fun cursor => toVec cursor = some bytes

def db : AccountsDb where
  localAccounts := [⟨⟨2⟩, "Bob", "", "bob@example.com", false, none, none, none, 20⟩,
    ⟨⟨1⟩, "alice", "", "alice@example.com", true, none, some 30, none, 10⟩]
  remoteActors := []

private theorem accounts_keyed : db.Keyed where
  localAccounts := by decide
  remoteActors := by decide

private theorem keys_agree : Agrees env db options where
  localKeys _ _ := rfl
  remoteKeys _ _ _ none := absurd none List.not_mem_nil

private theorem cursors_read : ∀ cursor ∈ cursors, ∃ bytes,
    env.toVec cursor = some bytes ∧ env.fromSlice bytes = some cursor := by
  have read : ∀ cursor ∈ cursors, (toVec cursor).bind env.fromSlice = some cursor := by
    decide +kernel
  intro cursor listed
  exact Option.bind_eq_some_iff.mp (read cursor listed)

private theorem cursors_serialize : Serializes env db options := by
  rintro _ ⟨row, stored, -, rfl⟩ key own navigation
  obtain rfl := Except.ok.inj own
  clear own
  refine cursors_read _ ?_
  have listed : ∀ row ∈ db.localAccounts,
      cursorOf options .previous (.text ⟨env.toLowercase row.username⟩) row.id ∈ cursors ∧
        cursorOf options .next (.text ⟨env.toLowercase row.username⟩) row.id ∈ cursors := by
    decide +kernel
  cases navigation with
  | previous => exact (listed row stored).1
  | next => exact (listed row stored).2

end Sample

open Sample in
theorem sample_admin_accounts_browsed :
    ∃ all, @Browsed collation env db options all :=
  @admin_accounts_browsed collation env db options accounts_keyed (fun both => nomatch both.1)
    keys_agree cursors_serialize

end Roosty.Admin
