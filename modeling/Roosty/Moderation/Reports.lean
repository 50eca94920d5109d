import Roosty.Core
import Roosty.Library.PagingLoss
import Roosty.Library.Result

/-!
# The list of moderation reports

Administrators page through the reports by links. A link repeats the size of the page and
names where it ended; the filters of the request are not in it. A page fails as a whole
where the response of one of its reports does.
-/

set_option autoImplicit false

namespace Roosty.Moderation

open Library Paging

/-- Two nullable columns; a check of the table lets exactly one of them be set. -/
inductive ReportAccount where
  | localAccount (id : AccountId)
  | remote (id : AccountId)
deriving DecidableEq

def ReportAccount.id : ReportAccount → AccountId
  | .localAccount id | .remote id => id

structure ReportRow where
  id : Nat
  source : ReportAccount
  target : ReportAccount
  assignedAccountId : Option AccountId
  actionTakenByAccountId : Option AccountId
  actionTakenAt : Option Int
deriving DecidableEq

structure RemoteActorRow where
  id : AccountId
  deletedAt : Option Int
deriving DecidableEq

structure ReportDb where
  reports : List ReportRow
  localAccounts : List AccountId
  remoteActors : List RemoteActorRow
  statuses : ReportRow → Except RoostyError Unit

/-- Cursor and account filters supported by Mastodon's administrator report list. -/
structure ReportListOptions where
  resolved : Option Bool
  sourceAccountId : Option AccountId
  targetAccountId : Option AccountId
  maxId : Option Nat
  sinceId : Option Nat
  minId : Option Nat
  limit : Nat

structure AdminReportQuery where
  resolved : Option Bool
  accountId : Option AccountId
  targetAccountId : Option AccountId
  maxId : Option Nat
  sinceId : Option Nat
  minId : Option Nat
  limit : Option Nat

/-- `limit.clamp(1, 200)`. -/
def clampLimit (limit : Nat) : Nat :=
  max 1 (min limit 200)

def ReportListOptions.keeps (options : ReportListOptions) (row : ReportRow) : Bool :=
  options.resolved.all (fun resolved => row.actionTakenAt.isSome == resolved) &&
  options.sourceAccountId.all (fun id => row.source.id == id) &&
  options.targetAccountId.all (fun id => row.target.id == id) &&
  options.maxId.all (fun id => decide (row.id < id)) &&
  options.sinceId.all (fun id => decide (id < row.id)) &&
  options.minId.all (fun id => decide (id < row.id))

def listModerationReports (rows : List ReportRow) (options : ReportListOptions) : List ReportRow :=
  (newestFirst ReportRow.id (rows.filter options.keeps)).take (clampLimit options.limit)

def AdminReportQuery.pageLimit (query : AdminReportQuery) : Nat :=
  clampLimit (query.limit.getD 40)

def AdminReportQuery.options (query : AdminReportQuery) : ReportListOptions where
  resolved := query.resolved
  sourceAccountId := query.accountId
  targetAccountId := query.targetAccountId
  maxId := query.maxId
  sinceId := query.sinceId
  minId := query.minId
  limit := query.pageLimit + 1

def reportPage (rows : List ReportRow) (query : AdminReportQuery) : Page ReportRow :=
  let reports := listModerationReports rows query.options
  let shown := reports.take query.pageLimit
  ⟨shown, shown.head?.map ReportRow.id, shown.getLast?.map ReportRow.id,
    decide (query.pageLimit < reports.length)⟩

section

variable (db : ReportDb)

/-- Look up either kind of account. A remote actor that was deleted is not found. -/
def findAdminAccountById (accountId : AccountId) : Option ReportAccount :=
  if db.localAccounts.contains accountId then some (.localAccount accountId)
  else ((db.remoteActors.find? fun actor => actor.id == accountId).filter fun actor =>
    actor.deletedAt.isNone).map fun actor => .remote actor.id

def adminAccount (account : ReportAccount) : Except RoostyError ReportAccount :=
  okOr (findAdminAccountById db account.id) (.invalidInput "report account was not found")

def optionalAccount : Option AccountId → Except RoostyError (Option ReportAccount)
  | none => .ok none
  | some id => (adminAccount db (.localAccount id)).map some

/-- The accounts of a response. The texts of the report are left out. -/
structure AdminReportResponse where
  report : ReportRow
  account : ReportAccount
  targetAccount : ReportAccount
  assignedAccount : Option ReportAccount
  actionTakenByAccount : Option ReportAccount
deriving DecidableEq

def adminReportResponse (report : ReportRow) : Except RoostyError AdminReportResponse := do
  let account ← adminAccount db report.source
  let targetAccount ← adminAccount db report.target
  let assignedAccount ← optionalAccount db report.assignedAccountId
  let actionTakenByAccount ← optionalAccount db report.actionTakenByAccountId
  db.statuses report
  .ok ⟨report, account, targetAccount, assignedAccount, actionTakenByAccount⟩

/-- `GET /api/v1/admin/reports`, as the page of its reports. -/
def adminReports (query : AdminReportQuery) : Except RoostyError (Page ReportRow) := do
  let found := reportPage db.reports query
  let _ ← found.items.mapM (adminReportResponse db)
  .ok found

/-- The request of the link `rel="next"`. -/
def AdminReportQuery.next (query : AdminReportQuery) (last : Nat) : AdminReportQuery :=
  ⟨none, none, none, some last, none, none, some query.pageLimit⟩

def AdminReportQuery.following (query : AdminReportQuery) : Option Nat → AdminReportQuery
  | none => query
  | some last => query.next last

/-- The first page, or the page that the link of another leads to. -/
def followLinks (query : AdminReportQuery) (cursor : Option Nat) :
    Except RoostyError (Page ReportRow) :=
  adminReports db (query.following cursor)

/-- The response of a report can be built: its accounts are found, and its statuses are
shown. -/
structure Served (report : ReportRow) : Prop where
  account : (findAdminAccountById db report.source.id).isSome = true
  targetAccount : (findAdminAccountById db report.target.id).isSome = true
  assignedAccount : ∀ id, report.assignedAccountId = some id →
    (findAdminAccountById db id).isSome = true
  actionTakenByAccount : ∀ id, report.actionTakenByAccountId = some id →
    (findAdminAccountById db id).isSome = true
  statuses : (db.statuses report).isOk = true

end

/-- The pages of the reports, as if every response could be built. -/
def reportPages (rows : List ReportRow) (query : AdminReportQuery) (cursor : Option Nat) :
    Page ReportRow :=
  reportPage rows (query.following cursor)

def matching (rows : List ReportRow) (query : AdminReportQuery) : List ReportRow :=
  rows.filter query.options.keeps

section

variable {rows : List ReportRow} {query : AdminReportQuery}

theorem pageLimit_pos (query : AdminReportQuery) : 0 < query.pageLimit := by
  unfold AdminReportQuery.pageLimit clampLimit
  omega

theorem pageLimit_le (query : AdminReportQuery) : query.pageLimit ≤ 200 := by
  unfold AdminReportQuery.pageLimit clampLimit
  omega

@[simp] theorem pageLimit_next (query : AdminReportQuery) (last : Nat) :
    (query.next last).pageLimit = query.pageLimit := by
  have positive := pageLimit_pos query
  have bounded := pageLimit_le query
  rw [AdminReportQuery.pageLimit, AdminReportQuery.next, Option.getD_some, clampLimit]
  omega

theorem matching_next (rows : List ReportRow) (query : AdminReportQuery) (last : Nat) :
    matching rows (query.next last) = rows.filter (before ReportRow.id (some last)) := by
  apply List.filter_congr
  intro row _
  simp [ReportListOptions.keeps, AdminReportQuery.options, AdminReportQuery.next, before]

theorem reportPage_page (small : query.pageLimit < 200) :
    reportPage rows query =
      page ReportRow.id query.pageLimit (query.pageLimit + 1) (matching rows query) := by
  have asked : clampLimit (query.pageLimit + 1) = query.pageLimit + 1 := by
    unfold clampLimit
    omega
  unfold reportPage listModerationReports page matching
  rw [trimToPage_eq]
  dsimp only [AdminReportQuery.options]
  rw [asked]
  rfl

theorem reportPage_full (full : query.pageLimit = 200) :
    (reportPage rows query).hasMore = false ∧
      (reportPage rows query).items =
        (newestFirst ReportRow.id (matching rows query)).take 200 := by
  have asked : clampLimit (query.pageLimit + 1) = 200 := by
    unfold clampLimit
    omega
  unfold reportPage listModerationReports matching
  dsimp only [AdminReportQuery.options]
  rw [asked, full, List.take_take, Nat.min_self]
  refine ⟨decide_eq_false ?_, rfl⟩
  have short := List.length_take_le 200 (newestFirst ReportRow.id (rows.filter query.options.keeps))
  exact Nat.not_lt.mpr short

theorem walk_reportPages (distinct : (rows.map ReportRow.id).Nodup) (small : query.pageLimit < 200)
    {rounds : Nat} {last : Nat}
    (enough : (rows.filter (before ReportRow.id (some last))).length < rounds) :
    walk (reportPages rows query) rounds (some last) =
      some (newestFirst ReportRow.id (rows.filter (before ReportRow.id (some last)))) := by
  rw [← walk_page distinct (pageLimit_pos query) enough]
  have pages : ∀ last, reportPages rows query (some last) =
      page ReportRow.id query.pageLimit (query.pageLimit + 1)
        (rows.filter (before ReportRow.id (some last))) := by
    intro last
    rw [reportPages, AdminReportQuery.following, reportPage_page (by rwa [pageLimit_next]),
      pageLimit_next, matching_next]
  clear enough
  induction rounds generalizing last with
  | zero => rfl
  | succ rounds ih =>
      unfold walk
      rw [pages last]
      dsimp only
      split
      case isTrue more =>
        obtain ⟨next, _, ends⟩ := page_lastCursor (pageLimit_pos query) more
        rw [ends, ih]
      case isFalse => rfl

/-- The older reports are the rest of those that were asked for when all of them pass. -/
theorem older_iff {front back : List ReportRow} {row : ReportRow}
    (once : ((matching rows query).map ReportRow.id).Nodup)
    (sorted : newestFirst ReportRow.id (matching rows query) = front ++ row :: back) :
    newestFirst ReportRow.id (rows.filter (before ReportRow.id (some row.id))) = back ↔
      ∀ other ∈ rows, (∀ shown ∈ front ++ [row], other.id < shown.id) →
        query.options.keeps other = true := by
  have descending := newestFirst_descending once
  rw [sorted] at descending
  have everything : (matching rows query).filter (before ReportRow.id none) = matching rows query :=
    List.filter_eq_self.mpr fun _ _ => rfl
  have behind := @newestFirst_behind _ ReportRow.id (matching rows query) front back row none once
    (by rwa [everything])
  have oldest : ∀ other : ReportRow, (∀ shown ∈ front ++ [row], other.id < shown.id) ↔
      other.id < row.id := by
    intro other
    constructor
    · intro older
      exact older row (List.mem_append_right _ (List.mem_singleton_self _))
    · intro older shown member
      rcases List.mem_append.mp member with ahead | last
      · exact Nat.lt_trans older
          ((List.pairwise_append.mp descending).2.2 shown ahead row List.mem_cons_self)
      · rwa [List.mem_singleton.mp last]
  simp only [oldest]
  constructor
  · intro same other member older
    have inside : other ∈ newestFirst ReportRow.id
        (rows.filter (before ReportRow.id (some row.id))) :=
      mem_newestFirst.mpr (List.mem_filter.mpr ⟨member, by simpa [before] using older⟩)
    rw [same, ← behind, mem_newestFirst] at inside
    exact (List.mem_filter.mp (List.mem_filter.mp inside).1).2
  · intro passes
    rw [← behind, matching, List.filter_filter]
    congr 1
    apply List.filter_congr
    intro other member
    by_cases older : other.id < row.id
    · simp [before, older, passes other member older]
    · simp [before, older]

/-- The pages hold the reports that were asked for exactly when the first page shows them all,
or when the page is not of the greatest size and every report older than those on it is one of
them. -/
theorem reportPages_walked_iff (distinct : (rows.map ReportRow.id).Nodup) :
    Walked (reportPages rows query) (newestFirst ReportRow.id (matching rows query)) ↔
      (matching rows query).length ≤ query.pageLimit ∨
        (query.pageLimit < 200 ∧ ∀ row ∈ rows,
          (∀ shown ∈ (reportPage rows query).items, row.id < shown.id) →
            query.options.keeps row = true) := by
  have once : ((matching rows query).map ReportRow.id).Nodup :=
    distinct.sublist (List.filter_sublist.map _)
  have size := length_newestFirst ReportRow.id (matching rows query)
  -- a first page without a further one is all that a walk sees
  have ended : (reportPage rows query).hasMore = false →
      (Walked (reportPages rows query) (newestFirst ReportRow.id (matching rows query)) ↔
        (reportPage rows query).items = newestFirst ReportRow.id (matching rows query)) := by
    intro last
    have walks : Walked (reportPages rows query) (reportPage rows query).items := by
      refine ⟨1, fun rounds enough => ?_⟩
      obtain ⟨rounds, rfl⟩ := Nat.exists_eq_add_of_le' enough
      exact walk_stop last rounds
    exact ⟨walks.unique, fun same => same ▸ walks⟩
  rcases Nat.lt_or_eq_of_le (pageLimit_le query) with small | full
  · have first := @reportPage_page rows query small
    by_cases few : (matching rows query).length ≤ query.pageLimit
    · obtain ⟨last, items⟩ := page_last ReportRow.id few
      rw [← first] at last items
      exact iff_of_true ((ended last).mpr items) (.inl few)
    · have inside : query.pageLimit - 1 <
          (newestFirst ReportRow.id (matching rows query)).length := by omega
      obtain ⟨front, row, back, sorted, length⟩ := exists_split inside
      have positive := pageLimit_pos query
      have whole : front.length + 1 = query.pageLimit := by omega
      have further : back ≠ [] := by
        rintro rfl
        simp only [sorted, List.length_append, List.length_cons, List.length_nil] at size
        omega
      obtain ⟨more, items, last⟩ := page_next sorted further
      rw [whole, ← first] at more items last
      have walks : Walked (reportPages rows query) (front ++ [row] ++
          newestFirst ReportRow.id (rows.filter (before ReportRow.id (some row.id)))) := by
        refine ⟨rows.length + 2, fun rounds enough => ?_⟩
        obtain ⟨rounds, rfl⟩ := Nat.exists_eq_add_of_le' (Nat.le_of_succ_le enough)
        have short := List.length_filter_le (before ReportRow.id (some row.id)) rows
        rw [← Nat.add_assoc, walk_next more, reportPages, AdminReportQuery.following, last,
          walk_reportPages distinct small (by omega), items]
        rfl
      rw [or_iff_right few, and_iff_right small, items, ← older_iff once sorted]
      constructor
      · intro walked
        have same := walks.unique walked
        rw [sorted, List.append_assoc] at same
        exact List.cons.inj (List.append_cancel_left same) |>.2
      · intro same
        rw [same, List.append_assoc, List.singleton_append, ← sorted] at walks
        exact walks
  · obtain ⟨last, items⟩ := @reportPage_full rows query full
    rw [ended last, items, full, or_iff_left fun both => absurd both.1 (Nat.lt_irrefl 200), ← size]
    constructor
    · intro same
      rw [← same]
      exact List.length_take_le 200 _
    · exact List.take_of_length_le

end

/-!
## Responses
-/

section

variable {db : ReportDb} {query : AdminReportQuery}

private theorem optionalAccount_isOk_iff {id : Option AccountId} :
    (∃ account, optionalAccount db id = .ok account) ↔
      ∀ named, id = some named → (findAdminAccountById db named).isSome = true := by
  cases id with
  | none => exact iff_of_true ⟨none, rfl⟩ nofun
  | some id =>
      have looked : optionalAccount db (some id) = (okOr (findAdminAccountById db id)
        (.invalidInput "report account was not found")).map some := rfl
      rw [looked]
      simp only [Option.some.injEq, forall_eq']
      cases findAdminAccountById db id with
      | none => simp [okOr, Except.map]
      | some account => simp [okOr, Except.map]

theorem adminReportResponse_iff {report : ReportRow} :
    (∃ response, adminReportResponse db report = .ok response) ↔ Served db report := by
  have assigned := @optionalAccount_isOk_iff db report.assignedAccountId
  have taken := @optionalAccount_isOk_iff db report.actionTakenByAccountId
  constructor
  · rintro ⟨response, built⟩
    obtain ⟨account, source, built⟩ := bind_ok built
    obtain ⟨targetAccount, target, built⟩ := bind_ok built
    obtain ⟨assignedAccount, assignee, built⟩ := bind_ok built
    obtain ⟨actionTakenByAccount, actor, built⟩ := bind_ok built
    obtain ⟨shown, statuses, _⟩ := bind_ok built
    refine ⟨?_, ?_, assigned.mp ⟨_, assignee⟩, taken.mp ⟨_, actor⟩, ?_⟩
    · rw [okOr_ok source]
      rfl
    · rw [okOr_ok target]
      rfl
    · rw [statuses]
      rfl
  · intro served
    obtain ⟨account, source⟩ := Option.isSome_iff_exists.mp served.account
    obtain ⟨targetAccount, target⟩ := Option.isSome_iff_exists.mp served.targetAccount
    obtain ⟨assignedAccount, assignee⟩ := assigned.mpr served.assignedAccount
    obtain ⟨actionTakenByAccount, actor⟩ := taken.mpr served.actionTakenByAccount
    have statuses := served.statuses
    unfold adminReportResponse adminAccount
    rw [source, target, assignee, actor]
    cases shown : db.statuses report with
    | error error =>
        rw [shown] at statuses
        cases statuses
    | ok _ => exact ⟨_, rfl⟩

/-- A page is answered exactly when the response of each of its reports can be built. -/
theorem adminReports_eq_ok_iff {found : Page ReportRow} :
    adminReports db query = .ok found ↔
      (∀ row ∈ (reportPage db.reports query).items, Served db row) ∧
        found = reportPage db.reports query := by
  have built : ∀ rows : List ReportRow,
      (∃ responses, rows.mapM (adminReportResponse db) = .ok responses) ↔
        ∀ row ∈ rows, Served db row := by
    intro rows
    induction rows with
    | nil => exact iff_of_true ⟨[], rfl⟩ nofun
    | cons row rows ih =>
        rw [List.forall_mem_cons, ← ih, ← adminReportResponse_iff, List.mapM_cons]
        constructor
        · rintro ⟨responses, success⟩
          obtain ⟨response, here, success⟩ := bind_ok success
          obtain ⟨others, later, _⟩ := bind_ok success
          exact ⟨⟨response, here⟩, others, later⟩
        · rintro ⟨⟨response, here⟩, others, later⟩
          rw [here, later]
          exact ⟨_, rfl⟩
  unfold adminReports
  constructor
  · intro success
    obtain ⟨responses, here, same⟩ := bind_ok success
    cases same
    exact ⟨(built _).mp ⟨responses, here⟩, rfl⟩
  · rintro ⟨served, rfl⟩
    obtain ⟨responses, here⟩ := (built _).mpr served
    dsimp only
    rw [here]
    rfl

/-- Following the links collects the reports that were asked for exactly when the response of
each of them can be built, and the first page shows them all, or is not of the greatest size
and every report older than those on it is one of them. -/
theorem admin_reports_walked_iff (distinct : (db.reports.map ReportRow.id).Nodup) :
    TryWalked (followLinks db query) (newestFirst ReportRow.id (matching db.reports query)) ↔
      ((matching db.reports query).length ≤ query.pageLimit ∨
        (query.pageLimit < 200 ∧ ∀ row ∈ db.reports,
          (∀ shown ∈ (reportPage db.reports query).items, row.id < shown.id) →
            query.options.keeps row = true)) ∧
        ∀ row ∈ matching db.reports query, Served db row := by
  have loads : ∀ cursor found, followLinks db query cursor = .ok found ↔
      (∀ row ∈ (reportPages db.reports query cursor).items, Served db row) ∧
        found = reportPages db.reports query cursor := fun _ _ => adminReports_eq_ok_iff
  rw [tryWalked_iff loads, reportPages_walked_iff distinct]
  simp only [mem_newestFirst]

end

namespace ReportSample

/-- The newest report is by an actor that was deleted. -/
def db : ReportDb where
  reports :=
    [⟨1, .localAccount ⟨10⟩, .remote ⟨20⟩, none, none, none⟩,
      ⟨2, .localAccount ⟨10⟩, .remote ⟨20⟩, some ⟨11⟩, some ⟨11⟩, some 5⟩,
      ⟨3, .localAccount ⟨10⟩, .localAccount ⟨11⟩, none, none, none⟩,
      ⟨4, .remote ⟨21⟩, .localAccount ⟨11⟩, none, none, none⟩]
  localAccounts := [⟨10⟩, ⟨11⟩]
  remoteActors := [⟨⟨20⟩, none⟩, ⟨⟨21⟩, some 7⟩]
  statuses _ := .ok ()

def query : AdminReportQuery :=
  ⟨none, some ⟨10⟩, none, none, none, none, some 1⟩

end ReportSample

open ReportSample in
theorem admin_reports_walked_account :
    (matching db.reports query).length = 3 ∧
      TryWalked (followLinks db query) (newestFirst ReportRow.id (matching db.reports query)) ∧
      (adminReports db { query with accountId := none }).isOk = false := by
  have served : ∀ row ∈ matching db.reports query, Served db row := by
    intro row member
    have built : ∀ row ∈ matching db.reports query,
        (adminReportResponse db row).isOk = true := by decide
    have here := built row member
    cases response : adminReportResponse db row with
    | error error =>
        rw [response] at here
        cases here
    | ok shown => exact adminReportResponse_iff.mp ⟨shown, response⟩
  refine ⟨by decide, ?_, by decide⟩
  exact (admin_reports_walked_iff (by decide)).mpr ⟨.inr (by decide), served⟩

end Roosty.Moderation
