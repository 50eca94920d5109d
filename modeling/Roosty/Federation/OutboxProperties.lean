import Mathlib.Algebra.Group.Nat.Defs
import Roosty.Federation.CollectionsProperties
import Roosty.Federation.OutboxPages

/-!
# Reading an outbox

Whoever follows the links of an outbox, from its newest page on or from its oldest page on,
obtains every activity that is visible to it once and in order.
-/

set_option autoImplicit false

namespace Roosty.Federation.Outbox

open Library Collections

/-!
## Requests for pages
-/

inductive PageLink where
  | newest
  | before (cursor : Nat)
  | oldest
  | above (cursor : Nat)

namespace PageLink

def cursor : PageLink → Timeline.CollectionCursor
  | newest => ⟨none, none, none⟩
  | before cursor => ⟨some cursor, none, none⟩
  | oldest => ⟨none, none, some 0⟩
  | above cursor => ⟨none, none, some cursor⟩

def query : PageLink → OutboxQuery
  | newest => ⟨some true, none, none, none⟩
  | before cursor => ⟨some true, some (Text.uuidText cursor), none, none⟩
  | oldest => ⟨some true, none, some "0", none⟩
  | above cursor => ⟨some true, none, some (Text.uuidText cursor), none⟩

def text : PageLink → String
  | newest => "page=true"
  | before cursor => "page=true&max_id=" ++ Text.uuidText cursor
  | oldest => "page=true&min_id=0"
  | above cursor => "page=true&min_id=" ++ Text.uuidText cursor

theorem text_newest : newest.text = "page=true" := rfl

theorem text_oldest : oldest.text = "page=true&min_id=0" := rfl

theorem text_before (cursor : Nat) :
    (before cursor).text = "page=true&max_id=" ++ Text.uuidText cursor := rfl

theorem text_above (cursor : Nat) :
    (above cursor).text = "page=true&min_id=" ++ Text.uuidText cursor := rfl

def Bounded : PageLink → Prop
  | newest | oldest => True
  | before cursor | above cursor => cursor < 2 ^ 128

theorem parseUuid_zero : Text.parseUuid "0" = none := by decide

theorem outboxCursor_query {link : PageLink} (bounded : link.Bounded) :
    outboxCursor link.query = some link.cursor := by
  cases link with
  | newest => rfl
  | oldest => rfl
  | before cursor =>
      simp [outboxCursor, query, parseCursor, Text.parseUuid_uuidText bounded, PageLink.cursor]
  | above cursor =>
      have nonzero : Text.uuidText cursor ≠ "0" := by
        intro zero
        have read := Text.parseUuid_uuidText bounded
        rw [zero, parseUuid_zero] at read
        cases read
      simp [outboxCursor, query, parseCursor, Text.parseUuid_uuidText bounded, PageLink.cursor,
        nonzero]

theorem outboxQuery_text {server : Server} (decodes : FormQuery.Decodes server.formDecode)
    (link : PageLink) : outboxQuery server (some link.text) = some link.query := by
  -- a page, and a cursor under some name
  have plain (name value : String) (one : FormQuery.Plain name.toList)
      (other : FormQuery.Plain value.toList) :
      ∀ pair ∈ [("page", "true"), (name, value)],
        FormQuery.Plain pair.1.toList ∧ FormQuery.Plain pair.2.toList := by
    intro pair member
    rcases List.mem_cons.mp member with rfl | last
    · decide
    · rw [List.mem_singleton.mp last]
      exact ⟨one, other⟩
  have joined (name value : String) : "page=true&" ++ name ++ "=" ++ value =
      FormQuery.formQuery [("page", "true"), (name, value)] := by
    refine String.toList_injective ?_
    simp [FormQuery.formQuery, FormQuery.piece, List.intercalate]
  cases link with
  | newest =>
      have text : "page=true" = FormQuery.formQuery [("page", "true")] := by decide
      have pairs := FormQuery.formPairs_formQuery decodes (List.cons_ne_nil ("page", "true") [])
        (by decide)
      change outboxQuery server (some "page=true") = _
      rw [outboxQuery, Option.getD_some, text, pairs]
      decide
  | oldest =>
      have pairs := FormQuery.formPairs_formQuery decodes (List.cons_ne_nil _ _)
        (plain "min_id" "0" (by decide) (by decide))
      rw [← joined] at pairs
      have text : "page=true&" ++ "min_id" ++ "=" ++ "0" = "page=true&min_id=0" := by decide
      rw [text] at pairs
      change outboxQuery server (some "page=true&min_id=0") = _
      rw [outboxQuery, Option.getD_some, pairs]
      decide
  | before cursor =>
      have pairs := FormQuery.formPairs_formQuery decodes (List.cons_ne_nil _ _)
        (plain "max_id" (Text.uuidText cursor) (by decide) (FormQuery.plain_uuidText cursor))
      rw [← joined] at pairs
      have text : "page=true&" ++ "max_id" ++ "=" = "page=true&max_id=" := by decide
      rw [text] at pairs
      change outboxQuery server (some ("page=true&max_id=" ++ Text.uuidText cursor)) = _
      rw [outboxQuery, Option.getD_some, pairs]
      simp [FormQuery.formField, FormQuery.parseBool, query]
  | above cursor =>
      have pairs := FormQuery.formPairs_formQuery decodes (List.cons_ne_nil _ _)
        (plain "min_id" (Text.uuidText cursor) (by decide) (FormQuery.plain_uuidText cursor))
      rw [← joined] at pairs
      have text : "page=true&" ++ "min_id" ++ "=" = "page=true&min_id=" := by decide
      rw [text] at pairs
      change outboxQuery server (some ("page=true&min_id=" ++ Text.uuidText cursor)) = _
      rw [outboxQuery, Option.getD_some, pairs]
      simp [FormQuery.formField, FormQuery.parseBool, query]

end PageLink

/-!
## Documents
-/

theorem json_next (page : OutboxCollectionPage) :
    page.json.get? "next" = page.next.map .string := by
  have id : RenameRule.camelCase.apply "id" ≠ "next" := by decide
  have type : RenameRule.camelCase.apply "type" ≠ "next" := by decide
  have part : RenameRule.camelCase.apply "part_of" ≠ "next" := by decide
  have total : RenameRule.camelCase.apply "total_items" ≠ "next" := by decide
  have items : RenameRule.camelCase.apply "ordered_items" ≠ "next" := by decide
  have next : RenameRule.camelCase.apply "next" = "next" := by decide
  have prev : RenameRule.camelCase.apply "prev" ≠ "next" := by decide
  cases named : page.next with
  | some link =>
      simp [OutboxCollectionPage.json, serialize, Json.member?_cons, id, type, part, total, items,
        next, named]
  | none =>
      cases before : page.prev with
      | some link =>
          simp [OutboxCollectionPage.json, serialize, Json.member?_cons, id, type, part, total, items,
            named, before, prev]
      | none =>
          simp [OutboxCollectionPage.json, serialize, Json.member?_cons, id, type, part, total, items,
            named, before]

theorem json_prev (page : OutboxCollectionPage) :
    page.json.get? "prev" = page.prev.map .string := by
  have id : RenameRule.camelCase.apply "id" ≠ "prev" := by decide
  have type : RenameRule.camelCase.apply "type" ≠ "prev" := by decide
  have part : RenameRule.camelCase.apply "part_of" ≠ "prev" := by decide
  have total : RenameRule.camelCase.apply "total_items" ≠ "prev" := by decide
  have items : RenameRule.camelCase.apply "ordered_items" ≠ "prev" := by decide
  have next : RenameRule.camelCase.apply "next" ≠ "prev" := by decide
  have prev : RenameRule.camelCase.apply "prev" = "prev" := by decide
  cases named : page.next with
  | some link =>
      cases before : page.prev with
      | some link =>
          simp [OutboxCollectionPage.json, serialize, Json.member?_cons, id, type, part, total, items,
            next, named, before, prev]
      | none =>
          simp [OutboxCollectionPage.json, serialize, Json.member?_cons, id, type, part, total, items,
            next, named, before]
  | none =>
      cases before : page.prev with
      | some link =>
          simp [OutboxCollectionPage.json, serialize, Json.member?_cons, id, type, part, total, items,
            named, before, prev]
      | none =>
          simp [OutboxCollectionPage.json, serialize, Json.member?_cons, id, type, part, total, items,
            named, before]

def documentItems (document : Json) : List Json :=
  match document.get? "orderedItems" with
  | some (.array items) => items
  | _ => []

def linkUnder (name : String) (document : Json) : Option String :=
  (document.get? name).bind Json.asStr?

section

variable (server : Server) (renderer : Renderer) (db : OutboxDb) (username : String)

def outboxDocument (link : PageLink) (page : Paging.Page LocalOutboxItem) : Json :=
  let orderedItems := page.items.filterMap (activity server renderer db username)
  OutboxCollectionPage.json
    { id := outboxPageUrl (outboxUrl server username) link.query
      type := .orderedCollectionPage
      partOf := outboxUrl server username
      totalItems := orderedItems.length
      orderedItems := orderedItems
      next := (if orderedItems.length = 20 then page.lastCursor else none).map fun cursor =>
        outboxUrl server username ++ "?page=true&max_id=" ++ Text.uuidText cursor
      prev := page.firstCursor.map fun cursor =>
        outboxUrl server username ++ "?page=true&min_id=" ++ Text.uuidText cursor }

def pageLinkUrl (link : PageLink) : String := outboxUrl server username ++ "?" ++ link.text

end

section

variable {server : Server} {renderer : Renderer} {db : OutboxDb} {username : String}
variable {account : LocalAccount} {requester : Option AccountId}

theorem documentItems_outboxDocument (link : PageLink) (page : Paging.Page LocalOutboxItem) :
    documentItems (outboxDocument server renderer db username link page) =
      page.items.filterMap (activity server renderer db username) := by
  rw [documentItems, outboxDocument, OutboxCollectionPage.json_orderedItems]

theorem pageLinkUrl_before (cursor : Nat) : pageLinkUrl server username (.before cursor) =
    outboxUrl server username ++ "?page=true&max_id=" ++ Text.uuidText cursor := by
  refine String.toList_injective ?_
  rw [pageLinkUrl, PageLink.text_before]
  simp

theorem pageLinkUrl_above (cursor : Nat) : pageLinkUrl server username (.above cursor) =
    outboxUrl server username ++ "?page=true&min_id=" ++ Text.uuidText cursor := by
  refine String.toList_injective ?_
  rw [pageLinkUrl, PageLink.text_above]
  simp

theorem pageLinkUrl_newest : pageLinkUrl server username .newest =
    outboxUrl server username ++ "?page=true" := by
  refine String.toList_injective ?_
  simp [pageLinkUrl, PageLink.text_newest]

theorem pageLinkUrl_oldest : pageLinkUrl server username .oldest =
    outboxUrl server username ++ "?page=true&min_id=0" := by
  refine String.toList_injective ?_
  simp [pageLinkUrl, PageLink.text_oldest]

theorem linkUnder_next (link : PageLink) (page : Paging.Page LocalOutboxItem) :
    linkUnder "next" (outboxDocument server renderer db username link page) =
      (if (page.items.filterMap (activity server renderer db username)).length = 20 then
        page.lastCursor else none).map fun cursor =>
          pageLinkUrl server username (.before cursor) := by
  simp only [pageLinkUrl_before]
  rw [linkUnder, outboxDocument, json_next]
  dsimp only
  split
  · cases page.lastCursor with
    | none => rfl
    | some cursor => rfl
  · rfl

theorem linkUnder_prev (link : PageLink) (page : Paging.Page LocalOutboxItem) :
    linkUnder "prev" (outboxDocument server renderer db username link page) =
      page.firstCursor.map fun cursor => pageLinkUrl server username (.above cursor) := by
  simp only [pageLinkUrl_above]
  rw [linkUnder, outboxDocument, json_prev]
  cases page.firstCursor with
  | none => rfl
  | some cursor => rfl

theorem activity_isSome (keyed : db.Keyed) {item : LocalOutboxItem} {accountId : AccountId}
    (shown : Shown db accountId requester item) :
    ∃ document, activity server renderer db username item = some document := by
  cases item with
  | status status => exact ⟨_, rfl⟩
  | remoteReblog reblog status => exact ⟨_, rfl⟩
  | localReblog reblog status =>
      obtain ⟨author, found⟩ :=
        Option.isSome_iff_exists.mp (keyed.authors status shown.2.2.1)
      exact ⟨_, by rw [activity, found, Option.map_some]⟩

theorem mapM_activity {items : List LocalOutboxItem}
    (made : ∀ item ∈ items, ∃ document, activity server renderer db username item = some document) :
    items.mapM (activity server renderer db username) =
      some (items.filterMap (activity server renderer db username)) := by
  induction items with
  | nil => rfl
  | cons item items ih =>
      obtain ⟨document, here⟩ := made item List.mem_cons_self
      have later := ih fun other member => made other (List.mem_cons_of_mem _ member)
      rw [List.mapM_cons, here, later, List.filterMap_cons_some here]
      rfl

end

/-- What a reader meets who is served: an account that is not suspended, without blocks. -/
structure Served (server : Server) (db : OutboxDb) (requester : Option AccountId)
    (account : LocalAccount) : Prop where
  enabled : server.federationEnabled = true
  found : (db.localAccounts.find? fun other => other.username == account.username) = some account
  active : account.suspendedAt = none
  unblocked : blockedRequester db requester account.id = false

section

variable {server : Server} {renderer : Renderer} {db : OutboxDb}
variable {account : LocalAccount} {requester : Option AccountId}

theorem fetchOutbox_page (decodes : FormQuery.Decodes server.formDecode) (keyed : db.Keyed)
    (served : Served server db requester account) {link : PageLink} (bounded : link.Bounded)
    (listed : ∀ item ∈ (localActorOutboxPage db account.id requester 20 link.cursor).items,
      item ∈ outboxItems db account.id requester) :
    fetchOutbox server renderer db requester account.username
        (pageLinkUrl server account.username link) =
      some (outboxDocument server renderer db account.username link
        (localActorOutboxPage db account.id requester 20 link.cursor)) := by
  have made : ∀ item ∈ (localActorOutboxPage db account.id requester 20 link.cursor).items,
      ∃ document, activity server renderer db account.username item = some document :=
    fun item member => activity_isSome keyed ((mem_outboxItems_iff keyed item).mp (listed item member))
  have page : link.query.page = some true := by
    cases link <;> rfl
  rw [fetchOutbox, pageLinkUrl, fetch_query, serveOutbox, PageLink.outboxQuery_text decodes]
  simp only [Option.bind_eq_bind, Option.bind_some, served.enabled, served.found, served.active,
    Option.isNone_none, guard_true, if_pos page, PageLink.outboxCursor_query bounded,
    outboxPageFor, served.unblocked, Bool.false_eq_true, if_false, mapM_activity made]
  rfl

end

/-!
## Readers
-/

def Reads (fetch : String → Option Json) (link : String) (items : Json → List Json)
    (start : String) (all : List Json) : Prop :=
  ∃ enough, ∀ rounds, enough ≤ rounds → ∃ pages,
    Links.follow fetch (linkUnder link) rounds start = some pages ∧ pages.flatMap items = all

/-- What the readers of an outbox are promised: every visible activity once, and as many as are
counted. From the newest page on they descend; from the oldest page on they ascend, through
pages that descend. -/
structure ReadsOutbox (server : Server) (renderer : Renderer) (db : OutboxDb)
    (requester : Option AccountId) (account : LocalAccount) (shown : List LocalOutboxItem)
    (activities : List Json) : Prop where
  visible : ∀ item, item ∈ shown ↔ Shown db account.id requester item
  counted : shown.length = countLocalActorOutboxItems db account.id requester
  descending : shown.Pairwise fun newer older => older.cursor < newer.cursor
  rendered : shown.map (activity server renderer db account.username) = activities.map some
  newest : Reads (fetchOutbox server renderer db requester account.username) "next" documentItems
    (outboxUrl server account.username ++ "?page=true") activities
  oldest : Reads (fetchOutbox server renderer db requester account.username) "prev"
    (fun page => (documentItems page).reverse)
    (outboxUrl server account.username ++ "?page=true&min_id=0") activities.reverse

section

variable {server : Server} {renderer : Renderer} {db : OutboxDb}
variable {account : LocalAccount} {requester : Option AccountId}

/-- The page at a cursor of `next` links, and at one of `prev` links. -/
def down : Option Nat → PageLink
  | none => .newest
  | some cursor => .before cursor

def up (cursor : Nat) : PageLink := if cursor = 0 then .oldest else .above cursor

theorem down_cursor (cursor : Option Nat) : (down cursor).cursor = ⟨cursor, none, none⟩ := by
  cases cursor <;> rfl

theorem up_cursor (cursor : Nat) : (up cursor).cursor = ⟨none, none, some cursor⟩ := by
  unfold up
  split
  · rename_i zero
    rw [zero]
    rfl
  · rfl

theorem mem_newestItems {item : LocalOutboxItem} : item ∈ newestItems db account.id requester ↔
    item ∈ outboxItems db account.id requester := Keyset.mem_arrange

theorem mem_oldestItems {item : LocalOutboxItem} : item ∈ oldestItems db account.id requester ↔
    item ∈ outboxItems db account.id requester := Keyset.mem_arrange

theorem newestItems_arranged (keyed : db.Keyed) :
    Keyset.Arranged (OrderDual.toDual ∘ LocalOutboxItem.cursor)
      (newestItems db account.id requester) := by
  refine Keyset.arrange_arranged ?_
  rw [← List.map_map]
  exact (keyed.items account.id requester).map OrderDual.toDual.injective

theorem oldestItems_arranged (keyed : db.Keyed) :
    Keyset.Arranged LocalOutboxItem.cursor (oldestItems db account.id requester) :=
  Keyset.arrange_arranged (keyed.items account.id requester)

theorem newestItems_eq_reverse (keyed : db.Keyed) :
    newestItems db account.id requester = (oldestItems db account.id requester).reverse :=
  Keyset.arrange_dual (keyed.items account.id requester)

theorem OutboxDb.Keyed.cursor_bounded (keyed : db.Keyed) {item : LocalOutboxItem}
    (listed : item ∈ outboxItems db account.id requester) :
    0 < item.cursor ∧ item.cursor < 2 ^ 128 :=
  keyed.bounded _ ((outboxItems_sublist db account.id requester).subset (List.mem_map_of_mem listed))

theorem map_activity (keyed : db.Keyed) {items : List LocalOutboxItem}
    (listed : items ⊆ outboxItems db account.id requester) :
    items.map (activity server renderer db account.username) =
      (items.filterMap (activity server renderer db account.username)).map some := by
  induction items with
  | nil => rfl
  | cons item items ih =>
      obtain ⟨here, later⟩ := List.cons_subset.mp listed
      obtain ⟨document, made⟩ := @activity_isSome server renderer db account.username requester keyed
        _ _ ((mem_outboxItems_iff keyed item).mp here)
      rw [List.map_cons, ih later, List.filterMap_cons_some made, made, List.map_cons]

theorem length_activities (keyed : db.Keyed) {items : List LocalOutboxItem}
    (listed : items ⊆ outboxItems db account.id requester) :
    (items.filterMap (activity server renderer db account.username)).length = items.length := by
  have lengths := congrArg List.length
    (@map_activity server renderer db account requester keyed _ listed)
  simpa using lengths.symm

theorem reads_links (decodes : FormQuery.Decodes server.formDecode) (keyed : db.Keyed)
    (served : Served server db requester account) {Cursor : Type} {page : Cursor → PageLink}
    {next : Cursor × Paging.Page LocalOutboxItem → Option Cursor} {name : String}
    {texts : Json → List Json} {rest : Cursor → List LocalOutboxItem}
    (items : Paging.Page LocalOutboxItem → List LocalOutboxItem)
    (listed : ∀ cursor, (localActorOutboxPage db account.id requester 20 (page cursor).cursor).items ⊆
      outboxItems db account.id requester)
    (shows : ∀ cursor, Links.Shows rest (fun found => items found.2) 20 next cursor
      (cursor, localActorOutboxPage db account.id requester 20 (page cursor).cursor))
    (links : ∀ cursor, linkUnder name
        (outboxDocument server renderer db account.username (page cursor)
          (localActorOutboxPage db account.id requester 20 (page cursor).cursor)) =
      (next (cursor, localActorOutboxPage db account.id requester 20 (page cursor).cursor)).map
        fun later => pageLinkUrl server account.username (page later))
    (bounded : ∀ cursor later, next (cursor, localActorOutboxPage db account.id requester 20
      (page cursor).cursor) = some later → (page later).Bounded)
    (rendered : ∀ link shown, texts (outboxDocument server renderer db account.username link shown) =
      (items shown).filterMap (activity server renderer db account.username))
    (start : Cursor) (startBounded : (page start).Bounded) :
    Reads (fetchOutbox server renderer db requester account.username) name texts
      (pageLinkUrl server account.username (page start))
      ((rest start).filterMap (activity server renderer db account.username)) := by
  let load (cursor : Cursor) :=
    some (cursor, localActorOutboxPage db account.id requester 20 (page cursor).cursor)
  let render (found : Cursor × Paging.Page LocalOutboxItem) :=
    outboxDocument server renderer db account.username (page found.1) found.2
  have fetched : ∀ cursor, (page cursor).Bounded →
      fetchOutbox server renderer db requester account.username
        (pageLinkUrl server account.username (page cursor)) = (load cursor).map render :=
    fun cursor bounded => fetchOutbox_page decodes keyed served bounded (listed cursor)
  have linked : ∀ cursor found, (page cursor).Bounded → load cursor = some found →
      linkUnder name (render found) =
          (next found).map (fun later => pageLinkUrl server account.username (page later)) ∧
        ∀ later, next found = some later → (page later).Bounded := by
    intro cursor found _ loaded
    obtain rfl := Option.some.inj loaded
    exact ⟨links cursor, bounded cursor⟩
  refine ⟨(rest start).length + 1, fun rounds enough => ?_⟩
  obtain ⟨pages, followed, collected⟩ := Links.follow_pages (by decide)
    (fun cursor => (page cursor).Bounded) (fun cursor _ => ⟨_, rfl, shows cursor⟩)
    (fun cursor found bounded loaded => (linked cursor found bounded loaded).2) enough startBounded
  have simulated := Links.follow_map (fun cursor => (page cursor).Bounded) fetched linked rounds
    startBounded
  rw [followed, Option.map_some] at simulated
  refine ⟨pages.map render, simulated, ?_⟩
  rw [List.flatMap_map, ← collected, List.filterMap_flatMap]
  simp only [render, rendered]

/-!
### Downwards
-/

/-- The items that are left at a cursor of `next` links. -/
def below (db : OutboxDb) (account : LocalAccount) (requester : Option AccountId)
    (cursor : Option Nat) : List LocalOutboxItem :=
  Keyset.after (OrderDual.toDual ∘ LocalOutboxItem.cursor) (cursor.map OrderDual.toDual)
    (newestItems db account.id requester)

theorem page_down (keyed : db.Keyed) (cursor : Option Nat) :
    (localActorOutboxPage db account.id requester 20 (down cursor).cursor).items =
      (below db account requester cursor).take 20 := by
  rw [down_cursor, page_before keyed]
  rfl

theorem below_subset (cursor : Option Nat) :
    below db account requester cursor ⊆ outboxItems db account.id requester := by
  intro item member
  refine mem_newestItems.mp ?_
  cases cursor with
  | none => exact member
  | some cursor => exact (List.mem_filter.mp member).1

/-- The cursor after a page of `next` links: that of the last item of a full page. -/
def nextCursor (found : Option Nat × Paging.Page LocalOutboxItem) : Option (Option Nat) :=
  if found.2.items.length = 20 then found.2.lastCursor.map some else none

theorem shows_below (keyed : db.Keyed) (cursor : Option Nat) :
    Links.Shows (below db account requester) (fun found => found.2.items) 20 nextCursor cursor
      (cursor, localActorOutboxPage db account.id requester 20 (down cursor).cursor) := by
  have items := @page_down db account requester keyed cursor
  refine ⟨items, ?_, ?_⟩
  · intro later named
    unfold nextCursor at named
    split at named
    · rw [localActorOutboxPage_lastCursor, items] at named
      obtain ⟨_, last, rfl⟩ := Option.map_eq_some_iff.mp named
      obtain ⟨row, isLast, rfl⟩ := Option.map_eq_some_iff.mp last
      refine ⟨?_, Keyset.after_take (newestItems_arranged keyed) isLast⟩
      intro none
      rw [none] at isLast
      cases isLast
    · cases named
  · intro named
    unfold nextCursor at named
    split at named
    · rename_i full
      rw [localActorOutboxPage_lastCursor, Option.map_map, Option.map_eq_none_iff,
        List.getLast?_eq_none_iff] at named
      rw [named] at full
      cases full
    · rename_i short
      rw [items, List.length_take] at short
      omega

theorem nextCursor_bounded (keyed : db.Keyed) {cursor later : Option Nat}
    (named : nextCursor (cursor, localActorOutboxPage db account.id requester 20
      (down cursor).cursor) = some later) : (down later).Bounded := by
  unfold nextCursor at named
  split at named
  · rw [localActorOutboxPage_lastCursor, page_down keyed] at named
    obtain ⟨_, last, rfl⟩ := Option.map_eq_some_iff.mp named
    obtain ⟨row, isLast, rfl⟩ := Option.map_eq_some_iff.mp last
    have member := List.mem_of_mem_take (List.mem_of_getLast? isLast)
    exact (keyed.cursor_bounded (below_subset cursor member)).2
  · cases named

theorem reads_newest (decodes : FormQuery.Decodes server.formDecode) (keyed : db.Keyed)
    (served : Served server db requester account) :
    Reads (fetchOutbox server renderer db requester account.username) "next" documentItems
      (outboxUrl server account.username ++ "?page=true")
      ((newestItems db account.id requester).filterMap
        (activity server renderer db account.username)) := by
  have listed : ∀ cursor,
      (localActorOutboxPage db account.id requester 20 (down cursor).cursor).items ⊆
        outboxItems db account.id requester := by
    intro cursor
    rw [page_down keyed]
    exact fun item member => below_subset cursor (List.mem_of_mem_take member)
  rw [← pageLinkUrl_newest]
  refine reads_links decodes keyed served Paging.Page.items listed (shows_below keyed)
    (fun cursor => ?_) (fun cursor later named => nextCursor_bounded keyed named)
    documentItems_outboxDocument none trivial
  rw [linkUnder_next, length_activities keyed (listed cursor), nextCursor]
  split
  · rw [Option.map_map]
    rfl
  · rfl

/-!
### Upwards
-/

/-- The items that are left at a cursor of `prev` links. -/
def above (db : OutboxDb) (account : LocalAccount) (requester : Option AccountId) (cursor : Nat) :
    List LocalOutboxItem :=
  Keyset.after LocalOutboxItem.cursor (some cursor) (oldestItems db account.id requester)

theorem page_up (keyed : db.Keyed) (cursor : Nat) :
    (localActorOutboxPage db account.id requester 20 (up cursor).cursor).items =
      ((above db account requester cursor).take 20).reverse := by
  rw [up_cursor, page_above keyed]
  rfl

theorem above_subset (cursor : Nat) :
    above db account requester cursor ⊆ outboxItems db account.id requester :=
  fun _ member => mem_oldestItems.mp (List.mem_filter.mp member).1

theorem above_zero (keyed : db.Keyed) :
    above db account requester 0 = oldestItems db account.id requester := by
  refine List.filter_eq_self.mpr fun item member => ?_
  exact decide_eq_true (keyed.cursor_bounded (mem_oldestItems.mp member)).1

/-- The cursor after a page of `prev` links: that of its first item. -/
def prevCursor (found : Nat × Paging.Page LocalOutboxItem) : Option Nat := found.2.firstCursor

theorem prevCursor_eq_some_iff (keyed : db.Keyed) {cursor later : Nat} :
    prevCursor (cursor, localActorOutboxPage db account.id requester 20 (up cursor).cursor) =
        some later ↔
      ∃ row, ((above db account requester cursor).take 20).getLast? = some row ∧
        row.cursor = later := by
  rw [prevCursor, localActorOutboxPage_firstCursor, page_up keyed, List.head?_reverse,
    Option.map_eq_some_iff]

theorem shows_above (keyed : db.Keyed) (cursor : Nat) :
    Links.Shows (above db account requester) (fun found => found.2.items.reverse) 20 prevCursor cursor
      (cursor, localActorOutboxPage db account.id requester 20 (up cursor).cursor) := by
  refine ⟨?_, ?_, ?_⟩
  · dsimp only
    rw [page_up keyed, List.reverse_reverse]
  · intro later named
    obtain ⟨row, isLast, rfl⟩ := (prevCursor_eq_some_iff keyed).mp named
    refine ⟨?_, Keyset.after_take (oldestItems_arranged keyed) isLast⟩
    intro none
    rw [none] at isLast
    cases isLast
  · intro named
    rw [prevCursor, localActorOutboxPage_firstCursor, page_up keyed, List.head?_reverse,
      Option.map_eq_none_iff, List.getLast?_eq_none_iff, List.take_eq_nil_iff] at named
    rcases named with zero | none
    · cases zero
    · rw [none]
      exact Nat.zero_le _

theorem prevCursor_row (keyed : db.Keyed) {cursor later : Nat}
    (named : prevCursor (cursor, localActorOutboxPage db account.id requester 20
      (up cursor).cursor) = some later) : 0 < later ∧ later < 2 ^ 128 := by
  obtain ⟨row, isLast, rfl⟩ := (prevCursor_eq_some_iff keyed).mp named
  have member := List.mem_of_mem_take (List.mem_of_getLast? isLast)
  exact keyed.cursor_bounded (above_subset cursor member)

theorem up_of_pos {cursor : Nat} (positive : 0 < cursor) : up cursor = .above cursor :=
  if_neg (Nat.pos_iff_ne_zero.mp positive)

theorem reads_oldest (decodes : FormQuery.Decodes server.formDecode) (keyed : db.Keyed)
    (served : Served server db requester account) :
    Reads (fetchOutbox server renderer db requester account.username) "prev"
      (fun page => (documentItems page).reverse)
      (outboxUrl server account.username ++ "?page=true&min_id=0")
      ((oldestItems db account.id requester).filterMap
        (activity server renderer db account.username)) := by
  have listed : ∀ cursor,
      (localActorOutboxPage db account.id requester 20 (up cursor).cursor).items ⊆
        outboxItems db account.id requester := by
    intro cursor
    rw [page_up keyed]
    intro item member
    exact above_subset cursor (List.mem_of_mem_take (List.mem_reverse.mp member))
  rw [← pageLinkUrl_oldest, ← above_zero keyed]
  refine reads_links decodes keyed served (fun page => page.items.reverse) listed (shows_above keyed)
    (fun cursor => ?_) (fun cursor later named => ?_) (fun link shown => ?_) 0 trivial
  · rw [linkUnder_prev]
    cases first : prevCursor (cursor, localActorOutboxPage db account.id requester 20
        (up cursor).cursor) with
    | none =>
        rw [prevCursor] at first
        rw [first]
        rfl
    | some later =>
        have positive := (prevCursor_row keyed first).1
        rw [prevCursor] at first
        rw [first, Option.map_some, Option.map_some, up_of_pos positive]
  · obtain ⟨positive, bounded⟩ := prevCursor_row keyed named
    rw [up_of_pos positive]
    exact bounded
  · rw [documentItems_outboxDocument, List.filterMap_reverse]

/-- Every reader who is served obtains exactly what is visible to it, in either direction. -/
theorem outbox_read (decodes : FormQuery.Decodes server.formDecode) (keyed : db.Keyed)
    (served : Served server db requester account) :
    ∃ shown activities, ReadsOutbox server renderer db requester account shown activities := by
  refine ⟨newestItems db account.id requester, (newestItems db account.id requester).filterMap
    (activity server renderer db account.username), ?_, ?_, ?_, ?_, ?_, ?_⟩
  · exact fun item => mem_newestItems.trans (mem_outboxItems_iff keyed item)
  · exact (Keyset.length_arrange _ _).trans (outboxItems_length db account.id requester)
  · exact newestItems_arranged keyed
  · exact map_activity keyed fun _ member => mem_newestItems.mp member
  · exact reads_newest decodes keyed served
  · rw [newestItems_eq_reverse keyed, List.filterMap_reverse, List.reverse_reverse]
    exact reads_oldest decodes keyed served

end

/-!
## Alice's outbox
-/

namespace Sample

def alice : LocalAccount := ⟨⟨1⟩, "alice", none⟩

def renderer : Renderer where
  create username status :=
    .string (actorUrl Collections.Sample.server username ++ "/statuses/" ++
      Text.uuidText status.id.value)
  formatTimestamp micros := toString micros

/-- Alice has boosted a status of Bob and a remote one; Carol follows her. -/
def db : OutboxDb where
  localAccounts := [alice, ⟨⟨2⟩, "bob", none⟩]
  localStatuses := [⟨⟨10⟩, ⟨2⟩, .publicStatus, none⟩, ⟨⟨11⟩, ⟨1⟩, .publicStatus, none⟩,
    ⟨⟨12⟩, ⟨1⟩, .privateStatus, none⟩, ⟨⟨13⟩, ⟨1⟩, .direct, none⟩]
  remoteStatuses := [⟨⟨20⟩, "https://remote.example/notes/1", .unlisted, none⟩]
  localReblogs := [⟨14, ⟨1⟩, ⟨10⟩, 140⟩]
  remoteReblogs := [⟨15, ⟨1⟩, ⟨20⟩, "https://local.example/users/alice#announce-15", 150⟩]
  remoteMentions := []
  remoteFollows := [⟨⟨90⟩, ⟨1⟩, .accepted⟩]
  localRemoteAccountBlocks := []
  remoteLocalAccountBlocks := []

private theorem db_keyed : db.Keyed where
  distinct := by decide +kernel
  bounded := by decide +kernel
  remoteStatuses := by decide +kernel
  localReblogs := by decide +kernel
  remoteReblogs := by decide +kernel
  authors := by decide +kernel

private theorem carol_served : Served Collections.Sample.server db (some ⟨90⟩) alice where
  enabled := rfl
  found := by decide +kernel
  active := rfl
  unblocked := by decide +kernel

end Sample

open Sample in
/-- Carol reads the private status too, but not the direct one. -/
theorem sample_outbox_read :
    countLocalActorOutboxItems db alice.id (some ⟨90⟩) = 4 ∧
    ∃ shown activities, ReadsOutbox Collections.Sample.server renderer db (some ⟨90⟩) alice shown
      activities :=
  ⟨by decide +kernel, outbox_read Collections.Sample.decodes db_keyed carol_served⟩

end Roosty.Federation.Outbox
