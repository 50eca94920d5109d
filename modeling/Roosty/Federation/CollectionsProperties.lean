import Mathlib.Algebra.Group.Nat.Defs
import Roosty.Account.FollowCollectionProperties
import Roosty.Federation.Collections
import Roosty.Library.Links

/-!
# Reading follow collections

Another server follows the links from a collection to its pages. The pages of followers and
of following name their items otherwise than the outbox and the featured collection do, and
all have the same identifier.
-/

set_option autoImplicit false

namespace Roosty.Federation.Collections

open Library Account Account.FollowCollection

/-!
## A reader
-/

def nextLink (document : Json) : Option String := (document.get? "next").bind Json.asStr?

def itemsUnder (name : String) (document : Json) : List String :=
  match document.get? name with
  | some (.array items) => items.filterMap Json.asStr?
  | _ => []

def HasItems (name : String) (document : Json) : Prop :=
  ∃ items, document.get? name = some (.array items)

section

variable (server : Server) (db : FollowDb) (ids : RowIds) (list : FollowList)
variable (username : String)

def documents (rounds : Nat) : Option (List Json) := do
  let collection ← fetchFollows server db ids list username (collectionUrl server list username)
  let first ← (collection.get? "first").bind Json.asStr?
  Links.follow (fetchFollows server db ids list username) nextLink rounds first

def ReadsAs (name : String) (items : List String) : Prop :=
  ∃ enough, ∀ rounds, enough ≤ rounds →
    ∃ pages, documents server db ids list username rounds = some pages ∧
      pages.flatMap (itemsUnder name) = items

def IdentifiesPages : Prop :=
  ∀ rounds pages, documents server db ids list username rounds = some pages →
    ∀ one ∈ pages, ∀ other ∈ pages, one.get? "id" = other.get? "id" →
      ∀ name, itemsUnder name one = itemsUnder name other

/-- The pages have their items under the names of other collections. -/
def NamesItems : Prop :=
  ∀ rounds pages, documents server db ids list username rounds = some pages →
    ∀ page ∈ pages, ∀ (outbox : OutboxCollectionPage) (featured : FeaturedCollection) (name : String),
      (HasItems name page ↔ HasItems name outbox.json) ∧
        (HasItems name page ↔ HasItems name featured.json)

structure ReadsBack (account : AccountId) : Prop where
  items : ∀ entries,
    Paging.Walked (fun cursor => followPage db ids list account 20 ⟨cursor, none, none⟩) entries →
      ReadsAs server db ids list username "orderedItems" (entries.map (actorId server db))
  pages : IdentifiesPages server db ids list username
  names : NamesItems server db ids list username

end

def rowIds (db : FollowDb) (ids : RowIds) : FollowList → List Nat
  | .followers =>
      db.localFollows.map LocalFollow.id ++ db.remote.inbox.relations.follows.map ids.follow
  | .following =>
      db.localFollows.map LocalFollow.id ++ db.remote.inbox.relations.following.map ids.following

/-- Identifiers are unique, and have 128 bits. -/
structure Identified (db : FollowDb) (ids : RowIds) (list : FollowList) : Prop where
  distinct : (rowIds db ids list).Nodup
  bounded : ∀ id ∈ rowIds db ids list, id < 2 ^ 128

/-!
## Entries
-/

section

variable {server : Server} {db : FollowDb} {ids : RowIds} {list : FollowList}
variable {account : AccountId} {username : String}

def listItems (db : FollowDb) (ids : RowIds) (account : AccountId) :
    FollowList → List Timeline.FollowCollectionEntry
  | .followers =>
      Timeline.followItems (directory db) (localFollowers db account) (acceptedFollowers db account)
        (fun follow => (follow.id, follow.followerAccountId))
        (fun follow => (ids.follow follow, follow.remoteActorId))
  | .following => followingItems db ids account

theorem followPage_eq (limit : Nat) (cursor : Option Nat) :
    followPage db ids list account limit ⟨cursor, none, none⟩ =
      Paging.page Timeline.FollowCollectionEntry.id limit (limit + 1)
        ((listItems db ids account list).filter
          (Paging.before Timeline.FollowCollectionEntry.id cursor)) := by
  cases list with
  | followers => exact followCollectionPage_eq limit cursor
  | following => exact followCollectionPage_eq limit cursor

theorem listItems_ids (db : FollowDb) (ids : RowIds) (account : AccountId) (list : FollowList) :
    ((listItems db ids account list).map Timeline.FollowCollectionEntry.id).Sublist
      (rowIds db ids list) := by
  cases list with
  | followers =>
      exact (Timeline.followItems_ids ..).trans
        ((List.filter_sublist.map _).append (List.filter_sublist.map _))
  | following =>
      exact (Timeline.followItems_ids ..).trans
        ((List.filter_sublist.map _).append (List.filter_sublist.map _))

theorem Identified.items (identified : Identified db ids list) (account : AccountId) :
    ((listItems db ids account list).map Timeline.FollowCollectionEntry.id).Nodup :=
  identified.distinct.sublist (listItems_ids db ids account list)

theorem Identified.walked (identified : Identified db ids list) (account : AccountId) {limit : Nat}
    (positive : 0 < limit) :
    Paging.Walked (fun cursor => followPage db ids list account limit ⟨cursor, none, none⟩)
      (Paging.newestFirst Timeline.FollowCollectionEntry.id (listItems db ids account list)) :=
  Paging.walked_page (identified.items account) positive (followPage_eq limit)

theorem Identified.lastCursor (identified : Identified db ids list) {cursor : Option Nat}
    (more : (followPage db ids list account 20 ⟨cursor, none, none⟩).hasMore = true) :
    ∃ last, (followPage db ids list account 20 ⟨cursor, none, none⟩).lastCursor = some last ∧
      last < 2 ^ 128 := by
  rw [followPage_eq] at more ⊢
  obtain ⟨last, member, cursor⟩ := Paging.page_lastCursor (by decide) more
  refine ⟨_, cursor, identified.bounded _ ?_⟩
  exact (listItems_ids db ids account list).subset
    (List.mem_map_of_mem (List.mem_filter.mp member).1)

/-!
## Documents
-/

def pageDocument (server : Server) (db : FollowDb) (list : FollowList) (username : String)
    (page : Paging.Page Timeline.FollowCollectionEntry) : Json :=
  OrderedCollectionPage.json
    { id := pageUrl server list username none
      type := .orderedCollectionPage
      orderedItems := page.items.map (actorId server db)
      next := (if page.hasMore then page.lastCursor else none).map fun cursor =>
        pageUrl server list username (some cursor) }

theorem OrderedCollectionPage.json_id (page : OrderedCollectionPage) :
    page.json.get? "id" = some (.string page.id) := by
  simp [OrderedCollectionPage.json, serialize, RenameRule.apply, Json.member?_cons]

theorem OrderedCollectionPage.json_items (page : OrderedCollectionPage) :
    page.json.get? "ordered_items" = some (.array (page.orderedItems.map .string)) := by
  simp [OrderedCollectionPage.json, serialize, RenameRule.apply, Json.member?_cons]

theorem OrderedCollectionPage.json_next (page : OrderedCollectionPage) :
    page.json.get? "next" = page.next.map .string := by
  cases next : page.next with
  | none => simp [OrderedCollectionPage.json, serialize, RenameRule.apply, Json.member?_cons, next]
  | some link =>
      simp [OrderedCollectionPage.json, serialize, RenameRule.apply, Json.member?_cons, next]

theorem OrderedCollectionPage.json_orderedItems (page : OrderedCollectionPage) :
    page.json.get? "orderedItems" = none := by
  cases next : page.next with
  | none => simp [OrderedCollectionPage.json, serialize, RenameRule.apply, Json.member?_cons, next]
  | some link =>
      simp [OrderedCollectionPage.json, serialize, RenameRule.apply, Json.member?_cons, next]

theorem FeaturedCollection.json_orderedItems (collection : FeaturedCollection) :
    collection.json.get? "orderedItems" = some (.array collection.orderedItems) := by
  have id : RenameRule.camelCase.apply "id" ≠ "orderedItems" := by decide
  have type : RenameRule.camelCase.apply "type" ≠ "orderedItems" := by decide
  have total : RenameRule.camelCase.apply "total_items" ≠ "orderedItems" := by decide
  have items : RenameRule.camelCase.apply "ordered_items" = "orderedItems" := by decide
  simp [FeaturedCollection.json, serialize, Json.member?_cons, id, type, total, items]

theorem OutboxCollectionPage.json_orderedItems (page : OutboxCollectionPage) :
    page.json.get? "orderedItems" = some (.array page.orderedItems) := by
  have id : RenameRule.camelCase.apply "id" ≠ "orderedItems" := by decide
  have type : RenameRule.camelCase.apply "type" ≠ "orderedItems" := by decide
  have part : RenameRule.camelCase.apply "part_of" ≠ "orderedItems" := by decide
  have total : RenameRule.camelCase.apply "total_items" ≠ "orderedItems" := by decide
  have items : RenameRule.camelCase.apply "ordered_items" = "orderedItems" := by decide
  simp [OutboxCollectionPage.json, serialize, Json.member?_cons, id, type, part, total, items]

theorem Collection.json_first (collection : Collection) :
    collection.json.get? "first" = collection.first.map .string := by
  have id : RenameRule.camelCase.apply "id" ≠ "first" := by decide
  have type : RenameRule.camelCase.apply "type" ≠ "first" := by decide
  have total : RenameRule.camelCase.apply "total_items" ≠ "first" := by decide
  have named : RenameRule.camelCase.apply "first" = "first" := by decide
  cases first : collection.first with
  | none => simp [Collection.json, serialize, Json.member?_cons, id, type, total, first]
  | some link => simp [Collection.json, serialize, Json.member?_cons, id, type, total, named, first]

theorem itemsUnder_ordered_items (page : Paging.Page Timeline.FollowCollectionEntry) :
    itemsUnder "ordered_items" (pageDocument server db list username page) =
      page.items.map (actorId server db) := by
  rw [itemsUnder, pageDocument, OrderedCollectionPage.json_items]
  simp [List.filterMap_map, Function.comp_def, Json.asStr?]

theorem itemsUnder_orderedItems (page : Paging.Page Timeline.FollowCollectionEntry) :
    itemsUnder "orderedItems" (pageDocument server db list username page) = [] := by
  rw [itemsUnder, pageDocument, OrderedCollectionPage.json_orderedItems]

theorem nextLink_pageDocument (page : Paging.Page Timeline.FollowCollectionEntry) :
    nextLink (pageDocument server db list username page) =
      (if page.hasMore then page.lastCursor else none).map fun cursor =>
        pageUrl server list username (some cursor) := by
  rw [nextLink, pageDocument, OrderedCollectionPage.json_next]
  cases (if page.hasMore then page.lastCursor else none) with
  | none => rfl
  | some cursor => rfl

/-!
## Requests
-/

theorem fetch_self (collection : String) (serve : Option String → Option Json) :
    fetch collection serve collection = serve none := if_pos rfl

theorem fetch_query (collection : String) (serve : Option String → Option Json) (query : String) :
    fetch collection serve (collection ++ "?" ++ query) = serve (some query) := by
  have other : collection ++ "?" ++ query ≠ collection := by
    intro same
    have lengths := congrArg (List.length ∘ String.toList) same
    simp at lengths
  have stripped : (collection ++ "?").toList.isPrefixOf? (collection ++ "?" ++ query).toList =
      some query.toList := by
    rw [List.isPrefixOf?_eq_some_iff_append_eq, ← String.toList_append]
  unfold fetch
  rw [if_neg other, stripped, Option.bind_some, String.ofList_toList]

section

theorem fetchFollows_collection
    (found : accountForCollection server db username = some account) :
    ∃ document, fetchFollows server db ids list username (collectionUrl server list username) =
      some document ∧
        (document.get? "first").bind Json.asStr? = some (pageUrl server list username none) := by
  have query : collectionQuery server none = some ⟨none, none⟩ := by
    have nothing : FormQuery.formPairs server.formDecode "" = [] := by
      simp [FormQuery.formPairs]
    unfold collectionQuery
    rw [Option.getD_none, nothing]
    rfl
  let collection : Collection :=
    { id := collectionUrl server list username
      type := .collection
      totalItems := followCount db list account
      first := some (pageUrl server list username none) }
  refine ⟨collection.json, ?_, ?_⟩
  · rw [fetchFollows, fetch_self, serveFollows, query, found]
    rfl
  · rw [Collection.json_first]
    rfl

variable (decodes : FormQuery.Decodes server.formDecode)
variable (found : accountForCollection server db username = some account)

include decodes

theorem collectionQuery_page :
    collectionQuery server (some "page=true") = some ⟨some true, none⟩ := by
  have text : "page=true" = FormQuery.formQuery [("page", "true")] := by decide
  have pairs := FormQuery.formPairs_formQuery decodes (List.cons_ne_nil ("page", "true") [])
    (by decide)
  unfold collectionQuery
  rw [Option.getD_some, text, pairs]
  decide

theorem collectionQuery_maxId {cursor : Nat} (bounded : cursor < 2 ^ 128) :
    collectionQuery server (some ("page=true&max_id=" ++ Text.uuidText cursor)) =
      some ⟨some true, some cursor⟩ := by
  have text : "page=true&max_id=" ++ Text.uuidText cursor =
      FormQuery.formQuery [("page", "true"), ("max_id", Text.uuidText cursor)] := by
    refine String.toList_injective ?_
    simp [FormQuery.formQuery, FormQuery.piece, List.intercalate]
  have plain : ∀ pair ∈ [("page", "true"), ("max_id", Text.uuidText cursor)],
      FormQuery.Plain pair.1.toList ∧ FormQuery.Plain pair.2.toList := by
    intro pair member
    rcases List.mem_cons.mp member with rfl | last
    · decide
    · rw [List.mem_singleton.mp last]
      exact ⟨(by decide : FormQuery.Plain "max_id".toList), FormQuery.plain_uuidText cursor⟩
  have pairs := FormQuery.formPairs_formQuery decodes (List.cons_ne_nil _ _) plain
  unfold collectionQuery
  rw [Option.getD_some, text, pairs]
  simp [FormQuery.formField, FormQuery.parseBool, Text.parseUuid_uuidText bounded]

include found

theorem fetchFollows_page {cursor : Option Nat} (bounded : ∀ value, cursor = some value →
    value < 2 ^ 128) :
    fetchFollows server db ids list username (pageUrl server list username cursor) =
      some (pageDocument server db list username
        (followPage db ids list account 20 ⟨cursor, none, none⟩)) := by
  cases cursor with
  | none =>
      have url : pageUrl server list username none =
          collectionUrl server list username ++ "?" ++ "page=true" := by
        refine String.toList_injective ?_
        simp [pageUrl]
      rw [url, fetchFollows, fetch_query, serveFollows, collectionQuery_page decodes, found]
      rfl
  | some value =>
      have url : pageUrl server list username (some value) =
          collectionUrl server list username ++ "?" ++
            ("page=true&max_id=" ++ Text.uuidText value) := by
        refine String.toList_injective ?_
        simp [pageUrl]
      rw [url, fetchFollows, fetch_query, serveFollows,
        collectionQuery_maxId decodes (bounded value rfl), found]
      rfl

/-!
## Readings
-/

theorem documents_eq (identified : Identified db ids list) (rounds : Nat) :
    documents server db ids list username rounds =
      (Links.follow (fun cursor => some (followPage db ids list account 20 ⟨cursor, none, none⟩))
        Links.nextPage rounds none).map (List.map (pageDocument server db list username)) := by
  obtain ⟨document, served, first⟩ :=
    @fetchFollows_collection server db ids list account username found
  unfold documents
  rw [served]
  simp only [Option.bind_eq_bind, Option.bind_some, first]
  refine Links.follow_map (fun cursor => ∀ value, cursor = some value → value < 2 ^ 128)
    (fun cursor bounded => fetchFollows_page decodes found bounded) ?_ rounds (by simp)
  intro cursor page _ loaded
  obtain rfl := Option.some.inj loaded
  rw [nextLink_pageDocument, Links.nextPage]
  cases more : (followPage db ids list account 20 ⟨cursor, none, none⟩).hasMore with
  | false => simp
  | true =>
      obtain ⟨last, named, bounded⟩ := identified.lastCursor more
      simpa [named] using bounded

theorem documents_walked (identified : Identified db ids list)
    {entries : List Timeline.FollowCollectionEntry}
    (walked : Paging.Walked
      (fun cursor => followPage db ids list account 20 ⟨cursor, none, none⟩) entries) :
    ∃ enough, ∀ rounds, enough ≤ rounds → ∃ pages : List (Paging.Page _),
      documents server db ids list username rounds =
        some (pages.map (pageDocument server db list username)) ∧
      pages.flatMap Paging.Page.items = entries := by
  obtain ⟨enough, walked⟩ := walked
  refine ⟨enough, fun rounds more => ?_⟩
  have collected := walked rounds more
  rw [Links.walk_eq_follow] at collected
  obtain ⟨pages, followed, items⟩ := Option.map_eq_some_iff.mp collected
  exact ⟨pages, by rw [documents_eq decodes found identified, followed, Option.map_some], items⟩

theorem readsAs_ordered_items (identified : Identified db ids list)
    {entries : List Timeline.FollowCollectionEntry}
    (walked : Paging.Walked
      (fun cursor => followPage db ids list account 20 ⟨cursor, none, none⟩) entries) :
    ReadsAs server db ids list username "ordered_items" (entries.map (actorId server db)) := by
  obtain ⟨enough, read⟩ := documents_walked decodes found identified walked
  refine ⟨enough, fun rounds more => ?_⟩
  obtain ⟨pages, met, rfl⟩ := read rounds more
  refine ⟨_, met, ?_⟩
  rw [List.flatMap_map, List.map_flatMap]
  simp only [itemsUnder_ordered_items]

theorem readsAs_orderedItems (identified : Identified db ids list) :
    ReadsAs server db ids list username "orderedItems" [] := by
  obtain ⟨enough, read⟩ := documents_walked decodes found identified
    (identified.walked account (by decide))
  refine ⟨enough, fun rounds more => ?_⟩
  obtain ⟨pages, met, _⟩ := read rounds more
  refine ⟨_, met, ?_⟩
  simp only [List.flatMap_map, itemsUnder_orderedItems, List.flatMap_eq_nil_iff, implies_true]

theorem documents_first (identified : Identified db ids list) {rounds : Nat} {pages : List Json}
    (met : documents server db ids list username rounds = some pages) :
    ∃ rest, pages = pageDocument server db list username
        (followPage db ids list account 20 ⟨none, none, none⟩) :: rest ∧
      ((followPage db ids list account 20 ⟨none, none, none⟩).hasMore = false → rest = []) ∧
      ∀ last, (followPage db ids list account 20 ⟨none, none, none⟩).hasMore = true →
        (followPage db ids list account 20 ⟨none, none, none⟩).lastCursor = some last →
          ∃ further, rest = pageDocument server db list username
            (followPage db ids list account 20 ⟨some last, none, none⟩) :: further := by
  rw [documents_eq decodes found identified] at met
  obtain ⟨loaded, followed, rfl⟩ := Option.map_eq_some_iff.mp met
  obtain ⟨first, rest, fetched, rfl, ended⟩ := Links.follow_cases followed
  obtain rfl := Option.some.inj fetched
  refine ⟨_, rfl, ?_, ?_⟩
  · intro last
    rcases ended with ⟨_, rfl⟩ | ⟨later, _, named, _⟩
    · rfl
    · rw [Links.nextPage, last] at named
      cases named
  · intro last more cursor
    rcases ended with ⟨none, _⟩ | ⟨later, fewer, named, behind⟩
    · rw [Links.nextPage, more] at none
      cases none
    · rw [Links.nextPage, more, if_pos rfl, cursor] at named
      obtain rfl := Option.some.inj named
      obtain ⟨second, further, fetched, rfl, _⟩ := Links.follow_cases behind
      obtain rfl := Option.some.inj fetched
      exact ⟨_, rfl⟩

theorem exists_documents (identified : Identified db ids list) :
    ∃ rounds pages, documents server db ids list username rounds = some pages := by
  obtain ⟨enough, read⟩ := documents_walked decodes found identified
    (identified.walked account (by decide))
  obtain ⟨pages, met, _⟩ := read enough le_rfl
  exact ⟨enough, _, met⟩

theorem not_namesItems (identified : Identified db ids list) :
    ¬NamesItems server db ids list username := by
  intro names
  obtain ⟨rounds, pages, met⟩ := exists_documents decodes found identified
  obtain ⟨rest, rfl, _⟩ := documents_first decodes found identified met
  obtain ⟨_, featured⟩ := names rounds _ met _ List.mem_cons_self
    ⟨"", .orderedCollectionPage, "", 0, [], none, none⟩ ⟨"", .orderedCollection, 0, []⟩
    "orderedItems"
  obtain ⟨items, present⟩ := featured.mpr ⟨_, FeaturedCollection.json_orderedItems _⟩
  rw [pageDocument, OrderedCollectionPage.json_orderedItems] at present
  cases present

theorem identifiesPages_iff (identified : Identified db ids list)
    {entries : List Timeline.FollowCollectionEntry}
    (walked : Paging.Walked
      (fun cursor => followPage db ids list account 20 ⟨cursor, none, none⟩) entries)
    (once : (entries.map (actorId server db)).Nodup) :
    IdentifiesPages server db ids list username ↔ entries.length ≤ 20 := by
  obtain rfl := walked.unique (identified.walked account (by decide))
  generalize rowsEq : listItems db ids account list = rows at once ⊢
  have everything : rows.filter (Paging.before Timeline.FollowCollectionEntry.id none) = rows :=
    List.filter_eq_self.mpr fun _ _ => rfl
  have distinct := identified.items account
  have load := @followPage_eq db ids list account 20
  rw [rowsEq] at load distinct
  have start := load none
  rw [everything] at start
  rw [Paging.length_newestFirst]
  constructor
  · intro identifies
    by_contra many
    have inside : 19 < (Paging.newestFirst Timeline.FollowCollectionEntry.id rows).length := by
      rw [Paging.length_newestFirst]
      omega
    obtain ⟨front, row, back, sorted, size⟩ := Paging.exists_split inside
    have further : back ≠ [] := by
      rintro rfl
      have counted := congrArg List.length sorted
      rw [Paging.length_newestFirst, List.length_append, List.length_singleton, size] at counted
      omega
    obtain ⟨more, items, last⟩ := Paging.page_next sorted further
    rw [size, ← start] at more items last
    have behind := @Paging.newestFirst_behind _ _ _ _ _ _ none distinct (by rw [everything, sorted])
    have second := load (some row.id)
    obtain ⟨rounds, pages, met⟩ := exists_documents decodes found identified
    obtain ⟨rest, rfl, _, next⟩ := documents_first decodes found identified met
    obtain ⟨rest, rfl⟩ := next _ more last
    have same := identifies rounds _ met _ List.mem_cons_self _
      (List.mem_cons_of_mem _ List.mem_cons_self)
      (by rw [pageDocument, pageDocument, OrderedCollectionPage.json_id,
        OrderedCollectionPage.json_id]) "ordered_items"
    rw [itemsUnder_ordered_items, itemsUnder_ordered_items, items, second, Paging.page_items,
      behind] at same
    -- the first item of the second page would stand on the first page, too
    obtain ⟨entry, others, rfl⟩ := List.exists_cons_of_ne_nil further
    have again : actorId server db entry ∈ (front ++ [row]).map (actorId server db) := by
      rw [same]
      exact List.mem_map_of_mem List.mem_cons_self
    rw [sorted, List.append_cons, List.map_append, List.nodup_append] at once
    exact once.2.2 _ again _ (List.mem_map_of_mem List.mem_cons_self) rfl
  · intro few rounds pages met
    obtain ⟨rest, rfl, ended, _⟩ := documents_first decodes found identified met
    have last : (followPage db ids list account 20 ⟨none, none, none⟩).hasMore = false := by
      rw [start, Bool.eq_false_iff]
      intro more
      exact absurd ((Paging.page_hasMore ..).mp more) (Nat.not_lt.mpr few)
    obtain rfl := ended last
    intro one first other second _ name
    rw [List.mem_singleton.mp first, List.mem_singleton.mp second]

/-- No follow collection is read back. A reader of ActivityStreams obtains no items; one that
expects the name in the documents obtains all; and the identifiers of pages differ as long as
there is one page. -/
theorem follow_collections_unreadable (identified : Identified db ids list) :
    ¬ReadsBack server db ids list username account ∧
    ∃ entries, Paging.Walked
        (fun cursor => followPage db ids list account 20 ⟨cursor, none, none⟩) entries ∧
      ReadsAs server db ids list username "orderedItems" [] ∧
      ReadsAs server db ids list username "ordered_items" (entries.map (actorId server db)) ∧
      ((entries.map (actorId server db)).Nodup →
        (IdentifiesPages server db ids list username ↔ entries.length ≤ 20)) := by
  have walked := identified.walked account (by decide : 0 < 20)
  refine ⟨fun reads => not_namesItems decodes found identified reads.names, _, walked, ?_, ?_, ?_⟩
  · exact readsAs_orderedItems decodes found identified
  · exact readsAs_ordered_items decodes found identified walked
  · exact identifiesPages_iff decodes found identified walked

end

end

/-!
## Bob's collections
-/

namespace Sample

open FollowCollection.Sample

def formDecode (text : List Char) : String :=
  String.ofList (text.map fun letter => if letter = '+' then ' ' else letter)

def server : Server where
  federationEnabled := true
  publicUrl path := "https://local.example/" ++ path
  formDecode := formDecode

def db : FollowDb := followings.run start followed

theorem decodes : FormQuery.Decodes server.formDecode := by
  intro text plain
  refine congrArg String.ofList ?_
  refine (List.map_congr_left fun letter member => ?_).trans (List.map_id text)
  rw [if_neg (plain letter member).1, id]

private theorem db_identified : Identified db ids .following where
  distinct := by decide +kernel
  bounded := by decide +kernel

end Sample

open Sample in
theorem sample_unreadable :
    ¬ReadsBack server db FollowCollection.Sample.ids .following "bob" Migration.bob ∧
    ∃ entries, Paging.Walked (fun cursor =>
        followPage db FollowCollection.Sample.ids .following Migration.bob 20
          ⟨cursor, none, none⟩) entries ∧
      ReadsAs server db FollowCollection.Sample.ids .following "bob" "orderedItems" [] ∧
      ReadsAs server db FollowCollection.Sample.ids .following "bob" "ordered_items"
        (entries.map (actorId server db)) ∧
      ((entries.map (actorId server db)).Nodup →
        (IdentifiesPages server db FollowCollection.Sample.ids .following "bob" ↔
          entries.length ≤ 20)) :=
  follow_collections_unreadable Sample.decodes (by decide +kernel) Sample.db_identified

open Sample in
/-- Bob's page has two items, under a name of its own. -/
theorem bob_unreadable :
    ((documents server db FollowCollection.Sample.ids .following "bob" 2).map
        (List.flatMap (itemsUnder "ordered_items")) =
        some ["https://local.example/users/carol", "https://remote.example/users/alice"] ∧
      (documents server db FollowCollection.Sample.ids .following "bob" 2).map
        (List.flatMap (itemsUnder "orderedItems")) = some []) ∧
    ¬ReadsBack server db FollowCollection.Sample.ids .following "bob" Migration.bob := by
  refine ⟨by decide +kernel, fun reads => ?_⟩
  exact @not_namesItems server db _ .following Migration.bob "bob" Sample.decodes
    (by decide +kernel) Sample.db_identified reads.names

end Roosty.Federation.Collections
