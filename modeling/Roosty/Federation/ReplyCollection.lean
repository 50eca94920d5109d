import Roosty.Federation.RemoteStatus
import Roosty.Library.Loop
import Roosty.Library.WebUrl

/-!
# Reply collections

The loop that reads the collection of a Note's replies. The remote server decides what every
request is answered. A reference costs a request, and an embedded page costs none.
-/

set_option autoImplicit false

namespace Roosty.Federation.Status.Thread

open Library

def maxDiscoveredReplies : Nat := 5

inductive InboundReplies where
  | id (id : String)
  | object (id : Option String) (first : Option InboundReplies) (items orderedItems : List String)

/-- The parser of URLs, with what is read of a URL, the federation policy, and the derived
deserializer of collections. -/
structure CollectionServer (Url Origin : Type) where
  parse : String → Option Url
  isHttps : Url → Bool
  origin : Url → Origin
  /-- There is a host that policy allows, and there are no credentials. -/
  permitted : Url → Bool
  inboundReplies : Json → Option InboundReplies

/-- What the fetch of a URL is answered, after the URLs that were fetched before it. -/
abbrev Remote (Url : Type) := List Url → Url → Except RoostyError Json

def permanentFetchFailure (reason : String) : RoostyError :=
  .invalidInput ("permanent federation fetch failure: " ++ reason)

/-- The variables of the loop, and every reference that was fetched with its URL. -/
structure Collecting (Url : Type) where
  replies : InboundReplies
  requests : Nat
  seenReferences : List String
  fetched : List (String × Url)

def Collecting.start {Url : Type} (replies : InboundReplies) : Collecting Url :=
  ⟨replies, 0, [], []⟩

abbrev Collected (Url : Type) := List (String × Url) × Except RoostyError (List String)

section

variable {Url Origin : Type} [DecidableEq Origin] (server : CollectionServer Url Origin)

def CollectionServer.sameUrlOrigin (left right : String) : Bool :=
  match server.parse left, server.parse right with
  | some left, some right => server.isHttps left && server.origin left == server.origin right
  | _, _ => false

omit [DecidableEq Origin] in
def CollectionServer.parseRemoteFetchUrl (value : String) : Except RoostyError Url := do
  let url ← okOr (server.parse value) (permanentFetchFailure "remote status URL is invalid")
  ensure (server.isHttps url && server.permitted url)
    (permanentFetchFailure "remote status URL is rejected by federation policy")
  return url

variable (remote : Remote Url) (parentUrl : String)

/-- One round of the loop. -/
def collect (collecting : Collecting Url) : Collecting Url ⊕ Collected Url :=
  match collecting.replies with
  | .id id =>
      if 2 ≤ collecting.requests then .inr (collecting.fetched, .ok [])
      else if id ∈ collecting.seenReferences then .inr (collecting.fetched, .ok [])
      else if !server.sameUrlOrigin parentUrl id then
        .inr (collecting.fetched, .error (permanentFetchFailure
          "remote replies collection is outside the status origin"))
      else
        match server.parseRemoteFetchUrl id with
        | .error error => .inr (collecting.fetched, .error error)
        | .ok url =>
            let fetched := collecting.fetched ++ [(id, url)]
            let answer := do
              let document ← remote (collecting.fetched.map Prod.snd) url
              okOr (server.inboundReplies document)
                (permanentFetchFailure "remote replies collection is invalid")
            match answer with
            | .error error => .inr (fetched, .error error)
            | .ok replies =>
                .inl ⟨replies, collecting.requests + 1, id :: collecting.seenReferences, fetched⟩
  | .object identifier first items orderedItems =>
      let urls := ((items ++ orderedItems).filter (server.sameUrlOrigin parentUrl)).take
        maxDiscoveredReplies
      if !urls.isEmpty then .inr (collecting.fetched, .ok urls)
      else
        match first, identifier with
        | some first, _ => .inl { collecting with replies := first }
        | none, some id => .inl { collecting with replies := .id id }
        | none, none => .inr (collecting.fetched, .ok [])

end

/-!
## Rounds
-/

section

variable {Url Origin : Type} [DecidableEq Origin] {server : CollectionServer Url Origin}
  {remote : Remote Url} {parentUrl : String} {collecting next : Collecting Url}

structure Fetchable (server : CollectionServer Url Origin) (parentUrl : String)
    (collecting : Collecting Url) (id : String) (url : Url) : Prop where
  requests : collecting.requests < 2
  fresh : id ∉ collecting.seenReferences
  sameOrigin : server.sameUrlOrigin parentUrl id = true
  parsed : server.parse id = some url

structure Admissible (server : CollectionServer Url Origin) (parentUrl : String)
    (urls : List String) : Prop where
  length_le : urls.length ≤ maxDiscoveredReplies
  sameOrigin : ∀ url ∈ urls, server.sameUrlOrigin parentUrl url = true

theorem admissible_nil : Admissible server parentUrl [] := ⟨Nat.zero_le _, nofun⟩

theorem admissible_items (items : List String) :
    Admissible server parentUrl
      ((items.filter (server.sameUrlOrigin parentUrl)).take maxDiscoveredReplies) where
  length_le := List.length_take_le _ _
  sameOrigin := fun _ member => (List.mem_filter.mp (List.mem_of_mem_take member)).2

omit [DecidableEq Origin] in
theorem parse_of_parseRemoteFetchUrl {value : String} {url : Url}
    (success : server.parseRemoteFetchUrl value = .ok url) : server.parse value = some url := by
  obtain ⟨parsed, found, success⟩ := bind_ok success
  obtain ⟨_, _, success⟩ := bind_ok success
  cases success
  exact okOr_ok found

theorem sameOrigin_of_sameUrlOrigin {left right : String} {url : Url}
    (same : server.sameUrlOrigin left right = true) (parsed : server.parse right = some url) :
    ∃ other, server.parse left = some other ∧ server.isHttps other = true ∧
      server.origin other = server.origin url := by
  unfold CollectionServer.sameUrlOrigin at same
  rw [parsed] at same
  cases found : server.parse left with
  | none =>
      rw [found] at same
      cases same
  | some other =>
      rw [found, Bool.and_eq_true, beq_iff_eq] at same
      exact ⟨other, rfl, same⟩

def InboundReplies.nesting : InboundReplies → Nat
  | .id _ => 0
  | .object _ first _ _ =>
      match first with
      | some first => first.nesting + 1
      | none => 1

theorem InboundReplies.nesting_id_lt (id : String) (identifier : Option String)
    (first : Option InboundReplies) (items orderedItems : List String) :
    (InboundReplies.id id).nesting <
      (InboundReplies.object identifier first items orderedItems).nesting := by
  cases first with
  | none => exact Nat.one_pos
  | some first => exact Nat.succ_pos _

theorem collect_next (round : collect server remote parentUrl collecting = .inl next) :
    (∃ id url, Fetchable server parentUrl collecting id url ∧
      next.requests = collecting.requests + 1 ∧
      next.seenReferences = id :: collecting.seenReferences ∧
      next.fetched = collecting.fetched ++ [(id, url)]) ∨
    (next.replies.nesting < collecting.replies.nesting ∧ next.requests = collecting.requests ∧
      next.seenReferences = collecting.seenReferences ∧ next.fetched = collecting.fetched) := by
  unfold collect at round
  split at round
  next id page =>
    split at round
    next => cases round
    next unspent =>
    split at round
    next => cases round
    next fresh =>
    split at round
    next => cases round
    next sameOrigin =>
    split at round
    next => cases round
    next url parsed =>
    simp only at round
    split at round
    next => cases round
    next =>
      cases round
      exact .inl ⟨id, url, ⟨Nat.not_le.mp unspent, fresh, by simpa using sameOrigin,
        parse_of_parseRemoteFetchUrl parsed⟩, rfl, rfl, rfl⟩
  next identifier first items orderedItems page =>
    rw [page]
    simp only at round
    split at round
    next => cases round
    next =>
    split at round
    next first =>
      cases round
      exact .inr ⟨Nat.lt_succ_self _, rfl, rfl, rfl⟩
    next id =>
      cases round
      exact .inr ⟨InboundReplies.nesting_id_lt id _ _ _ _, rfl, rfl, rfl⟩
    next => cases round

theorem collect_stop {fetched : List (String × Url)} {result : Except RoostyError (List String)}
    (round : collect server remote parentUrl collecting = .inr (fetched, result)) :
    (fetched = collecting.fetched ∨
      ∃ id url, Fetchable server parentUrl collecting id url ∧
        fetched = collecting.fetched ++ [(id, url)]) ∧
      ∀ urls, result = .ok urls → Admissible server parentUrl urls := by
  unfold collect at round
  split at round
  next id page =>
    split at round
    next =>
      cases round
      exact ⟨.inl rfl, fun urls same => Except.ok.inj same ▸ admissible_nil⟩
    next unspent =>
    split at round
    next =>
      cases round
      exact ⟨.inl rfl, fun urls same => Except.ok.inj same ▸ admissible_nil⟩
    next fresh =>
    split at round
    next =>
      cases round
      exact ⟨.inl rfl, nofun⟩
    next sameOrigin =>
    split at round
    next =>
      cases round
      exact ⟨.inl rfl, nofun⟩
    next url parsed =>
    simp only at round
    split at round
    next =>
      cases round
      exact ⟨.inr ⟨id, url, ⟨Nat.not_le.mp unspent, fresh, by simpa using sameOrigin,
        parse_of_parseRemoteFetchUrl parsed⟩, rfl⟩, nofun⟩
    next => cases round
  next identifier first items orderedItems page =>
    simp only at round
    split at round
    next =>
      cases round
      exact ⟨.inl rfl, fun urls same => Except.ok.inj same ▸ admissible_items _⟩
    next =>
    split at round
    next => cases round
    next => cases round
    next =>
      cases round
      exact ⟨.inl rfl, fun urls same => Except.ok.inj same ▸ admissible_nil⟩

/-!
## The whole loop
-/

/-- Every fetch is of a URL of the parent's origin, and of a reference of its own. -/
structure Fetches (server : CollectionServer Url Origin) (parentUrl : String)
    (fetched : List (String × Url)) : Prop where
  parsed : ∀ request ∈ fetched, server.parse request.1 = some request.2
  sameOrigin : ∀ request ∈ fetched, ∃ parent, server.parse parentUrl = some parent ∧
    server.isHttps parent = true ∧ server.origin parent = server.origin request.2
  nodup : (fetched.map Prod.fst).Nodup

structure Bounded (server : CollectionServer Url Origin) (parentUrl : String)
    (collecting : Collecting Url) : Prop where
  length : collecting.fetched.length = collecting.requests
  requests_le : collecting.requests ≤ 2
  seen : ∀ id, id ∈ collecting.seenReferences ↔ id ∈ collecting.fetched.map Prod.fst
  fetches : Fetches server parentUrl collecting.fetched

omit [DecidableEq Origin] in
theorem bounded_start (replies : InboundReplies) :
    Bounded server parentUrl (.start replies) where
  length := rfl
  requests_le := Nat.zero_le 2
  seen := fun _ => Iff.rfl
  fetches := ⟨nofun, nofun, List.nodup_nil⟩

theorem Bounded.snoc {id : String} {url : Url} (bounded : Bounded server parentUrl collecting)
    (fetchable : Fetchable server parentUrl collecting id url) :
    Fetches server parentUrl (collecting.fetched ++ [(id, url)]) where
  parsed := by
    intro request member
    rcases List.mem_append.mp member with before | now
    · exact bounded.fetches.parsed request before
    · obtain rfl := List.mem_singleton.mp now
      exact fetchable.parsed
  sameOrigin := by
    intro request member
    rcases List.mem_append.mp member with before | now
    · exact bounded.fetches.sameOrigin request before
    · obtain rfl := List.mem_singleton.mp now
      exact sameOrigin_of_sameUrlOrigin fetchable.sameOrigin fetchable.parsed
  nodup := by
    rw [List.map_append, List.map_singleton, ← List.concat_eq_append]
    exact bounded.fetches.nodup.concat fun member => fetchable.fresh ((bounded.seen id).mpr member)

theorem Bounded.round (bounded : Bounded server parentUrl collecting)
    (goesOn : collect server remote parentUrl collecting = .inl next) :
    Bounded server parentUrl next := by
  rcases collect_next goesOn with ⟨id, url, fetchable, requests, seen, fetched⟩ |
    ⟨_, requests, seen, fetched⟩
  · constructor
    · rw [fetched, requests, List.length_append, bounded.length, List.length_singleton]
    · rw [requests]
      exact fetchable.requests
    · intro other
      rw [seen, fetched, List.map_append, List.mem_cons, List.mem_append, bounded.seen other,
        or_comm, List.map_singleton, List.mem_singleton]
    · rw [fetched]
      exact bounded.snoc fetchable
  · constructor
    · rw [fetched, requests, bounded.length]
    · rw [requests]
      exact bounded.requests_le
    · rw [seen, fetched]
      exact bounded.seen
    · rw [fetched]
      exact bounded.fetches

theorem Bounded.stop {fetched : List (String × Url)} {result : Except RoostyError (List String)}
    (bounded : Bounded server parentUrl collecting)
    (round : collect server remote parentUrl collecting = .inr (fetched, result)) :
    fetched.length ≤ 2 ∧ Fetches server parentUrl fetched ∧
      ∀ urls, result = .ok urls → Admissible server parentUrl urls := by
  obtain ⟨rfl | ⟨id, url, fetchable, rfl⟩, admissible⟩ := collect_stop round
  · exact ⟨bounded.length.trans_le bounded.requests_le, bounded.fetches, admissible⟩
  · refine ⟨?_, bounded.snoc fetchable, admissible⟩
    rw [List.length_append, bounded.length, List.length_singleton]
    exact fetchable.requests

def Progress : Collecting Url → Collecting Url → Prop :=
  InvImage (Prod.Lex (· < ·) (· < ·)) fun collecting =>
    (2 - collecting.requests, collecting.replies.nesting)

theorem progress_wellFounded : WellFounded (@Progress Url) :=
  InvImage.wf _ (Prod.lex ⟨_, Nat.lt_wfRel.wf⟩ ⟨_, Nat.lt_wfRel.wf⟩).wf

theorem collect_progress (round : collect server remote parentUrl collecting = .inl next) :
    Progress next collecting := by
  rcases collect_next round with ⟨id, url, fetchable, requests, _, _⟩ | ⟨nesting, requests, _, _⟩
  · refine Prod.Lex.left _ _ ?_
    have unspent := fetchable.requests
    rw [requests]
    omega
  · unfold Progress InvImage
    simp only [requests]
    exact Prod.Lex.right _ nesting

/-- Whatever the remote server answers, the loop ends after at most two fetches, of
references of the parent's origin that differ as texts, and returns few URLs of that
origin. -/
theorem reply_collection_bounded (server : CollectionServer Url Origin) (remote : Remote Url)
    (parentUrl : String) (replies : InboundReplies) :
    ∃ fetched result,
      Loop.Returns (collect server remote parentUrl) (.start replies) (fetched, result) ∧
      fetched.length ≤ 2 ∧ Fetches server parentUrl fetched ∧
      ∀ urls, result = .ok urls → Admissible server parentUrl urls := by
  have descends : ∀ collecting next, collect server remote parentUrl collecting = .inl next →
      Progress next collecting := fun _ _ goesOn => collect_progress goesOn
  obtain ⟨⟨fetched, result⟩, returns⟩ :=
    Loop.exists_returns_of_wellFounded progress_wellFounded descends (.start replies)
  have keeps : ∀ collecting next, Bounded server parentUrl collecting →
      collect server remote parentUrl collecting = .inl next → Bounded server parentUrl next :=
    fun _ _ bounded goesOn => bounded.round goesOn
  obtain ⟨last, bounded, stops⟩ := returns.invariant keeps (bounded_start replies)
  exact ⟨fetched, result, returns, bounded.stop stops⟩

end

namespace Sample

def parsers : WebUrl.Parsers (List Char) where
  parseHost host := some (Text.toAsciiLowercase host)
  parseAbsolute _ _ := none
  parseAbsolute_scheme := nofun

def parse (text : String) : Option (WebUrl.Url (List Char)) := do
  let (scheme, rest) ← WebUrl.splitScheme (WebUrl.cleaned text.toList)
  WebUrl.joinAuthority parsers ⟨scheme, none, none, [], none, none⟩ rest

def collectionServer :
    CollectionServer (WebUrl.Url (List Char)) (String × Option (List Char) × Option Nat) where
  parse := parse
  isHttps url := url.scheme == "https"
  origin url := (url.scheme, url.host, url.port)
  permitted _ := true
  inboundReplies
    | .string id => some (.id id)
    | _ => none

def parentUrl : String := "https://remote.example/notes/1"

/-- The collection of replies, with and without the default port. -/
def reference : String := "https://remote.example/replies"

def portedReference : String := "https://remote.example:443/replies"

def remote : Remote (WebUrl.Url (List Char)) := fun _ _ => .ok (.string portedReference)

def url : WebUrl.Url (List Char) :=
  ⟨"https", some "remote.example".toList, none, ["replies".toList], none, none⟩

end Sample

/-- Two references may name one URL, which is then fetched twice. -/
theorem url_fetched_twice :
    ∃ fetched result, Loop.Returns
      (collect Sample.collectionServer Sample.remote Sample.parentUrl)
      (.start (.id Sample.reference)) (fetched, result) ∧ ¬ (fetched.map Prod.snd).Nodup := by
  have first : collect Sample.collectionServer Sample.remote Sample.parentUrl
      (.start (.id Sample.reference)) = .inl ⟨.id Sample.portedReference, 1, [Sample.reference],
        [(Sample.reference, Sample.url)]⟩ := rfl
  have second : collect Sample.collectionServer Sample.remote Sample.parentUrl
      ⟨.id Sample.portedReference, 1, [Sample.reference], [(Sample.reference, Sample.url)]⟩ =
        .inl ⟨.id Sample.portedReference, 2, [Sample.portedReference, Sample.reference],
          [(Sample.reference, Sample.url), (Sample.portedReference, Sample.url)]⟩ := rfl
  have third : collect Sample.collectionServer Sample.remote Sample.parentUrl
      ⟨.id Sample.portedReference, 2, [Sample.portedReference, Sample.reference],
        [(Sample.reference, Sample.url), (Sample.portedReference, Sample.url)]⟩ =
      .inr ([(Sample.reference, Sample.url), (Sample.portedReference, Sample.url)], .ok []) := rfl
  refine ⟨_, _, .next first (.next second (.stop third)), ?_⟩
  simp

end Roosty.Federation.Status.Thread
