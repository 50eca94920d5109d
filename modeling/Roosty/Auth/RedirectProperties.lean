import Roosty.Auth.Redirect
import Roosty.Library.WebUrlProperties

/-!
# Where a login leads to

The value after its slash is joined with the base URL as a reference of its own: it may
name a scheme or an authority, and blanks in front of it are dropped. It stays on the site
where it is a plain path, or where its dot segments climb over all that was misread.
-/

set_option autoImplicit false

namespace Roosty.Auth.Access

open Library WebUrl

variable {Host : Type} {parsers : Parsers Host} {base : PublicBaseUrl Host}

/-!
## The law
-/

def absolutePath (value : List Char) : List (List Char) × Option (List Char) :=
  let text := dropSlash (cleanedEnd value)
  (resolvePath [] (segments (pathPart text)), queryOf text)

/-- A value that `sanitizeNext` accepts is a slash and this rest. -/
def AcceptsNext (next : Option String) (rest : List Char) : Prop :=
  (next.getD "/").toList = '/' :: rest ∧ rest.head? ≠ some '/'

/-- The location has the origin of the base URL, and the path and the query of an accepted
value. -/
structure StaysOnSite (base : PublicBaseUrl Host) (next : Option String)
    (location : Location Host) : Prop where
  scheme : location.target.scheme = base.url.scheme
  host : location.target.host = base.url.host
  port : location.target.port = base.url.port
  path : ∀ rest, AcceptsNext next rest →
    (location.target.path, location.target.query) = absolutePath ('/' :: rest)

/-- Where the join fails, the text follows the base URL's, which ends in a slash, in a query
or in a fragment. -/
def FollowsBase (base : PublicBaseUrl Host) (text : List Char) : Prop :=
  match base.fragment, base.query with
  | some _, query => resolvePath [] (segments (pathPart text)) = [[]] ∧ queryOf text = query
  | none, some _ => False
  | none, none => 1 ≤ climb (segments (pathPart text))

/-- The path after the authority climbs over the authority and all before it. -/
def ClimbsOver (text path : List Char) : Prop :=
  ∃ front slash below, text = front ++ slash :: below ∧ path = slash :: below ∧
    isSlash slash = true ∧ depth (segments front) ≤ climb (segments (pathPart below))

def RestStays (parsers : Parsers Host) (base : PublicBaseUrl Host) (rest : List Char) : Prop :=
  let text := cleanedEnd rest
  match reference "https" (cleaned rest) with
  | .elsewhere scheme after => parsers.parseAbsolute scheme after = none ∧ FollowsBase base text
  | .under after =>
      if namesAuthority after then
        match readAuthority parsers "https" (after.dropWhile isSlash) with
        | none => FollowsBase base text
        | some (host, port, path) => host = base.host ∧ port = base.port ∧ ClimbsOver text path
      else
        (BeginsPath text ∧ (base.query = none ∨ ∃ first, text.head? = some first ∧ first ≠ '#')) ∨
          1 ≤ climb (segments (pathPart text)).tail

/-!
## Texts that follow the base URL
-/

theorem cleanedEnd_slash (rest : List Char) : cleanedEnd ('/' :: rest) = '/' :: cleanedEnd rest :=
  cleanedEnd_cons (by decide) (by decide) rest

theorem absolutePath_slash (rest : List Char) :
    absolutePath ('/' :: rest) =
      (resolvePath [] (segments (pathPart (cleanedEnd rest))), queryOf (cleanedEnd rest)) := by
  rw [absolutePath, cleanedEnd_slash]
  rfl

theorem appended_origin (url : Url Host) (text : List Char) :
    (appended url text).scheme = url.scheme ∧ (appended url text).host = url.host ∧
      (appended url text).port = url.port := by
  unfold appended
  split
  · exact ⟨rfl, rfl, rfl⟩
  · exact ⟨rfl, rfl, rfl⟩
  · exact ⟨rfl, rfl, rfl⟩

theorem length_le_utf8PercentEncode (encoded : Char → Bool) (text : List Char) :
    text.length ≤ (utf8PercentEncode encoded text).length := by
  induction text with
  | nil => exact Nat.zero_le _
  | cons first text ih =>
      have one := utf8PercentEncode_ne_nil encoded (List.cons_ne_nil first [])
      have split := utf8PercentEncode_append encoded [first] text
      rw [List.singleton_append] at split
      rw [split, List.length_append, List.length_cons]
      have positive := List.length_pos_iff.mpr one
      omega

theorem query_ne_queryOf (query text : List Char) :
    some (query ++ utf8PercentEncode specialQuerySet (('/' :: text).takeWhile (· != '#'))) ≠
      queryOf text := by
  unfold queryOf
  split
  · rename_i after found
    intro same
    have whole : ('/' :: text).takeWhile (· != '#') =
        '/' :: (pathPart text ++ '?' :: after.takeWhile (· != '#')) := by
      have free : ∀ character ∈ pathPart text, (character != '#') = true := by
        intro character member
        have ends := List.mem_takeWhile_imp member
        by_contra hash
        rw [bne_iff_ne, ne_eq, not_not] at hash
        rw [hash] at ends
        exact absurd ends (by decide)
      have split : text = pathPart text ++ '?' :: after := by
        rw [pathPart, ← found, List.takeWhile_append_dropWhile]
      rw [List.takeWhile_cons_of_pos (by decide)]
      conv_lhs => rw [split]
      rw [List.takeWhile_append_of_pos free, List.takeWhile_cons_of_pos (by decide)]
    rw [whole, ← List.cons_append, ← List.singleton_append (x := '?'), ← List.append_assoc,
      utf8PercentEncode_append] at same
    have lengths := congrArg List.length (Option.some.inj same)
    have long := length_le_utf8PercentEncode specialQuerySet ('/' :: pathPart text ++ ['?'])
    simp only [List.length_append, List.length_cons] at lengths long
    omega
  · simp

theorem follows_iff {rest : List Char} :
    ((appended base.url ('/' :: rest)).path, (appended base.url ('/' :: rest)).query) =
      absolutePath ('/' :: rest) ↔ FollowsBase base (cleanedEnd rest) := by
  rw [absolutePath_slash, appended, cleanedEnd_slash, Prod.mk.injEq]
  unfold FollowsBase
  obtain ⟨host, port, query, fragment⟩ := base
  cases fragment with
  | some fragment =>
      simp only [PublicBaseUrl.url]
      rw [eq_comm, eq_comm (a := query)]
  | none =>
      cases query with
      | some query =>
          simp only [PublicBaseUrl.url, iff_false, not_and]
          intro _
          exact query_ne_queryOf query _
      | none =>
          have part : ∀ text, pathPart ('/' :: text) = '/' :: pathPart text :=
            fun text => @pathPart_append ['/'] (Text.eq_false_of_any (by decide)) text
          have split : ∀ text, segments ('/' :: text) = [[]] ++ segments text :=
            fun text => segments_append_slash [] text (by decide)
          have query : ∀ text, queryOf ('/' :: text) = queryOf text :=
            fun text => @queryOf_append ['/'] (Text.eq_false_of_any (by decide)) text
          simp only [PublicBaseUrl.url, Url.withPath, List.dropLast_singleton,
            List.getLast?_singleton, Option.getD_some, List.nil_append, part, split, query,
            and_true]
          rw [resolvePath_append_eq_iff (segments_ne_nil _), depth_singleton rfl rfl]

/-!
## References under the base URL
-/

section

variable {rest before after : List Char}

def StaysPath (base : PublicBaseUrl Host) (text : List Char) : Prop :=
  (BeginsPath text ∧ (base.query = none ∨ ∃ first, text.head? = some first ∧ first ≠ '#')) ∨
    1 ≤ climb (segments (pathPart text)).tail

theorem joinPath_slash_iff {first : Char} {below : List Char}
    (misread : Misread rest before (first :: below)) (slash : isSlash first = true) :
    ((joinPath base.url (first :: below)).path, (joinPath base.url (first :: below)).query) =
      absolutePath ('/' :: rest) ↔ StaysPath base (cleanedEnd rest) := by
  have notEnds : endsPath first = false := by
    rcases Bool.or_eq_true_iff.mp slash with forward | backward
    · rw [beq_iff_eq.mp forward]
      rfl
    · rw [beq_iff_eq.mp backward]
      rfl
  have part : pathPart (first :: below) = first :: pathPart below :=
    List.takeWhile_cons_of_pos (by simp [notEnds])
  have query : queryOf (first :: below) = queryOf below :=
    @queryOf_append [first] (by simp [notEnds]) below
  have split : segments (before ++ first :: pathPart below) =
      [before] ++ segments (pathPart below) := by
    rw [segments_append_slash _ _ slash, segments_of_inert (isSlash_of_inert misread.inert)]
  have begins : ¬BeginsPath (cleanedEnd rest) := by
    rw [misread.begins]
    rintro ⟨_, unslashed⟩
    rw [unslashed first rfl] at slash
    exact Bool.noConfusion slash
  rw [absolutePath_slash, StaysPath, misread.pathPart_eq, misread.queryOf_eq, part, query, split]
  simp only [joinPath, slash, ↓reduceIte, Url.withPath, Prod.mk.injEq, and_true, begins,
    false_and, false_or, List.singleton_append, List.tail_cons]
  rw [eq_comm, ← List.singleton_append, resolvePath_append_eq_iff (segments_ne_nil _),
    depth_singleton misread.named_before.1 misread.named_before.2]

theorem joinPath_plain_iff {first : Char} {below : List Char}
    (misread : Misread rest before (first :: below)) (unslashed : isSlash first = false)
    (inPath : endsPath first = false) :
    ((joinPath base.url (first :: below)).path, (joinPath base.url (first :: below)).query) =
      absolutePath ('/' :: rest) ↔ StaysPath base (cleanedEnd rest) := by
  obtain ⟨question, hash⟩ : first ≠ '?' ∧ first ≠ '#' := by
    simpa [endsPath] using inPath
  rw [absolutePath_slash, StaysPath, misread.pathPart_eq, misread.queryOf_eq]
  simp only [joinPath, unslashed, question, hash, Bool.false_eq_true, ↓reduceIte, Url.withPath,
    PublicBaseUrl.url, List.dropLast_singleton, Prod.mk.injEq, and_true]
  by_cases empty : before = []
  · have begins : BeginsPath (cleanedEnd rest) :=
      misread.begins.mpr ⟨empty, by simpa using unslashed⟩
    have head : (cleanedEnd rest).head? = some first := by
      rw [misread.split, empty]
      rfl
    simp [empty, begins, head, hash]
  · have begins : ¬BeginsPath (cleanedEnd rest) := fun begins =>
      empty (misread.begins.mp begins).1
    rw [segments_append (isSlash_of_inert misread.inert)]
    obtain ⟨segment, others, split⟩ := List.exists_cons_of_ne_nil
      (segments_ne_nil (pathPart (first :: below)))
    have named := misread.named empty segment
    have nonempty : before ++ segment ≠ [] := by simp [empty]
    rw [split, List.modifyHead_cons, eq_comm, resolvePath_cons_eq_iff named.1 named.2
      (utf8PercentEncode_append_ne pathSet empty segment)
      (utf8PercentEncode_ne_nil pathSet nonempty)]
    simp [begins]

theorem joinPath_pathless_iff (misread : Misread rest before after)
    (pathless : ∀ first ∈ after.head?, endsPath first = true) :
    ((joinPath base.url after).path, (joinPath base.url after).query) =
      absolutePath ('/' :: rest) ↔ StaysPath base (cleanedEnd rest) := by
  have unslashed : ∀ first ∈ after.head?, isSlash first = false := by
    intro first head
    rcases Bool.or_eq_true_iff.mp (pathless first head) with question | hash
    · rw [beq_iff_eq.mp question]
      rfl
    · rw [beq_iff_eq.mp hash]
      rfl
  have joined : (joinPath base.url after).path = [[]] ∧
      (joinPath base.url after).query =
        if after.head? = some '?' then queryOf after else base.query := by
    cases after with
    | nil => exact ⟨rfl, rfl⟩
    | cons first below =>
        rcases Bool.or_eq_true_iff.mp (pathless first rfl) with question | hash
        · rw [beq_iff_eq.mp question]
          exact ⟨rfl, rfl⟩
        · rw [beq_iff_eq.mp hash]
          exact ⟨rfl, rfl⟩
  have unqueried : after.head? ≠ some '?' → queryOf after = none := by
    intro differs
    cases after with
    | nil => rfl
    | cons first below =>
        rcases Bool.or_eq_true_iff.mp (pathless first rfl) with question | hash
        · exact absurd (congrArg some (beq_iff_eq.mp question)) differs
        · rw [beq_iff_eq.mp hash]
          rfl
  rw [absolutePath_slash, StaysPath, misread.pathPart_eq, misread.queryOf_eq,
    pathPart_of_endsPath pathless, List.append_nil,
    segments_of_inert (isSlash_of_inert misread.inert), joined.1, joined.2, Prod.mk.injEq]
  have shallow : climb [] = 0 := rfl
  by_cases empty : before = []
  · have whole : cleanedEnd rest = after := by rw [misread.split, empty, List.nil_append]
    have begins : BeginsPath after := whole ▸ misread.begins.mpr ⟨empty, unslashed⟩
    have root : ([[]] : List (List Char)) = resolvePath [] [[]] := rfl
    rw [empty, whole]
    simp only [← root, true_and, begins, List.tail_cons, shallow, Nat.le_zero, Nat.one_ne_zero,
      or_false]
    by_cases question : after.head? = some '?'
    · simp [question]
    · rw [if_neg question, unqueried question]
      refine ⟨Or.inl, ?_⟩
      rintro (none_left | ⟨first, head, notHash⟩)
      · exact none_left
      · rcases Bool.or_eq_true_iff.mp (pathless first head) with isQuestion | isHash
        · exact absurd (beq_iff_eq.mp isQuestion ▸ head) question
        · exact absurd (beq_iff_eq.mp isHash) notHash
  · have begins : ¬BeginsPath (cleanedEnd rest) := fun begins =>
      empty (misread.begins.mp begins).1
    have named := misread.named_before
    have differs : ([[]] : List (List Char)) ≠ resolvePath [] [before] := by
      intro same
      have closed_before : closed [before] = [before] := by simp [closed, named.1, named.2]
      rw [resolvePath, closed_before] at same
      simp only [List.reverse_nil, List.foldl_cons, List.foldl_nil,
        enter_of_named _ named.1 named.2, List.reverse_singleton, List.cons.injEq, and_true] at same
      exact utf8PercentEncode_ne_nil pathSet empty same.symm
    simp [begins, shallow, differs]

theorem joinPath_iff (misread : Misread rest before after) :
    ((joinPath base.url after).path, (joinPath base.url after).query) =
      absolutePath ('/' :: rest) ↔ StaysPath base (cleanedEnd rest) := by
  cases after with
  | nil => exact joinPath_pathless_iff misread (by simp)
  | cons first below =>
      by_cases slash : isSlash first
      · exact joinPath_slash_iff misread slash
      · by_cases ends : endsPath first
        · exact joinPath_pathless_iff misread (by simpa using ends)
        · exact joinPath_plain_iff misread (by simpa using slash) (by simpa using ends)

theorem joinPath_origin (after : List Char) :
    (joinPath base.url after).scheme = base.url.scheme ∧
      (joinPath base.url after).host = base.url.host ∧
      (joinPath base.url after).port = base.url.port := by
  unfold joinPath
  split
  · exact ⟨rfl, rfl, rfl⟩
  · split
    · exact ⟨rfl, rfl, rfl⟩
    · split
      · exact ⟨rfl, rfl, rfl⟩
      · split
        · exact ⟨rfl, rfl, rfl⟩
        · exact ⟨rfl, rfl, rfl⟩

/-!
## References with an authority
-/

theorem climb_authority_le {slashes block : List Char}
    (allSlashes : ∀ character ∈ slashes, isSlash character = true)
    (inert : ∀ character ∈ block, isSlash character = false) :
    climb (segments (slashes ++ block)) ≤ 1 := by
  induction slashes with
  | nil =>
      rw [List.nil_append, segments_of_inert inert, climb_cons]
      split
      · exact Nat.le_refl 1
      · split <;> exact Nat.zero_le 1
  | cons slash slashes ih =>
      have ih := ih fun character member => allSlashes character (List.mem_cons_of_mem _ member)
      have split := segments_append_slash [] (slashes ++ block)
        (allSlashes slash List.mem_cons_self)
      have empty : segments [] = [[]] := rfl
      rw [List.cons_append, ← List.nil_append (slash :: _), split, empty, List.singleton_append,
        climb_cons]
      simp only [show isDoubleDot [] = false from rfl, show isSingleDot [] = false from rfl,
        Bool.false_eq_true, ↓reduceIte]
      omega

theorem resolvePath_authority_ne {slashes block : List Char}
    (before_named : isDoubleDot before = false ∧ isSingleDot before = false)
    (allSlashes : ∀ character ∈ slashes, isSlash character = true)
    (inert : ∀ character ∈ block, isSlash character = false) :
    resolvePath [] (before :: [] :: segments (slashes ++ block)) ≠ [[]] := by
  have nonempty := segments_ne_nil (slashes ++ block)
  have low := climb_authority_le allSlashes inert
  intro root
  have two := congrArg List.length root
  rw [resolvePath, closed_cons (List.cons_ne_nil _ _), closed_cons nonempty, List.length_reverse,
    List.foldl_cons, List.foldl_cons, enter_of_named _ before_named.1 before_named.2,
    enter_empty, foldl_enter, climb_closed] at two
  have some_left := List.length_pos_iff.mpr (foldl_closed_ne_nil [] nonempty)
  simp only [List.reverse_nil, List.length_append, List.length_drop, List.length_cons,
    List.length_nil] at two
  omega

theorem authority_split (text : List Char) (names : namesAuthority text = true) :
    ∃ first second slashes block,
      text = first :: second :: (slashes ++ block) ++
        (text.dropWhile isSlash).dropWhile (fun character => !endsAuthority character) ∧
      isSlash first = true ∧ isSlash second = true ∧
      (∀ character ∈ slashes, isSlash character = true) ∧
      (∀ character ∈ block, endsAuthority character = false) := by
  cases text with
  | nil => cases names
  | cons first text => cases text with
    | nil => cases names
    | cons second text =>
        obtain ⟨isFirst, isSecond⟩ := Bool.and_eq_true_iff.mp names
        refine ⟨first, second, text.takeWhile isSlash,
          (text.dropWhile isSlash).takeWhile fun character => !endsAuthority character, ?_, isFirst,
          isSecond, fun character member => List.mem_takeWhile_imp member, ?_⟩
        · rw [List.dropWhile_cons_of_pos isFirst, List.dropWhile_cons_of_pos isSecond]
          simp only [List.cons_append, List.append_assoc, List.takeWhile_append_dropWhile]
        · intro character member
          simpa using List.mem_takeWhile_imp member

theorem endsPath_of_isSlash {character : Char} (slash : isSlash character = true) :
    endsPath character = false := by
  rcases Bool.or_eq_true_iff.mp slash with forward | backward
  · rw [beq_iff_eq.mp forward]
    rfl
  · rw [beq_iff_eq.mp backward]
    rfl

theorem head_dropWhile {text : List Char} {first : Char}
    (head : first ∈ (text.dropWhile fun character => !endsAuthority character).head?) :
    endsAuthority first = true := by
  have refused := List.head?_dropWhile_not (fun character => !endsAuthority character) text
  rw [Option.mem_def.mp head] at refused
  simpa using refused

theorem authorityPath_iff (misread : Misread rest before after)
    (names : namesAuthority after = true) {path : List Char}
    (isPath : path =
      (after.dropWhile isSlash).dropWhile fun character => !endsAuthority character) :
    (resolvePath [] (segments (pathPart (dropSlash path))), queryOf (dropSlash path)) =
      absolutePath ('/' :: rest) ↔ ClimbsOver (cleanedEnd rest) path := by
  obtain ⟨first, second, slashes, block, split, isFirst, isSecond, allSlashes, inert⟩ :=
    authority_split after names
  rw [← isPath] at split
  have whole : cleanedEnd rest = before ++ first :: second :: (slashes ++ block) ++ path := by
    rw [misread.split, split]
    simp
  have unended : ∀ character ∈ before ++ first :: second :: (slashes ++ block),
      endsPath character = false := by
    intro character member
    simp only [List.mem_append, List.mem_cons] at member
    rcases member with inBefore | isFirst' | isSecond' | inSlashes | inBlock
    · exact endsPath_of_inert misread.inert character inBefore
    · exact endsPath_of_isSlash (isFirst' ▸ isFirst)
    · exact endsPath_of_isSlash (isSecond' ▸ isSecond)
    · exact endsPath_of_isSlash (allSlashes character inSlashes)
    · exact endsPath_of_inert inert character inBlock
  rw [absolutePath_slash, whole, pathPart_append unended, queryOf_append unended]
  by_cases slashed : ∃ slash below, path = slash :: below ∧ isSlash slash = true
  · obtain ⟨slash, below, rfl, slash_isSlash⟩ := slashed
    have part : pathPart (slash :: below) = slash :: pathPart below :=
      List.takeWhile_cons_of_pos (by simp [endsPath_of_isSlash slash_isSlash])
    have query : queryOf (slash :: below) = queryOf below :=
      @queryOf_append [slash] (by simp [endsPath_of_isSlash slash_isSlash]) below
    simp only [dropSlash, slash_isSlash, ↓reduceIte, part, query, Prod.mk.injEq, and_true]
    rw [segments_append_slash _ _ slash_isSlash, eq_comm,
      resolvePath_append_eq_iff (segments_ne_nil _)]
    constructor
    · intro climbs
      exact ⟨_, slash, below, rfl, rfl, slash_isSlash, climbs⟩
    · rintro ⟨front, other, below', whole', samePath, _, climbs⟩
      obtain ⟨rfl, rfl⟩ := List.cons.inj samePath
      have sameFront := List.append_cancel_right whole'
      rwa [sameFront]
  · have notClimbs : ¬ClimbsOver (before ++ first :: second :: (slashes ++ block) ++ path) path := by
      rintro ⟨_, slash, below, _, isPath', slash_isSlash, _⟩
      exact slashed ⟨slash, below, isPath', slash_isSlash⟩
    have ends : ∀ head ∈ path.head?, endsPath head = true := by
      intro head isHead
      have endsHere : endsAuthority head = true := by
        rw [isPath] at isHead
        exact head_dropWhile isHead
      rcases Bool.or_eq_true_iff.mp endsHere with slash | ends
      · cases path with
        | nil => cases isHead
        | cons other below =>
            rw [List.head?_cons, Option.mem_some_iff] at isHead
            exact absurd ⟨other, below, rfl, isHead ▸ slash⟩ slashed
      · exact ends
    have kept : dropSlash path = path := by
      cases path with
      | nil => rfl
      | cons head below =>
          have unslashed : isSlash head = false := by
            by_contra slash
            exact slashed ⟨head, below, rfl, by simpa using slash⟩
          simp [dropSlash, unslashed]
    have empty : segments (second :: (slashes ++ block)) = [] :: segments (slashes ++ block) :=
      segments_append_slash [] (slashes ++ block) isSecond
    rw [kept, pathPart_of_endsPath ends, List.append_nil, segments_append_slash _ _ isFirst,
      segments_of_inert (isSlash_of_inert misread.inert), empty]
    simp only [notClimbs, iff_false, Prod.mk.injEq, and_true]
    intro same
    refine resolvePath_authority_ne misread.named_before allSlashes (isSlash_of_inert inert) ?_
    exact same.symm

theorem readAuthority_rest {host : Host} {port : Option Nat} {text path : List Char}
    (read : readAuthority parsers "https" text = some (host, port, path)) :
    path = text.dropWhile fun character => !endsAuthority character := by
  simp only [readAuthority, Option.bind_eq_bind, Option.bind_eq_some_iff, Option.some.injEq,
    Prod.mk.injEq] at read
  obtain ⟨_, _, _, _, _, _, _, _, same⟩ := read
  exact same.symm

end

/-!
## The location
-/

theorem staysOnSite_iff {next : Option String} {rest : List Char} {location : Location Host}
    (accepted : AcceptsNext next rest) :
    StaysOnSite base next location ↔
      location.target.scheme = base.url.scheme ∧ location.target.host = base.url.host ∧
        location.target.port = base.url.port ∧
        (location.target.path, location.target.query) = absolutePath ('/' :: rest) := by
  constructor
  · rintro ⟨scheme, host, port, path⟩
    exact ⟨scheme, host, port, path rest accepted⟩
  · rintro ⟨scheme, host, port, path⟩
    refine ⟨scheme, host, port, ?_⟩
    intro other also
    have same : rest = other := (List.cons.inj (accepted.1.symm.trans also.1)).2
    exact same ▸ path

theorem sanitizeNext_accepted {next : Option String} {rest : List Char}
    (accepted : AcceptsNext next rest) : sanitizeNext next = next.getD "/" := by
  obtain ⟨value, unslashed⟩ := accepted
  unfold sanitizeNext
  simp only [value]
  rw [if_pos]
  cases rest with
  | nil => decide
  | cons first rest =>
      have differs : first ≠ '/' := by simpa using unslashed
      simp [List.isPrefixOf, differs.symm]

theorem sanitizeNext_refused {next : Option String}
    (refused : ∀ rest, ¬AcceptsNext next rest) : sanitizeNext next = "/" := by
  unfold sanitizeNext
  simp only
  rw [if_neg]
  intro admitted
  obtain ⟨one, two⟩ := Bool.and_eq_true_iff.mp admitted
  obtain ⟨rest, whole⟩ := List.isPrefixOf_iff_prefix.mp one
  refine refused rest ⟨whole.symm, ?_⟩
  intro again
  cases rest with
  | nil => cases again
  | cons first rest =>
      rw [List.head?_cons, Option.some.injEq] at again
      rw [← whole, again] at two
      simp at two

theorem join_value {next : Option String} {rest : List Char} (accepted : AcceptsNext next rest) :
    (sanitizeNext next).toList.dropWhile (· == '/') = rest := by
  rw [sanitizeNext_accepted accepted, accepted.1, List.dropWhile_cons_of_pos (by simp)]
  cases rest with
  | nil => rfl
  | cons first rest =>
      have differs : first ≠ '/' := by simpa using accepted.2
      rw [List.dropWhile_cons_of_neg (by simp [differs])]

variable (parsers base)

theorem following_iff {next : Option String} {rest : List Char}
    (accepted : AcceptsNext next rest) :
    StaysOnSite base next (.following base.url (sanitizeNext next)) ↔
      FollowsBase base (cleanedEnd rest) := by
  rw [staysOnSite_iff accepted, Location.target, sanitizeNext_accepted accepted, accepted.1]
  obtain ⟨scheme, host, port⟩ := appended_origin base.url ('/' :: rest)
  simp only [scheme, host, port, true_and]
  exact follows_iff

theorem loginLocation_eq {form : LoginForm} {rest : List Char}
    (accepted : AcceptsNext form.next rest) :
    loginLocation parsers base form =
      (join parsers base.url rest).elim (.following base.url (sanitizeNext form.next)) .url := by
  unfold loginLocation publicUrl
  rw [join_value accepted]
  cases join parsers base.url rest with
  | none => rfl
  | some url => rfl

theorem loginLocation_accepted {form : LoginForm} {rest : List Char}
    (accepted : AcceptsNext form.next rest) :
    StaysOnSite base form.next (loginLocation parsers base form) ↔
      RestStays parsers base rest := by
  rw [loginLocation_eq parsers base accepted]
  unfold RestStays
  cases read : reference "https" (cleaned rest) with
  | elsewhere scheme after =>
      have joined : join parsers base.url rest = parsers.parseAbsolute scheme after := by
        unfold join
        rw [show reference base.url.scheme (cleaned rest) = .elsewhere scheme after from read]
      have other : scheme ≠ "https" := by
        unfold reference at read
        split at read
        · cases read
        · split at read
          · cases read
          · rename_i differs
            obtain ⟨rfl, _⟩ := Reference.elsewhere.inj read
            exact differs
      rw [joined]
      cases parsed : parsers.parseAbsolute scheme after with
      | none => simp only [parsed, Option.elim_none, true_and, following_iff base accepted]
      | some url =>
          simp only [parsed, Option.elim_some, reduceCtorEq, false_and, iff_false]
          intro stays
          have sameScheme := parsers.parseAbsolute_scheme scheme after url parsed
          exact other (sameScheme.symm.trans stays.scheme)
  | under after =>
      obtain ⟨before, misread⟩ := exists_misread read
      have joined : join parsers base.url rest =
          if namesAuthority after then joinAuthority parsers base.url after
          else some (joinPath base.url after) := by
        unfold join
        rw [show reference base.url.scheme (cleaned rest) = .under after from read]
      rw [joined]
      by_cases names : namesAuthority after
      · simp only [names, ↓reduceIte, joinAuthority]
        change StaysOnSite base form.next
          (((readAuthority parsers "https" (after.dropWhile isSlash)).bind _).elim _ _) ↔ _
        cases authority : readAuthority parsers "https" (after.dropWhile isSlash) with
        | none => exact following_iff base accepted
        | some parts =>
            obtain ⟨host, port, path⟩ := parts
            have climbs := authorityPath_iff misread names (readAuthority_rest authority)
            rw [staysOnSite_iff accepted]
            simp only [Option.bind_some, Option.elim_some, Location.target, Url.withPath, climbs]
            simp [PublicBaseUrl.url]
      · simp only [names, Bool.false_eq_true, ↓reduceIte]
        rw [staysOnSite_iff accepted]
        obtain ⟨scheme, host, port⟩ := @joinPath_origin Host base after
        simp only [Option.elim_some, Location.target, scheme, host, port, true_and]
        exact joinPath_iff misread

theorem loginLocation_refused {form : LoginForm} (refused : ∀ rest, ¬AcceptsNext form.next rest) :
    StaysOnSite base form.next (loginLocation parsers base form) := by
  have location : loginLocation parsers base form =
      .url { base.url with fragment := none } := by
    rw [loginLocation, sanitizeNext_refused refused]
    rfl
  rw [location]
  exact ⟨rfl, rfl, rfl, fun rest accepted => absurd accepted (refused rest)⟩

/-- A login stays on the site exactly when its value is refused, or the rest of the value
stays. -/
theorem loginLocation_staysOnSite_iff (form : LoginForm) :
    StaysOnSite base form.next (loginLocation parsers base form) ↔
      ∀ rest, AcceptsNext form.next rest → RestStays parsers base rest := by
  constructor
  · intro stays rest accepted
    exact (loginLocation_accepted parsers base accepted).mp stays
  · intro all
    by_cases accepts : ∃ rest, AcceptsNext form.next rest
    · obtain ⟨rest, accepted⟩ := accepts
      exact (loginLocation_accepted parsers base accepted).mpr (all rest accepted)
    · exact loginLocation_refused parsers base (not_exists.mp accepts)

namespace Sample

def hosts : Parsers String where
  parseHost text := if text.all Char.isAlphanum then some (String.ofList text) else none
  parseAbsolute scheme rest := some ⟨scheme, none, none, [rest], none, none⟩
  parseAbsolute_scheme scheme rest url parsed := by
    rw [← Option.some.inj parsed]

def site : PublicBaseUrl String := ⟨"localhost", some 4000, none, none⟩

def elsewhere : LoginForm := ⟨"ada", "correct horse", some "/https://evil"⟩

end Sample

/-- The value names the host that the browser is sent to. -/
theorem login_leaves_site :
    ¬StaysOnSite Sample.site Sample.elsewhere.next
      (loginLocation Sample.hosts Sample.site Sample.elsewhere) := by
  intro stays
  exact absurd stays.host (by decide +kernel)

end Roosty.Auth.Access
