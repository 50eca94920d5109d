import Roosty.Library.Paging

/-! Documents that name the document after them, and the readers that follow these links.
A reader of one kind of documents is compared with a reader of another kind, and with a walk
through pages. -/

set_option autoImplicit false

namespace Roosty.Library.Links

/-- The documents from a link on, until one names no other. `none` stands for a link that
leads nowhere, and for rounds that do not suffice. -/
def follow {Link Document : Type} (fetch : Link → Option Document)
    (next : Document → Option Link) : Nat → Link → Option (List Document)
  | 0, _ => none
  | rounds + 1, link =>
      match fetch link with
      | none => none
      | some document =>
          match next document with
          | none => some [document]
          | some later => (follow fetch next rounds later).map (document :: ·)

section

variable {Link Document Cursor Found : Type} {fetch : Link → Option Document}
variable {next : Document → Option Link} {load : Cursor → Option Found}
variable {nextCursor : Found → Option Cursor} {link : Cursor → Link} {render : Found → Document}

theorem follow_map (valid : Cursor → Prop)
    (fetched : ∀ cursor, valid cursor → fetch (link cursor) = (load cursor).map render)
    (linked : ∀ cursor found, valid cursor → load cursor = some found →
      next (render found) = (nextCursor found).map link ∧
        ∀ later, nextCursor found = some later → valid later)
    (rounds : Nat) {cursor : Cursor} (start : valid cursor) :
    follow fetch next rounds (link cursor) =
      (follow load nextCursor rounds cursor).map (List.map render) := by
  induction rounds generalizing cursor with
  | zero => rfl
  | succ rounds ih =>
      unfold follow
      rw [fetched cursor start]
      cases found : load cursor with
      | none => rfl
      | some document =>
          obtain ⟨links, valid⟩ := linked cursor document start found
          simp only [Option.map_some, links]
          cases named : nextCursor document with
          | none => rfl
          | some later =>
              simp only [Option.map_some, ih (valid later named), Option.map_map]
              rfl

end

section

variable {Row : Type} {load : Option Nat → Paging.Page Row}

def nextPage (page : Paging.Page Row) : Option (Option Nat) :=
  if page.hasMore then some page.lastCursor else none

theorem walk_eq_follow (load : Option Nat → Paging.Page Row) (rounds : Nat) (cursor : Option Nat) :
    Paging.walk load rounds cursor =
      (follow (fun cursor => some (load cursor)) nextPage rounds cursor).map
        (List.flatMap Paging.Page.items) := by
  induction rounds generalizing cursor with
  | zero => rfl
  | succ rounds ih =>
      unfold Paging.walk follow nextPage
      dsimp only
      cases more : (load cursor).hasMore with
      | false => simp
      | true =>
          simp only [if_true, ih, Option.map_map]
          rfl

end

section

variable {Cursor Found Row : Type} {load : Cursor → Option Found} {next : Found → Option Cursor}
variable {rest : Cursor → List Row} {items : Found → List Row} {limit : Nat}

/-- What a page at a cursor must show and name, when rows are left there. -/
structure Shows (rest : Cursor → List Row) (items : Found → List Row) (limit : Nat)
    (next : Found → Option Cursor) (cursor : Cursor) (found : Found) : Prop where
  items : items found = (rest cursor).take limit
  later : ∀ later, next found = some later →
    rest cursor ≠ [] ∧ rest later = (rest cursor).drop limit
  last : next found = none → (rest cursor).length ≤ limit

/-- Pages that show the first of the rows that are left, and name the next unless nothing
else is left, are read to the end. -/
theorem follow_pages (positive : 0 < limit) (valid : Cursor → Prop)
    (loads : ∀ cursor, valid cursor →
      ∃ found, load cursor = some found ∧ Shows rest items limit next cursor found)
    (kept : ∀ cursor found, valid cursor → load cursor = some found →
      ∀ later, next found = some later → valid later)
    {rounds : Nat} {cursor : Cursor} (enough : (rest cursor).length < rounds) (start : valid cursor) :
    ∃ pages, follow load next rounds cursor = some pages ∧ pages.flatMap items = rest cursor := by
  induction rounds generalizing cursor with
  | zero => cases enough
  | succ rounds ih =>
      obtain ⟨found, loaded, shows⟩ := loads cursor start
      unfold follow
      rw [loaded]
      dsimp only
      cases named : next found with
      | none =>
          refine ⟨[found], rfl, ?_⟩
          rw [List.flatMap_singleton, shows.items, List.take_of_length_le (shows.last named)]
      | some later =>
          obtain ⟨left, rows⟩ := shows.later later named
          have fewer : (rest later).length < rounds := by
            have some_ := List.length_pos_iff.mpr left
            rw [rows, List.length_drop]
            omega
          obtain ⟨pages, followed, collected⟩ := ih fewer (kept cursor found start loaded later named)
          refine ⟨found :: pages, by simp only [followed, Option.map_some], ?_⟩
          rw [List.flatMap_cons, collected, rows, shows.items, List.take_append_drop]

end

theorem follow_cases {Link Document : Type} {fetch : Link → Option Document}
    {next : Document → Option Link} {rounds : Nat} {link : Link} {documents : List Document}
    (read : follow fetch next rounds link = some documents) :
    ∃ first rest, fetch link = some first ∧ documents = first :: rest ∧
      ((next first = none ∧ rest = []) ∨
        ∃ later fewer, next first = some later ∧ follow fetch next fewer later = some rest) := by
  cases rounds with
  | zero => cases read
  | succ rounds =>
      unfold follow at read
      cases found : fetch link with
      | none =>
          rw [found] at read
          cases read
      | some first =>
          rw [found] at read
          dsimp only at read
          cases named : next first with
          | none =>
              rw [named] at read
              exact ⟨first, [], rfl, (Option.some.inj read).symm, .inl ⟨named, rfl⟩⟩
          | some later =>
              rw [named] at read
              obtain ⟨rest, followed, rfl⟩ := Option.map_eq_some_iff.mp read
              exact ⟨first, rest, rfl, rfl, .inr ⟨later, rounds, named, followed⟩⟩

end Roosty.Library.Links
