import Roosty.Library.Links

/-! Pages that are turned in both directions. A page is a window of one list: its cursors
name its first and its last row, where rows stand before and behind it. -/

set_option autoImplicit false

namespace Roosty.Library.Windows

structure Window (Row : Type) where
  front : List Row
  shown : List Row
  back : List Row

variable {Row Page Cursor : Type}

def Window.rows (window : Window Row) : List Row := window.front ++ window.shown ++ window.back

structure Book (Row Page Cursor : Type) where
  load : Option Cursor → Option Page
  items : Page → List Row
  previous : Page → Option Cursor
  next : Page → Option Cursor
  previousOf : Row → Cursor
  nextOf : Row → Cursor

variable (book : Book Row Page Cursor)

/-- A page shows a window, and has a cursor wherever there are further rows. -/
structure Book.Shows (window : Window Row) (page : Page) : Prop where
  items : book.items page = window.shown
  previous : book.previous page =
    if window.front = [] then none else window.shown.head?.map book.previousOf
  next : book.next page =
    if window.back = [] then none else window.shown.getLast?.map book.nextOf

structure Book.Opens (limit : Nat) (all : List Row) : Prop where
  first : ∃ page, book.load none = some page ∧
    book.Shows ⟨[], all.take limit, all.drop limit⟩ page
  next : ∀ front row back, all = front ++ row :: back → back ≠ [] →
    ∃ page, book.load (some (book.nextOf row)) = some page ∧
      book.Shows ⟨front ++ [row], back.take limit, back.drop limit⟩ page
  previous : ∀ front row back, all = front ++ row :: back → front ≠ [] →
    ∃ page, book.load (some (book.previousOf row)) = some page ∧
      book.Shows ⟨front.take (front.length - limit), front.drop (front.length - limit),
        row :: back⟩ page

/-- The pages that a reader comes to by turning pages in any way. -/
inductive Book.Visited : Page → Prop where
  | first {page : Page} : book.load none = some page → Visited page
  | next {page later : Page} {cursor : Cursor} : Visited page → book.next page = some cursor →
      book.load (some cursor) = some later → Visited later
  | previous {page earlier : Page} {cursor : Cursor} : Visited page →
      book.previous page = some cursor → book.load (some cursor) = some earlier → Visited earlier

/-- A page can be turned: its cursors are accepted, and lead to the rows next to it. -/
structure Book.Turns (limit : Nat) (all : List Row) (page : Page) (window : Window Row) : Prop where
  rows : window.rows = all
  shows : book.Shows window page
  back : ∀ cursor, book.next page = some cursor → ∃ later, book.load (some cursor) = some later ∧
    book.items later = window.back.take limit
  front : ∀ cursor, book.previous page = some cursor →
    ∃ earlier, book.load (some cursor) = some earlier ∧
      book.items earlier = window.front.drop (window.front.length - limit) ∧
      ∃ return_ again, book.next earlier = some return_ ∧ book.load (some return_) = some again ∧
        (book.items again).head? = (book.items page).head?

section

variable {book} {limit : Nat} {all : List Row}

def Window.Full (window : Window Row) (all : List Row) : Prop :=
  window.rows = all ∧ (all ≠ [] → window.shown ≠ [])

theorem first_full (positive : 0 < limit) (all : List Row) :
    Window.Full ⟨[], all.take limit, all.drop limit⟩ all := by
  refine ⟨List.take_append_drop limit all, fun some_ none => ?_⟩
  rcases List.take_eq_nil_iff.mp none with zero | empty
  · omega
  · exact some_ empty

theorem next_full (positive : 0 < limit) {front back : List Row} {row : Row}
    (split : all = front ++ row :: back) (further : back ≠ []) :
    Window.Full ⟨front ++ [row], back.take limit, back.drop limit⟩ all := by
  constructor
  · rw [Window.rows, List.append_assoc, List.take_append_drop, split, List.append_assoc,
      List.singleton_append]
  · intro _ none
    rcases List.take_eq_nil_iff.mp none with zero | empty
    · omega
    · exact further empty

theorem previous_full (positive : 0 < limit) {front back : List Row} {row : Row}
    (split : all = front ++ row :: back) (further : front ≠ []) :
    Window.Full ⟨front.take (front.length - limit), front.drop (front.length - limit), row :: back⟩
      all := by
  constructor
  · rw [Window.rows, List.take_append_drop, split]
  · intro _ none
    have some_ := List.length_pos_iff.mpr further
    have empty := List.drop_eq_nil_iff.mp none
    omega

theorem next_split {window : Window Row} {page : Page} {cursor : Cursor}
    (shows : book.Shows window page) (whole : window.rows = all)
    (named : book.next page = some cursor) :
    ∃ init row, window.shown = init ++ [row] ∧ cursor = book.nextOf row ∧ window.back ≠ [] ∧
      all = (window.front ++ init) ++ row :: window.back := by
  rw [shows.next] at named
  split at named
  · cases named
  · rename_i further
    obtain ⟨row, last, rfl⟩ := Option.map_eq_some_iff.mp named
    obtain ⟨init, shown⟩ := List.getLast?_eq_some_iff.mp last
    refine ⟨init, row, shown, rfl, further, ?_⟩
    rw [← whole, Window.rows, shown, List.append_assoc, List.append_assoc, List.append_assoc,
      List.singleton_append]

theorem previous_split {window : Window Row} {page : Page} {cursor : Cursor}
    (shows : book.Shows window page) (whole : window.rows = all)
    (named : book.previous page = some cursor) :
    ∃ row rest, window.shown = row :: rest ∧ cursor = book.previousOf row ∧ window.front ≠ [] ∧
      all = window.front ++ row :: (rest ++ window.back) := by
  rw [shows.previous] at named
  split at named
  · cases named
  · rename_i further
    obtain ⟨row, first, rfl⟩ := Option.map_eq_some_iff.mp named
    obtain ⟨rest, shown⟩ := List.head?_eq_some_iff.mp first
    refine ⟨row, rest, shown, rfl, further, ?_⟩
    rw [← whole, Window.rows, shown, List.append_assoc, List.cons_append]

/-- Every page is a window, by induction on how it was come to. -/
theorem Book.Visited.window (positive : 0 < limit) (opens : book.Opens limit all) {page : Page}
    (visited : book.Visited page) :
    ∃ window : Window Row, window.Full all ∧ book.Shows window page := by
  induction visited with
  | first loaded =>
      obtain ⟨page, found, shows⟩ := opens.first
      rw [loaded] at found
      exact ⟨_, first_full positive all, Option.some.inj found ▸ shows⟩
  | next _ named loaded ih =>
      obtain ⟨window, ⟨whole, -⟩, shows⟩ := ih
      obtain ⟨init, row, -, rfl, further, split⟩ := next_split shows whole named
      obtain ⟨later, found, laterShows⟩ := opens.next _ _ _ split further
      rw [loaded] at found
      exact ⟨_, next_full positive split further, Option.some.inj found ▸ laterShows⟩
  | previous _ named loaded ih =>
      obtain ⟨window, ⟨whole, -⟩, shows⟩ := ih
      obtain ⟨row, rest, -, rfl, further, split⟩ := previous_split shows whole named
      obtain ⟨earlier, found, earlierShows⟩ := opens.previous _ _ _ split further
      rw [loaded] at found
      exact ⟨_, previous_full positive split further, Option.some.inj found ▸ earlierShows⟩

theorem Book.Visited.turns (positive : 0 < limit) (opens : book.Opens limit all) {page : Page}
    (visited : book.Visited page) : ∃ window, book.Turns limit all page window := by
  obtain ⟨window, ⟨whole, -⟩, shows⟩ := visited.window positive opens
  refine ⟨window, whole, shows, ?_, ?_⟩
  · intro cursor named
    obtain ⟨init, row, -, rfl, further, split⟩ := next_split shows whole named
    obtain ⟨later, found, laterShows⟩ := opens.next _ _ _ split further
    exact ⟨later, found, laterShows.items⟩
  · intro cursor named
    obtain ⟨row, rest, shown, rfl, further, split⟩ := previous_split shows whole named
    obtain ⟨earlier, found, earlierShows⟩ := opens.previous _ _ _ split further
    refine ⟨earlier, found, earlierShows.items, ?_⟩
    -- the page before ends at the row before this page
    have full := previous_full positive split further
    have some_ : window.front.drop (window.front.length - limit) ≠ [] :=
      full.2 (by rw [split]; simp)
    have named : book.next earlier = some (book.nextOf
        ((window.front.drop (window.front.length - limit)).getLast some_)) := by
      rw [earlierShows.next, if_neg (List.cons_ne_nil _ _), List.getLast?_eq_some_getLast some_,
        Option.map_some]
    obtain ⟨init, last, -, same, further', split'⟩ := next_split earlierShows full.1 named
    obtain ⟨again, foundAgain, againShows⟩ := opens.next _ _ _ split' further'
    rw [← same] at foundAgain
    refine ⟨_, again, named, foundAgain, ?_⟩
    obtain ⟨count, rfl⟩ := Nat.exists_eq_succ_of_ne_zero (Nat.pos_iff_ne_zero.mp positive)
    rw [againShows.items, shows.items, shown, List.take_succ_cons, List.head?_cons, List.head?_cons]

theorem follow_window (positive : 0 < limit) (opens : book.Opens limit all) {rounds : Nat}
    {cursor : Option Cursor} {window : Window Row} {page : Page}
    (loaded : book.load cursor = some page) (whole : window.rows = all)
    (shows : book.Shows window page) (nonempty : window.back ≠ [] → window.shown ≠ [])
    (enough : window.back.length < rounds) :
    ∃ pages, Links.follow book.load (fun page => (book.next page).map some) rounds cursor =
      some pages ∧ pages.flatMap book.items = window.shown ++ window.back := by
  induction rounds generalizing cursor window page with
  | zero => cases enough
  | succ rounds ih =>
      unfold Links.follow
      rw [loaded]
      dsimp only
      cases named : book.next page with
      | none =>
          have ended : window.back = [] := by
            by_contra further
            rw [shows.next, if_neg further, Option.map_eq_none_iff, List.getLast?_eq_none_iff]
              at named
            exact nonempty further named
          refine ⟨[page], rfl, ?_⟩
          rw [List.flatMap_singleton, shows.items, ended, List.append_nil]
      | some cursor =>
          obtain ⟨init, row, -, rfl, further, split⟩ := next_split shows whole named
          obtain ⟨later, found, laterShows⟩ := opens.next _ _ _ split further
          have full := next_full positive split further
          have some_ := List.length_pos_iff.mpr further
          have fewer : (window.back.drop limit).length < rounds := by
            rw [List.length_drop]
            omega
          obtain ⟨pages, followed, collected⟩ := ih found full.1 laterShows
            (fun _ => full.2 (by rw [split]; simp)) fewer
          refine ⟨page :: pages, ?_, ?_⟩
          · simp only [Option.map_some, followed]
          · rw [List.flatMap_cons, collected, shows.items, List.take_append_drop]

/-- Whoever turns the pages from the first one on obtains the whole list. -/
theorem follow_all (positive : 0 < limit) (opens : book.Opens limit all) {rounds : Nat}
    (enough : all.length < rounds) :
    ∃ pages, Links.follow book.load (fun page => (book.next page).map some) rounds none =
      some pages ∧ pages.flatMap book.items = all := by
  obtain ⟨page, loaded, shows⟩ := opens.first
  have full := first_full positive all
  have nonempty : all.drop limit ≠ [] → all.take limit ≠ [] := by
    intro further
    refine full.2 fun none => further ?_
    rw [none, List.drop_nil]
  have fewer : (all.drop limit).length < rounds := by
    rw [List.length_drop]
    omega
  obtain ⟨pages, followed, collected⟩ := follow_window positive opens loaded full.1 shows nonempty fewer
  exact ⟨pages, followed, collected.trans (List.take_append_drop limit all)⟩

end

end Roosty.Library.Windows
