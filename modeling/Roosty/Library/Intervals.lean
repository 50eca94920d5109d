import Mathlib.Data.List.Pairwise

/-! Greedy selection of intervals. Items sorted by their starts are taken one after the
other, and an item that starts before the end of the last one taken is skipped. -/

set_option autoImplicit false

namespace Roosty.Library.Intervals

variable {Item : Type} (start stop : Item → Nat)

def select : List Item → Nat → List Item
  | [], _ => []
  | item :: items, last =>
      if start item < last then select items last else item :: select items (stop item)

def Apart (first second : Item) : Prop :=
  stop first ≤ start second ∨ stop second ≤ start first

section

variable {start stop}

theorem select_sublist (items : List Item) (last : Nat) :
    (select start stop items last).Sublist items := by
  induction items generalizing last with
  | nil => exact .slnil
  | cons item items ih =>
      unfold select
      split
      · exact (ih last).cons item
      · exact (ih (stop item)).cons_cons item

theorem le_start_of_mem_select {items : List Item} {last : Nat}
    (proper : ∀ item ∈ items, start item ≤ stop item) {item : Item}
    (chosen : item ∈ select start stop items last) : last ≤ start item := by
  induction items generalizing last with
  | nil => cases chosen
  | cons first items ih =>
      have later := fun item member => proper item (List.mem_cons_of_mem _ member)
      unfold select at chosen
      split at chosen
      · exact ih later chosen
      · next free =>
        rcases List.mem_cons.mp chosen with rfl | chosen
        · omega
        · have ordered := ih later chosen
          have own := proper first List.mem_cons_self
          omega

theorem select_apart {items : List Item} {last : Nat}
    (proper : ∀ item ∈ items, start item ≤ stop item) :
    (select start stop items last).Pairwise (Apart start stop) := by
  induction items generalizing last with
  | nil => exact .nil
  | cons first items ih =>
      have later := fun item member => proper item (List.mem_cons_of_mem _ member)
      unfold select
      split
      · exact ih later
      · refine .cons ?_ (ih later)
        intro item chosen
        exact .inl (le_start_of_mem_select later chosen)

theorem apart_of_mem_select {items : List Item} {last : Nat} {first second : Item}
    (proper : ∀ item ∈ items, start item ≤ stop item)
    (left : first ∈ select start stop items last) (right : second ∈ select start stop items last)
    (other : first ≠ second) : Apart start stop first second := by
  have symmetric : Std.Symm (Apart start stop : Item → Item → Prop) := ⟨fun _ _ => Or.symm⟩
  exact (select_apart proper).forall left right other

theorem mem_select_of_clear {items : List Item} {last : Nat} {item : Item}
    (sorted : items.Pairwise fun first second => start first ≤ start second)
    (member : item ∈ items) (free : last ≤ start item)
    (clear : ∀ other ∈ select start stop items last, other ≠ item → start other ≤ start item →
      stop other ≤ start item) : item ∈ select start stop items last := by
  induction items generalizing last with
  | nil => cases member
  | cons first items ih =>
      obtain ⟨least, sorted⟩ := List.pairwise_cons.mp sorted
      unfold select at clear ⊢
      split at clear
      · next taken =>
        rw [if_pos taken]
        rcases List.mem_cons.mp member with rfl | member
        · omega
        · exact ih sorted member free clear
      · next open' =>
        rw [if_neg open']
        rcases List.mem_cons.mp member with rfl | member
        · exact List.mem_cons_self
        · by_cases same : first = item
          · rw [same]
            exact List.mem_cons_self
          · refine List.mem_cons_of_mem _ (ih sorted member ?_ ?_)
            · exact clear first List.mem_cons_self same (least item member)
            · intro other chosen
              exact clear other (List.mem_cons_of_mem _ chosen)

end

end Roosty.Library.Intervals
