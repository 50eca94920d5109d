import Mathlib.Data.List.Perm.Basic

/-! Registers that hold one write at a time. A relation between the stored and
the arriving write decides whether the stored one is replaced; a write that does
not replace it is lost. -/

set_option autoImplicit false

namespace Roosty.Library.Register

variable {Write : Type} (replaces : Write → Write → Prop) [DecidableRel replaces]

def write (stored : Option Write) (arriving : Write) : Option Write :=
  match stored with
  | none => some arriving
  | some old => if replaces old arriving then some arriving else some old

def writes (stored : Option Write) (arriving : List Write) : Option Write :=
  arriving.foldl (write replaces) stored

variable {replaces}

theorem write_replaced {old arriving : Write} (newer : replaces old arriving) :
    write replaces (some old) arriving = some arriving := if_pos newer

theorem write_kept {old arriving : Write} (blocked : ¬ replaces old arriving) :
    write replaces (some old) arriving = some old := if_neg blocked

theorem write_cases (replaces : Write → Write → Prop) [DecidableRel replaces]
    (stored : Option Write) (arriving : Write) :
    write replaces stored arriving = some arriving ∨ write replaces stored arriving = stored := by
  cases stored with
  | none => exact .inl rfl
  | some old =>
      unfold write
      dsimp only
      split
      · exact .inl rfl
      · exact .inr rfl

theorem writes_origin {stored : Option Write} {arriving : List Write} {final : Write}
    (held : writes replaces stored arriving = some final) :
    stored = some final ∨ final ∈ arriving := by
  induction arriving generalizing stored with
  | nil => exact .inl held
  | cons head rest ih =>
      rcases ih held with before | later
      · rcases write_cases replaces stored head with replaced | kept
        · have same : head = final := Option.some.inj (replaced.symm.trans before)
          exact .inr (same ▸ List.mem_cons_self)
        · exact .inl (kept.symm.trans before)
      · exact .inr (List.mem_cons_of_mem head later)

theorem writes_map (replaces : Write → Write → Prop) [DecidableRel replaces] {Source : Type}
    (image : Source → Write) (stored : Option Source) (arriving : List Source) :
    writes replaces (stored.map image) (arriving.map image) =
      (writes (fun old new => replaces (image old) (image new)) stored arriving).map image := by
  induction arriving generalizing stored with
  | nil => rfl
  | cons head rest ih =>
      have step : write replaces (stored.map image) (image head) =
          (write (fun old new => replaces (image old) (image new)) stored head).map image := by
        cases stored with
        | none => rfl
        | some old =>
            unfold write
            dsimp only [Option.map_some]
            split
            · rfl
            · rfl
      change writes replaces (write replaces (stored.map image) (image head)) (rest.map image) = _
      rw [step, ih]
      rfl

theorem writes_kept {stored : Write} {arriving : List Write}
    (below : ∀ other ∈ arriving, ¬ replaces stored other) :
    writes replaces (some stored) arriving = some stored := by
  induction arriving with
  | nil => rfl
  | cons head rest ih =>
      have kept := write_kept (below head List.mem_cons_self)
      change writes replaces (write replaces (some stored) head) rest = some stored
      rw [kept]
      exact ih fun other member => below other (List.mem_cons_of_mem head member)

/-- A write that replaces every other one and that no other one replaces is
held at the end, whatever the order. -/
theorem writes_dominant {arriving : List Write} {winner : Write} (member : winner ∈ arriving)
    (dominant : ∀ other ∈ arriving, other ≠ winner →
      replaces other winner ∧ ¬ replaces winner other)
    (irreflexive : ¬ replaces winner winner) :
    writes replaces none arriving = some winner := by
  obtain ⟨earlier, later, rfl, absent⟩ := List.eq_append_cons_of_mem member
  have kept : ∀ other ∈ later, ¬ replaces winner other := by
    intro other otherMember
    by_cases same : other = winner
    · rw [same]
      exact irreflexive
    · exact (dominant other (by simp [otherMember]) same).2
  have arrives : write replaces (writes replaces none earlier) winner = some winner := by
    cases held : writes replaces none earlier with
    | none => rfl
    | some old =>
        have stored : old ∈ earlier := by
          rcases writes_origin held with start | found
          · cases start
          · exact found
        have different : old ≠ winner := fun same => absent (same ▸ stored)
        exact write_replaced (dominant old (by simp [stored]) different).1
  have split : writes replaces none (earlier ++ winner :: later) =
      writes replaces (write replaces (writes replaces none earlier) winner) later := by
    unfold writes
    rw [List.foldl_append, List.foldl_cons]
  rw [split, arrives]
  exact writes_kept kept

theorem writes_lost {stored : Option Write} {arriving : List Write} {lost : Write}
    (gone : stored ≠ some lost) (absent : lost ∉ arriving) :
    writes replaces stored arriving ≠ some lost := by
  intro held
  rcases writes_origin held with before | later
  · exact gone before
  · exact absent later

/-- A write is held at the end of every order exactly when it replaces every
other one and none of them replaces it. -/
theorem writes_dominant_iff {arriving : List Write} {winner : Write} (member : winner ∈ arriving)
    (distinct : arriving.Nodup) (irreflexive : ¬ replaces winner winner) :
    (∀ order, order.Perm arriving → writes replaces none order = some winner) ↔
      ∀ other ∈ arriving, other ≠ winner → replaces other winner ∧ ¬ replaces winner other := by
  constructor
  · intro always other otherMember different
    obtain ⟨rest, exchanged⟩ : ∃ rest, (other :: winner :: rest).Perm arriving := by
      obtain ⟨front, back, rfl⟩ := List.append_of_mem member
      have first : (front ++ winner :: back).Perm (winner :: (front ++ back)) := List.perm_middle
      have remaining : other ∈ front ++ back :=
        (List.mem_cons.mp (first.mem_iff.mp otherMember)).resolve_left different
      obtain ⟨before, after, shape⟩ := List.append_of_mem remaining
      have second : (front ++ back).Perm (other :: (before ++ after)) := by
        rw [shape]
        exact List.perm_middle
      exact ⟨before ++ after, ((List.Perm.swap winner other (before ++ after)).trans
        (second.symm.cons winner)).trans first.symm⟩
    have unique := exchanged.nodup_iff.mpr distinct
    have absent : winner ∉ rest := by
      simp only [List.nodup_cons] at unique
      exact unique.2.1
    constructor
    · by_contra blocked
      have held := always _ exchanged
      have stored := write_kept blocked
      change writes replaces (write replaces (some other) winner) rest = some winner at held
      rw [stored] at held
      exact writes_lost (fun same => different (Option.some.inj same)) absent held
    · intro overwritten
      have held := always _ ((List.Perm.swap other winner rest).trans exchanged)
      have stored := write_replaced overwritten
      change writes replaces (write replaces (some winner) other) rest = some winner at held
      rw [stored] at held
      exact writes_lost (fun same => different (Option.some.inj same)) absent held
  · intro dominant order rearranged
    exact writes_dominant (rearranged.mem_iff.mpr member)
      (fun other otherMember => dominant other (rearranged.mem_iff.mp otherMember)) irreflexive

end Roosty.Library.Register
