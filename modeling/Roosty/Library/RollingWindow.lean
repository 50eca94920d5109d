import Mathlib.Algebra.Order.Group.Defs
import Mathlib.Algebra.Order.Group.Unbundled.Basic
import Mathlib.Algebra.Order.Sub.Defs
import Mathlib.Data.List.Basic

/-!
# Rolling windows

Ascending lists of instants, and how many of them a half-open window of a given width
holds. A limit that is checked in the window ending at each new instant holds in
every window, and a full window has room again when its oldest instant leaves it.
-/

set_option autoImplicit false

namespace Roosty.Library.RollingWindow

variable {Time : Type} [AddCommGroup Time] [LinearOrder Time]

/-- The instants after the start of the window that ends at `now`. -/
def recent (width now : Time) (times : List Time) : List Time :=
  times.filter fun time => now - width < time

/-- Every window holds at most `limit` instants. -/
def Bounded (limit : Nat) (width : Time) (times : List Time) : Prop :=
  ∀ now, (times.filter fun time => now - width < time && time ≤ now).length ≤ limit

variable {limit : Nat} {width now later time : Time} {times : List Time}

theorem Bounded.nil (limit : Nat) (width : Time) : Bounded limit width [] := fun _ => Nat.zero_le _

variable [IsOrderedAddMonoid Time]

theorem recent_of_narrower {narrow wide : Time} (order : narrow ≤ wide) (now : Time)
    (times : List Time) : recent narrow now (recent wide now times) = recent narrow now times := by
  unfold recent
  rw [List.filter_filter]
  refine List.filter_congr fun time _ => ?_
  rw [Bool.and_eq_left_iff_imp]
  intro after
  rw [decide_eq_true_eq] at after ⊢
  exact lt_of_le_of_lt (sub_le_sub_left order now) after

/-- One more instant, where the window that ends at it has room. -/
theorem Bounded.concat (bounded : Bounded limit width times)
    (room : (recent width now times).length < limit) : Bounded limit width (times ++ [now]) := by
  intro instant
  rw [List.filter_append, List.length_append]
  by_cases before : instant < now
  · have kept := bounded instant
    have excluded : ([now].filter fun time => instant - width < time && time ≤ instant) = [] := by
      simp [before]
    rw [excluded]
    exact kept
  · have fewer : (times.filter fun time => instant - width < time && time ≤ instant).length ≤
        (recent width now times).length := by
      refine List.Sublist.length_le (List.monotone_filter_right times fun time inside => ?_)
      rw [Bool.and_eq_true, decide_eq_true_eq] at inside
      rw [decide_eq_true_eq]
      exact lt_of_le_of_lt (sub_le_sub_right (not_lt.mp before) width) inside.1
    have one := List.length_filter_le (fun time => instant - width < time && time ≤ instant) [now]
    rw [List.length_singleton] at one
    omega

end Roosty.Library.RollingWindow
