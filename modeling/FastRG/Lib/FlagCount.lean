/-
How many flags are up.

A counter that is raised when a flag goes up and lowered when one goes down is the number of flags
that are up, as long as each change is of a flag in range that stands the other way.
-/
import Mathlib.Data.List.Count
import Mathlib.Logic.Function.Basic

namespace FlagCount

variable {on : Nat → Bool} {i n : Nat}

/-- The number of flags below `n` that are up. -/
def count (on : Nat → Bool) (n : Nat) : Nat := (List.range n).countP on

theorem count_zero (on : Nat → Bool) : count on 0 = 0 := rfl

theorem count_succ (on : Nat → Bool) (n : Nat) :
    count on (n + 1) = count on n + if on n then 1 else 0 := by
  unfold count
  rw [List.range_succ, List.countP_append, List.countP_singleton]

/-- A flag out of range does not count. -/
theorem count_update_of_le (on : Nat → Bool) (b : Bool) (h : n ≤ i) :
    count (Function.update on i b) n = count on n := by
  induction n with
  | zero => rfl
  | succ n ih =>
      rw [count_succ, count_succ, ih (by omega), Function.update_of_ne (by omega)]

/-- A flag that goes up. -/
theorem count_raise (hi : i < n) (hdown : on i = false) :
    count (Function.update on i true) n = count on n + 1 := by
  induction n with
  | zero => exact absurd hi (Nat.not_lt_zero i)
  | succ n ih =>
      rw [count_succ, count_succ]
      by_cases hlast : i = n
      · subst hlast
        rw [count_update_of_le on true (Nat.le_refl i), Function.update_self, hdown]
        rfl
      · rw [ih (by omega), Function.update_of_ne (Ne.symm hlast)]
        omega

/-- A flag that goes down. -/
theorem count_lower (hi : i < n) (hup : on i = true) :
    count (Function.update on i false) n + 1 = count on n := by
  have hraise : count (Function.update (Function.update on i false) i true) n =
      count (Function.update on i false) n + 1 := count_raise hi (Function.update_self ..)
  rw [Function.update_idem, ← hup, Function.update_eq_self] at hraise
  exact hraise.symm

theorem count_pos (hi : i < n) (hup : on i = true) : 0 < count on n :=
  List.countP_pos_iff.mpr ⟨i, List.mem_range.mpr hi, hup⟩

/-- No flag is up. -/
theorem count_eq_zero : count on n = 0 ↔ ∀ i < n, on i = false := by
  unfold count
  rw [List.countP_eq_zero]
  refine ⟨fun h i hi => ?_, fun h i hi => ?_⟩
  · exact Bool.not_eq_true _ ▸ h i (List.mem_range.mpr hi)
  · exact Bool.not_eq_true _ ▸ h i (List.mem_range.mp hi)

end FlagCount
