/-
Items laid one after another.

A format that is a sequence of items, each of which says where the next one starts, is read by
going from item to item.  `Laid item pos xs last` says that the items `xs` stand from `pos` to
`last`.  Where each position starts one item at most, two readings from one place agree as far as
the shorter goes (`Laid.goes_on`).
-/
import Mathlib.Tactic.Common

variable {π α : Type}

/-- The items stand one after another, from one position to another. -/
inductive Laid (item : π → α → π → Prop) : π → List α → π → Prop
  | nil {pos : π} : Laid item pos [] pos
  | cons {pos mid last : π} {x : α} {xs : List α} (hx : item pos x mid)
      (hxs : Laid item mid xs last) : Laid item pos (x :: xs) last

namespace Laid

variable {item item' : π → α → π → Prop} {pos mid last : π} {xs ys : List α}

/-- **The longer of two readings goes on from where the shorter ends.** -/
theorem goes_on (hitem : ∀ p x q x' q', item p x q → item p x' q' → x = x' ∧ q = q')
    (h : Laid item pos xs mid) (h' : Laid item pos ys last) (hle : xs.length ≤ ys.length) :
    ∃ rest, ys = xs ++ rest ∧ Laid item mid rest last := by
  induction h generalizing ys with
  | nil => exact ⟨ys, rfl, h'⟩
  | cons hx _ ih =>
      cases h' with
      | nil => exact absurd hle (by simp)
      | cons hy hys =>
          obtain ⟨rfl, rfl⟩ := hitem _ _ _ _ _ hx hy
          obtain ⟨rest, hrest, hlast⟩ := ih hys (Nat.le_of_succ_le_succ hle)
          exact ⟨rest, by rw [hrest, List.cons_append], hlast⟩

/-- Two readings of one length are one. -/
theorem unique (hitem : ∀ p x q x' q', item p x q → item p x' q' → x = x' ∧ q = q')
    (h : Laid item pos xs mid) (h' : Laid item pos ys last) (hlen : xs.length = ys.length) :
    xs = ys ∧ mid = last := by
  obtain ⟨rest, hrest, hlast⟩ := goes_on hitem h h' (Nat.le_of_eq hlen)
  have hnil : rest = [] := by
    rw [hrest, List.length_append] at hlen
    exact List.length_eq_zero_iff.mp (by omega)
  subst hnil
  cases hlast with
  | nil => exact ⟨by rw [hrest, List.append_nil], rfl⟩

end Laid
