/-
Entries that a counter makes stale.

A table is emptied without touching it: every entry carries the stamp that was current when it was
stored, and raising the stamp hides them all at once.  What is hidden stays where it is, so it must
never be that a stamp comes to be current again while an entry still carries it.

`Fresh` says that what can be seen is what was stored last since the stamp was raised.  Storing and
removing keep it; raising the stamp keeps it exactly when nothing stored carries the next one.
-/
import Mathlib.Logic.Function.Basic

namespace Stamped

variable {K V S : Type}

/-- What can be seen of the entries, under the current stamp. -/
def visible [DecidableEq S] (stored : K → Option (V × S)) (current : S) (k : K) : Option V :=
  match stored k with
  | none => none
  | some (v, s) => if s = current then some v else none

/-- What can be seen is what is stored under the current stamp. -/
theorem visible_eq_some [DecidableEq S] {stored : K → Option (V × S)} {current : S} {k : K} {v : V} :
    visible stored current k = some v ↔ stored k = some (v, current) := by
  unfold visible
  cases hk : stored k with
  | none => simp
  | some e =>
      obtain ⟨w, s⟩ := e
      by_cases hs : s = current
      · simp [hs]
      · simp [hs]

/-- What is stored under the current stamp is what came last. -/
def Fresh (stored : K → Option (V × S)) (current : S) (latest : K → Option V) : Prop :=
  ∀ k v, stored k = some (v, current) → latest k = some v

variable {stored stored' : K → Option (V × S)} {current next : S} {latest : K → Option V}

theorem fresh_nothing (current : S) (latest : K → Option V) :
    Fresh (fun _ => none) current latest := by
  intro k v hk
  exact absurd hk (by simp)

/-- Entries that go leave the rest as it was. -/
theorem Fresh.mono (h : Fresh stored current latest)
    (hsub : ∀ k v s, stored' k = some (v, s) → stored k = some (v, s)) :
    Fresh stored' current latest := by
  intro k v hk
  exact h k v (hsub k v current hk)

/-- An entry stored under the current stamp. -/
theorem Fresh.store [DecidableEq K] (h : Fresh stored current latest) (k : K) (v : V) :
    Fresh (Function.update stored k (some (v, current))) current
      (Function.update latest k (some v)) := by
  intro k' v' hk
  by_cases heq : k' = k
  · subst heq
    rw [Function.update_self] at hk ⊢
    rw [(Prod.mk.inj (Option.some.inj hk)).1]
  · rw [Function.update_of_ne heq] at hk ⊢
    exact h k' v' hk

/-- The stamp raised to one that nothing carries. -/
theorem fresh_raise (latest : K → Option V) (hnext : ∀ k v, stored k ≠ some (v, next)) :
    Fresh stored next latest := by
  intro k v hk
  exact absurd hk (hnext k v)

/-- Raising the stamp forgets everything exactly when nothing carries the next one. -/
theorem visible_raise_iff [DecidableEq S] :
    (∀ k, visible stored next k = none) ↔ ∀ k v, stored k ≠ some (v, next) := by
  refine ⟨fun h k v hk => ?_, fun h k => ?_⟩
  · have hsome := visible_eq_some.mpr hk
    rw [h k] at hsome
    exact absurd hsome (by simp)
  · rw [Option.eq_none_iff_forall_ne_some]
    intro v hv
    exact h k v (visible_eq_some.mp hv)

end Stamped
