/-
What holds at every step of a run.

`Along step P s ls` says that each label of a sequence has the property in the state it is taken
in.  Two properties that are one wherever a label may be taken hold along the same runs
(`along_congr`), and what follows from a property follows along its runs (`along_mono`).
-/
import Mathlib.Tactic.Common

variable {σ ℓ : Type}

/-- Each label has the property in the state it is taken in. -/
def Along (step : σ → ℓ → σ) (P : σ → ℓ → Prop) : σ → List ℓ → Prop
  | _, [] => True
  | s, l :: rest => P s l ∧ Along step P (step s l) rest

theorem along_congr {step : σ → ℓ → σ} {P Q : σ → ℓ → Prop} {s : σ} {ls : List ℓ}
    (h : ∀ s, ∀ l ∈ ls, P s l ↔ Q s l) : Along step P s ls ↔ Along step Q s ls := by
  induction ls generalizing s with
  | nil => exact Iff.rfl
  | cons l rest ih =>
      unfold Along
      rw [h s l List.mem_cons_self, ih fun s l' hl' => h s l' (List.mem_cons_of_mem l hl')]

theorem along_mono {step : σ → ℓ → σ} {P Q : σ → ℓ → Prop} {s : σ} {ls : List ℓ}
    (h : ∀ s l, P s l → Q s l) (hP : Along step P s ls) : Along step Q s ls := by
  induction ls generalizing s with
  | nil => exact trivial
  | cons l rest ih => exact ⟨h s l hP.1, ih hP.2⟩

/-- Two properties along one run. -/
theorem along_and {step : σ → ℓ → σ} {P Q : σ → ℓ → Prop} {s : σ} {ls : List ℓ} :
    Along step (fun s l => P s l ∧ Q s l) s ls ↔ Along step P s ls ∧ Along step Q s ls := by
  induction ls generalizing s with
  | nil => exact ⟨fun _ => ⟨trivial, trivial⟩, fun _ => trivial⟩
  | cons l rest ih =>
      unfold Along
      rw [ih]
      exact ⟨fun h => ⟨⟨h.1.1, h.2.1⟩, ⟨h.1.2, h.2.2⟩⟩, fun h => ⟨⟨h.1.1, h.2.1⟩, ⟨h.1.2, h.2.2⟩⟩⟩
