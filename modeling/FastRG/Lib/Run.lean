/-
Runs of a step function.

A system is a deterministic step on a state, driven by labels: which operation is
called, with which arguments, at what time, and what its environment decides.
`Run` is a finite sequence of such steps, each of which meets a guard in the
state it starts from.  A guard that is always true gives every run; a stronger
one gives the runs in which something does not happen.

Two rules carry every result about whole runs: an invariant of one guarded step
is an invariant of the run, and what a run has done so far can be cut off from
what it does next.
-/
import Mathlib.Tactic.Common

variable {σ ℓ : Type}

/-- `Run step guard s ls s'`: the labels `ls` lead from `s` to `s'`. -/
inductive Run (step : σ → ℓ → σ) (guard : σ → ℓ → Prop) (s : σ) : List ℓ → σ → Prop
  | nil : Run step guard s [] s
  | snoc {ls : List ℓ} {s' : σ} (h : Run step guard s ls s') (l : ℓ) (hl : guard s' l) :
      Run step guard s (ls ++ [l]) (step s' l)

namespace Run

variable {step : σ → ℓ → σ} {guard : σ → ℓ → Prop} {s s' s'' : σ} {ls ls' : List ℓ}

/-- What every guarded step keeps, a run keeps. -/
theorem inv (I : σ → Prop) (hstep : ∀ s l, I s → guard s l → I (step s l))
    (h : Run step guard s ls s') (hs : I s) : I s' := by
  induction h with
  | nil => exact hs
  | snoc _ l hl ih => exact hstep _ l ih hl

/-- One run after another. -/
theorem append (h : Run step guard s ls s') (h' : Run step guard s' ls' s'') :
    Run step guard s (ls ++ ls') s'' := by
  induction h' with
  | nil => rw [List.append_nil]; exact h
  | snoc _ l hl ih => rw [← List.append_assoc]; exact snoc ih l hl

theorem single (l : ℓ) (hl : guard s l) : Run step guard s [l] (step s l) :=
  snoc nil l hl

/-- What is true of every label of a run may be added to its guard. -/
theorem and_labels {Q : ℓ → Prop} (h : Run step guard s ls s') (hQ : ∀ l ∈ ls, Q l) :
    Run step (fun s l => guard s l ∧ Q l) s ls s' := by
  induction h with
  | nil => exact nil
  | snoc _ l hl ih =>
      have hfirst := ih fun l' hl' => hQ l' (List.mem_append_left _ hl')
      exact snoc hfirst l ⟨hl, hQ l (List.mem_append_right _ (List.mem_singleton.mpr rfl))⟩

/-- Labels that meet the guard while an invariant holds, and keep it, are a run. -/
theorem of_inv (I : σ → Prop) (ls : List ℓ)
    (hstep : ∀ l ∈ ls, ∀ s, I s → guard s l ∧ I (step s l)) (hs : I s) :
    Run step guard s ls (ls.foldl step s) := by
  induction ls generalizing s with
  | nil => exact nil
  | cons l rest ih =>
      obtain ⟨hguard, hnext⟩ := hstep l List.mem_cons_self s hs
      have hrest := ih (fun l' hl' => hstep l' (List.mem_cons_of_mem l hl')) hnext
      exact append (single l hguard) hrest

/-- Labels that meet the guard in whatever state are a run. -/
theorem of_labels (s : σ) (ls : List ℓ) (hg : ∀ s, ∀ l ∈ ls, guard s l) :
    Run step guard s ls (ls.foldl step s) :=
  of_inv (fun _ => True) ls (fun l hl s _ => ⟨hg s l hl, trivial⟩) trivial

/-- Labels that meet a decidable guard, each in the state it is taken in. -/
def checks (step : σ → ℓ → σ) (guard : σ → ℓ → Prop) [∀ s l, Decidable (guard s l)] :
    σ → List ℓ → Bool
  | _, [] => true
  | s, l :: rest => decide (guard s l) && checks step guard (step s l) rest

theorem of_checks [∀ s l, Decidable (guard s l)] (s : σ) (ls : List ℓ)
    (h : checks step guard s ls = true) : Run step guard s ls (ls.foldl step s) := by
  induction ls generalizing s with
  | nil => exact nil
  | cons l rest ih =>
      obtain ⟨hl, hrest⟩ := Bool.and_eq_true_iff.mp h
      exact append (single l (of_decide_eq_true hl)) (ih (step s l) hrest)

end Run
