/-
A loop that takes items off a buffer until nothing is left.

`next` reads one item and gives what remains, or refuses; `take` is what the loop does with an
item, which may refuse too.  The number of rounds is bounded by a parameter, and as long as
`next` takes something off each time the length of the buffer is bound enough.
-/
import Mathlib.Tactic.Common

namespace Walk

variable {β ο σ : Type}

/-- The loop, for at most so many rounds. -/
def run (next : List β → Option (ο × List β)) (take : σ → ο → Option σ) :
    Nat → List β → σ → Option σ
  | _, [], s => some s
  | 0, _ :: _, _ => none
  | n + 1, b :: bs, s => do
      let (o, rest) ← next (b :: bs)
      let s ← take s o
      run next take n rest s

variable {next : List β → Option (ο × List β)} {take : σ → ο → Option σ}

/-- What every item that is taken keeps, the loop keeps. -/
theorem run_inv (I : σ → Prop) (hstep : ∀ s o s', I s → take s o = some s' → I s') (n : Nat)
    (bs : List β) {s s' : σ} (h : run next take n bs s = some s') (hs : I s) : I s' := by
  induction n generalizing bs s with
  | zero =>
      cases bs with
      | nil => exact Option.some.inj h ▸ hs
      | cons b bs => exact absurd h (by simp [run])
  | succ n ih =>
      cases bs with
      | nil => exact Option.some.inj h ▸ hs
      | cons b bs =>
          obtain ⟨⟨o, rest⟩, -, h⟩ := Option.bind_eq_some_iff.mp h
          obtain ⟨s₁, htake, h⟩ := Option.bind_eq_some_iff.mp h
          exact ih rest h (hstep s o s₁ hs htake)

/-- The buffer is its items one after the other, where `enc` writes an item, and what holds of
the items so far and the state holds at the end. -/
theorem run_reads (enc : ο → List β)
    (hnext : ∀ bs o rest, next bs = some (o, rest) → bs = enc o ++ rest)
    (I : List ο → σ → Prop) (hstep : ∀ os s o s', I os s → take s o = some s' → I (os ++ [o]) s')
    (n : Nat) (bs : List β) (done : List ο) {s s' : σ} (h : run next take n bs s = some s')
    (hs : I done s) : ∃ os, bs = os.flatMap enc ∧ I (done ++ os) s' := by
  induction n generalizing bs done s with
  | zero =>
      cases bs with
      | nil => exact ⟨[], rfl, by rw [List.append_nil]; exact Option.some.inj h ▸ hs⟩
      | cons b bs => exact absurd h (by simp [run])
  | succ n ih =>
      cases bs with
      | nil => exact ⟨[], rfl, by rw [List.append_nil]; exact Option.some.inj h ▸ hs⟩
      | cons b bs =>
          obtain ⟨⟨o, rest⟩, hread, h⟩ := Option.bind_eq_some_iff.mp h
          obtain ⟨s₁, htake, h⟩ := Option.bind_eq_some_iff.mp h
          obtain ⟨os, hrest, hI⟩ := ih rest (done ++ [o]) h (hstep done s o s₁ hs htake)
          refine ⟨o :: os, ?_, ?_⟩
          · rw [List.flatMap_cons, ← hrest]
            exact hnext _ o rest hread
          · rw [List.append_assoc] at hI
            exact hI

/-- If each item is shorter than the buffer it is read from, the length is bound enough. -/
theorem run_enough (hnext : ∀ bs o rest, next bs = some (o, rest) → rest.length < bs.length)
    (n : Nat) (bs : List β) (s : σ) (hn : bs.length ≤ n) :
    run next take n bs s = run next take bs.length bs s := by
  -- Two bounds that are both enough give the same.
  have hcongr : ∀ (n m : Nat) (bs : List β) (s : σ), bs.length ≤ n → bs.length ≤ m →
      run next take n bs s = run next take m bs s := by
    intro n
    induction n with
    | zero =>
        intro m bs s hn hm
        cases bs with
        | nil => cases m <;> rfl
        | cons b bs => exact absurd hn (by simp)
    | succ n ih =>
        intro m bs s hn hm
        cases bs with
        | nil => cases m <;> rfl
        | cons b bs =>
            cases m with
            | zero => exact absurd hm (by simp)
            | succ m =>
                unfold run
                cases hread : next (b :: bs) with
                | none => rfl
                | some item =>
                    obtain ⟨o, rest⟩ := item
                    have hless := hnext _ o rest hread
                    show (take s o).bind _ = (take s o).bind _
                    cases take s o with
                    | none => rfl
                    | some s₁ => exact ih m rest s₁ (by omega) (by omega)
  exact hcongr n bs.length bs s hn (Nat.le_refl _)

end Walk
