/-
A hash table of chains.

An entry has a key, and a key has a slot; the table is a chain for each slot.  `Chained` says that
every entry is in the chain of its own key and that no key is there twice, and `size` counts the
entries of the slots below a bound.  Writing one chain is all that an operation does, so the rules
are about `setChain`: what it does to the size, and that it keeps the table well formed when the
new chain is part of the old one, or has one entry more whose key was not there.
-/
import Mathlib.Algebra.BigOperators.Group.Finset.Basic
import Mathlib.Data.List.Nodup
import Mathlib.Tactic.Common

namespace Chains

variable {α κ : Type} {key : α → κ} {slot : κ → Nat} {b : Nat → List α} {i n : Nat}

/-- A chain written. -/
def setChain (b : Nat → List α) (i : Nat) (chain : List α) : Nat → List α :=
  fun j => if j = i then chain else b j

@[simp] theorem setChain_self (b : Nat → List α) (i : Nat) (chain : List α) :
    setChain b i chain i = chain := if_pos rfl

theorem setChain_of_ne {j : Nat} (h : j ≠ i) (chain : List α) : setChain b i chain j = b j :=
  if_neg h

/-- The entries of the slots below a bound, counted. -/
def size (n : Nat) (b : Nat → List α) : Nat := (Finset.range n).sum fun j => (b j).length

/-- The size follows the length of the chain that is written. -/
theorem size_setChain (hi : i < n) (chain : List α) :
    size n (setChain b i chain) + (b i).length = size n b + chain.length := by
  have hmem : i ∈ Finset.range n := Finset.mem_range.mpr hi
  have hrest : ((Finset.range n).erase i).sum (fun j => (setChain b i chain j).length) =
      ((Finset.range n).erase i).sum fun j => (b j).length := by
    refine Finset.sum_congr rfl ?_
    intro j hj
    rw [setChain_of_ne (Finset.ne_of_mem_erase hj)]
  unfold size
  rw [← Finset.add_sum_erase _ _ hmem, ← Finset.add_sum_erase _ (fun j => (b j).length) hmem,
    hrest, setChain_self]
  omega

theorem length_le_size (hi : i < n) : (b i).length ≤ size n b := by
  unfold size
  rw [← Finset.add_sum_erase _ (fun j => (b j).length) (Finset.mem_range.mpr hi)]
  exact Nat.le_add_right _ _

variable (key slot) in
/-- Each entry is in the chain of its key, and no key is in a chain twice. -/
structure Chained (b : Nat → List α) : Prop where
  placed : ∀ i, ∀ e ∈ b i, slot (key e) = i
  once : ∀ i, ((b i).map key).Nodup

/-- Entries with one key are one entry. -/
theorem Chained.eq_of_key (h : Chained key slot b) {j : Nat} {e e' : α} (he : e ∈ b i)
    (he' : e' ∈ b j) (hkey : key e = key e') : e = e' := by
  have hij : i = j := by rw [← h.placed i e he, ← h.placed j e' he', hkey]
  exact List.inj_on_of_nodup_map (h.once i) he (hij ▸ he') hkey

/-- A chain of other entries with the keys of its slot, none twice. -/
theorem Chained.setChain (h : Chained key slot b) {chain : List α}
    (hplaced : ∀ e ∈ chain, slot (key e) = i) (honce : (chain.map key).Nodup) :
    Chained key slot (Chains.setChain b i chain) := by
  refine ⟨?_, ?_⟩
  · intro j e he
    by_cases hj : j = i
    · rw [hj, setChain_self] at he
      rw [hj]
      exact hplaced e he
    · rw [setChain_of_ne hj] at he
      exact h.placed j e he
  · intro j
    by_cases hj : j = i
    · rw [hj, setChain_self]
      exact honce
    · rw [setChain_of_ne hj]
      exact h.once j

/-- Entries taken out of a chain. -/
theorem Chained.sublist (h : Chained key slot b) {chain : List α} (hsub : chain.Sublist (b i)) :
    Chained key slot (Chains.setChain b i chain) :=
  h.setChain (fun e he => h.placed i e (hsub.subset he)) ((h.once i).sublist (hsub.map key))

/-- The entry of a key taken out: the others stay. -/
theorem Chained.mem_eraseP (h : Chained key slot b) {p : α → Bool} {k : κ}
    (hp : ∀ e, p e = true ↔ key e = k) {e : α} :
    e ∈ (b i).eraseP p ↔ e ∈ b i ∧ key e ≠ k := by
  have honce := h.once i
  generalize b i = l at honce ⊢
  induction l with
  | nil => simp
  | cons x rest ih =>
      rw [List.map_cons] at honce
      obtain ⟨hx, hrest⟩ := List.nodup_cons.mp honce
      by_cases hpx : p x = true
      · have hkey := (hp x).mp hpx
        rw [List.eraseP_cons_of_pos hpx]
        refine ⟨?_, ?_⟩
        · intro he
          refine ⟨List.mem_cons_of_mem _ he, ?_⟩
          intro hek
          exact hx (List.mem_map.mpr ⟨e, he, hek.trans hkey.symm⟩)
        · intro he
          obtain ⟨he, hek⟩ := he
          rcases List.mem_cons.mp he with hex | he
          · exact absurd (hex ▸ hkey) hek
          · exact he
      · have hkey : key x ≠ k := fun hk => hpx ((hp x).mpr hk)
        have hih : e ∈ rest.eraseP p ↔ e ∈ rest ∧ key e ≠ k := ih hrest
        rw [List.eraseP_cons_of_neg hpx, List.mem_cons, List.mem_cons, hih]
        refine ⟨?_, ?_⟩
        · intro he
          rcases he with hex | he
          · exact ⟨Or.inl hex, hex ▸ hkey⟩
          · exact ⟨Or.inr he.1, he.2⟩
        · intro he
          obtain ⟨he, hek⟩ := he
          rcases he with hex | he
          · exact Or.inl hex
          · exact Or.inr ⟨he, hek⟩

end Chains
