/-
Two tables over the same slots.

A record kept in a numbered slot is found under either of two keys, each in a
table of its own, and the slot stores enough to rebuild both.  `Paired` says that
the tables tell the same story: whatever one of them finds, it finds under the key
the slot stores, and the other table finds it too.

A deletion by stored keys is only safe when both keys lead to the same slot, or
neither leads anywhere.  That is the hypothesis of `Paired.erase`, and `same_erase`
says that a safe deletion does not make another one unsafe.
-/
import FastRG.Lib.Hash

namespace Rte

variable {F R : Type} [DecidableEq F] [DecidableEq R]

/-- What either table finds, the other finds under the key the slot stores. -/
structure Paired (fwd : Hash F Nat) (rev : Hash R Nat) (fkey : Nat → F) (rkey : Nat → R) :
    Prop where
  ofFwd : ∀ k i, fwd.lookup k = some i → k = fkey i ∧ rev.lookup (rkey i) = some i
  ofRev : ∀ k i, rev.lookup k = some i → k = rkey i ∧ fwd.lookup (fkey i) = some i

namespace Paired

variable {fwd fwd' : Hash F Nat} {rev rev' : Hash R Nat} {fkey fkey' : Nat → F}
  {rkey rkey' : Nat → R} {f f' : F} {r r' : R} {i : Nat} {room room' : Bool}

/-- Two tables that find nothing are paired. -/
theorem of_none (hf : ∀ k, fwd.lookup k = none) (hr : ∀ k, rev.lookup k = none) :
    Paired fwd rev fkey rkey := by
  refine ⟨?_, ?_⟩
  · intro k i hk
    simp [hf] at hk
  · intro k i hk
    simp [hr] at hk

/-- A slot some forward key finds is a value of the reverse table. -/
theorem mem_values (h : Paired fwd rev fkey rkey) (hf : fwd.lookup f = some i) :
    i ∈ rev.values :=
  Hash.mem_values_of_lookup (h.ofFwd f i hf).2

/-- Slots that are not linked may store what they like. -/
theorem congr (h : Paired fwd rev fkey rkey)
    (hkeys : ∀ i ∈ rev.values, fkey' i = fkey i ∧ rkey' i = rkey i) :
    Paired fwd rev fkey' rkey' := by
  refine ⟨?_, ?_⟩
  · intro k i hk
    obtain ⟨hf, hr⟩ := hkeys i (h.mem_values hk)
    rw [hf, hr]
    exact h.ofFwd k i hk
  · intro k i hk
    obtain ⟨hf, hr⟩ := hkeys i (Hash.mem_values_of_lookup hk)
    rw [hf, hr]
    exact h.ofRev k i hk

/-- Only what a table finds matters, not what waits in its defer queue. -/
theorem of_lookup (h : Paired fwd rev fkey rkey) (hf : ∀ k, fwd'.lookup k = fwd.lookup k)
    (hr : ∀ k, rev'.lookup k = rev.lookup k) : Paired fwd' rev' fkey rkey := by
  refine ⟨?_, ?_⟩
  · intro k i hk
    rw [hf] at hk
    rw [hr]
    exact h.ofFwd k i hk
  · intro k i hk
    rw [hr] at hk
    rw [hf]
    exact h.ofRev k i hk

/-- The two keys of a linked slot lead to it. -/
theorem same_of_linked (h : Paired fwd rev fkey rkey) (hr : rev.lookup r = some i) :
    fwd.lookup (fkey i) = some i ∧ rev.lookup (rkey i) = some i := by
  obtain ⟨hkey, hf⟩ := h.ofRev r i hr
  rw [← hkey]
  exact ⟨hf, hr⟩

/-- Two keys that lead to the same place are deleted together, or not at all. -/
theorem eq_iff (h : Paired fwd rev fkey rkey) (hs : fwd.lookup f = rev.lookup r)
    (hf : fwd.lookup f' = some i) (hr : rev.lookup r' = some i) : f' = f ↔ r' = r := by
  refine ⟨?_, ?_⟩
  · intro heq
    subst heq
    rw [hf] at hs
    rw [(h.ofRev _ _ hr).1, (h.ofRev _ _ hs.symm).1]
  · intro heq
    subst heq
    rw [hr] at hs
    rw [(h.ofFwd _ _ hf).1, (h.ofFwd _ _ hs).1]

/-- Deleting two keys that lead to the same place leaves the tables paired. -/
theorem erase (h : Paired fwd rev fkey rkey) (hs : fwd.lookup f = rev.lookup r) :
    Paired (fwd.delKey f).2 (rev.delKey r).2 fkey rkey := by
  refine ⟨?_, ?_⟩
  · intro k i hk
    obtain ⟨hne, hk⟩ := Hash.lookup_of_delKey hk
    obtain ⟨hkey, hr⟩ := h.ofFwd k i hk
    refine ⟨hkey, ?_⟩
    rw [Hash.lookup_delKey_ne _ (fun heq => hne ((h.eq_iff hs hk hr).mpr heq))]
    exact hr
  · intro k i hk
    obtain ⟨hne, hk⟩ := Hash.lookup_of_delKey hk
    obtain ⟨hkey, hf⟩ := h.ofRev k i hk
    refine ⟨hkey, ?_⟩
    rw [Hash.lookup_delKey_ne _ (fun heq => hne ((h.eq_iff hs hf hk).mp heq))]
    exact hf

/-- Two other keys that led to the same place still do. -/
theorem same_erase (h : Paired fwd rev fkey rkey) (hs : fwd.lookup f = rev.lookup r)
    (hs' : fwd.lookup f' = rev.lookup r') :
    (fwd.delKey f).2.lookup f' = (rev.delKey r).2.lookup r' := by
  rw [Hash.lookup_delKey, Hash.lookup_delKey]
  cases hf : fwd.lookup f' with
  | none =>
      rw [hf] at hs'
      simp [← hs']
  | some i =>
      rw [hf] at hs'
      simp only [← hs', h.eq_iff hs hf hs'.symm]

/-- A new record under two new keys. -/
theorem insert (h : Paired fwd rev fkey rkey)
    (hfadd : fwd.addKeyData f i room = some fwd') (hradd : rev.addKeyData r i room' = some rev')
    (hf : fwd.lookup f = none) (hr : rev.lookup r = none)
    (hfkey : fkey i = f) (hrkey : rkey i = r) : Paired fwd' rev' fkey rkey := by
  refine ⟨?_, ?_⟩
  · intro k j hk
    rw [Hash.lookup_addKeyData hfadd] at hk
    rw [Hash.lookup_addKeyData hradd]
    split at hk
    · rename_i heq
      obtain rfl := Option.some.inj hk
      rw [heq, hfkey, hrkey, if_pos rfl]
      exact ⟨rfl, rfl⟩
    · obtain ⟨hkey, hrev⟩ := h.ofFwd k j hk
      refine ⟨hkey, ?_⟩
      rw [if_neg]
      · exact hrev
      · intro heq
        simp [heq, hr] at hrev
  · intro k j hk
    rw [Hash.lookup_addKeyData hradd] at hk
    rw [Hash.lookup_addKeyData hfadd]
    split at hk
    · rename_i heq
      obtain rfl := Option.some.inj hk
      rw [heq, hfkey, hrkey, if_pos rfl]
      exact ⟨rfl, rfl⟩
    · obtain ⟨hkey, hfwd⟩ := h.ofRev k j hk
      refine ⟨hkey, ?_⟩
      rw [if_neg]
      · exact hfwd
      · intro heq
        simp [heq, hf] at hfwd

end Paired

end Rte
