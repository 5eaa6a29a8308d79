/-
A hash table whose deletions are deferred.

DPDK's `rte_hash`, configured with an RCU defer queue, is a finite map with one
twist: deleting a key takes it out of the map at once, but the value it carried
is only queued.  It is handed to a callback later, when every reader has passed
a quiescent state, and until then it belongs to nobody.

`Hash` is that: an association list with distinct keys, which Mathlib has as
`AList`, and the queue of values whose keys are gone.  Insertion takes the
library's verdict as an argument, because whether a cuckoo table finds room for a
key is not a function of anything its caller can see.
-/
import Mathlib.Data.List.AList
import Mathlib.Tactic.Common

namespace Rte

/-- A finite map together with the values waiting to be reclaimed. -/
structure Hash (K V : Type) where
  table : AList (fun _ : K => V)
  /-- The defer queue, oldest deletion first. -/
  dq : List V

namespace Hash

variable {K V : Type}

/-- `rte_hash_create`. -/
def empty : Hash K V := ⟨∅, []⟩

/-- The values some key maps to. -/
def values (h : Hash K V) : List V := h.table.entries.map (·.2)

@[simp] theorem values_empty : (empty : Hash K V).values = [] := rfl

@[simp] theorem dq_empty : (empty : Hash K V).dq = [] := rfl

@[simp] theorem values_setDq (h : Hash K V) (l : List V) :
    ({ h with dq := l } : Hash K V).values = h.values := rfl

variable [DecidableEq K]

/-- `rte_hash_lookup_data`. -/
def lookup (h : Hash K V) (k : K) : Option V := h.table.lookup k

/--
`rte_hash_add_key_data`.  `room` is whether the table found a place for the key;
a key that is already there has its value replaced.
-/
def addKeyData (h : Hash K V) (k : K) (v : V) (room : Bool) : Option (Hash K V) :=
  if room then some { h with table := h.table.insert k v } else none

/-- `rte_hash_del_key`: whether the key was there, and the table without it. -/
def delKey (h : Hash K V) (k : K) : Bool × Hash K V :=
  match h.lookup k with
  | none => (false, h)
  | some v => (true, { table := h.table.erase k, dq := h.dq ++ [v] })

/-- The element the defer queue gives up next. -/
def popDq (h : Hash K V) : Option (V × Hash K V) :=
  match h.dq with
  | [] => none
  | v :: rest => some (v, { h with dq := rest })

@[simp] theorem lookup_empty (k : K) : (empty : Hash K V).lookup k = none := rfl

/-! ### Deleting a key -/

theorem delKey_none {h : Hash K V} {k : K} (hk : h.lookup k = none) :
    h.delKey k = (false, h) := by
  simp [delKey, hk]

theorem delKey_some {h : Hash K V} {k : K} {v : V} (hk : h.lookup k = some v) :
    h.delKey k = (true, { table := h.table.erase k, dq := h.dq ++ [v] }) := by
  simp [delKey, hk]

theorem delKey_dq (h : Hash K V) (k : K) :
    (h.delKey k).2.dq = h.dq ++ (h.lookup k).toList := by
  cases hk : h.lookup k with
  | none => rw [delKey_none hk]; simp
  | some v => rw [delKey_some hk]; rfl

/-- A deletion removes the one key and leaves every other where it was. -/
theorem lookup_delKey (h : Hash K V) (k k' : K) :
    (h.delKey k).2.lookup k' = if k' = k then none else h.lookup k' := by
  cases hk : h.lookup k with
  | none =>
      rw [delKey_none hk]
      split
      · rename_i heq
        rw [heq, hk]
      · rfl
  | some v =>
      rw [delKey_some hk]
      show (h.table.erase k).lookup k' = _
      split
      · rename_i heq
        rw [heq, AList.lookup_erase]
      · rename_i hne
        exact AList.lookup_erase_ne hne

@[simp] theorem lookup_delKey_self (h : Hash K V) (k : K) : (h.delKey k).2.lookup k = none := by
  simp [lookup_delKey]

theorem lookup_delKey_ne (h : Hash K V) {k k' : K} (hne : k' ≠ k) :
    (h.delKey k).2.lookup k' = h.lookup k' := by
  simp [lookup_delKey, hne]

/-- What a deletion leaves was there before it. -/
theorem lookup_of_delKey {h : Hash K V} {k k' : K} {v : V}
    (hk : (h.delKey k).2.lookup k' = some v) : k' ≠ k ∧ h.lookup k' = some v := by
  rw [lookup_delKey] at hk
  split at hk
  · simp at hk
  · exact ⟨‹_›, hk⟩

/-- The keys that chosen slots store, deleted one after another. -/
def delKeys (chosen : Nat → Bool) (key : Nat → K) (is : List Nat) (h : Hash K V) : Hash K V :=
  is.foldl (fun h i => if chosen i then (h.delKey (key i)).2 else h) h

/-- What is gone afterwards is what a chosen slot stores. -/
theorem lookup_delKeys (chosen : Nat → Bool) (key : Nat → K) (is : List Nat) (h : Hash K V) (k : K) :
    (delKeys chosen key is h).lookup k =
      if ∃ i ∈ is, chosen i = true ∧ key i = k then none else h.lookup k := by
  induction is generalizing h with
  | nil => simp [delKeys]
  | cons i rest ih =>
      show (delKeys chosen key rest (if chosen i then (h.delKey (key i)).2 else h)).lookup k = _
      rw [ih]
      by_cases hrest : ∃ j ∈ rest, chosen j = true ∧ key j = k
      · obtain ⟨j, hj, hstores⟩ := hrest
        rw [if_pos ⟨j, hj, hstores⟩, if_pos ⟨j, List.mem_cons_of_mem i hj, hstores⟩]
      · rw [if_neg hrest]
        by_cases hi : chosen i = true ∧ key i = k
        · rw [if_pos hi.1, if_pos ⟨i, List.mem_cons_self, hi⟩, hi.2, lookup_delKey_self]
        · have hnone : ¬ ∃ j ∈ i :: rest, chosen j = true ∧ key j = k := by
            intro hex
            obtain ⟨j, hj, hstores⟩ := hex
            rcases List.mem_cons.mp hj with heq | hmem
            · exact hi (heq ▸ hstores)
            · exact hrest ⟨j, hmem, hstores⟩
          rw [if_neg hnone]
          split
          · rename_i hchosen
            exact lookup_delKey_ne h fun hk => hi ⟨hchosen, hk.symm⟩
          · rfl

/-! ### Inserting a key -/

theorem addKeyData_some {h h' : Hash K V} {k : K} {v : V} {room : Bool}
    (hadd : h.addKeyData k v room = some h') :
    h' = { h with table := h.table.insert k v } := by
  unfold addKeyData at hadd
  split at hadd
  · exact (Option.some.inj hadd).symm
  · simp at hadd

theorem lookup_addKeyData {h h' : Hash K V} {k : K} {v : V} {room : Bool}
    (hadd : h.addKeyData k v room = some h') (k' : K) :
    h'.lookup k' = if k' = k then some v else h.lookup k' := by
  rw [addKeyData_some hadd]
  show (h.table.insert k v).lookup k' = _
  split
  · rename_i heq
    subst heq
    exact AList.lookup_insert _
  · rename_i hne
    exact AList.lookup_insert_ne hne

theorem dq_addKeyData {h h' : Hash K V} {k : K} {v : V} {room : Bool}
    (hadd : h.addKeyData k v room = some h') : h'.dq = h.dq := by
  rw [addKeyData_some hadd]

/-! ### The values a table holds -/

theorem mem_values_of_lookup {h : Hash K V} {k : K} {v : V} (hk : h.lookup k = some v) :
    v ∈ h.values := by
  have hmem : Sigma.mk k v ∈ h.table.entries := AList.mem_lookup_iff.mp hk
  exact List.mem_map.mpr ⟨_, hmem, rfl⟩

theorem exists_lookup_of_mem_values {h : Hash K V} {v : V} (hv : v ∈ h.values) :
    ∃ k, h.lookup k = some v := by
  obtain ⟨⟨k, w⟩, hmem, rfl⟩ := List.mem_map.mp hv
  exact ⟨k, AList.mem_lookup_iff.mpr hmem⟩

private theorem map_snd_kerase (l : List (Sigma fun _ : K => V)) {k : K} {v : V}
    (hk : l.dlookup k = some v) :
    (l.map (·.2)).Perm (v :: (l.kerase k).map (·.2)) := by
  induction l with
  | nil => simp at hk
  | cons e rest ih =>
      obtain ⟨k', w⟩ := e
      by_cases heq : k = k'
      · subst heq
        have hker : ((⟨k, w⟩ : Sigma fun _ : K => V) :: rest).kerase k = rest :=
          List.kerase_cons_eq rfl
        rw [List.dlookup_cons_eq] at hk
        rw [hker, List.map_cons, Option.some.inj hk]
      · rw [List.dlookup_cons_ne _ _ heq] at hk
        rw [List.kerase_cons_ne heq]
        exact ((ih hk).cons w).trans (List.Perm.swap _ _ _)

/-- Deleting a key moves its value from the table to the defer queue. -/
theorem values_delKey (h : Hash K V) (k : K) :
    ((h.delKey k).2.values ++ (h.delKey k).2.dq).Perm (h.values ++ h.dq) := by
  cases hk : h.lookup k with
  | none => rw [delKey_none hk]
  | some v =>
      rw [delKey_some hk]
      have hperm : h.values.Perm (v :: (h.table.entries.kerase k).map (·.2)) :=
        map_snd_kerase h.table.entries hk
      show ((h.table.entries.kerase k).map (·.2) ++ (h.dq ++ [v])).Perm (h.values ++ h.dq)
      calc (h.table.entries.kerase k).map (·.2) ++ (h.dq ++ [v])
          = ((h.table.entries.kerase k).map (·.2) ++ h.dq) ++ [v] := by rw [List.append_assoc]
        List.Perm _ (v :: ((h.table.entries.kerase k).map (·.2) ++ h.dq)) :=
          List.perm_append_singleton _ _
        List.Perm _ (h.values ++ h.dq) := (hperm.symm.append_right _)

/-- A new key adds its value to the table's. -/
theorem values_addKeyData {h h' : Hash K V} {k : K} {v : V} {room : Bool}
    (hk : h.lookup k = none) (hadd : h.addKeyData k v room = some h') :
    h'.values = v :: h.values := by
  rw [addKeyData_some hadd]
  show (h.table.insert k v).entries.map (·.2) = _
  rw [AList.entries_insert_of_notMem (AList.lookup_eq_none.mp hk)]
  rfl

end Hash

/--
`rte_hash_rcu_qsbr_dq_reclaim`: take up to `m` elements off a defer queue, in the
order they were put there, and run the callback on each.  `m` is how many of
them are past their grace period.
-/
def dqReclaim {σ V : Type} (pop : σ → Option (V × σ)) (freeKeyData : σ → V → σ) :
    Nat → σ → σ
  | 0, s => s
  | m + 1, s =>
      match pop s with
      | none => s
      | some (v, s') => dqReclaim pop freeKeyData m (freeKeyData s' v)

/-- What one pop and its callback keep, reclaiming keeps. -/
theorem dqReclaim_inv {σ V : Type} {pop : σ → Option (V × σ)} {freeKeyData : σ → V → σ}
    (I : σ → Prop) (hstep : ∀ s v s', I s → pop s = some (v, s') → I (freeKeyData s' v)) :
    ∀ (m : Nat) (s : σ), I s → I (dqReclaim pop freeKeyData m s) := by
  intro m
  induction m with
  | zero => intro s hs; exact hs
  | succ m ih =>
      intro s hs
      rw [dqReclaim]
      split
      · exact hs
      · rename_i v s' hpop
        exact ih _ (hstep s v s' hs hpop)

end Rte
