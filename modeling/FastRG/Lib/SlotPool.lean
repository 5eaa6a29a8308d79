/-
A pool of numbered slots, and that none of them is ever lost.

A fixed number of slots is shared out between a free ring and a hash table: an
insertion takes a slot off the ring and publishes it under a key, a deletion
sends it to the table's defer queue, and reclaiming puts it back on the ring.
At any moment a slot may also be in the hands of the code that is moving it.

`Conserved` says that these four places together hold every slot exactly once.
It is a statement about one list being a permutation of another, so each
operation has only to show that it moves a slot and neither drops nor copies it.
That the ring never overflows is the same fact counted: it has room for every
slot, and the one about to be put on it is somewhere else.
-/
import FastRG.Lib.Hash
import Mathlib.Data.List.Range

namespace Rte

/-- A bounded queue, with a tally of the enqueues that found it full. -/
structure Ring where
  cap : Nat
  items : List Nat
  failed : Nat

namespace Ring

/-- `rte_ring_create` with `RING_F_EXACT_SZ`. -/
def create (cap : Nat) : Ring := ⟨cap, [], 0⟩

/-- `rte_ring_enqueue`.  A full ring refuses, and the callers do not look. -/
def enqueue (r : Ring) (i : Nat) : Ring :=
  if r.items.length < r.cap then { r with items := r.items ++ [i] }
  else { r with failed := r.failed + 1 }

/-- `rte_ring_dequeue`. -/
def dequeue (r : Ring) : Option (Nat × Ring) :=
  match r.items with
  | [] => none
  | i :: rest => some (i, { r with items := rest })

theorem enqueue_of_lt {r : Ring} (h : r.items.length < r.cap) (i : Nat) :
    r.enqueue i = { r with items := r.items ++ [i] } := if_pos h

@[simp] theorem enqueue_cap (r : Ring) (i : Nat) : (r.enqueue i).cap = r.cap := by
  unfold enqueue
  split <;> rfl

/-- Unless it has no room at all, a ring is not empty after an enqueue. -/
theorem enqueue_ne_nil {r : Ring} (h : 0 < r.cap) (i : Nat) : (r.enqueue i).items ≠ [] := by
  unfold enqueue
  split
  · exact List.append_ne_nil_of_right_ne_nil _ (List.cons_ne_nil i [])
  · rename_i hfull
    have hpos : 0 < r.items.length := by omega
    exact List.ne_nil_of_length_pos hpos

theorem mem_of_mem_enqueue {r : Ring} {i j : Nat} (h : j ∈ (r.enqueue i).items) :
    j = i ∨ j ∈ r.items := by
  unfold enqueue at h
  split at h
  · rcases List.mem_append.mp h with hj | hj
    · exact Or.inr hj
    · exact Or.inl (List.mem_singleton.mp hj)
  · exact Or.inr h

theorem dequeue_eq_none {r : Ring} : r.dequeue = none ↔ r.items = [] := by
  unfold dequeue
  cases r.items <;> simp

theorem dequeue_eq_some {r r' : Ring} {i : Nat} :
    r.dequeue = some (i, r') ↔ ∃ rest, r.items = i :: rest ∧ r' = { r with items := rest } := by
  unfold dequeue
  cases r.items with
  | nil => simp
  | cons j rest =>
      refine ⟨?_, ?_⟩
      · intro h
        obtain ⟨rfl, rfl⟩ := Prod.mk.inj (Option.some.inj h)
        exact ⟨rest, rfl, rfl⟩
      · intro hex
        obtain ⟨rest', hcons, rfl⟩ := hex
        obtain ⟨rfl, rfl⟩ := List.cons.inj hcons
        rfl

/-- Filling a fresh ring with as many slots as it holds. -/
theorem fill_eq (n : Nat) :
    (List.range n).foldl enqueue (create n) = ⟨n, List.range n, 0⟩ := by
  have key : ∀ m, m ≤ n → (List.range m).foldl enqueue (create n) = ⟨n, List.range m, 0⟩ := by
    intro m
    induction m with
    | zero => intro _; rfl
    | succ m ih =>
        intro hm
        rw [List.range_succ, List.foldl_append, ih (by omega)]
        show enqueue ⟨n, List.range m, 0⟩ m = _
        exact enqueue_of_lt (by simp; omega) m
  exact key n (Nat.le_refl n)

end Ring

/-- A free ring, and the table the slots taken from it are published in. -/
structure SlotPool (K : Type) where
  ring : Ring
  hash : Hash K Nat

namespace SlotPool

variable {K : Type}

/-- Where every slot is: free, published, awaiting reclaim, or held. -/
def slots (p : SlotPool K) (held : List Nat) : List Nat :=
  p.ring.items ++ (p.hash.values ++ p.hash.dq) ++ held

/-- Each of the `n` slots is in exactly one place, and no enqueue has failed. -/
structure Conserved (n : Nat) (p : SlotPool K) (held : List Nat) : Prop where
  cap : p.ring.cap = n
  failed : p.ring.failed = 0
  perm : (p.slots held).Perm (List.range n)

namespace Conserved

variable {n i : Nat} {p : SlotPool K} {held : List Nat}

theorem nodup (h : Conserved n p held) : (p.slots held).Nodup :=
  h.perm.nodup_iff.mpr List.nodup_range

/-- A slot of the pool, wherever it is, is below `n`. -/
theorem lt_of_mem (h : Conserved n p held) (hi : i ∈ p.slots held) : i < n :=
  List.mem_range.mp (h.perm.mem_iff.mp hi)

/-- With nothing held, the ring, the table and the defer queue share out the slots. -/
theorem perm_range (h : Conserved n p []) :
    (p.ring.items ++ (p.hash.values ++ p.hash.dq)).Perm (List.range n) := by
  have hperm := h.perm
  rwa [slots, List.append_nil] at hperm

theorem mem_slots (h : Conserved n p held) (hi : i < n) : i ∈ p.slots held :=
  h.perm.mem_iff.mpr (List.mem_range.mpr hi)

theorem count (h : Conserved n p held) (hi : i < n) :
    p.ring.items.count i + (p.hash.values.count i + p.hash.dq.count i) + held.count i = 1 := by
  have hc : (p.slots held).count i = 1 :=
    List.count_eq_one_of_mem h.nodup (h.mem_slots hi)
  simp only [slots, List.count_append] at hc
  omega

theorem free_lt (h : Conserved n p held) (hi : i ∈ p.ring.items) : i < n :=
  h.lt_of_mem (by simp [slots, hi])

theorem value_lt (h : Conserved n p held) (hi : i ∈ p.hash.values) : i < n :=
  h.lt_of_mem (by simp [slots, hi])

theorem dq_lt (h : Conserved n p held) (hi : i ∈ p.hash.dq) : i < n :=
  h.lt_of_mem (by simp [slots, hi])

/-- A published slot is not on the free ring. -/
theorem value_not_free (h : Conserved n p held) (hi : i ∈ p.hash.values) :
    i ∉ p.ring.items := by
  intro hf
  have hc := h.count (h.value_lt hi)
  have h1 : 0 < p.hash.values.count i := List.count_pos_iff.mpr hi
  have h2 : 0 < p.ring.items.count i := List.count_pos_iff.mpr hf
  omega

/-- A published slot is not awaiting reclaim. -/
theorem value_not_dq (h : Conserved n p held) (hi : i ∈ p.hash.values) :
    i ∉ p.hash.dq := by
  intro hd
  have hc := h.count (h.value_lt hi)
  have h1 : 0 < p.hash.values.count i := List.count_pos_iff.mpr hi
  have h2 : 0 < p.hash.dq.count i := List.count_pos_iff.mpr hd
  omega

/-- A slot awaiting reclaim is not on the free ring. -/
theorem dq_not_free (h : Conserved n p held) (hi : i ∈ p.hash.dq) :
    i ∉ p.ring.items := by
  intro hf
  have hc := h.count (h.dq_lt hi)
  have h1 : 0 < p.hash.dq.count i := List.count_pos_iff.mpr hi
  have h2 : 0 < p.ring.items.count i := List.count_pos_iff.mpr hf
  omega

/-- No slot is on the ring twice. -/
theorem ring_nodup (h : Conserved n p held) : p.ring.items.Nodup :=
  h.nodup.of_append_left.of_append_left

/-- No slot awaits reclaim twice. -/
theorem dq_nodup (h : Conserved n p held) : p.hash.dq.Nodup :=
  h.nodup.of_append_left.of_append_right.of_append_right

/-- A slot that nobody holds is free, published or awaiting reclaim. -/
theorem cases_of_lt (h : Conserved n p []) (hi : i < n) :
    i ∈ p.ring.items ∨ i ∈ p.hash.values ∨ i ∈ p.hash.dq := by
  have hmem := h.mem_slots hi
  simpa [slots] using hmem

/-! ### The operations -/

/-- Taking a slot off the ring puts it in the taker's hands. -/
theorem take {r : Ring} (h : Conserved n p held) (hdeq : p.ring.dequeue = some (i, r)) :
    Conserved n { p with ring := r } (i :: held) := by
  obtain ⟨rest, hitems, rfl⟩ := Ring.dequeue_eq_some.mp hdeq
  refine ⟨h.cap, h.failed, ?_⟩
  refine List.Perm.trans ?_ h.perm
  simp only [slots, hitems]
  rw [List.perm_iff_count]
  intro a
  simp only [List.count_append, List.count_cons]
  omega

/-- Putting a held slot back on the ring always finds room. -/
theorem giveBack (h : Conserved n p (i :: held)) :
    Conserved n { p with ring := p.ring.enqueue i } held := by
  have hroom : p.ring.items.length < p.ring.cap := by
    have hlen := h.perm.length_eq
    simp only [slots, List.length_append, List.length_cons, List.length_range] at hlen
    rw [h.cap]
    omega
  rw [Ring.enqueue_of_lt hroom]
  refine ⟨h.cap, h.failed, List.Perm.trans ?_ h.perm⟩
  rw [List.perm_iff_count]
  intro a
  simp only [slots, List.count_append, List.count_cons, List.count_nil]
  omega

/-- The head of the defer queue comes into the hands of the callback. -/
theorem pop {hash' : Hash K Nat} (h : Conserved n p held)
    (hpop : p.hash.popDq = some (i, hash')) :
    Conserved n { p with hash := hash' } (i :: held) := by
  unfold Hash.popDq at hpop
  split at hpop
  · simp at hpop
  · rename_i v rest hdq
    obtain ⟨rfl, rfl⟩ := Prod.mk.inj (Option.some.inj hpop)
    refine ⟨h.cap, h.failed, List.Perm.trans ?_ h.perm⟩
    simp only [slots, hdq, Hash.values_setDq]
    rw [List.perm_iff_count]
    intro a
    simp only [List.count_append, List.count_cons]
    omega

variable [DecidableEq K]

/-- Publishing a held slot under a new key. -/
theorem publish {k : K} {room : Bool} {hash' : Hash K Nat} (h : Conserved n p (i :: held))
    (hk : p.hash.lookup k = none) (hadd : p.hash.addKeyData k i room = some hash') :
    Conserved n { p with hash := hash' } held := by
  refine ⟨h.cap, h.failed, List.Perm.trans ?_ h.perm⟩
  simp only [slots, Hash.values_addKeyData hk hadd, Hash.dq_addKeyData hadd]
  rw [List.perm_iff_count]
  intro a
  simp only [List.count_append, List.count_cons]
  omega

/-- Deleting a key, whoever's it is, sends the slot it names to the defer queue. -/
theorem unlink (h : Conserved n p held) (k : K) :
    Conserved n { p with hash := (p.hash.delKey k).2 } held := by
  refine ⟨h.cap, h.failed, List.Perm.trans ?_ h.perm⟩
  exact ((Hash.values_delKey p.hash k).append_left _).append_right _

end Conserved

/-- A ring filled with every slot, and an empty table. -/
theorem conserved_fresh (n : Nat) :
    Conserved n (⟨⟨n, List.range n, 0⟩, Hash.empty⟩ : SlotPool K) [] :=
  ⟨rfl, rfl, by simp [slots]⟩

end SlotPool

end Rte
