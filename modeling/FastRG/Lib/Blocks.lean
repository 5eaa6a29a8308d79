/-
Blocks of memory.

Loads and stores of any number of bytes, and the copy of a block onto another.  Two that do not
touch do not see each other; a load of what has just been stored gives it back; loads and stores
that meet are one.  A copy goes from the front, byte by byte, so onto a block that starts before its
source it is right even where the two overlap.
-/
import FastRG.Lib.Octets

namespace Octets

variable {m m' : Octets} {i j n : Nat} {bs bs' : List (BitVec 8)}

/-! ### Loads and stores -/

/-- The `n` bytes from `i` on. -/
def slice (m : Octets) (i n : Nat) : List (BitVec 8) := (List.range n).map fun k => m (i + k)

/-- The bytes `bs` stored from `i` on. -/
def putBytes (m : Octets) (i : Nat) (bs : List (BitVec 8)) : Octets := fun k =>
  if i ≤ k ∧ k < i + bs.length then bs.getD (k - i) 0 else m k

/-- `memcpy` from the front. -/
def copy (m : Octets) (dst src n : Nat) : Octets :=
  (List.range n).foldl (fun m k => m.put8 (dst + k) (m (src + k))) m

/-- The memory from `i` on. -/
def beyond (m : Octets) (i : Nat) : Octets := fun k => m (i + k)

/-- The memory from `i` on is another. -/
def putBeyond (m : Octets) (i : Nat) (m' : Octets) : Octets := fun k =>
  if k < i then m k else m' (k - i)

@[simp] theorem length_slice (m : Octets) (i n : Nat) : (m.slice i n).length = n := by
  unfold slice
  rw [List.length_map, List.length_range]

theorem getElem_slice (m : Octets) (i : Nat) {k : Nat} (hk : k < (m.slice i n).length) :
    (m.slice i n)[k] = m (i + k) := by
  simp only [slice, List.getElem_map, List.getElem_range]

theorem getD_slice (m : Octets) (i : Nat) {n k : Nat} (hk : k < n) (b : BitVec 8) :
    (m.slice i n).getD k b = m (i + k) := by
  unfold slice
  rw [List.getD_eq_getElem?_getD, List.getElem?_map, List.getElem?_range hk]
  rfl

/-- Two loads of the same bytes. -/
theorem slice_congr (h : ∀ k < n, m' (j + k) = m (i + k)) : m'.slice j n = m.slice i n := by
  unfold slice
  refine List.map_congr_left fun k hk => ?_
  exact h k (List.mem_range.mp hk)

/-- A load in two parts. -/
theorem slice_add (m : Octets) (i a b : Nat) :
    m.slice i (a + b) = m.slice i a ++ m.slice (i + a) b := by
  unfold slice
  rw [List.range_add, List.map_append, List.map_map]
  refine congrArg (m.slice i a ++ ·) ?_
  refine List.map_congr_left fun k _ => ?_
  show m (i + (a + k)) = m (i + a + k)
  rw [Nat.add_assoc]

theorem take_slice (m : Octets) (i : Nat) {n k : Nat} (hk : k ≤ n) :
    (m.slice i n).take k = m.slice i k := by
  obtain ⟨b, rfl⟩ := Nat.exists_eq_add_of_le hk
  rw [slice_add, List.take_left' (length_slice m i k)]

theorem drop_slice (m : Octets) (i : Nat) {n k : Nat} (hk : k ≤ n) :
    (m.slice i n).drop k = m.slice (i + k) (n - k) := by
  obtain ⟨b, rfl⟩ := Nat.exists_eq_add_of_le hk
  rw [slice_add, List.drop_left' (length_slice m i k), Nat.add_sub_cancel_left]

/-- Two memories with one block in common, and all that lies about it. -/
theorem eq_of_slice {m m' : Octets} {i n : Nat} (hblock : m.slice i n = m'.slice i n)
    (habout : ∀ k, k < i ∨ i + n ≤ k → m k = m' k) : m = m' := by
  funext k
  by_cases hin : i ≤ k ∧ k < i + n
  · obtain ⟨p, rfl⟩ := Nat.exists_eq_add_of_le hin.1
    rw [← getD_slice m i (show p < n by omega) 0, ← getD_slice m' i (show p < n by omega) 0, hblock]
  · exact habout k (by omega)

/-! ### What a store leaves alone, and what it leaves -/

theorem putBytes_of_ne (m : Octets) (bs : List (BitVec 8)) {k : Nat}
    (h : k < i ∨ i + bs.length ≤ k) : m.putBytes i bs k = m k := by
  unfold putBytes
  rw [if_neg (by omega)]

/-- A byte after a store depends on that byte before it. -/
theorem putBytes_congr (i : Nat) (bs : List (BitVec 8)) {k : Nat} (h : m k = m' k) :
    m.putBytes i bs k = m'.putBytes i bs k := by
  unfold putBytes
  rw [h]

theorem putBytes_at (m : Octets) (i : Nat) (bs : List (BitVec 8)) {k : Nat} (h : k < bs.length) :
    m.putBytes i bs (i + k) = bs.getD k 0 := by
  unfold putBytes
  rw [if_pos (by omega), Nat.add_sub_cancel_left]

theorem slice_putBytes_of_ne (m : Octets) (bs : List (BitVec 8))
    (h : j + n ≤ i ∨ i + bs.length ≤ j) : (m.putBytes i bs).slice j n = m.slice j n :=
  slice_congr fun _ _ => putBytes_of_ne m bs (by omega)

/-- What has been stored is loaded. -/
theorem slice_putBytes (m : Octets) (i : Nat) (bs : List (BitVec 8)) (hn : bs.length = n) :
    (m.putBytes i bs).slice i n = bs := by
  subst hn
  refine List.ext_getElem (length_slice _ i _) fun k hk hk' => ?_
  rw [getElem_slice, putBytes_at _ _ _ hk', List.getD_eq_getElem?_getD,
    List.getElem?_eq_getElem hk', Option.getD_some]

/-- Two stores that do not touch may change places. -/
theorem putBytes_comm (m : Octets) {i j : Nat} {as bs : List (BitVec 8)}
    (h : i + as.length ≤ j ∨ j + bs.length ≤ i) :
    (m.putBytes i as).putBytes j bs = (m.putBytes j bs).putBytes i as := by
  funext k
  unfold putBytes
  by_cases hi : i ≤ k ∧ k < i + as.length
  · rw [if_neg (by omega), if_pos hi, if_pos hi]
  · rw [if_neg hi, if_neg hi]

/-- Two stores that meet are one. -/
theorem putBytes_append (m : Octets) (i : Nat) (as bs : List (BitVec 8)) (hj : j = i + as.length) :
    (m.putBytes i as).putBytes j bs = m.putBytes i (as ++ bs) := by
  subst hj
  funext k
  have hlen : (as ++ bs).length = as.length + bs.length := List.length_append
  by_cases hfirst : i ≤ k ∧ k < i + as.length
  · obtain ⟨p, rfl⟩ := Nat.exists_eq_add_of_le hfirst.1
    rw [putBytes_of_ne _ bs (by omega), putBytes_at _ _ _ (by omega), putBytes_at _ _ _ (by omega),
      List.getD_eq_getElem?_getD, List.getD_eq_getElem?_getD,
      List.getElem?_append_left (by omega)]
  by_cases hsecond : i + as.length ≤ k ∧ k < i + as.length + bs.length
  · obtain ⟨p, rfl⟩ := Nat.exists_eq_add_of_le hsecond.1
    rw [putBytes_at _ _ _ (by omega), Nat.add_assoc, putBytes_at _ _ _ (by omega),
      List.getD_eq_getElem?_getD, List.getD_eq_getElem?_getD,
      List.getElem?_append_right (by omega), Nat.add_sub_cancel_left]
  · rw [putBytes_of_ne _ _ (by omega), putBytes_of_ne _ _ (by omega), putBytes_of_ne _ _ (by omega)]

/-- A part of what has been stored is stored over. -/
theorem putBytes_within (m : Octets) (i : Nat) (as new cs : List (BitVec 8)) {old : List (BitVec 8)}
    (hj : j = i + as.length) (hold : old.length = new.length) :
    (m.putBytes i (as ++ (old ++ cs))).putBytes j new = m.putBytes i (as ++ (new ++ cs)) := by
  rw [← putBytes_append m i as (old ++ cs) rfl, ← putBytes_append m i as (new ++ cs) rfl, ← hj,
    ← putBytes_append _ j old cs rfl, ← putBytes_append _ j new cs rfl, hold]
  funext k
  by_cases hin : j ≤ k ∧ k < j + new.length
  · obtain ⟨p, rfl⟩ := Nat.exists_eq_add_of_le hin.1
    rw [putBytes_at _ _ _ (by omega), putBytes_of_ne _ cs (by omega),
      putBytes_at _ _ _ (by omega)]
  · rw [putBytes_of_ne _ new (by omega)]
    by_cases hafter : j + new.length ≤ k ∧ k < j + new.length + cs.length
    · obtain ⟨p, rfl⟩ := Nat.exists_eq_add_of_le hafter.1
      rw [putBytes_at _ _ _ (by omega), putBytes_at _ _ _ (by omega)]
    · rw [putBytes_of_ne _ cs (by omega), putBytes_of_ne _ cs (by omega),
        putBytes_of_ne _ old (by omega), putBytes_of_ne _ new (by omega)]

theorem slice_put8_of_ne (m : Octets) (v : BitVec 8) (h : i < j ∨ j + n ≤ i) :
    (m.put8 i v).slice j n = m.slice j n :=
  slice_congr fun _ _ => put8_of_ne v (by omega)

/-- A byte changed in what is loaded. -/
theorem slice_put8 (m : Octets) (i n : Nat) (v : BitVec 8) (k : Nat) :
    (m.put8 (i + k) v).slice i n = (m.slice i n).set k v := by
  refine List.ext_getElem (by simp) fun p hp hp' => ?_
  rw [getElem_slice, List.getElem_set]
  by_cases heq : k = p
  · subst heq
    rw [if_pos rfl, put8_self]
  · rw [if_neg heq, put8_of_ne v (by omega), getElem_slice]

/-! ### The memory from an offset on -/

theorem beyond_putBeyond (m : Octets) (i : Nat) (m' : Octets) :
    (m.putBeyond i m').beyond i = m' := by
  funext k
  unfold beyond putBeyond
  rw [if_neg (by omega), Nat.add_sub_cancel_left]

/-- Two memories that are the same before an offset, with the same from there on. -/
theorem putBeyond_eq (i : Nat) (b : Octets) (h : ∀ k < i, m k = m' k) :
    m.putBeyond i b = m'.putBeyond i b := by
  funext k
  unfold putBeyond
  by_cases hk : k < i
  · rw [if_pos hk, if_pos hk, h k hk]
  · rw [if_neg hk, if_neg hk]

theorem putBeyond_of_lt (m : Octets) {i k : Nat} (m' : Octets) (h : k < i) :
    m.putBeyond i m' k = m k := if_pos h

/-! ### Copies -/

/-- A copy from the front onto what lies before its source, or clear of it, is the block stored. -/
theorem copy_eq (m : Octets) {dst src : Nat} (n : Nat) (h : dst ≤ src ∨ src + n ≤ dst) :
    m.copy dst src n = m.putBytes dst (m.slice src n) := by
  funext k
  -- After `c` bytes those are copied, and all else is as it was.
  have hcopied : ∀ c ≤ n, ∀ k, (m.copy dst src c) k =
      if dst ≤ k ∧ k < dst + c then m (src + (k - dst)) else m k := by
    intro c
    induction c with
    | zero =>
        intro _ k
        rw [if_neg (by omega)]
        rfl
    | succ c ih =>
        intro hc k
        have hstep : m.copy dst src (c + 1) =
            (m.copy dst src c).put8 (dst + c) (m.copy dst src c (src + c)) := by
          unfold copy
          rw [List.range_succ, List.foldl_append]
          rfl
        rw [hstep]
        by_cases hlast : k = dst + c
        · subst hlast
          rw [put8_self, if_pos (by omega), Nat.add_sub_cancel_left, ih (by omega),
            if_neg (by omega)]
        · rw [put8_of_ne _ hlast, ih (by omega)]
          by_cases hin : dst ≤ k ∧ k < dst + c
          · rw [if_pos hin, if_pos (by omega)]
          · rw [if_neg hin, if_neg (by omega)]
  rw [hcopied n (Nat.le_refl n)]
  unfold putBytes
  rw [length_slice]
  by_cases hin : dst ≤ k ∧ k < dst + n
  · rw [if_pos hin, if_pos hin, getD_slice _ _ (by omega)]
  · rw [if_neg hin, if_neg hin]

end Octets
