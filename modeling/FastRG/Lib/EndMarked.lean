/-
Options before an end marker.

An option is a type byte, a length byte that counts the value only, and the value.  The list ends
with one byte that is no option, the marker.  `read` takes such a list from a memory, at a place
and with the number of bytes it is said to have: it has a result only when the marker is the last
of them and no option runs past it.  `read_octets` is the round trip.
-/
import Mathlib.Tactic.Common

namespace EndMarked

/-- An option: its type and its value. -/
abbrev Opt := BitVec 8 × List (BitVec 8)

/-- A list of options as it stands in memory. -/
def octets (marker : BitVec 8) : List Opt → List (BitVec 8)
  | [] => [marker]
  | (ty, val) :: rest => ty :: BitVec.ofNat 8 val.length :: (val ++ octets marker rest)

/-- The options from an offset on, of a list that ends at `len`. -/
def read (marker : BitVec 8) (mem : Nat → BitVec 8) (len : Nat) : Nat → Nat → Option (List Opt)
  | 0, _ => none
  | fuel + 1, off =>
      if len ≤ off then none
      else if mem off = marker then if off + 1 = len then some [] else none
      else
        let n := (mem (off + 1)).toNat
        if off + n + 2 > len then none
        else (read marker mem len fuel (off + 2 + n)).map
          ((mem off, (List.range n).map fun i => mem (off + 2 + i)) :: ·)

variable {marker : BitVec 8} {mem : Nat → BitVec 8}

/-- An option can be told from the marker, and its length fits its byte. -/
def Sound (marker : BitVec 8) (o : Opt) : Prop := o.1 ≠ marker ∧ o.2.length < 256

theorem octets_length_pos (os : List Opt) : 0 < (octets marker os).length := by
  cases os with
  | nil => simp [octets]
  | cons o rest => simp [octets]

/-- What stands in memory is read back. -/
theorem read_octets (os : List Opt) (hsound : ∀ o ∈ os, Sound marker o) {fuel off len : Nat}
    (hfuel : os.length < fuel) (hlen : len = off + (octets marker os).length)
    (hmem : ∀ k (hk : k < (octets marker os).length), mem (off + k) = (octets marker os).get ⟨k, hk⟩) :
    read marker mem len fuel off = some os := by
  induction os generalizing fuel off with
  | nil =>
      obtain ⟨fuel, rfl⟩ : ∃ n, fuel = n + 1 := ⟨fuel - 1, by simp at hfuel; omega⟩
      have hfirst : mem off = marker := hmem 0 (by simp [octets])
      have hlen' : len = off + 1 := hlen
      unfold read
      rw [if_neg (by omega), if_pos hfirst, if_pos hlen'.symm]
  | cons o rest ih =>
      obtain ⟨ty, val⟩ := o
      obtain ⟨fuel, rfl⟩ : ∃ n, fuel = n + 1 := ⟨fuel - 1, by simp at hfuel; omega⟩
      obtain ⟨hty, hval⟩ : ty ≠ marker ∧ val.length < 256 := hsound _ List.mem_cons_self
      have hsize : (octets marker ((ty, val) :: rest)).length =
          2 + val.length + (octets marker rest).length := by
        simp only [octets, List.length_cons, List.length_append]
        omega
      have hpos : 0 < (octets marker rest).length := octets_length_pos rest
      have hfirst : mem off = ty := hmem 0 (by omega)
      have hn : (mem (off + 1)).toNat = val.length := by
        rw [hmem 1 (by omega)]
        show (BitVec.ofNat 8 val.length).toNat = val.length
        rw [BitVec.toNat_ofNat]
        omega
      have hvals : ((List.range val.length).map fun i => mem (off + 2 + i)) = val := by
        apply List.ext_getElem
        · simp
        · intro i hi hi'
          rw [List.getElem_map, List.getElem_range, Nat.add_assoc, hmem (2 + i) (by omega)]
          simp only [octets, List.get_eq_getElem, Nat.add_comm 2 i, List.getElem_cons_succ]
          exact List.getElem_append_left hi'
      have hrest : read marker mem len fuel (off + 2 + val.length) = some rest := by
        refine ih (fun o ho => hsound o (List.mem_cons_of_mem _ ho)) ?_ ?_ ?_
        · simpa using hfuel
        · omega
        · intro k hk
          rw [show off + 2 + val.length + k = off + (2 + val.length + k) by omega,
            hmem (2 + val.length + k) (by omega)]
          simp only [octets, List.get_eq_getElem,
            show 2 + val.length + k = val.length + k + 2 by omega, List.getElem_cons_succ]
          rw [List.getElem_append_right (by omega)]
          simp
      unfold read
      simp only [hn]
      rw [if_neg (by omega), if_neg (by rw [hfirst]; exact hty), if_neg (by omega), hrest, hvals,
        hfirst]
      rfl

end EndMarked
