/-
Memory, byte by byte.

A packet is looked at through loads and stores of two and four bytes at offsets its sender chooses,
so it is a function from offsets to bytes: nothing is out of bounds, and a store is an update.
Loads and stores are little-endian, as the machine's; the two big-endian loads are what a byte swap
makes of them.
-/
import Mathlib.Logic.Function.Basic

abbrev Octets := Nat → BitVec 8

namespace Octets

/-! ### Loads and stores -/

def le16 (m : Octets) (i : Nat) : BitVec 16 := m (i + 1) ++ m i

def le32 (m : Octets) (i : Nat) : BitVec 32 := le16 m (i + 2) ++ le16 m i

def be16 (m : Octets) (i : Nat) : BitVec 16 := m i ++ m (i + 1)

def be32 (m : Octets) (i : Nat) : BitVec 32 := be16 m i ++ be16 m (i + 2)

def put8 (m : Octets) (i : Nat) (v : BitVec 8) : Octets := Function.update m i v

def put16 (m : Octets) (i : Nat) (v : BitVec 16) : Octets :=
  put8 (put8 m i (v.extractLsb' 0 8)) (i + 1) (v.extractLsb' 8 8)

def put32 (m : Octets) (i : Nat) (v : BitVec 32) : Octets :=
  put16 (put16 m i (v.extractLsb' 0 16)) (i + 2) (v.extractLsb' 16 16)

variable {m m' : Octets} {i j k : Nat}

/-! ### What a store leaves alone -/

theorem put8_of_ne (v : BitVec 8) (h : j ≠ i) : m.put8 i v j = m j := by
  unfold put8
  rw [Function.update_of_ne h]

theorem put16_of_ne (v : BitVec 16) (h : j < i ∨ i + 2 ≤ j) : m.put16 i v j = m j := by
  unfold put16
  rw [put8_of_ne _ (by omega), put8_of_ne _ (by omega)]

theorem put32_of_ne (v : BitVec 32) (h : j < i ∨ i + 4 ≤ j) : m.put32 i v j = m j := by
  unfold put32
  rw [put16_of_ne _ (by omega), put16_of_ne _ (by omega)]

/-- A load sees two bytes. -/
theorem le16_congr (h : m' i = m i) (h' : m' (i + 1) = m (i + 1)) : m'.le16 i = m.le16 i := by
  unfold le16
  rw [h, h']

theorem le32_congr (h : ∀ j, i ≤ j → j < i + 4 → m' j = m j) : m'.le32 i = m.le32 i := by
  unfold le32
  rw [le16_congr (h _ (by omega) (by omega)) (h _ (by omega) (by omega)),
    le16_congr (h i (by omega) (by omega)) (h _ (by omega) (by omega))]

theorem le16_put8_of_ne (v : BitVec 8) (h : j + 2 ≤ i ∨ i < j) : (m.put8 i v).le16 j = m.le16 j :=
  le16_congr (put8_of_ne v (by omega)) (put8_of_ne v (by omega))

theorem le16_put16_of_ne (v : BitVec 16) (h : j + 2 ≤ i ∨ i + 2 ≤ j) :
    (m.put16 i v).le16 j = m.le16 j :=
  le16_congr (put16_of_ne v (by omega)) (put16_of_ne v (by omega))

theorem le16_put32_of_ne (v : BitVec 32) (h : j + 2 ≤ i ∨ i + 4 ≤ j) :
    (m.put32 i v).le16 j = m.le16 j :=
  le16_congr (put32_of_ne v (by omega)) (put32_of_ne v (by omega))

theorem le32_put16_of_ne (v : BitVec 16) (h : j + 4 ≤ i ∨ i + 2 ≤ j) :
    (m.put16 i v).le32 j = m.le32 j :=
  le32_congr fun _ _ _ => put16_of_ne v (by omega)

theorem le32_put8_of_ne (v : BitVec 8) (h : j + 4 ≤ i ∨ i < j) : (m.put8 i v).le32 j = m.le32 j :=
  le32_congr fun _ _ _ => put8_of_ne v (by omega)

theorem le32_put32_of_ne (v : BitVec 32) (h : j + 4 ≤ i ∨ i + 4 ≤ j) :
    (m.put32 i v).le32 j = m.le32 j :=
  le32_congr fun _ _ _ => put32_of_ne v (by omega)

theorem be16_congr (h : m' i = m i) (h' : m' (i + 1) = m (i + 1)) : m'.be16 i = m.be16 i := by
  unfold be16
  rw [h, h']

theorem be16_put8_of_ne (v : BitVec 8) (h : j + 2 ≤ i ∨ i < j) : (m.put8 i v).be16 j = m.be16 j :=
  be16_congr (put8_of_ne v (by omega)) (put8_of_ne v (by omega))

theorem be16_put16_of_ne (v : BitVec 16) (h : j + 2 ≤ i ∨ i + 2 ≤ j) :
    (m.put16 i v).be16 j = m.be16 j :=
  be16_congr (put16_of_ne v (by omega)) (put16_of_ne v (by omega))

/-- A byte after a store depends on that byte before it. -/
theorem put8_congr (v : BitVec 8) (h : m k = m' k) : m.put8 i v k = m'.put8 i v k := by
  unfold put8 Function.update
  rw [h]

theorem put16_congr (v : BitVec 16) (h : m k = m' k) : m.put16 i v k = m'.put16 i v k :=
  put8_congr _ (put8_congr _ h)

theorem put32_congr (v : BitVec 32) (h : m k = m' k) : m.put32 i v k = m'.put32 i v k :=
  put16_congr _ (put16_congr _ h)

/-- A store covers in what two memories differ. -/
theorem put16_eq (v : BitVec 16) (h : ∀ k, k < i ∨ i + 2 ≤ k → m k = m' k) :
    m.put16 i v = m'.put16 i v := by
  funext k
  by_cases hout : k < i ∨ i + 2 ≤ k
  · exact put16_congr v (h k hout)
  · have hne : i ≠ i + 1 := by omega
    rcases (show k = i ∨ k = i + 1 by omega) with h | h
    · subst h
      unfold put16 put8
      rw [Function.update_of_ne hne, Function.update_of_ne hne, Function.update_self,
        Function.update_self]
    · subst h
      unfold put16 put8
      rw [Function.update_self, Function.update_self]

theorem put16_put16 (m : Octets) (i : Nat) (v w : BitVec 16) :
    (m.put16 i v).put16 i w = m.put16 i w :=
  put16_eq w fun _ hk => put16_of_ne v hk

/-! ### What is stored is loaded -/

theorem put8_self (m : Octets) (i : Nat) (v : BitVec 8) : m.put8 i v i = v := by
  unfold put8
  rw [Function.update_self]

theorem le16_put16 (m : Octets) (i : Nat) (v : BitVec 16) : (m.put16 i v).le16 i = v := by
  unfold le16 put16 put8
  rw [Function.update_self, Function.update_of_ne (by omega), Function.update_self]
  apply BitVec.eq_of_toNat_eq
  rw [BitVec.toNat_append, BitVec.extractLsb'_toNat, BitVec.extractLsb'_toNat,
    ← Nat.shiftLeft_add_eq_or_of_lt (Nat.mod_lt _ (by decide)), Nat.shiftRight_zero,
    Nat.shiftRight_eq_div_pow, Nat.shiftLeft_eq]
  omega

theorem be16_put16 (m : Octets) (i : Nat) (v : BitVec 16) :
    (m.put16 i v).be16 i = v.extractLsb' 0 8 ++ v.extractLsb' 8 8 := by
  unfold be16 put16 put8
  rw [Function.update_self, Function.update_of_ne (by omega), Function.update_self]

theorem le32_put32 (m : Octets) (i : Nat) (v : BitVec 32) : (m.put32 i v).le32 i = v := by
  unfold le32 put32
  rw [le16_put16, le16_put16_of_ne _ (by omega), le16_put16]
  apply BitVec.eq_of_toNat_eq
  rw [BitVec.toNat_append, BitVec.extractLsb'_toNat, BitVec.extractLsb'_toNat,
    ← Nat.shiftLeft_add_eq_or_of_lt (Nat.mod_lt _ (by decide)), Nat.shiftRight_zero,
    Nat.shiftRight_eq_div_pow, Nat.shiftLeft_eq]
  omega

theorem toNat_le16 (m : Octets) (i : Nat) :
    (m.le16 i).toNat = (m i).toNat + 256 * (m (i + 1)).toNat := by
  unfold le16
  rw [BitVec.toNat_append, ← Nat.shiftLeft_add_eq_or_of_lt (m i).isLt, Nat.shiftLeft_eq]
  omega

theorem toNat_be16 (m : Octets) (i : Nat) :
    (m.be16 i).toNat = 256 * (m i).toNat + (m (i + 1)).toNat := by
  unfold be16
  rw [BitVec.toNat_append, ← Nat.shiftLeft_add_eq_or_of_lt (m (i + 1)).isLt, Nat.shiftLeft_eq]
  omega

/-- A word is its two bytes. -/
theorem le16_inj (h : m'.le16 i = m.le16 i) : m' i = m i ∧ m' (i + 1) = m (i + 1) := by
  have hword := congrArg BitVec.toNat h
  rw [toNat_le16, toNat_le16] at hword
  refine ⟨BitVec.eq_of_toNat_eq ?_, BitVec.eq_of_toNat_eq ?_⟩
  · omega
  · omega

end Octets
