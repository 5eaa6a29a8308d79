/-
What every part of the node uses: status codes, byte order, and deadlines.

Cycle counts are natural numbers.  The node reads them from the time-stamp
counter, which does not wrap in the lifetime of a machine, and every place that
computes with them asks only which of two counts is later.  The counter's rate,
`hz`, is a parameter, and so is the reading `now` of the step at hand.
-/
import Mathlib.Tactic.Common

namespace FastRG

/-- The node's `STATUS`. -/
inductive Status
  | success
  | error
  deriving DecidableEq

/-- Whether a pool entry is published: `*_ENTRY_FREE` or `*_ENTRY_READY`. -/
inductive Fill
  | free
  | ready
  deriving DecidableEq

/-! ### Protocol numbers -/

def ipprotoTcp : BitVec 8 := 6
def ipprotoUdp : BitVec 8 := 17
def ipprotoIcmp : BitVec 8 := 1
def ipprotoIcmpv6 : BitVec 8 := 58

/-- `sizeof(struct rte_udp_hdr)`. -/
def udpHdrLen : Nat := 8

/-! ### Byte order

Addresses and ports are kept as the 16 and 32 bits the packet carries, read as
the little-endian machine reads them; a port becomes a number by swapping its two
bytes.
-/

/-- `rte_be_to_cpu_16`, which is also `rte_cpu_to_be_16`. -/
def swap16 (x : BitVec 16) : BitVec 16 := x.extractLsb' 0 8 ++ x.extractLsb' 8 8

@[simp] theorem swap16_swap16 (x : BitVec 16) : swap16 (swap16 x) = x := by
  unfold swap16
  apply BitVec.eq_of_getLsbD_eq
  intro i hi
  simp only [BitVec.getLsbD_append, BitVec.getLsbD_extractLsb']
  by_cases h : i < 8
  · simp [h, show ¬ 8 + i < 8 by omega]
  · simp [h, show i - 8 < 8 by omega, show 8 + (i - 8) = i by omega]

theorem swap16_inj {x y : BitVec 16} : swap16 x = swap16 y ↔ x = y :=
  ⟨fun h => by rw [← swap16_swap16 x, h, swap16_swap16], fun h => by rw [h]⟩

/-- `rte_be_to_cpu_32`, which is also `rte_cpu_to_be_32`. -/
def swap32 (x : BitVec 32) : BitVec 32 :=
  x.extractLsb' 0 8 ++ x.extractLsb' 8 8 ++ x.extractLsb' 16 8 ++ x.extractLsb' 24 8

theorem getLsbD_swap32 (x : BitVec 32) (i : Nat) :
    (swap32 x).getLsbD i = (decide (i < 32) && x.getLsbD (24 - i / 8 * 8 + i % 8)) := by
  unfold swap32
  simp only [BitVec.getLsbD_append, BitVec.getLsbD_extractLsb']
  by_cases h8 : i < 8
  · simp [h8, show i < 32 by omega, show 24 - i / 8 * 8 + i % 8 = 24 + i by omega]
  by_cases h16 : i < 16
  · simp [h8, show i < 32 by omega, show i - 8 < 8 by omega,
      show 24 - i / 8 * 8 + i % 8 = 16 + (i - 8) by omega]
  by_cases h24 : i < 24
  · simp [h8, show i < 32 by omega, show ¬ i - 8 < 8 by omega, show i - 8 - 8 < 8 by omega,
      show 24 - i / 8 * 8 + i % 8 = 8 + (i - 8 - 8) by omega]
  by_cases h32 : i < 32
  · simp [h8, h32, show ¬ i - 8 < 8 by omega, show ¬ i - 8 - 8 < 8 by omega,
      show i - 8 - 8 - 8 < 8 by omega, show 24 - i / 8 * 8 + i % 8 = i - 8 - 8 - 8 by omega]
  · simp [h8, h32, show ¬ i - 8 < 8 by omega, show ¬ i - 8 - 8 < 8 by omega,
      show ¬ i - 8 - 8 - 8 < 8 by omega]

@[simp] theorem swap32_swap32 (x : BitVec 32) : swap32 (swap32 x) = x := by
  apply BitVec.eq_of_getLsbD_eq
  intro i hi
  rw [getLsbD_swap32, getLsbD_swap32]
  have hback : 24 - (24 - i / 8 * 8 + i % 8) / 8 * 8 + (24 - i / 8 * 8 + i % 8) % 8 = i := by omega
  rw [hback]
  simp [hi, show 24 - i / 8 * 8 + i % 8 < 32 by omega]

theorem swap32_inj {x y : BitVec 32} : swap32 x = swap32 y ↔ x = y :=
  ⟨fun h => by rw [← swap32_swap32 x, h, swap32_swap32], fun h => by rw [h]⟩

/-! ### Fields of a packet -/

/-- Two bytes in network order. -/
def be16At (bs : List (BitVec 8)) (i : Nat) : BitVec 16 := bs.getD i 0 ++ bs.getD (i + 1) 0

/-- Four bytes in network order. -/
def be32At (bs : List (BitVec 8)) (i : Nat) : BitVec 32 := be16At bs i ++ be16At bs (i + 2)

/-- Six bytes in the order they stand in. -/
def be48At (bs : List (BitVec 8)) (i : Nat) : BitVec 48 :=
  be16At bs i ++ be16At bs (i + 2) ++ be16At bs (i + 4)

def be64At (bs : List (BitVec 8)) (i : Nat) : BitVec 64 := be48At bs i ++ be16At bs (i + 6)

/-- Two bytes as the machine loads them. -/
def le16At (bs : List (BitVec 8)) (i : Nat) : BitVec 16 := bs.getD (i + 1) 0 ++ bs.getD i 0

/-- Four bytes as the machine loads them. -/
def le32At (bs : List (BitVec 8)) (i : Nat) : BitVec 32 :=
  swap32 (be16At bs i ++ be16At bs (i + 2))

/-- Two bytes, in network order. -/
def be16Bytes (x : BitVec 16) : List (BitVec 8) := [x.extractLsb' 8 8, x.extractLsb' 0 8]

/-- Six bytes in the order they stand in. -/
def be48Bytes (x : BitVec 48) : List (BitVec 8) :=
  be16Bytes (x.extractLsb' 32 16) ++ be16Bytes (x.extractLsb' 16 16) ++
    be16Bytes (x.extractLsb' 0 16)

/-- Four bytes as the machine stores them. -/
def le32Bytes (x : BitVec 32) : List (BitVec 8) :=
  be16Bytes ((swap32 x).extractLsb' 16 16) ++ be16Bytes ((swap32 x).extractLsb' 0 16)

theorem be16At_be16Bytes (id : BitVec 16) (rest : List (BitVec 8)) :
    be16At (be16Bytes id ++ rest) 0 = id := by
  show id.extractLsb' 8 8 ++ id.extractLsb' 0 8 = id
  apply BitVec.eq_of_getLsbD_eq
  intro i hi
  simp only [BitVec.getLsbD_append, BitVec.getLsbD_extractLsb']
  by_cases h : i < 8
  · simp [h]
  · simp [h, show i - 8 < 8 by omega, show 8 + (i - 8) = i by omega]

/-! ### Deadlines -/

/-- `NAT_EXPIRE_COALESCE_SEC`. -/
def natExpireCoalesceSec : Nat := 1

/-- `nat_expire_set`: the deadline is whatever it is set to. -/
def natExpireSet (_cur target : Nat) : Nat := target

/-- `nat_expire_refresh`: a deadline only moves out, and only by more than a second. -/
def natExpireRefresh (hz cur target : Nat) : Nat :=
  if cur + natExpireCoalesceSec * hz < target then target else cur

theorem le_natExpireRefresh (hz cur target : Nat) : cur ≤ natExpireRefresh hz cur target := by
  unfold natExpireRefresh
  split <;> omega

/-- A refresh leaves the deadline alone exactly when it is within a second of the target. -/
theorem natExpireRefresh_eq_self_iff (hz cur target : Nat) :
    natExpireRefresh hz cur target = cur ↔ target ≤ cur + natExpireCoalesceSec * hz := by
  unfold natExpireRefresh
  split
  · constructor <;> intro h <;> omega
  · exact ⟨fun _ => by omega, fun _ => rfl⟩

end FastRG
