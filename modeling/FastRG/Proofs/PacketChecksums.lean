/-
The checksums of IP, UDP and TCP.

They are computed outside the repository, by two functions the code calls with the checksum's field
set to zero.  What is relied on is their documented behaviour: with what they return the check
succeeds.  `rteReference` is what they compute, and does so.
-/
import FastRG.DpPackets
import FastRG.Lib.OnesComplement

namespace FastRG

open Octets

/-- The two protocols with ports. -/
inductive NatL4
  | udp
  | tcp
  deriving DecidableEq

namespace NatL4

def proto : NatL4 → BitVec 8
  | udp => ipprotoUdp
  | tcp => ipprotoTcp

def hdrOf : NatL4 → Octets → L4Hdr
  | udp => rteUdpHdr
  | tcp => rteTcpHdr

/-- How long the header is without options. -/
def hdrLen : NatL4 → Nat
  | udp => 8
  | tcp => 20

/-- Where in the header the checksum is. -/
def cksum : NatL4 → Nat
  | udp => 6
  | tcp => 16

end NatL4

def ipv4HdrLen (m : Octets) : Nat := 4 * (m 0 &&& 0x0F#8).toNat

def ipv4TotalLen (m : Octets) : Nat := (m.be16 2).toNat

/-- The checksum of UDP and TCP: addresses, protocol and length are summed with the segment. -/
def L4Verifies (l4 : NatL4) (m : Octets) : Prop :=
  let l4Len := ipv4TotalLen m - ipv4HdrLen m
  foldCarry (netSum m 12 8 + l4.proto.toNat + l4Len + netSum m (ipv4HdrLen m) l4Len) = 65535

/-- What the two checksum functions are documented to do: where the checksum is zero and the header
follows the IP header, what they return makes the check succeed. -/
structure RteCksum.Computes (rte : RteCksum) : Prop where
  ipv4 : ∀ m, ipv4HdrLen m = 20 → m.le16 10 = 0 → Verifies (m.put16 10 (rte.ipv4Cksum m)) 0 20
  udptcp : ∀ (l4 : NatL4) m, ipv4HdrLen m = 20 → m 9 = l4.proto →
    20 + l4.hdrLen ≤ ipv4TotalLen m → m.le16 (20 + l4.cksum) = 0 →
      L4Verifies l4 (m.put16 (20 + l4.cksum) (rte.ipv4UdptcpCksum m 20))

variable {m m' : Octets}

theorem ipv4HdrLen_congr (h : m' 0 = m 0) : ipv4HdrLen m' = ipv4HdrLen m := by
  unfold ipv4HdrLen
  rw [h]

theorem ipv4TotalLen_congr (h : m' 2 = m 2) (h' : m' 3 = m 3) : ipv4TotalLen m' = ipv4TotalLen m := by
  unfold ipv4TotalLen
  rw [be16_congr h h']

/-- Either checksum lies behind the ports. -/
theorem NatL4.cksum_ge (l4 : NatL4) : 6 ≤ l4.cksum := by
  cases l4 with
  | udp => decide
  | tcp => decide

/-- The checksum is a word of the header. -/
theorem NatL4.cksum_word (l4 : NatL4) : ∃ k, l4.cksum = 2 * k ∧ l4.cksum + 2 ≤ l4.hdrLen := by
  cases l4 with
  | udp => exact ⟨3, rfl, by decide⟩
  | tcp => exact ⟨8, rfl, by decide⟩

/-! ### The reference -/

/-- The two functions as DPDK has them. -/
def rteReference : RteCksum where
  ipv4Cksum m := swap16 (BitVec.ofNat 16 (65535 - foldCarry (netSum m 0 (ipv4HdrLen m))))
  ipv4UdptcpCksum m l4At :=
    let l4Len := ipv4TotalLen m - ipv4HdrLen m
    let cksum := 65535 - foldCarry (netSum m 12 8 + (m 9).toNat + l4Len + netSum m l4At l4Len)
    swap16 (BitVec.ofNat 16 (if cksum = 0 ∧ m 9 = ipprotoUdp then 65535 else cksum))

theorem rteReference_computes : rteReference.Computes := by
  have hzero : ∀ (m : Octets) i, m.le16 i = 0 → (m.be16 i).toNat = 0 := by
    intro m i h
    have hword := congrArg BitVec.toNat h
    rw [toNat_le16] at hword
    rw [toNat_be16]
    have hnone : (m i).toNat + 256 * (m (i + 1)).toNat = 0 := hword
    omega
  have hstored : ∀ (m : Octets) i (n : Nat), n < 65536 →
      ((m.put16 i (swap16 (BitVec.ofNat 16 n))).be16 i).toNat = n := by
    intro m i n hn
    rw [be16_put16]
    show (swap16 (swap16 (BitVec.ofNat 16 n))).toNat = n
    rw [swap16_swap16, BitVec.toNat_ofNat]
    exact Nat.mod_eq_of_lt hn
  refine ⟨?_, ?_⟩
  · intro m hlen hnone
    generalize hcksum : 65535 - foldCarry (netSum m 0 20) = cksum
    have hle : cksum < 65536 := by omega
    have hvalue : rteReference.ipv4Cksum m = swap16 (BitVec.ofNat 16 cksum) := by
      rw [← hcksum, ← hlen]
      rfl
    have hsum : netSum (m.put16 10 (swap16 (BitVec.ofNat 16 cksum))) 0 20 + (m.be16 10).toNat =
        netSum m 0 20 + ((m.put16 10 (swap16 (BitVec.ofNat 16 cksum))).be16 10).toNat :=
      netSum_word (k := 5) (fun j _ _ _ _ => put16_of_ne _ (by omega)) (by decide)
    rw [hzero m 10 hnone, hstored m 10 cksum hle, Nat.add_zero] at hsum
    unfold Verifies
    rw [hvalue, hsum, ← hcksum]
    exact foldCarry_complement _
  · intro l4 m hlen hproto hlong hnone
    obtain ⟨k, hk, hfits⟩ := l4.cksum_word
    have hat := l4.cksum_ge
    generalize hX : netSum m 12 8 + (m 9).toNat + (ipv4TotalLen m - 20) +
      netSum m 20 (ipv4TotalLen m - 20) = X
    generalize hcksum : (if 65535 - foldCarry X = 0 ∧ m 9 = ipprotoUdp then 65535
      else 65535 - foldCarry X) = cksum
    have hle : cksum < 65536 := by
      rw [← hcksum]
      split
      · decide
      · omega
    have hvalue : rteReference.ipv4UdptcpCksum m 20 = swap16 (BitVec.ofNat 16 cksum) := by
      rw [← hcksum, ← hX, ← hlen]
      rfl
    rw [hvalue]
    have hbyte : ∀ j, j < 26 → m.put16 (20 + l4.cksum) (swap16 (BitVec.ofNat 16 cksum)) j = m j :=
      fun j hj => put16_of_ne _ (by omega)
    have hsum : netSum (m.put16 (20 + 2 * k) (swap16 (BitVec.ofNat 16 cksum))) 20
          (ipv4TotalLen m - 20) + (m.be16 (20 + 2 * k)).toNat =
        netSum m 20 (ipv4TotalLen m - 20) +
          ((m.put16 (20 + 2 * k) (swap16 (BitVec.ofNat 16 cksum))).be16 (20 + 2 * k)).toNat :=
      netSum_word (fun j _ _ _ _ => put16_of_ne _ (by omega)) (by omega)
    rw [← hk, hzero m _ hnone, hstored m _ cksum hle, Nat.add_zero] at hsum
    unfold L4Verifies
    dsimp only
    rw [ipv4HdrLen_congr (hbyte 0 (by decide)), hlen,
      ipv4TotalLen_congr (hbyte 2 (by decide)) (hbyte 3 (by decide)), hsum,
      netSum_congr fun j _ hj => hbyte j (by omega), ← hproto, ← Nat.add_assoc, hX, ← hcksum]
    have hones := foldCarry_complement X
    split
    · rename_i hudp
      have hfull : foldCarry X = 65535 := by
        have hlt := foldCarry_lt X
        omega
      rw [foldCarry_eq_ones] at hfull ⊢
      omega
    · exact hones

end FastRG
