/-
Echo messages keep their checksum.

An identifier takes another's place and the checksum is adjusted by the difference, in the machine's
own words and with one carry added back in.  Modulo 65535 that is right.  What is left are the two
zeros: the adjusted checksum may be zero where the sum needs all ones, and then the message checks
only if something else in it is not zero.  A translated message keeps its identifier or its checksum
apart from zero.  The gateway's own answer does not: its type is zero, and if nothing else was in
the request, `gatewayEchoCksum` gives a checksum of zero as well, where 65535 was wanted.
-/
import FastRG.Proofs.NatProtocols
import FastRG.Proofs.PacketChecksums

namespace FastRG

open Octets

/-! ### The adjusted checksums -/

/-- One carry, added back in. -/
theorem toNat_carry (x : BitVec 32) :
    ((x &&& 0xFFFF#32) + (x >>> 16)).toNat = x.toNat % 65536 + x.toNat / 65536 := by
  have hlow : (x &&& 0xFFFF#32).toNat = x.toNat % 65536 := by
    rw [BitVec.toNat_and]
    exact Nat.and_two_pow_sub_one_eq_mod x.toNat 16
  have hhigh : (x >>> 16).toNat = x.toNat / 65536 := by
    rw [BitVec.toNat_ushiftRight, Nat.shiftRight_eq_div_pow]
  have hlt := x.isLt
  rw [BitVec.toNat_add, hlow, hhigh]
  omega

/-- The sum of two words is kept modulo 65535, and is zero only if it was. -/
structure KeepsWords (old old' new new' : BitVec 16) : Prop where
  mod : (new.toNat + new'.toNat) % 65535 = (old.toNat + old'.toNat) % 65535
  pos : 0 < old.toNat + old'.toNat → 0 < new.toNat + new'.toNat

theorem encapsIcmpCksum_keeps (icmpCksum oriIdent newPortId : BitVec 16) :
    KeepsWords icmpCksum oriIdent (encapsIcmpCksum icmpCksum oriIdent newPortId) newPortId := by
  have hc := icmpCksum.isLt
  have ho := oriIdent.isLt
  have hn := newPortId.isLt
  unfold encapsIcmpCksum
  generalize hx : icmpCksum.setWidth 32 + oriIdent.setWidth 32 - newPortId.setWidth 32 = x
  have hvalue : x.toNat =
      (4294967296 - newPortId.toNat + (icmpCksum.toNat + oriIdent.toNat)) % 4294967296 := by
    rw [← hx, BitVec.toNat_sub, BitVec.toNat_add, BitVec.toNat_setWidth, BitVec.toNat_setWidth,
      BitVec.toNat_setWidth]
    omega
  have hhigh : x >>> 16 = 0 ↔ x.toNat / 65536 = 0 := by
    rw [← BitVec.toNat_inj, BitVec.toNat_ushiftRight, Nat.shiftRight_eq_div_pow]
    exact Iff.rfl
  dsimp only
  by_cases hborrow : icmpCksum.toNat + oriIdent.toNat < newPortId.toNat
  · -- the difference has wrapped, and its high half is all ones
    have hhalf : x.toNat / 65536 = 65535 := by omega
    have hrest : x.toNat % 65536 + newPortId.toNat =
        65536 + (icmpCksum.toNat + oriIdent.toNat) := by omega
    rw [if_pos (by rw [ne_eq, hhigh, hhalf]; decide)]
    refine ⟨?_, fun _ => by omega⟩
    rw [BitVec.toNat_setWidth, toNat_carry, hhalf]
    omega
  · have hfits : x.toNat + newPortId.toNat = icmpCksum.toNat + oriIdent.toNat := by omega
    by_cases hsmall : x.toNat / 65536 = 0
    · rw [if_neg (by rw [ne_eq, hhigh, not_not, hsmall])]
      refine ⟨?_, fun _ => ?_⟩
      · rw [BitVec.toNat_setWidth]
        omega
      · rw [BitVec.toNat_setWidth]
        omega
    · have hone : x.toNat / 65536 = 1 := by omega
      rw [if_pos (by rw [ne_eq, hhigh]; exact hsmall)]
      refine ⟨?_, fun _ => ?_⟩
      · rw [BitVec.toNat_setWidth, toNat_carry, hone]
        omega
      · rw [BitVec.toNat_setWidth, toNat_carry, hone]
        omega

/-- The way back computes the same. -/
theorem decapsIcmpCksum_eq (icmpCksum icmpIdent srcPort : BitVec 16) :
    decapsIcmpCksum icmpCksum icmpIdent srcPort = encapsIcmpCksum icmpCksum icmpIdent srcPort := by
  have hsame : icmpIdent.setWidth 32 - srcPort.setWidth 32 + icmpCksum.setWidth 32 =
      icmpCksum.setWidth 32 + icmpIdent.setWidth 32 - srcPort.setWidth 32 := by
    apply BitVec.eq_of_toNat_eq
    rw [BitVec.toNat_sub, BitVec.toNat_add, BitVec.toNat_sub, BitVec.toNat_add]
    omega
  unfold decapsIcmpCksum encapsIcmpCksum
  dsimp only
  rw [hsame]

/-- The gateway's checksum is never all ones, where zero would be as good modulo 65535. -/
theorem toNat_gatewayEchoCksum (icmpCksum : BitVec 16) :
    (gatewayEchoCksum icmpCksum).toNat = (icmpCksum.toNat + 8) % 65535 := by
  have hlt := icmpCksum.isLt
  have hold : (~~~(icmpCksum.setWidth 32) &&& 0xFFFF#32).toNat = 65535 - icmpCksum.toNat := by
    have hmask : (~~~(icmpCksum.setWidth 32) &&& 0xFFFF#32).toNat =
        (~~~(icmpCksum.setWidth 32)).toNat % 65536 := by
      rw [BitVec.toNat_and]
      exact Nat.and_two_pow_sub_one_eq_mod _ 16
    rw [hmask, BitVec.toNat_not, BitVec.toNat_setWidth]
    omega
  have htype : (~~~((swap16 (8#16 <<< 8)).setWidth 32) &&& 0xFFFF#32) = 0xFFF7#32 := by decide
  have hanswer : (swap16 (0#16 <<< 8)).setWidth 32 = 0#32 := by decide
  unfold gatewayEchoCksum
  rw [htype, hanswer]
  dsimp only
  generalize hx : (~~~(icmpCksum.setWidth 32) &&& 0xFFFF#32) + 0xFFF7#32 + 0#32 = x
  have hvalue : x.toNat = 65535 - icmpCksum.toNat + 65527 := by
    rw [← hx, BitVec.toNat_add, BitVec.toNat_add, hold]
    show ((65535 - icmpCksum.toNat + 65527) % 4294967296 + 0) % 4294967296 = _
    omega
  rw [BitVec.toNat_setWidth, BitVec.toNat_not, toNat_carry, toNat_carry]
  by_cases hcarry : x.toNat / 65536 = 0
  · have hlow : x.toNat % 65536 = x.toNat := by omega
    rw [hcarry, hlow, Nat.add_zero, hcarry, hlow]
    omega
  · have hone : x.toNat / 65536 = 1 := by omega
    have hnone : (x.toNat % 65536 + 1) / 65536 = 0 := by omega
    rw [hone, hnone]
    omega

/-! ### What is written -/

variable {rte : RteCksum} {m : Octets} {len : Nat}

/-- Checksum and identifier are the second and the third word of a message. -/
theorem verifies_of_written {m' : Octets} (hm : Verifies m 20 len) (hlen : 8 ≤ len)
    (h : ∀ j, 20 ≤ j → j ≠ 22 → j ≠ 23 → j ≠ 24 → j ≠ 25 → m' j = m j)
    (hkeeps : KeepsWords (m.le16 22) (m.le16 24) (m'.le16 22) (m'.le16 24)) :
    Verifies m' 20 len :=
  hm.words (k := 1) (l := 2) (fun j hle _ hc hc' hi hi' => h j hle hc hc' hi hi') (by decide)
    (by omega) hkeeps.mod hkeeps.pos

theorem verifies_encapsIcmpWrite (hm : Verifies m 20 len) (hlen : 8 ≤ len) (hsiIpv4 : BitVec 32)
    (newPortId : BitVec 16) : Verifies (encapsIcmpWrite rte hsiIpv4 newPortId m) 20 len := by
  refine verifies_of_written hm hlen ?_ ?_
  · intro j hle hc hc' hi hi'
    unfold encapsIcmpWrite
    simp (disch := omega) only [put16_of_ne, put32_of_ne]
  · unfold encapsIcmpWrite
    simp (disch := omega) only [le16_put16, le16_put16_of_ne, le16_put32_of_ne]
    exact encapsIcmpCksum_keeps _ _ _

theorem verifies_decapsIcmpWrite (hm : Verifies m 20 len) (hlen : 8 ≤ len) (srcIp : BitVec 32)
    (srcPort : BitVec 16) : Verifies (decapsIcmpWrite rte srcIp srcPort m) 20 len := by
  refine verifies_of_written hm hlen ?_ ?_
  · intro j hle hc hc' hi hi'
    unfold decapsIcmpWrite
    simp (disch := omega) only [put16_of_ne, put32_of_ne]
  · unfold decapsIcmpWrite
    simp (disch := omega) only [le16_put16, le16_put16_of_ne]
    rw [decapsIcmpCksum_eq]
    exact encapsIcmpCksum_keeps _ _ _

/-- Nothing but the type and the checksum: no code, identifier, number or payload. -/
def BareEcho (m : Octets) (len : Nat) : Prop :=
  ∀ j, 21 ≤ j → j < 20 + len → j ≠ 22 → j ≠ 23 → m j = 0

/-- The gateway's answer checks exactly when the request was not bare. -/
theorem verifies_gatewayEcho_iff {m' : Octets} (hm : Verifies m 20 len) (hlen : 8 ≤ len)
    {dhcpServerIp : BitVec 32} (h : gatewayEcho dhcpServerIp m = some m') :
    Verifies m' 20 len ↔ ¬ BareEcho m len := by
  unfold gatewayEcho at h
  split at h
  · cases h
  · rename_i htype
    rw [not_not] at htype
    obtain rfl := Option.some.inj h
    generalize hm' : put16 _ 22 _ = m'
    have hother : ∀ j, 21 ≤ j → j ≠ 22 → j ≠ 23 → m' j = m j := by
      intro j hle hc hc'
      rw [← hm']
      simp (disch := omega) only [put16_of_ne, put32_of_ne, put8_of_ne]
    have hcksum : (m'.le16 22).toNat = ((m.le16 22).toNat + 8) % 65535 := by
      rw [← hm', le16_put16, toNat_gatewayEchoCksum]
      simp (disch := omega) only [le16_put8_of_ne, le16_put32_of_ne]
    have hanswer : m' 20 = 0 := by
      rw [← hm', put16_of_ne _ (by decide), put8_self]
    have hfirst : (m.le16 20).toNat = (m'.le16 20).toNat + 8 := by
      have hcode : m' (20 + 1) = m (20 + 1) := hother 21 (by decide) (by decide) (by decide)
      rw [toNat_le16, toNat_le16, hcode, htype, hanswer]
      show 8 + _ = 0 + _ + 8
      omega
    obtain ⟨hpos, hmod⟩ := verifies_iff.mp hm
    have hsums : hostSum m' 20 len + ((m.le16 20).toNat + (m.le16 22).toNat) =
        hostSum m 20 len + ((m'.le16 20).toNat + (m'.le16 22).toNat) :=
      hostSum_words (k := 0) (l := 1)
        (fun j hle _ ht ht' hc hc' => hother j (by omega) hc hc') (by decide) (by omega)
    have hmod' : hostSum m' 20 len % 65535 = 0 := by omega
    refine ⟨fun hverifies hbare => ?_, fun hbare => ?_⟩
    · -- the request's sum is 8 and its checksum, so that the answer's checksum is zero
      have hzero : ∀ j, 20 ≤ j → j < 20 + len → j ≠ 20 → j ≠ 21 → j ≠ 22 → j ≠ 23 → m j = 0 :=
        fun j _ hlt _ _ hc hc' => hbare j (by omega) hlt hc hc'
      have hbig : hostSum m 20 len + ((le16 (fun _ => 0) 20).toNat + (le16 (fun _ => 0) 22).toNat) =
          hostSum (fun _ => 0) 20 len + ((m.le16 20).toNat + (m.le16 22).toNat) :=
        hostSum_words (k := 0) (l := 1) hzero (by decide) (by omega)
      have hnothing : hostSum (fun _ => 0) 20 len = 0 := hostSum_zeros fun _ _ _ => rfl
      have hword : ∀ i, (le16 (fun _ => 0) i).toNat = 0 := by
        intro i
        rw [toNat_le16]
        rfl
      have hcode : (m'.le16 20).toNat = 0 := by
        rw [toNat_le16, hanswer, hother _ (by decide) (by decide) (by decide),
          hbare _ (by decide) (by omega) (by decide) (by decide)]
        rfl
      have hlt := (m.le16 22).isLt
      rw [hnothing, hword, hword] at hbig
      exact absurd (verifies_iff.mp hverifies).1 (by omega)
    · refine verifies_iff.mpr ⟨?_, hmod'⟩
      unfold BareEcho at hbare
      simp only [not_forall] at hbare
      obtain ⟨j, hle, hlt, hc, hc', hne⟩ := hbare
      obtain ⟨i, rfl⟩ := Nat.exists_eq_add_of_le (show 20 ≤ j by omega)
      refine hostSum_pos (i := i) (by omega) ?_
      rw [hother _ hle hc hc']
      exact hne

/-! ### Messages -/

/-- The answer goes to a LAN host under the identifier of a packet of its own, which was given the
identifier the answer came with, towards the peer it came from. -/
def IdentRestored (ls : List NatPacket) (m m' : Octets) : Prop :=
  ∃ l ∈ ls, ∃ srcMac ip hdr chances, l.event = .lan srcMac ip hdr chances ∧
    (hdr.flow ip).reverse (m.le16 24) =
      ⟨m.le32 12, m.le16 24, icmpEchoRequest.setWidth 16⟩ ∧
    m'.le16 24 = (hdr.flow ip).srcPort ∧ m'.le32 16 = (hdr.flow ip).srcIp

/-- An answer is written for the mapping it matched, and that was made for a packet of the run. -/
theorem identRestored_of_run {crc : BitVec 32 → BitVec 32 → BitVec 32} {hz now : Nat} (hhz : 0 < hz)
    {ccb s : NatCcb} {ls : List NatPacket} {guard : NatCcb → NatPacket → Prop}
    (hrun : Run (natPacketStep crc hz) guard (natTableInit ccb) ls s) {mac : BitVec 48}
    {srcIp : BitVec 32} {srcPort : BitVec 16}
    (h : (decapsIcmp hz now s (rteIpv4Hdr m) (rteIcmpHdr m)).1 = .forward mac srcIp srcPort) :
    IdentRestored ls m (decapsIcmpWrite rte srcIp srcPort m) := by
  have hdecaps : (decaps hz now none s (rteIpv4Hdr m) (.icmp (rteIcmpHdr m))).1 =
      .forward mac srcIp srcPort := h
  rcases decaps_forward hdecaps with hport | ⟨i, hr, hentry, -⟩
  · cases hport
  · obtain ⟨l, hl, srcMac, ip, hdr, chances, natPort, hevent, hnew, hkey⟩ :=
      (NatMade.run hhz hrun).made _ i hr
    obtain ⟨-, hip, hsport⟩ := DecapsAction.forward.inj hentry
    obtain rfl : m.le16 24 = natPort := congrArg NatReverseKey.natPort hkey
    refine ⟨l, hl, srcMac, ip, hdr, chances, hevent, hkey.symm, ?_, ?_⟩
    · have hwritten : (decapsIcmpWrite rte srcIp srcPort m).le16 24 = srcPort := by
        unfold decapsIcmpWrite
        simp (disch := omega) only [le16_put16, le16_put16_of_ne]
      rw [hwritten, ← hsport]
      exact congrArg AddrTable.srcPort hnew
    · have hwritten : (decapsIcmpWrite rte srcIp srcPort m).le32 16 = srcIp := by
        unfold decapsIcmpWrite
        simp (disch := omega) only [le32_put16_of_ne, le32_put32]
      rw [hwritten, ← hip]
      exact congrArg AddrTable.srcIp hnew

/-- What becomes of an echo message of `len` bytes: wherever it is sent on or answered, it still
checks, and an answer gets its identifier back. -/
structure EchoSound (rte : RteCksum) (m : Octets) (len : Nat) : Prop where
  encaps : m 20 = icmpEchoRequest → ∀ crc hz now chances headroom hsiIpv4 ccb srcMac m',
    (encapsIcmp crc hz now chances rte headroom hsiIpv4 ccb srcMac m).1 = some m' →
      Verifies m' 20 len
  dist : m 20 = icmpEchoRequest → ∀ crc hz now chances hsiIpv4 ccb srcMac m',
    (lanDistRxIcmp crc hz now chances rte hsiIpv4 ccb srcMac m).1 = some m' → Verifies m' 20 len
  decaps : m 20 = icmpEchoReply → ∀ crc hz, 0 < hz → ∀ ccb ls s,
    Run (natPacketStep crc hz) (fun _ _ => True) (natTableInit ccb) ls s → ∀ now m',
      (decapsIcmpPacket hz now rte s m).1 = some m' → Verifies m' 20 len ∧ IdentRestored ls m m'
  gateway : m 20 = icmpEchoRequest → ∀ dhcpServerIp m', gatewayEcho dhcpServerIp m = some m' →
    Verifies m' 20 len

/--
**Echo messages keep their checksum, except bare ones the gateway answers.**  For every message
that checks, of whatever content and length, every port and every state of the translator.
-/
theorem echoSound_iff (rte : RteCksum) (m : Octets) (len : Nat) (hlen : 8 ≤ len)
    (hm : Verifies m 20 len) :
    EchoSound rte m len ↔ (m 20 = icmpEchoRequest → ¬ BareEcho m len) := by
  refine ⟨fun h hrequest => ?_, fun hbare => ⟨?_, ?_, ?_, ?_⟩⟩
  · have hanswered : ∃ m', gatewayEcho 0 m = some m' := by
      unfold gatewayEcho
      rw [if_neg (not_not.mpr hrequest)]
      exact ⟨_, rfl⟩
    obtain ⟨m', hm'⟩ := hanswered
    exact (verifies_gatewayEcho_iff hm hlen hm').mp (h.gateway hrequest 0 m' hm')
  · intro _ crc hz now chances headroom hsiIpv4 ccb srcMac m' hsent
    unfold encapsIcmp insertPppoesHdr at hsent
    dsimp only at hsent
    split at hsent
    · cases hsent
    · dsimp only at hsent
      split at hsent
      · obtain rfl := Option.some.inj hsent
        exact verifies_encapsIcmpWrite hm hlen _ _
      · cases hsent
  · intro _ crc hz now chances hsiIpv4 ccb srcMac m' hsent
    unfold lanDistRxIcmp at hsent
    dsimp only at hsent
    split at hsent
    · cases hsent
    · obtain rfl := Option.some.inj hsent
      exact verifies_encapsIcmpWrite hm hlen _ _
  · intro _ crc hz hhz ccb ls s hrun now m' hsent
    unfold decapsIcmpPacket at hsent
    split at hsent
    · rename_i mac srcIp srcPort t hdecaps
      obtain rfl := Option.some.inj hsent
      exact ⟨verifies_decapsIcmpWrite hm hlen _ _,
        identRestored_of_run hhz hrun (congrArg Prod.fst hdecaps)⟩
    · cases hsent
  · intro hrequest dhcpServerIp m' hsent
    exact (verifies_gatewayEcho_iff hm hlen hsent).mpr (hbare hrequest)

/-- An echo request to the gateway, its bytes after the IP header given. -/
def echoRequest (bytes : List (BitVec 8)) : Octets := fun i => bytes.getD (i - 20) 0

/-- Identifier 1, number 1, no payload. -/
theorem echoSound_iff_numbered :
    EchoSound rteReference (echoRequest [8, 0, 0xF7, 0xFD, 0, 1, 0, 1]) 8 ↔
      (echoRequest [8, 0, 0xF7, 0xFD, 0, 1, 0, 1] 20 = icmpEchoRequest →
        ¬ BareEcho (echoRequest [8, 0, 0xF7, 0xFD, 0, 1, 0, 1]) 8) :=
  echoSound_iff rteReference _ 8 (by decide) (by decide)

/-- Identifier and number 0 and no payload: the answer carries a checksum of zero, and fails. -/
theorem bare_echo_fails : ¬ ∀ rte m len, 8 ≤ len → Verifies m 20 len → EchoSound rte m len := by
  intro h
  have hbare := h rteReference (echoRequest [8, 0, 0xF7, 0xFF, 0, 0, 0, 0]) 8
    (by decide) (by decide)
  have hanswer := hbare.gateway rfl 0x0101a8c0 _ rfl
  exact absurd hanswer (by decide)

end FastRG
