/-
How long a segment's payload is taken to be.

The IPv4 code subtracts both headers from the stated length in sixteen bits and asks nothing first;
the IPv6 code asks whether the header fits, and takes the payload for empty if not.  So the two
agree, and the IPv4 code is right, exactly on the packets whose headers fit into their stated
length.  On the others the difference wraps, and the baseline is pushed most of 64 kilobytes ahead.
-/
import FastRG.Ipv6Firewall
import FastRG.Proofs.TcpRuns
import FastRG.Proofs.NatProtocols

namespace FastRG

/-! ### Stated lengths -/

/-- The stated length of the IPv4 header. -/
def Ipv4Hdr.hdrLen (ip : Ipv4Hdr) : Nat := (ip.versionIhl &&& 0x0F).toNat * 4

/-- The stated length of the TCP header. -/
def tcpStatedHdrLen (dataOff : BitVec 8) : Nat := ((dataOff >>> 4) &&& 0x0F).toNat * 4

/-- How many bytes follow the IPv4 header, by the stated length. -/
def Ipv4Hdr.segmentLen (ip : Ipv4Hdr) : Nat := ip.totalLength.toNat - ip.hdrLen

/-- How many bytes follow the TCP header, by the stated lengths. -/
def Ipv4Hdr.payloadLen (ip : Ipv4Hdr) (tcp : TcpHdr) : Nat :=
  ip.segmentLen - tcpStatedHdrLen tcp.dataOff

/-- Both headers fit into the stated length. -/
def HeadersFit (ip : Ipv4Hdr) (tcp : TcpHdr) : Prop :=
  ip.hdrLen + tcpStatedHdrLen tcp.dataOff ≤ ip.totalLength.toNat

theorem nibble_le (x : BitVec 8) : (x &&& 0x0F).toNat ≤ 15 := by
  rw [BitVec.toNat_and]
  exact Nat.and_le_right

theorem ipv4HdrLen_le (ip : Ipv4Hdr) : ip.hdrLen ≤ 60 := by
  have h := nibble_le ip.versionIhl
  unfold Ipv4Hdr.hdrLen
  omega

theorem tcpStatedHdrLen_le (dataOff : BitVec 8) : tcpStatedHdrLen dataOff ≤ 60 := by
  have h := nibble_le (dataOff >>> 4)
  unfold tcpStatedHdrLen
  omega

/-- A header length as the code computes it, in sixteen bits. -/
theorem toNat_nibble_words (x : BitVec 8) :
    ((x &&& 0x0F).setWidth 16 * 4).toNat = (x &&& 0x0F).toNat * 4 := by
  have h := nibble_le x
  rw [BitVec.toNat_mul, BitVec.toNat_setWidth]
  show (x &&& 0x0F).toNat % 65536 * 4 % 65536 = (x &&& 0x0F).toNat * 4
  omega

/-! ### The two computations -/

/-- The IPv6 code computes what the stated lengths leave. -/
theorem ipv6TcpPayload_toNat (payloadLen : BitVec 16) (dataOff : BitVec 8) :
    (ipv6TcpPayload payloadLen dataOff).toNat = payloadLen.toNat - tcpStatedHdrLen dataOff := by
  have hlen : (((dataOff >>> 4) &&& 0x0F).setWidth 16 * 4 : BitVec 16).toNat
      = tcpStatedHdrLen dataOff := toNat_nibble_words (dataOff >>> 4)
  unfold ipv6TcpPayload
  dsimp only
  by_cases hfits : payloadLen > ((dataOff >>> 4) &&& 0x0F).setWidth 16 * 4
  · rw [if_pos hfits]
    have hlt := BitVec.lt_def.mp hfits
    rw [BitVec.toNat_sub_of_le (BitVec.le_def.mpr (Nat.le_of_lt hlt)), hlen]
  · rw [if_neg hfits]
    have hle : payloadLen.toNat ≤ tcpStatedHdrLen dataOff := by
      rw [← hlen]
      exact Nat.le_of_not_lt fun hlt => hfits (BitVec.lt_def.mpr hlt)
    rw [Nat.sub_eq_zero_of_le hle]
    rfl

/-- The IPv4 code computes the same, in sixteen bits that wrap. -/
theorem ipv4TcpPayload_toNat (ip : Ipv4Hdr) (tcp : TcpHdr) :
    (ipv4TcpPayload ip tcp).toNat
      = (0x20000 + ip.totalLength.toNat - ip.hdrLen - tcpStatedHdrLen tcp.dataOff) % 0x10000 := by
  have hip : ((ip.versionIhl &&& 0x0F).setWidth 16 * 4 : BitVec 16).toNat = ip.hdrLen :=
    toNat_nibble_words ip.versionIhl
  have htcp : (((tcp.dataOff >>> 4) &&& 0x0F).setWidth 16 * 4 : BitVec 16).toNat
      = tcpStatedHdrLen tcp.dataOff := toNat_nibble_words (tcp.dataOff >>> 4)
  have hipLe := ipv4HdrLen_le ip
  have htcpLe := tcpStatedHdrLen_le tcp.dataOff
  unfold ipv4TcpPayload
  dsimp only
  rw [BitVec.toNat_sub, BitVec.toNat_sub, hip, htcp]
  omega

theorem ipv4TcpPayload_of_fits {ip : Ipv4Hdr} {tcp : TcpHdr} (h : HeadersFit ip tcp) :
    (ipv4TcpPayload ip tcp).toNat = ip.payloadLen tcp := by
  have hlt : ip.totalLength.toNat < 0x10000 := ip.totalLength.isLt
  unfold HeadersFit at h
  rw [ipv4TcpPayload_toNat]
  unfold Ipv4Hdr.payloadLen Ipv4Hdr.segmentLen
  omega

/-- Where they do not fit, what is left over lies within 120 bytes of the top. -/
theorem ipv4TcpPayload_of_not_fits {ip : Ipv4Hdr} {tcp : TcpHdr} (h : ¬ HeadersFit ip tcp) :
    0x10000 - 120 ≤ (ipv4TcpPayload ip tcp).toNat ∧ ip.payloadLen tcp = 0 := by
  have hipLe := ipv4HdrLen_le ip
  have htcpLe := tcpStatedHdrLen_le tcp.dataOff
  unfold HeadersFit at h
  rw [ipv4TcpPayload_toNat]
  unfold Ipv4Hdr.payloadLen Ipv4Hdr.segmentLen
  omega

/-! ### The baseline -/

/-- A number at most so many bytes past the start of the segment. -/
def WithinSegment (tcp : TcpHdr) (bytes : Nat) (seqEnd : BitVec 32) : Prop :=
  ∃ n ≤ bytes, seqEnd = tcp.sentSeq + BitVec.ofNat 32 n

theorem withinSegment_advance {tcp : TcpHdr} {bytes : Nat} {cur new : BitVec 32}
    (h : WithinSegment tcp bytes new) :
    seqAdvance cur new = cur ∨ WithinSegment tcp bytes (seqAdvance cur new) := by
  unfold seqAdvance
  split
  · exact Or.inr h
  · exact Or.inl rfl

/-- The number a segment has for the end of its side. -/
theorem withinSegment_seqEnd (tcp : TcpHdr) (payloadLen : BitVec 16) :
    WithinSegment tcp (payloadLen.toNat + 1) (tcp.sentSeq + payloadLen.setWidth 32 +
      (if hasFlag tcp.tcpFlags (rteTcpSynFlag ||| rteTcpFinFlag) then 1 else 0)) := by
  have hlen : payloadLen.setWidth 32 = BitVec.ofNat 32 payloadLen.toNat := by
    apply BitVec.eq_of_toNat_eq
    rw [BitVec.toNat_setWidth, BitVec.toNat_ofNat]
  rw [hlen]
  by_cases hflag : hasFlag tcp.tcpFlags (rteTcpSynFlag ||| rteTcpFinFlag) = true
  · refine ⟨payloadLen.toNat + 1, Nat.le_refl _, ?_⟩
    rw [if_pos hflag, BitVec.add_assoc, BitVec.ofNat_add]
    rfl
  · refine ⟨payloadLen.toNat, Nat.le_succ _, ?_⟩
    rw [if_neg hflag]
    exact BitVec.add_zero _

/-- A LAN segment leaves the LAN's end where it was, or puts it past the payload. -/
theorem natTcpLearning_seqEnd (crc : BitVec 32 → BitVec 32 → BitVec 32) (hz now : Nat)
    (chances : BitVec 16 → NatChance) (ccb : NatCcb) (srcMac : BitVec 48) (ip : Ipv4Hdr)
    (tcp : TcpHdr) (i : Nat) :
    let learned := natLearningPortReuse crc hz now chances ccb ⟨srcMac, ipprotoTcp⟩ ip.srcAddr
      ip.dstAddr tcp.srcPort tcp.dstPort
    let seqEnd := ((natTcpLearning crc hz now chances ccb srcMac ip tcp).ccb.addrTable i).maxSeqEndLan
    seqEnd = (learned.ccb.addrTable i).maxSeqEndLan ∨
      WithinSegment tcp ((ipv4TcpPayload ip tcp).toNat + 1) seqEnd := by
  unfold natTcpLearning
  generalize natLearningPortReuse crc hz now chances ccb ⟨srcMac, ipprotoTcp⟩ ip.srcAddr ip.dstAddr
    tcp.srcPort tcp.dstPort = learned
  obtain ⟨learnedCcb, natPort, outEntry⟩ := learned
  cases outEntry with
  | none => exact Or.inl rfl
  | some j =>
      dsimp only
      by_cases hport : natPort = 0
      · rw [if_pos hport]
        exact Or.inl rfl
      · rw [if_neg hport]
        by_cases hij : i = j
        · subst hij
          obtain ⟨state, fin, deadline, hframe⟩ :=
            fsm_frame hz now (tcpConntrackNatView learnedCcb i) tcp.tcpFlags false
          simp only [natSetConntrack, Function.update_self, tcpConntrackLan, hframe]
          exact withinSegment_advance (withinSegment_seqEnd tcp _)
        · refine Or.inl ?_
          simp only [natSetConntrack, Function.update_of_ne hij]

theorem natReverseLookup_addrTable (hz now : Nat) (ccb : NatCcb) (port : BitVec 16)
    (remoteIp : BitVec 32) (remotePort : BitVec 16) :
    (natReverseLookup hz now ccb port remoteIp remotePort).2.addrTable = ccb.addrTable := by
  unfold natReverseLookup
  split
  · rfl
  · split <;> rfl

theorem decapsPortFwd_addrTable (macTable : Option MacTable) (ccb : NatCcb) (port : BitVec 16) :
    (decapsPortFwd macTable ccb port).2.addrTable = ccb.addrTable := by
  unfold decapsPortFwd
  split
  · rfl
  · dsimp only
    split <;> rfl

/-- A WAN segment does the same for the WAN's end. -/
theorem decapsTcp_seqEnd (hz now : Nat) (macTable : Option MacTable) (ccb : NatCcb) (ip : Ipv4Hdr)
    (tcp : TcpHdr) (i : Nat) :
    let seqEnd := ((decapsTcp hz now macTable ccb ip tcp).2.addrTable i).maxSeqEndWan
    seqEnd = (ccb.addrTable i).maxSeqEndWan ∨
      WithinSegment tcp ((ipv4TcpPayload ip tcp).toNat + 1) seqEnd := by
  have hlookup := natReverseLookup_addrTable hz now ccb tcp.dstPort ip.srcAddr tcp.srcPort
  unfold decapsTcp
  generalize natReverseLookup hz now ccb tcp.dstPort ip.srcAddr tcp.srcPort = looked at hlookup ⊢
  obtain ⟨found, lookedCcb⟩ := looked
  replace hlookup : lookedCcb.addrTable = ccb.addrTable := hlookup
  rw [← hlookup]
  cases found with
  | none =>
      refine Or.inl ?_
      dsimp only
      rw [decapsPortFwd_addrTable]
  | some j =>
      dsimp only
      by_cases hok : tcpConntrackWanOk (tcpConntrackNatView lookedCcb j) tcp = true
      · rw [if_pos hok]
        by_cases hij : i = j
        · subst hij
          obtain ⟨state, fin, deadline, hframe⟩ :=
            fsm_frame hz now (tcpConntrackNatView lookedCcb i) tcp.tcpFlags true
          simp only [natSetConntrack, Function.update_self, tcpConntrackWan, hframe]
          exact withinSegment_advance (withinSegment_seqEnd tcp _)
        · refine Or.inl ?_
          simp only [natSetConntrack, Function.update_of_ne hij]
      · rw [if_neg hok]
        refine Or.inl ?_
        split <;> rfl

/-! ### Which packets it is right for -/

/-- The length is sound on both paths: it is what the stated lengths leave, the IPv4 and the IPv6
code agree on it, and the ends of the two sides move no further than the segment reaches. -/
structure TcpPayloadSound (ip : Ipv4Hdr) (tcp : TcpHdr) : Prop where
  bounded : (ipv4TcpPayload ip tcp).toNat ≤ ip.payloadLen tcp
  empty : ¬ HeadersFit ip tcp → ipv4TcpPayload ip tcp = 0
  agrees : ∀ payloadLen : BitVec 16, payloadLen.toNat = ip.segmentLen →
    ipv6TcpPayload payloadLen tcp.dataOff = ipv4TcpPayload ip tcp
  ipv6 : ∀ payloadLen : BitVec 16,
    (ipv6TcpPayload payloadLen tcp.dataOff).toNat = payloadLen.toNat - tcpStatedHdrLen tcp.dataOff
  lan : ∀ crc hz now chances ccb srcMac i,
    let learned := natLearningPortReuse crc hz now chances ccb ⟨srcMac, ipprotoTcp⟩ ip.srcAddr
      ip.dstAddr tcp.srcPort tcp.dstPort
    let seqEnd := ((natTcpLearning crc hz now chances ccb srcMac ip tcp).ccb.addrTable i).maxSeqEndLan
    seqEnd = (learned.ccb.addrTable i).maxSeqEndLan ∨
      WithinSegment tcp (ip.payloadLen tcp + 1) seqEnd
  wan : ∀ hz now macTable ccb i,
    let seqEnd := ((decapsTcp hz now macTable ccb ip tcp).2.addrTable i).maxSeqEndWan
    seqEnd = (ccb.addrTable i).maxSeqEndWan ∨ WithinSegment tcp (ip.payloadLen tcp + 1) seqEnd

/--
**Payload lengths.**  For every IPv4 packet, whatever its stated lengths, the payload length is
sound exactly when both headers fit into the stated length of the packet.
-/
theorem tcpPayloadSound_iff (ip : Ipv4Hdr) (tcp : TcpHdr) :
    TcpPayloadSound ip tcp ↔ HeadersFit ip tcp := by
  refine ⟨?_, ?_⟩
  · intro h
    by_contra hfits
    obtain ⟨hlarge, hnone⟩ := ipv4TcpPayload_of_not_fits hfits
    have hbounded := h.bounded
    omega
  · intro hfits
    have hlen := ipv4TcpPayload_of_fits hfits
    refine ⟨Nat.le_of_eq hlen, fun h => absurd hfits h, ?_, ?_, ?_, ?_⟩
    · intro payloadLen hsegment
      apply BitVec.eq_of_toNat_eq
      rw [ipv6TcpPayload_toNat, hsegment, hlen]
      rfl
    · intro payloadLen
      exact ipv6TcpPayload_toNat payloadLen tcp.dataOff
    · intro crc hz now chances ccb srcMac i
      rw [← hlen]
      exact natTcpLearning_seqEnd crc hz now chances ccb srcMac ip tcp i
    · intro hz now macTable ccb i
      rw [← hlen]
      exact decapsTcp_seqEnd hz now macTable ccb ip tcp i

/-- A segment of a packet that states 30 bytes, and two headers of 20. -/
theorem payload_wraps : ¬ TcpPayloadSound ⟨0x45, 30, 0x0601a8c0, 0x22d8b85d⟩
    ⟨0xb09c, 0xbb01, 1000, 2000, 0x50, rteTcpAckFlag, 100⟩ := by
  intro h
  exact absurd h.bounded (by decide)

end FastRG
