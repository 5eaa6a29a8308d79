/-
What translation writes into a packet, and where.

The headers after IP are written at a fixed distance of 20 bytes.  For a packet without options that
carries its ports, that is where they are: of the payload only the source port and the checksum
change on the way out, and the answer is led back to the host and the port it came from, with both
checksums made anew.  A packet with options is rewritten in them or in its own payload, and a later
fragment in the data it carries, with a mapping of its own.  `natRewrites_iff` says that these are
all the packets it goes wrong for: whatever state the translator is in, as long as no stale slot
was scanned.
-/
import FastRG.Proofs.NatSearch
import FastRG.Proofs.PacketChecksums

namespace FastRG

open Octets

/-! ### Packets -/

namespace NatL4

def encaps : NatL4 → (BitVec 32 → BitVec 32 → BitVec 32) → Nat → Nat → (BitVec 16 → NatChance) →
    RteCksum → Bool → BitVec 32 → Nat → NatCcb → BitVec 48 → Octets → Option Octets × NatCcb
  | udp => encapsUdp
  | tcp => encapsTcp

def decaps : NatL4 → Nat → Nat → RteCksum → Option MacTable → NatCcb → Octets →
    Option Octets × NatCcb
  | udp => decapsUdpPacket
  | tcp => decapsTcpPacket

theorem encaps_eq (l4 : NatL4) : l4.encaps = encapsL4 l4.hdrOf (20 + l4.cksum) := by
  cases l4 with
  | udp => rfl
  | tcp => rfl

theorem decaps_eq (l4 : NatL4) : l4.decaps = decapsL4 l4.hdrOf (20 + l4.cksum) := by
  cases l4 with
  | udp => rfl
  | tcp => rfl

end NatL4

/-- A fragment other than the first: it has no ports. -/
def LaterFragment (m : Octets) : Prop := m.be16 6 &&& 0x1FFF#16 ≠ 0

instance (m : Octets) : Decidable (LaterFragment m) := inferInstanceAs (Decidable (_ ≠ _))

/-- Not a fragment at all. -/
def Unfragmented (m : Octets) : Prop := m.be16 6 &&& 0x3FFF#16 = 0

/-- The payload is as it was, but for the source port and the checksum of the header it begins
with. -/
def PayloadKept (l4 : NatL4) (m m' : Octets) : Prop :=
  ∀ j, j + ipv4HdrLen m < ipv4TotalLen m → j ≠ 0 → j ≠ 1 → j ≠ l4.cksum → j ≠ l4.cksum + 1 →
    m' (ipv4HdrLen m + j) = m (ipv4HdrLen m + j)

/-- An answer to the packet: complete, and between the same ends. -/
structure NatMirrors (l4 : NatL4) (m r : Octets) : Prop where
  version : r 0 = m 0
  proto : r 9 = l4.proto
  src : r.le32 12 = m.le32 16
  dst : r.le32 16 = m.le32 12
  whole : Unfragmented r
  long : ipv4HdrLen m + l4.hdrLen ≤ ipv4TotalLen r
  srcPort : r.le16 (ipv4HdrLen m) = m.le16 (ipv4HdrLen m + 2)
  dstPort : r.le16 (ipv4HdrLen m + 2) = m.le16 (ipv4HdrLen m)

/-- What is delivered for an answer: to the host and the port of the first packet, and it checks. -/
structure NatRestores (l4 : NatL4) (m r : Octets) : Prop where
  host : r.le32 16 = m.le32 12
  port : r.le16 (ipv4HdrLen m + 2) = m.le16 (ipv4HdrLen m)
  ipv4 : Verifies r 0 (ipv4HdrLen m)
  segment : L4Verifies l4 r

/-! ### The system -/

/-- No stale slot a packet may scan names keys of two different mappings. -/
def NatInputApart (s : NatCcb) : NatInput → Prop
  | .packet l => NatPacketApart s l
  | .rule _ => True

/-- Connection tracking refuses the segment, which did find its mapping. -/
def Untracked (hz now : Nat) (s : NatCcb) (l4 : NatL4) (r : Octets) : Prop :=
  ∃ tcp i looked, l4.hdrOf r = .tcp tcp ∧
    natReverseLookup hz now s tcp.dstPort (r.le32 12) tcp.srcPort = (some i, looked) ∧
    tcpConntrackWanOk (tcpConntrackNatView looked i) tcp = false

/-- A LAN packet leaves for the WAN as `m'`, and leaves the translator in `t`. -/
def NatLeaves (rte : RteCksum) (l4 : NatL4) (m m' : Octets) (hz : Nat) (t : NatCcb) : Prop :=
  ∃ crc ccb ls s now chances headroom hsiIpv4 pktLen srcMac,
    Run (natInputStep crc hz) NatInputApart (natTableInit ccb) ls s ∧
    NatPacketApart s ⟨now, .lan srcMac (rteIpv4Hdr m) (l4.hdrOf m) chances⟩ ∧
    l4.encaps crc hz now chances rte headroom hsiIpv4 pktLen s srcMac m = (some m', t)

/-- What is promised of a packet that leaves, whatever state the translator was in. -/
structure NatRewrites (rte : RteCksum) (l4 : NatL4) (m : Octets) : Prop where
  payload : ∀ m' hz t, 0 < hz → NatLeaves rte l4 m m' hz t → PayloadKept l4 m m'
  fragment : ∀ m' hz t, 0 < hz → NatLeaves rte l4 m m' hz t → ¬ LaterFragment m
  answer : ∀ m' hz t, 0 < hz → NatLeaves rte l4 m m' hz t → ∀ r, NatMirrors l4 m' r →
    ∀ now macTable,
      (∀ i, t.natReverseHash.lookup
        ⟨r.le32 12, r.le16 (ipv4HdrLen r + 2), r.le16 (ipv4HdrLen r)⟩ = some i →
          now < t.natExpireAt i) →
      (∃ r', (l4.decaps hz now rte macTable t r).1 = some r' ∧ NatRestores l4 m r') ∨
        (t.tcpConntrackEnabled = true ∧ Untracked hz now t l4 r)

variable {rte : RteCksum} {l4 : NatL4} {m m' r : Octets} {hz now : Nat} {s t : NatCcb}

/-! ### What is read -/

/-- The header's own checksum is not read. -/
theorem rteIpv4Hdr_put16 (m : Octets) (v : BitVec 16) : rteIpv4Hdr (m.put16 10 v) = rteIpv4Hdr m := by
  unfold rteIpv4Hdr be16
  simp (disch := omega) only [put16_of_ne, le32_put16_of_ne]

theorem hdrOf_congr (l4 : NatL4) (h : ∀ j, 20 ≤ j → m' j = m j) : l4.hdrOf m' = l4.hdrOf m := by
  have hword : ∀ j, 20 ≤ j → m'.le16 j = m.le16 j :=
    fun j hj => le16_congr (h j hj) (h _ (by omega))
  have hnet : ∀ j, 20 ≤ j → m'.be16 j = m.be16 j :=
    fun j hj => be16_congr (h j hj) (h _ (by omega))
  cases l4 with
  | udp =>
      show L4Hdr.udp _ _ = L4Hdr.udp _ _
      rw [hword 20 (by omega), hword 22 (by omega)]
  | tcp =>
      show L4Hdr.tcp _ = L4Hdr.tcp _
      unfold be32
      rw [hword 20 (by omega), hword 22 (by omega), hnet 24 (by omega), hnet 26 (by omega),
        hnet 28 (by omega), hnet 30 (by omega), hnet 34 (by omega), h 32 (by omega),
        h 33 (by omega)]

/-- The ports are the first two words. -/
theorem flow_hdrOf (l4 : NatL4) (m : Octets) (ip : Ipv4Hdr) :
    (l4.hdrOf m).flow ip = ⟨ip.srcAddr, ip.dstAddr, m.le16 20, m.le16 22⟩ := by
  cases l4 with
  | udp => rfl
  | tcp => rfl

theorem inboundKey_hdrOf (l4 : NatL4) (m : Octets) (ip : Ipv4Hdr) :
    (l4.hdrOf m).inboundKey ip = ⟨ip.srcAddr, m.le16 22, m.le16 20⟩ := by
  cases l4 with
  | udp => rfl
  | tcp => rfl

/-! ### On the way out -/

/-- A packet that leaves has been given a port, and the state is learning's. -/
theorem encaps_sent {crc : BitVec 32 → BitVec 32 → BitVec 32} {chances : BitVec 16 → NatChance}
    {headroom : Bool} {hsiIpv4 : BitVec 32} {pktLen : Nat} {srcMac : BitVec 48}
    (h : l4.encaps crc hz now chances rte headroom hsiIpv4 pktLen s srcMac m = (some m', t)) :
    let learned := natLearning crc hz now chances s srcMac (rteIpv4Hdr m) (l4.hdrOf m)
    learned.natPort ≠ 0 ∧ t = learned.ccb ∧
      m' = encapsWrite rte (20 + l4.cksum) hsiIpv4 learned.natPort (m.put16 10 0) := by
  have hhdr : l4.hdrOf (m.put16 10 0) = l4.hdrOf m :=
    hdrOf_congr l4 fun j hj => put16_of_ne _ (by omega)
  rw [NatL4.encaps_eq] at h
  unfold encapsL4 at h
  split at h
  · cases (Prod.mk.inj h).1
  · dsimp only at h
    rw [rteIpv4Hdr_put16, hhdr] at h
    split at h
    · cases (Prod.mk.inj h).1
    · rename_i hport
      obtain ⟨hsent, ht⟩ := Prod.mk.inj h
      unfold insertPppoesHdr at hsent
      split at hsent
      · exact ⟨hport, ht.symm, (Option.some.inj hsent).symm⟩
      · cases hsent

/-- What is written out leaves everything alone but the checksums, the source and its port. -/
theorem encapsWrite_of_ne {cksumAt j : Nat} (hsiIpv4 : BitVec 32) (newPortId : BitVec 16)
    (haddr : j < 10 ∨ 16 ≤ j) (hport : j < 20 ∨ 22 ≤ j) (hcksum : j < cksumAt ∨ cksumAt + 2 ≤ j) :
    encapsWrite rte cksumAt hsiIpv4 newPortId m j = m j := by
  unfold encapsWrite
  simp (disch := omega) only [put16_of_ne, put32_of_ne]

theorem encapsWrite_srcPort {cksumAt : Nat} (hsiIpv4 : BitVec 32) (newPortId : BitVec 16)
    (h : 22 ≤ cksumAt) : (encapsWrite rte cksumAt hsiIpv4 newPortId m).le16 20 = newPortId := by
  unfold encapsWrite
  simp (disch := omega) only [le16_put16, le16_put16_of_ne]

/-- A guarded run keeps the tables in agreement, rule changes and all. -/
theorem natInputRun_inv {crc : BitVec 32 → BitVec 32 → BitVec 32} (hhz : 0 < hz) {ccb : NatCcb}
    {ls : List NatInput} (hrun : Run (natInputStep crc hz) NatInputApart (natTableInit ccb) ls s) :
    NatInv s := by
  refine hrun.inv NatInv ?_ (NatInv.init ccb)
  intro s l h hl
  cases l with
  | packet l => exact natPacketStep_inv hhz crc l h hl
  | rule change =>
      cases change with
      | add eport dip iport => exact ⟨h.conserved, h.free, h.linked, h.paired⟩
      | remove eport => exact ⟨h.conserved, h.free, h.linked, h.paired⟩

/-- A packet that was given a port is linked under it, from both sides. -/
theorem natLearning_linked {crc : BitVec 32 → BitVec 32 → BitVec 32} (hhz : 0 < hz)
    {chances : BitVec 16 → NatChance} {srcMac : BitVec 48} {ip : Ipv4Hdr} {hdr : L4Hdr}
    (hinv : NatInv s) (hguard : NatPacketApart s ⟨now, .lan srcMac ip hdr chances⟩)
    (hport : (natLearning crc hz now chances s srcMac ip hdr).natPort ≠ 0) :
    NatInv (natLearning crc hz now chances s srcMac ip hdr).ccb ∧
      ∃ i, NatLinked (hdr.flow ip) (natLearning crc hz now chances s srcMac ip hdr).natPort i
        (natLearning crc hz now chances s srcMac ip hdr).ccb := by
  refine ⟨natPacketStep_inv hhz crc ⟨now, .lan srcMac ip hdr chances⟩ hinv hguard, ?_⟩
  obtain ⟨hsame, -⟩ := natLearning_frame crc hz now chances s srcMac ip hdr
  obtain ⟨s₁, hmoves, hend⟩ := natLearn_moves crc hz now hinv.conserved.cap_pos
    ⟨srcMac, hdr.proto⟩ (hdr.flow ip) chances
  have hscan : NatScannable (fun _ => True) now s.natGcCounter (natLearnScans s (hdr.flow ip)) s :=
    ⟨hinv, hguard⟩
  rw [hsame] at hport ⊢
  obtain ⟨i, -, hlinked⟩ :=
    hend.linked (hmoves.scannable (fun _ _ => trivial) hscan).inv hport
  refine ⟨i, ?_⟩
  rcases natLearning_cases hhz crc now chances s srcMac ip hdr with heq | ⟨-, j, -, -, htracked⟩
  · rw [heq]
    exact hlinked
  · refine ⟨?_, ?_⟩
    · rw [htracked.forward]
      exact hlinked.forward
    · rw [htracked.reverse]
      exact hlinked.reverse

/-! ### On the way in -/

/-- A lookup that finds a slot before its deadline. -/
theorem natReverseLookup_before (hz : Nat) {port : BitVec 16} {remoteIp : BitVec 32} {remotePort : BitVec 16}
    {i : Nat} (hr : t.natReverseHash.lookup ⟨remoteIp, port, remotePort⟩ = some i)
    (hbefore : now < t.natExpireAt i) :
    natReverseLookup hz now t port remoteIp remotePort = (some i, natEntryRefresh hz now t i) := by
  have hexp : natEntryIsExpired now t i = false := by
    simp only [natEntryIsExpired, gt_iff_lt, decide_eq_false_iff_not]
    omega
  unfold natReverseLookup
  rw [hr]
  dsimp only
  rw [hexp]
  rfl

/-- An answer that finds its mapping is led through it, or refused by connection tracking. -/
theorem decaps_linked (hz : Nat) {i : Nat} {ip : Ipv4Hdr} (macTable : Option MacTable)
    (hr : t.natReverseHash.lookup ((l4.hdrOf r).inboundKey ip) = some i)
    (hbefore : now < t.natExpireAt i) :
    (decaps hz now macTable t ip (l4.hdrOf r)).1 = decapsForward t i ∨
      (t.tcpConntrackEnabled = true ∧ ∃ tcp looked, l4.hdrOf r = .tcp tcp ∧
        natReverseLookup hz now t tcp.dstPort ip.srcAddr tcp.srcPort = (some i, looked) ∧
        tcpConntrackWanOk (tcpConntrackNatView looked i) tcp = false) := by
  cases l4 with
  | udp =>
      have hlook := natReverseLookup_before hz hr hbefore
      refine Or.inl ?_
      show (decapsUdp hz now macTable t ip (r.le16 20) (r.le16 22)).1 = _
      unfold decapsUdp
      rw [hlook]
      rfl
  | tcp =>
      have hlook := natReverseLookup_before hz hr hbefore
      show (decapsTcp hz now macTable t ip _).1 = _ ∨ _
      unfold decapsTcp
      dsimp only
      rw [hlook]
      dsimp only
      by_cases hok : tcpConntrackWanOk (tcpConntrackNatView (natEntryRefresh hz now t i) i)
          ⟨r.le16 20, r.le16 22, r.be32 24, r.be32 28, r 32, r 33, r.be16 34⟩ = true
      · rw [if_pos hok]
        exact Or.inl rfl
      · rw [if_neg hok]
        by_cases hon : (natEntryRefresh hz now t i).tcpConntrackEnabled = true
        · exact Or.inr ⟨hon, _, _, rfl, hlook, Bool.eq_false_of_not_eq_true hok⟩
        · rw [if_neg hon]
          exact Or.inl rfl

/-- A complete packet without options, with both checksums made anew. -/
theorem natRestores_decapsWrite (hrte : rte.Computes) {sent : Octets} (hsent : ipv4HdrLen sent = 20)
    (hplain : ipv4HdrLen r = 20) (hproto : r 9 = l4.proto)
    (hlong : 20 + l4.hdrLen ≤ ipv4TotalLen r) (hzero : r.le16 10 = 0) :
    NatRestores l4 sent (decapsWrite rte (20 + l4.cksum) (sent.le32 12) (sent.le16 20) r) := by
  have hat := l4.cksum_ge
  -- the packet as it is when each of the two checksums is computed
  let first := (r.put32 16 (sent.le32 12)).put16 22 (sent.le16 20)
  let second := (first.put16 10 (rte.ipv4Cksum first)).put16 (20 + l4.cksum) 0
  have hhdr : ∀ j, j < 10 → second j = r j := by
    intro j hj
    simp (disch := omega) only [second, first, put16_of_ne, put32_of_ne]
  have hfirst : Verifies (first.put16 10 (rte.ipv4Cksum first)) 0 20 := by
    refine hrte.ipv4 first ?_ ?_
    · rw [← hplain]
      exact ipv4HdrLen_congr (by simp (disch := omega) only [first, put16_of_ne, put32_of_ne])
    · rw [← hzero]
      simp (disch := omega) only [first, le16_put16_of_ne, le16_put32_of_ne]
  have hsecond : L4Verifies l4 (second.put16 (20 + l4.cksum) (rte.ipv4UdptcpCksum second 20)) := by
    refine hrte.udptcp l4 second ?_ ?_ ?_ (le16_put16 _ _ _)
    · rw [← hplain]
      exact ipv4HdrLen_congr (hhdr 0 (by decide))
    · rw [hhdr 9 (by decide), hproto]
    · rw [ipv4TotalLen_congr (hhdr 2 (by decide)) (hhdr 3 (by decide))]
      exact hlong
  refine ⟨?_, ?_, ?_, hsecond⟩
  · unfold decapsWrite
    simp (disch := omega) only [le32_put16_of_ne, le32_put32]
  · rw [hsent]
    unfold decapsWrite
    simp (disch := omega) only [le16_put16, le16_put16_of_ne]
  · rw [hsent]
    refine hfirst.congr fun j _ hj => ?_
    unfold decapsWrite
    simp (disch := omega) only [first, put16_of_ne]

/-! ### Plain packets -/

/-- Of a plain packet only the two fields change. -/
theorem payloadKept_encapsWrite (hplain : ipv4HdrLen m = 20) (hsiIpv4 : BitVec 32)
    (newPortId : BitVec 16) :
    PayloadKept l4 m (encapsWrite rte (20 + l4.cksum) hsiIpv4 newPortId (m.put16 10 0)) := by
  intro j _ hport hport' hcksum hcksum'
  rw [hplain, encapsWrite_of_ne _ _ (by omega) (by omega) (by omega), put16_of_ne _ (by omega)]

/-- The answer to a plain packet that left is led back, unless connection tracking refuses it. -/
theorem answer_of_plain (hrte : rte.Computes) (hhz : 0 < hz) (hplain : ipv4HdrLen m = 20)
    (hleaves : NatLeaves rte l4 m m' hz t) (hr : NatMirrors l4 m' r) (macTable : Option MacTable)
    (hbefore : ∀ i, t.natReverseHash.lookup
      ⟨r.le32 12, r.le16 (ipv4HdrLen r + 2), r.le16 (ipv4HdrLen r)⟩ = some i →
        now < t.natExpireAt i) :
    (∃ r', (l4.decaps hz now rte macTable t r).1 = some r' ∧ NatRestores l4 m r') ∨
      (t.tcpConntrackEnabled = true ∧ Untracked hz now t l4 r) := by
  obtain ⟨crc, ccb, ls, s, sentAt, chances, headroom, hsiIpv4, pktLen, srcMac, hrun, hguard, hsent⟩ :=
    hleaves
  obtain ⟨hport, rfl, rfl⟩ := encaps_sent hsent
  obtain ⟨hinv, i, hlinked⟩ := natLearning_linked hhz (natInputRun_inv hhz hrun) hguard hport
  generalize natLearning crc hz sentAt chances s srcMac (rteIpv4Hdr m) (l4.hdrOf m) = learned at *
  generalize hm' : encapsWrite rte (20 + l4.cksum) hsiIpv4 learned.natPort (m.put16 10 0) = m' at *
  rw [flow_hdrOf] at hlinked
  have hat := l4.cksum_ge
  have hkept : ∀ j, j < 10 ∨ 16 ≤ j → j < 20 ∨ 22 ≤ j → j < 20 + l4.cksum → m' j = m j := by
    intro j haddr hsport hcksum
    rw [← hm', encapsWrite_of_ne _ _ haddr hsport (by omega), put16_of_ne _ (by omega)]
  have hlen' : ipv4HdrLen m' = 20 :=
    (ipv4HdrLen_congr (hkept 0 (by omega) (by omega) (by omega))).trans hplain
  have hlen : ipv4HdrLen r = 20 := (ipv4HdrLen_congr hr.version).trans hlen'
  -- the key of the answer is the one the packet was given
  have hrsrc : r.le32 12 = m.le32 16 :=
    hr.src.trans (le32_congr fun j _ _ => hkept j (by omega) (by omega) (by omega))
  have hrsport : r.le16 20 = m.le16 22 := by
    rw [← hlen', hr.srcPort, hlen']
    exact le16_congr (hkept _ (by omega) (by omega) (by omega))
      (hkept _ (by omega) (by omega) (by omega))
  have hrdport : r.le16 22 = learned.natPort := by
    have hdport := hr.dstPort
    rw [hlen'] at hdport
    rw [hdport, ← hm', encapsWrite_srcPort _ _ (by omega)]
  rw [hlen] at hbefore
  have hlook : learned.ccb.natReverseHash.lookup ⟨r.le32 12, r.le16 22, r.le16 20⟩ = some i := by
    rw [hrsrc, hrdport, hrsport]
    exact hlinked.reverse
  have hflow : (⟨m.le32 12, m.le32 16, m.le16 20, m.le16 22⟩ : NatForwardKey) = learned.ccb.fkey i :=
    (hinv.paired.ofFwd _ i hlinked.forward).1
  have hhost : (learned.ccb.addrTable i).srcIp = m.le32 12 :=
    (congrArg NatForwardKey.srcIp hflow).symm
  have hhostPort : (learned.ccb.addrTable i).srcPort = m.le16 20 :=
    (congrArg NatForwardKey.srcPort hflow).symm
  have hkey : learned.ccb.natReverseHash.lookup ((l4.hdrOf r).inboundKey (rteIpv4Hdr r)) = some i := by
    rw [inboundKey_hdrOf]
    exact hlook
  rcases decaps_linked hz macTable hkey (hbefore i hlook) with hforward | hrefused
  · refine Or.inl ⟨_, ?_, natRestores_decapsWrite hrte hplain (r := r.put16 10 0) ?_ ?_ ?_ (le16_put16 _ _ _)⟩
    · rw [NatL4.decaps_eq]
      unfold decapsL4
      dsimp only
      rw [rteIpv4Hdr_put16, hdrOf_congr l4 fun j hj => put16_of_ne (m := r) (i := 10) 0 (by omega)]
      generalize decaps hz now macTable learned.ccb (rteIpv4Hdr r) (l4.hdrOf r) = decapsed at hforward ⊢
      obtain ⟨action, u⟩ := decapsed
      obtain rfl : action = _ := hforward
      unfold decapsForward
      dsimp only
      rw [hhost, hhostPort]
    · rw [ipv4HdrLen_congr (m := r) (put16_of_ne _ (by omega))]
      exact hlen
    · rw [put16_of_ne _ (by omega)]
      exact hr.proto
    · rw [ipv4TotalLen_congr (m := r) (put16_of_ne _ (by omega)) (put16_of_ne _ (by omega)), ← hlen']
      exact hr.long
  · obtain ⟨hon, tcp, looked, hhdr, hlooked, hbad⟩ := hrefused
    exact Or.inr ⟨hon, tcp, i, looked, hhdr, hlooked, hbad⟩

/-! ### Packets that are not plain -/

/-- An answer that finds no mapping is left to the forwarded ports. -/
theorem decaps_missed {ip : Ipv4Hdr} (macTable : Option MacTable)
    (hr : t.natReverseHash.lookup ((l4.hdrOf r).inboundKey ip) = none) :
    decaps hz now macTable t ip (l4.hdrOf r) = decapsPortFwd macTable t (r.le16 22) := by
  rw [inboundKey_hdrOf] at hr
  have hlook : natReverseLookup hz now t (r.le16 22) ip.srcAddr (r.le16 20) = (none, t) := by
    unfold natReverseLookup
    rw [hr]
  cases l4 with
  | udp =>
      show decapsUdp hz now macTable t ip (r.le16 20) (r.le16 22) = _
      unfold decapsUdp
      rw [hlook]
  | tcp =>
      show decapsTcp hz now macTable t ip _ = _
      unfold decapsTcp
      dsimp only
      rw [hlook]

/-- On a fresh table the first flow is given its first port, and that is the only one. -/
theorem natLearn_fresh (crc : BitVec 32 → BitVec 32 → BitVec 32) (hz now : Nat) (origin : NatOrigin)
    (flow : NatForwardKey) :
    let learned := natLearn crc hz now (natTableInit natBlank) origin flow fun _ => roomNoGrace
    learned.natPort ≠ 0 ∧
      (∀ key, key.natPort ≠ learned.natPort → learned.ccb.natReverseHash.lookup key = none) ∧
      ∀ n, (learned.ccb.portFwdTable n).isActive = false := by
  have hfilled := NatFilled.init hz
  obtain ⟨rest, hitems⟩ : ∃ rest, (natTableInit natBlank).natFreeRing.items = 0 :: rest := by
    obtain ⟨room, hroom⟩ : ∃ room, maxNatEntries - 0 = room + 1 := ⟨maxNatEntries - 1, by decide⟩
    refine ⟨List.range' 1 room, ?_⟩
    rw [hfilled.ring, hroom, List.range'_succ]
  have hport := portHost_computeInitialNatPort crc flow.srcIp flow.srcPort
  generalize hp : computeInitialNatPort crc flow.srcIp flow.srcPort = p at hport
  have hnone : (natTableInit natBlank).natReverseHash.lookup (flow.reverse p) = none := by
    rw [natTableInit_reverseHash, Rte.Hash.lookup_empty]
  have hpass : natPasses now (natTableInit natBlank) flow p = false := by
    unfold natPasses
    rw [hnone, hfilled.rules, Bool.false_or]
  have hown : natOwn (natTableInit natBlank) flow p = false := by
    unfold natOwn
    rw [hnone]
  have hevicted : natEvicted (natTableInit natBlank) flow p = natTableInit natBlank := by
    unfold natEvicted
    rw [hnone]
  have hkeyed : NatKeyed (natTableInit natBlank) := by
    refine ⟨natTableInit_conserved natBlank, ?_⟩
    intro r i hr
    rw [natTableInit_reverseHash, Rte.Hash.lookup_empty] at hr
    cases hr
  have hnew : (natTableInit natBlank).natForwardHash.lookup flow = none := by
    rw [natTableInit_forwardHash, Rte.Hash.lookup_empty]
  dsimp only
  rw [natLearn_first crc hkeyed hnew hitems hp.symm hpass hown hevicted]
  refine ⟨ne_zero_of_ge hport, ?_, hfilled.rules⟩
  intro key hkey
  have hadd : (natTableInit natBlank).natReverseHash.addKeyData (flow.reverse p) 0 true = some
      { (natTableInit natBlank).natReverseHash with
        table := (natTableInit natBlank).natReverseHash.table.insert (flow.reverse p) 0 } := rfl
  have hne : key ≠ flow.reverse p := fun heq => hkey (congrArg NatReverseKey.natPort heq)
  dsimp only
  rw [Rte.Hash.lookup_addKeyData hadd, if_neg hne, natTableInit_reverseHash, Rte.Hash.lookup_empty]

/-- On a fresh table every packet leaves, under a port that is not zero and is the only one. -/
theorem leaves_fresh (rte : RteCksum) (l4 : NatL4) (m : Octets) :
    ∃ port t, port ≠ 0 ∧ NatInv t ∧
      NatLeaves rte l4 m (encapsWrite rte (20 + l4.cksum) 0 port (m.put16 10 0)) 1 t ∧
      (∀ key, key.natPort ≠ port → t.natReverseHash.lookup key = none) ∧
      ∀ n, (t.portFwdTable n).isActive = false := by
  obtain ⟨hport, hkeys, hrules⟩ := natLearn_fresh rteHashCrc4byte 1 0 ⟨0, (l4.hdrOf m).proto⟩
    ((l4.hdrOf m).flow (rteIpv4Hdr m))
  obtain ⟨hsame, htable⟩ := natLearning_frame rteHashCrc4byte 1 0 (fun _ => roomNoGrace)
    (natTableInit natBlank) 0 (rteIpv4Hdr m) (l4.hdrOf m)
  have hguard : NatPacketApart (natTableInit natBlank)
      ⟨0, .lan 0 (rteIpv4Hdr m) (l4.hdrOf m) fun _ => roomNoGrace⟩ := by
    intro i _ hi
    rw [natTableInit_reverseHash] at hi
    cases hi
  rw [← hsame] at hport hkeys
  rw [← htable] at hrules
  obtain ⟨hinv, -⟩ := natLearning_linked Nat.one_pos (NatInv.init natBlank) hguard hport
  refine ⟨_, _, hport, hinv, ?_, ?_, hrules⟩
  · refine ⟨rteHashCrc4byte, natBlank, [], _, 0, fun _ => roomNoGrace, true, 0, 0, 0, .nil, hguard, ?_⟩
    rw [NatL4.encaps_eq]
    unfold encapsL4 insertPppoesHdr
    dsimp only
    rw [if_neg (by decide), rteIpv4Hdr_put16,
      hdrOf_congr l4 fun j hj => put16_of_ne (m := m) (i := 10) 0 (by omega), if_neg hport]
    rfl
  · intro key hkey
    have hnone := hkeys key hkey
    rcases natLearning_cases Nat.one_pos rteHashCrc4byte 0 (fun _ => roomNoGrace)
      (natTableInit natBlank) 0 (rteIpv4Hdr m) (l4.hdrOf m) with heq | ⟨-, i, -, -, htracked⟩
    · rw [heq]
      exact hnone
    · rw [htracked.reverse]
      exact hnone

/-- An answer to a packet with options, whose own options are all zero. -/
def bareAnswer (l4 : NatL4) (m : Octets) : Octets :=
  let at4 := ipv4HdrLen m
  ((((((((m.put32 12 (m.le32 16)).put32 16 (m.le32 12)).put16 6 0).put16 2 0xFFFF).put8 9
    l4.proto).put16 20 0).put16 22 0).put16 at4 (m.le16 (at4 + 2))).put16 (at4 + 2) (m.le16 at4)

theorem natMirrors_bareAnswer (l4 : NatL4) (hoptions : 24 ≤ ipv4HdrLen m) :
    NatMirrors l4 m (bareAnswer l4 m) := by
  have hshort : ipv4HdrLen m ≤ 60 := by
    have hle : (m 0 &&& 0x0F#8).toNat ≤ 15 := by
      rw [BitVec.toNat_and]
      exact Nat.and_le_right
    unfold ipv4HdrLen
    omega
  have hhdr : l4.hdrLen ≤ 20 := by
    cases l4 with
    | udp => decide
    | tcp => decide
  unfold bareAnswer
  refine ⟨?_, ?_, ?_, ?_, ?_, ?_, ?_, ?_⟩
  · simp (disch := omega) only [put16_of_ne, put32_of_ne, put8_of_ne]
  · simp (disch := omega) only [put16_of_ne, put8_self]
  · simp (disch := omega) only [le32_put16_of_ne, le32_put8_of_ne, le32_put32_of_ne, le32_put32]
  · simp (disch := omega) only [le32_put16_of_ne, le32_put8_of_ne, le32_put32]
  · unfold Unfragmented
    simp (disch := omega) only [be16_put16_of_ne, be16_put8_of_ne, be16_put16]
    decide
  · unfold ipv4TotalLen
    simp (disch := omega) only [be16_put16_of_ne, be16_put8_of_ne, be16_put16]
    show _ ≤ 65535
    omega
  · simp (disch := omega) only [le16_put16_of_ne, le16_put16]
  · simp only [le16_put16]

/-- It is dropped: no mapping and no forwarded port is found under zeros. -/
theorem bareAnswer_dropped (rte : RteCksum) (l4 : NatL4) (hz now : Nat) {port : BitVec 16} (hport : port ≠ 0) (hoptions : 24 ≤ ipv4HdrLen m)
    (hkeys : ∀ key, key.natPort ≠ port → t.natReverseHash.lookup key = none)
    (hrules : ∀ n, (t.portFwdTable n).isActive = false) (macTable : Option MacTable) :
    (l4.decaps hz now rte macTable t (bareAnswer l4 m)).1 = none ∧
      ¬ Untracked hz now t l4 (bareAnswer l4 m) := by
  have hzero : (bareAnswer l4 m).le16 22 = 0 := by
    unfold bareAnswer
    simp (disch := omega) only [le16_put16_of_ne, le16_put16]
  have hnone : ∀ remoteIp remotePort, t.natReverseHash.lookup ⟨remoteIp, 0, remotePort⟩ = none :=
    fun _ _ => hkeys _ hport.symm
  refine ⟨?_, ?_⟩
  · rw [NatL4.decaps_eq]
    unfold decapsL4
    dsimp only
    rw [rteIpv4Hdr_put16,
      hdrOf_congr l4 fun j hj => put16_of_ne (m := bareAnswer l4 m) (i := 10) 0 (by omega)]
    rw [decaps_missed macTable (by rw [inboundKey_hdrOf, hzero]; exact hnone _ _), hzero]
    unfold decapsPortFwd natPortFwdReverseLookup portFwdLookupByEport
    rw [hrules]
    rfl
  · intro h
    obtain ⟨tcp, i, looked, hhdr, hlook, -⟩ := h
    obtain ⟨hr, -⟩ := natReverseLookup_found hlook
    have hdport : tcp.dstPort = (bareAnswer l4 m).le16 22 := by
      cases l4 with
      | udp => cases hhdr
      | tcp =>
          obtain rfl := L4Hdr.tcp.inj hhdr
          rfl
    rw [hdport, hzero, hnone] at hr
    cases hr

/--
**Translation rewrites plain packets, and only them, right.**  For every packet of UDP or TCP that
may be a packet: what leaves for the WAN keeps its payload, is no later fragment, and its answers
are led back, in every state a run of packets and rule changes reaches without scanning a stale
slot, exactly when it has neither options nor lost its ports to fragmentation.
-/
theorem natRewrites_iff (rte : RteCksum) (hrte : rte.Computes) (l4 : NatL4) (m : Octets)
    (hipv4 : 20 ≤ ipv4HdrLen m) :
    NatRewrites rte l4 m ↔ ipv4HdrLen m = 20 ∧ ¬ LaterFragment m := by
  refine ⟨fun h => ?_, fun hplain => ?_⟩
  · obtain ⟨port, t, hport, hinv, hleaves, hkeys, hrules⟩ := leaves_fresh rte l4 m
    refine ⟨?_, h.fragment _ 1 t Nat.one_pos hleaves⟩
    by_contra hoptions
    generalize hm' : encapsWrite rte (20 + l4.cksum) 0 port (m.put16 10 0) = m' at hleaves
    have hmore : 24 ≤ ipv4HdrLen m := by
      unfold ipv4HdrLen at *
      omega
    have hlen : ipv4HdrLen m' = ipv4HdrLen m := by
      refine ipv4HdrLen_congr ?_
      rw [← hm', encapsWrite_of_ne _ _ (by omega) (by omega) (by omega), put16_of_ne _ (by omega)]
    have hoptions' : 24 ≤ ipv4HdrLen m' := hlen ▸ hmore
    obtain ⟨hdropped, htracked⟩ := bareAnswer_dropped rte l4 1 0 hport hoptions' hkeys
      hrules none
    rcases h.answer m' 1 t Nat.one_pos hleaves _ (natMirrors_bareAnswer l4 hoptions') 0 none
      (fun i hi => Nat.pos_of_ne_zero (hinv.linked i (Rte.Hash.mem_values_of_lookup hi)).2)
      with ⟨r', hr', -⟩ | ⟨-, hrefused⟩
    · rw [hdropped] at hr'
      cases hr'
    · exact htracked hrefused
  · obtain ⟨hlen, hfirst⟩ := hplain
    refine ⟨?_, ?_, ?_⟩
    · intro m' hz t _ hleaves
      obtain ⟨crc, ccb, ls, s, now, chances, headroom, hsiIpv4, pktLen, srcMac, -, -, hsent⟩ := hleaves
      obtain ⟨-, -, rfl⟩ := encaps_sent hsent
      exact payloadKept_encapsWrite hlen _ _
    · intro m' hz t _ _
      exact hfirst
    · intro m' hz t hhz hleaves r hr now macTable hbefore
      exact answer_of_plain hrte hhz hlen hleaves hr macTable hbefore

/-- A datagram of four bytes from 192.168.1.6, to port 443. -/
def datagram : Octets :=
  fun i => [0x45, 0, 0, 32, 0, 1, 0x40, 0, 64, 17, 0, 0, 192, 168, 1, 6, 93, 184, 216, 34,
    0x9c, 0xb0, 0x01, 0xbb, 0, 12, 0, 0, 1, 2, 3, 4].getD i 0

/-- The same with 8 in the fragment offset, as the last fragment of a longer one. -/
def tailFragment : Octets := datagram.put16 6 0x0800

theorem natRewrites_iff_datagram : NatRewrites rteReference .udp datagram ↔
    ipv4HdrLen datagram = 20 ∧ ¬ LaterFragment datagram :=
  natRewrites_iff rteReference rteReference_computes .udp datagram (by decide)

/-- A later fragment is given a mapping for the bytes it carries. -/
theorem fragment_translated : ¬ ∀ rte : RteCksum, rte.Computes → ∀ l4 m, 20 ≤ ipv4HdrLen m →
    NatRewrites rte l4 m := by
  intro h
  obtain ⟨port, t, -, -, hleaves, -, -⟩ := leaves_fresh rteReference .udp tailFragment
  have hfragment := (h rteReference rteReference_computes .udp tailFragment (by decide)).fragment
    _ 1 t Nat.one_pos hleaves
  exact hfragment (by decide)

end FastRG
