/-
Whether a UDP packet from the WAN reaches the flow it belongs to.

The translator and the DNS proxy both want packets from port 53, and the port alone decides.  A
host that asks a server of its own choice, and not the gateway, has a mapping like any other
flow; the answer to it goes to the proxy, which did not ask and so drops it, or, if the
identifier happens to be one it waits for, sends it to another host.

A packet answers the proxy if it carries the identifier of a query that waits, on the port that
query was sent from, and comes from one of the servers.
-/
import FastRG.WanUdp
import FastRG.Proofs.NatAgreement
import FastRG.Proofs.DnsCached

namespace FastRG

/-- The packet's addresses and ports are the reverse key of an unexpired mapping. -/
def MapsTo (now : Nat) (ccb : NatCcb) (pkt : List (BitVec 8)) (i : Nat) : Prop :=
  ccb.natReverseHash.lookup ⟨(ipv4HdrOf pkt).srcAddr, udpDstPort pkt, udpSrcPort pkt⟩ = some i ∧
    natEntryIsExpired now ccb i = false

/-- The packet answers a query that the proxy forwarded and that still waits. -/
def AnswersProxy (hz now : Nat) (proxy : DnsProxyState) (pkt : List (BitVec 8)) : Prop :=
  ∃ data i, dnsUdpPayload pkt = some data ∧
    (findPendingByUpstreamId hz now proxy.pending (be16At data 0)).1 = some i ∧
    udpDstPort pkt = swap16 ((proxy.pending i).upstreamId ||| 0x8000) ∧
    ((ipv4HdrOf pkt).srcAddr = proxy.primaryDns ∨ (ipv4HdrOf pkt).srcAddr = proxy.secondaryDns)

/-- The packet is sent to the mapping's host and nowhere else, unless the proxy consumes it, and
that only if it answers the proxy. -/
def ReachesFlow (hz now : Nat) (ccb : NatCcb) (proxy : DnsProxyState) (pkt : List (BitVec 8))
    (i : Nat) (action : WanUdpAction) : Prop :=
  action = .decaps (.forward (ccb.addrTable i).macAddr (ccb.addrTable i).srcIp
    (ccb.addrTable i).srcPort) ∨
  AnswersProxy hz now proxy pkt ∧ ∃ event, action = .proxy event

variable {hz now : Nat} {ccb : NatCcb} {proxy : DnsProxyState} {pkt : List (BitVec 8)} {i : Nat}

/-- A packet that matches a mapping goes to its host. -/
theorem decapsUdp_mapped (macTable : Option MacTable) (h : MapsTo now ccb pkt i) :
    (decapsUdp hz now macTable ccb (ipv4HdrOf pkt) (udpSrcPort pkt) (udpDstPort pkt)).1 =
      .forward (ccb.addrTable i).macAddr (ccb.addrTable i).srcIp (ccb.addrTable i).srcPort := by
  have hlookup : natReverseLookup hz now ccb (udpDstPort pkt) (ipv4HdrOf pkt).srcAddr
      (udpSrcPort pkt) = (some i, natEntryRefresh hz now ccb i) := by
    unfold natReverseLookup
    rw [h.1]
    simp [h.2]
  unfold decapsUdp
  rw [hlookup]
  rfl

/-- What is not diverted is left to the translator. -/
theorem wanUdpRx_kept (macTable : Option MacTable) (h : divertsToProxy proxy pkt = false) :
    (wanUdpRx hz now macTable ccb proxy pkt).1 =
      .decaps (decapsUdp hz now macTable ccb (ipv4HdrOf pkt) (udpSrcPort pkt)
        (udpDstPort pkt)).1 := by
  unfold wanUdpRx
  rw [h]
  rfl

/-- What is diverted is consumed by the proxy, or freed. -/
theorem wanUdpRx_diverted (macTable : Option MacTable) (h : divertsToProxy proxy pkt = true) :
    (wanUdpRx hz now macTable ccb proxy pkt).1 =
      match (dnsdCpProcessWanUdpResponse hz now proxy pkt).1 with
      | some event => .proxy event
      | none => .freed := by
  unfold wanUdpRx
  rw [if_pos h]
  generalize dnsdCpProcessWanUdpResponse hz now proxy pkt = result
  obtain ⟨event, state⟩ := result
  cases event with
  | none => rfl
  | some event => rfl

/-- The proxy consumes what answers it. -/
theorem AnswersProxy.consumed (h : AnswersProxy hz now proxy pkt) :
    ∃ event, (dnsdCpProcessWanUdpResponse hz now proxy pkt).1 = some event := by
  obtain ⟨data, j, hdata, hfound, -, -⟩ := h
  unfold dnsdCpProcessWanUdpResponse
  rw [hdata]
  simp only
  generalize findPendingByUpstreamId hz now proxy.pending (be16At data 0) = found at hfound ⊢
  obtain ⟨slot, pending⟩ := found
  subst hfound
  exact ⟨_, rfl⟩

theorem divertsToProxy_eq_false :
    divertsToProxy proxy pkt = false ↔
      udpSrcPort pkt ≠ swap16 dnsPort ∨ proxy.dnsProxyEnabled = false := by
  rw [divertsToProxy, Bool.and_eq_false_iff, beq_eq_false_iff_ne]

/--
**When a UDP packet reaches its flow.**  A packet that belongs to an unexpired mapping is
delivered to the mapping's host and to no other, or is consumed by the proxy as the answer it
waits for, exactly when it does not come from port 53, or the proxy is disabled, or it does
answer a query of the proxy's.
-/
theorem reachesFlow_iff (hz now : Nat) (macTable : Option MacTable) (ccb : NatCcb)
    (proxy : DnsProxyState) (pkt : List (BitVec 8)) (i : Nat) (hmap : MapsTo now ccb pkt i) :
    ReachesFlow hz now ccb proxy pkt i (wanUdpRx hz now macTable ccb proxy pkt).1 ↔
      udpSrcPort pkt ≠ swap16 dnsPort ∨ proxy.dnsProxyEnabled = false ∨
        AnswersProxy hz now proxy pkt := by
  by_cases hdivert : divertsToProxy proxy pkt = true
  · have hnot : ¬ (udpSrcPort pkt ≠ swap16 dnsPort ∨ proxy.dnsProxyEnabled = false) := by
      intro h
      rw [divertsToProxy_eq_false.mpr h] at hdivert
      exact absurd hdivert (by simp)
    rw [wanUdpRx_diverted macTable hdivert]
    refine ⟨?_, ?_⟩
    · intro h
      rcases h with hsent | hanswer
      · -- The control plane never sends what the translator would.
        split at hsent
        · exact absurd hsent (by simp)
        · exact absurd hsent (by simp)
      · exact .inr (.inr hanswer.1)
    · intro h
      rcases h with hport | hoff | hanswer
      · exact absurd (.inl hport) hnot
      · exact absurd (.inr hoff) hnot
      · obtain ⟨event, hevent⟩ := hanswer.consumed
        rw [hevent]
        exact .inr ⟨hanswer, event, rfl⟩
  · have hkept : divertsToProxy proxy pkt = false := Bool.eq_false_iff.mpr hdivert
    rw [wanUdpRx_kept macTable hkept]
    refine ⟨?_, ?_⟩
    · intro _
      rcases divertsToProxy_eq_false.mp hkept with hport | hoff
      · exact .inl hport
      · exact .inr (.inl hoff)
    · intro _
      rw [decapsUdp_mapped macTable hmap]
      exact .inl rfl

/-- 192.168.1.6 asks 8.8.8.8. -/
def dnsFlow : NatForwardKey := ⟨0x0601a8c0, 0x08080808, 0xb09c, 0x3500⟩

/-- The translator once it has seen the question. -/
def dnsFlowCcb : NatCcb :=
  natStep rteHashCrc4byte 2000000000 (natTableInit natBlank) ⟨0, .learnUdp dnsFlow⟩

/-- A message from 8.8.8.8, from a port to a port. -/
def dnsFlowPkt (srcPort dstPort data : List (BitVec 8)) : List (BitVec 8) :=
  List.replicate 27 0 ++ [17, 0, 0, 8, 8, 8, 8, 0, 0, 0, 0] ++ srcPort ++ dstPort ++
    be16Bytes (BitVec.ofNat 16 (data.length + 8)) ++ [0, 0] ++ data

set_option maxRecDepth 8000 in
/-- The answer is for the port the flow was given, and the translator would know it. -/
theorem dnsFlow_mapsTo : MapsTo 0 dnsFlowCcb (dnsFlowPkt [0, 53] [4, 0x47] (dnsTell 0x61)) 0 := by
  unfold MapsTo dnsFlowCcb
  rw [natTableInit_eq]
  exact ⟨by decide, by decide⟩

set_option maxRecDepth 8000 in
/-- While the proxy is disabled the answer is delivered. -/
theorem reachesFlow_disabled :
    ReachesFlow 2000000000 0 dnsFlowCcb { DnsSystem.start.proxy with dnsProxyEnabled := false }
      (dnsFlowPkt [0, 53] [4, 0x47] (dnsTell 0x61)) 0
      (wanUdpRx 2000000000 0 none dnsFlowCcb
        { DnsSystem.start.proxy with dnsProxyEnabled := false }
        (dnsFlowPkt [0, 53] [4, 0x47] (dnsTell 0x61))).1 :=
  (reachesFlow_iff 2000000000 0 none dnsFlowCcb _ _ 0 dnsFlow_mapsTo).mpr (.inr (.inl rfl))

set_option maxRecDepth 8000 in
/-- While it is enabled the answer is freed: nobody asked the proxy. -/
theorem dnsFlow_freed :
    MapsTo 0 dnsFlowCcb (dnsFlowPkt [0, 53] [4, 0x47] (dnsTell 0x61)) 0 ∧
      ¬ ReachesFlow 2000000000 0 dnsFlowCcb DnsSystem.start.proxy
        (dnsFlowPkt [0, 53] [4, 0x47] (dnsTell 0x61)) 0
        (wanUdpRx 2000000000 0 none dnsFlowCcb DnsSystem.start.proxy
          (dnsFlowPkt [0, 53] [4, 0x47] (dnsTell 0x61))).1 := by
  refine ⟨dnsFlow_mapsTo, ?_⟩
  have hdivert : divertsToProxy DnsSystem.start.proxy
      (dnsFlowPkt [0, 53] [4, 0x47] (dnsTell 0x61)) = true := by decide
  have hnone : (dnsdCpProcessWanUdpResponse 2000000000 0 DnsSystem.start.proxy
      (dnsFlowPkt [0, 53] [4, 0x47] (dnsTell 0x61))).1 = none := by decide
  rw [wanUdpRx_diverted none hdivert, hnone]
  intro h
  rcases h with hsent | ⟨-, event, hsent⟩
  · exact absurd hsent (by simp)
  · exact absurd hsent (by simp)

end FastRG
