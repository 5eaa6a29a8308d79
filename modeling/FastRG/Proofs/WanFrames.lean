/-
Distributor mode does to a frame of the WAN what RSS does.

`wan_dist_rx` gives TCP and UDP of IPv4 to a worker with the PPPoE header taken off, and those of
IPv6 with the header still on; the worker tells them apart by the protocol of the tag.  A data queue
takes the header off itself, and clears the header's checksum while it is at it, before it looks at
what it has got.  That makes no difference to what is sent.

The modes part on a protocol of PPP that the node does not know (`unknown_protocol_parts`).
-/
import FastRG.Proofs.LanFrames

namespace FastRG

/-! ### The packet behind the header -/

theorem setIp_ip (pkt : Mbuf) (ip : Octets) : (pkt.setIp ip).ip = ip :=
  Octets.beyond_putBeyond _ _ _

/-- What is put in place of a packet covers what was there. -/
theorem setIp_eq (pkt : Mbuf) {b : Octets} (ip : Octets)
    (h : ∀ k < pkt.ethHdr + ipv6L2Len, b k = pkt.buf k) :
    Mbuf.setIp { pkt with buf := b } ip = pkt.setIp ip := by
  unfold Mbuf.setIp
  rw [Octets.putBeyond_eq _ ip h]

theorem setIp_setIp (pkt : Mbuf) (ip ip' : Octets) : (pkt.setIp ip).setIp ip' = pkt.setIp ip' :=
  setIp_eq pkt ip' fun _ hk => setIp_of_lt pkt ip hk

theorem clearIpCksum_ip (pkt : Mbuf) : pkt.clearIpCksum.ip = pkt.ip.put16 10 0 := setIp_ip _ _

theorem clearIpCksum_twice (pkt : Mbuf) : pkt.clearIpCksum.clearIpCksum = pkt.clearIpCksum := by
  show (pkt.setIp _).setIp (pkt.clearIpCksum.ip.put16 10 0) = pkt.setIp _
  rw [setIp_setIp, clearIpCksum_ip, Octets.put16_put16]

theorem clearIpCksum_proto (pkt : Mbuf) : pkt.clearIpCksum.ip 9 = pkt.ip 9 := by
  rw [clearIpCksum_ip, Octets.put16_of_ne _ (by omega)]

theorem wanIsDnsAnswer_clear (ccb : DpCcb) (pkt : Mbuf) :
    wanIsDnsAnswer ccb pkt.clearIpCksum = wanIsDnsAnswer ccb pkt := by
  unfold wanIsDnsAnswer
  rw [clearIpCksum_ip, Octets.be16_put16_of_ne _ (by omega)]

/-- The PPPoE header is gone, the packet is where it was. -/
theorem stripPppoe_ip {pkt : Mbuf} (hpkt : pkt.Received) : (stripPppoe pkt).ip = pkt.sessionIp := by
  have hvlan : pkt.vlanHdr = pkt.ethHdr + 14 := by rw [hpkt.vlanHdr, hpkt.ethHdr]; rfl
  have hip := be16Bytes_length frameTypeIp
  funext k
  unfold stripPppoe
  rw [hvlan]
  show Octets.putBytes (Octets.putBytes (Octets.putBytes pkt.buf (pkt.ethHdr + 14 + 2) _)
    (pkt.ethHdr + 8) _) (pkt.ethHdr + 14 + 8) _ (pkt.ethHdr + 8 + 18 + k) =
      pkt.buf (pkt.ethHdr + 18 + 8 + k)
  rw [Octets.putBytes_of_ne _ _ (.inr (by rw [Octets.length_slice]; omega)),
    Octets.putBytes_of_ne _ _ (.inr (by rw [Octets.length_slice]; unfold etherHdrLen; omega)),
    Octets.putBytes_of_ne _ _ (.inr (by omega))]

theorem stripPppoe_nextProto {pkt : Mbuf} (hpkt : pkt.Received) :
    (stripPppoe pkt).nextProto = frameTypeIp := by
  have hvlan : pkt.vlanHdr = pkt.ethHdr + 14 := by rw [hpkt.vlanHdr, hpkt.ethHdr]; rfl
  have hip := be16Bytes_length frameTypeIp
  unfold Mbuf.nextProto stripPppoe
  rw [hvlan]
  show Octets.be16 (Octets.putBytes (Octets.putBytes _ (pkt.ethHdr + 8) _) (pkt.ethHdr + 14 + 8)
    (Octets.slice (Octets.putBytes pkt.buf (pkt.ethHdr + 14 + 2) (be16Bytes frameTypeIp))
      (pkt.ethHdr + 14) 4)) (pkt.ethHdr + 14 + 8 + 2) = frameTypeIp
  unfold Octets.be16
  rw [Octets.putBytes_at _ _ _ (by rw [Octets.length_slice]; omega),
    Octets.putBytes_at _ (pkt.ethHdr + 14 + 8) _ (k := 3) (by rw [Octets.length_slice]; omega),
    Octets.getD_slice _ _ (by omega), Octets.getD_slice _ _ (by omega),
    Octets.putBytes_at _ _ _ (k := 0) (by omega), Octets.putBytes_at _ _ _ (k := 1) (by omega)]
  rfl

theorem rteHdrs_clear (ip : Octets) :
    rteIpv4Hdr (ip.put16 10 0) = rteIpv4Hdr ip ∧ rteIcmpHdr (ip.put16 10 0) = rteIcmpHdr ip := by
  unfold rteIpv4Hdr rteIcmpHdr
  refine ⟨?_, ?_⟩
  · rw [Octets.put16_of_ne _ (by omega), Octets.be16_put16_of_ne _ (by omega),
      Octets.le32_put16_of_ne _ (by omega), Octets.le32_put16_of_ne _ (by omega)]
  · rw [Octets.put16_of_ne _ (by omega), Octets.le16_put16_of_ne _ (by omega)]

theorem decapsIcmpWrite_clear (rte : RteCksum) (srcIp : BitVec 32) (srcPort : BitVec 16)
    (ip : Octets) :
    decapsIcmpWrite rte srcIp srcPort (ip.put16 10 0) = decapsIcmpWrite rte srcIp srcPort ip := by
  unfold decapsIcmpWrite
  simp only
  rw [Octets.le16_put16_of_ne _ (by omega), Octets.le16_put16_of_ne _ (by omega)]
  -- The stores are the same, and the last but one covers where the memories differ.
  rw [Octets.put16_eq 0 fun k hk => Octets.put16_congr _ (Octets.put16_congr _
    (Octets.put32_congr _ (Octets.put16_of_ne 0 hk)))]

/-- Other addresses in front, and what is put in place of the packet. -/
theorem readdressed_clear (pkt : Mbuf) (srcMac mac : BitVec 48) (ip : Octets) :
    (pkt.clearIpCksum.readdressed srcMac (some mac)).setIp ip =
      (pkt.readdressed srcMac (some mac)).setIp ip :=
  setIp_eq (pkt.readdressed srcMac (some mac)) ip fun _ hk =>
    Octets.putBytes_congr _ _ (Octets.putBytes_congr _ _ (setIp_of_lt pkt _ hk))

/-- ICMP is written over a cleared checksum as over any other. -/
theorem decapsIcmpPkt_clear (env : DpEnv) (node : DpNode) (ccb : DpCcb) (pkt : Mbuf) :
    decapsIcmpPkt env node ccb pkt.clearIpCksum = decapsIcmpPkt env node ccb pkt := by
  have hhdrs := rteHdrs_clear pkt.ip
  unfold decapsIcmpPkt
  rw [clearIpCksum_ip, hhdrs.1, hhdrs.2]
  rcases decapsIcmp env.hz env.now ccb.nat (rteIpv4Hdr pkt.ip) (rteIcmpHdr pkt.ip) with
    ⟨_ | ⟨mac, srcIp, srcPort⟩ | ⟨dstAddr, dstPort⟩, nat⟩
  · rfl
  · simp only [decapsIcmpWrite_clear, readdressed_clear]
  · rfl

/-! ### The settings stay -/

section keeps

variable {env : DpEnv} {node : DpNode} {ccb : DpCcb} {pkt : Mbuf}

/-- What a function of the loop settles of a packet, with the settings it leaves. -/
def Keeping (ccb : DpCcb) (r : DpFate × DpCcb) : Prop :=
  r.1.Settled ∧ r.2.wanSettings = ccb.wanSettings

theorem keeping_miss : Keeping ccb (ipv6NeighborMiss env ccb pkt) := by
  unfold ipv6NeighborMiss
  simp only
  split
  · exact ⟨trivial, rfl⟩
  · exact ⟨trivial, rfl⟩

theorem keeping_forward : Keeping ccb (ipv6FirewallWanToLanForward env node ccb pkt) := by
  unfold ipv6FirewallWanToLanForward
  simp only
  split
  · exact ⟨trivial, rfl⟩
  split
  · exact ⟨trivial, rfl⟩
  · exact keeping_miss
  · exact ⟨trivial, rfl⟩

theorem wanSettings_ipv6 (spread : Bool) :
    (wanIpv6 spread env node ccb pkt).2.wanSettings = ccb.wanSettings := by
  unfold wanIpv6
  simp only
  split
  · rfl
  · rfl
  · split
    · rfl
    · exact keeping_forward.2

theorem wanSettings_decapsL4 (hdrOf : Octets → L4Hdr) (cksumAt : Nat) :
    (decapsL4Pkt hdrOf cksumAt env node ccb pkt).2.wanSettings = ccb.wanSettings := by
  unfold decapsL4Pkt
  simp only
  split
  · rfl
  · rfl
  · rfl

theorem keeping_decapsIcmp : Keeping ccb (decapsIcmpPkt env node ccb pkt) := by
  unfold decapsIcmpPkt
  split
  · exact ⟨trivial, rfl⟩
  · exact ⟨trivial, rfl⟩

theorem wanSettings_dist (env : DpEnv) (node : DpNode) (ccb : DpCcb) (pkt : Mbuf) :
    (wanDistFrame env node ccb pkt).2.wanSettings = ccb.wanSettings := by
  unfold wanDistFrame
  simp only
  split
  · rfl
  split
  · rfl
  split
  · exact wanSettings_ipv6 true
  split
  · rfl
  split
  · exact keeping_decapsIcmp.2
  split
  · split
    · rfl
    · rfl
  split
  · rfl
  · rfl

theorem wanSettings_worker (env : DpEnv) (node : DpNode) (ccb : DpCcb) (pkt : Mbuf) :
    (dpWanDistWorkerProcessPkt env node ccb pkt).2.wanSettings = ccb.wanSettings := by
  unfold dpWanDistWorkerProcessPkt
  simp only
  split
  · split
    · rfl
    · exact keeping_forward.2
  split
  · rfl
  split
  · exact wanSettings_decapsL4 _ _
  split
  · exact wanSettings_decapsL4 _ _
  · rfl

end keeps

/-! ### The two modes, frame by frame -/

/-- What `wan_dist_rx` has made sure of when it gives a frame to a worker, and what it gives. -/
inductive WanFanned (conf : WanConf) (ccbId : Nat) (pkt given : Mbuf) : Prop
  | v4 (hsession : pkt.nextProto = ethPPppSes) (hproto : pkt.pppProtocol = pppIpProtocol)
      (hgiven : given = stripPppoe pkt)
      (hl4 : given.ip 9 = ipprotoTcp ∨ (given.ip 9 = ipprotoUdp ∧
        ¬ (given.ip.be16 20 = dnsPort ∧ (conf.settings ccbId).dnsProxyEnabled)))
  | v6 (dp : Ipv6Dp) (hsession : pkt.nextProto = ethPPppSes)
      (hproto : pkt.pppProtocol = pppIpv6Protocol) (hgiven : given = pkt)
      (hopen : (conf.settings ccbId).ipv6DpBool)
      (hpfx : dp.hsiIpv6LanPrefix = (conf.settings ccbId).hsiIpv6LanPrefix)
      (hforward : ipv6WanClassify dp pkt.buf (pkt.ethHdr + ipv6L2Len + ipv6PppoeHdrLen)
        pkt.pktLen = .forward)

/-- A frame with RSS, by what the card does. -/
def wanRssFrame (steered : Bool) := if steered then wanDataFrame else wanCtrlFrame

/-- What a card may do with a frame. -/
structure WanSteered (i40e : Bool) (pkt : Mbuf) (steered : Bool) : Prop where
  only : steered → pkt.nextProto = ethPPppSes ∧
    ((pkt.pppProtocol = pppIpProtocol ∧ (isL4 pkt.sessionIp ∨ i40e)) ∨
      pkt.pppProtocol = pppIpv6Protocol)
  all : pkt.nextProto = ethPPppSes → pkt.pppProtocol = pppIpProtocol → isL4 pkt.sessionIp → steered

theorem ipv6WanClassify_congr (dp dp' : Ipv6Dp) (h : dp.hsiIpv6LanPrefix = dp'.hsiIpv6LanPrefix)
    (b : Octets) (i : Nat) (len : BitVec 32) :
    ipv6WanClassify dp b i len = ipv6WanClassify dp' b i len := by
  unfold ipv6WanClassify ipv6AddrInLanPrefix
  rw [h]

/-- What `wan_dist_rx` does with a frame is what RSS does with it, or it is put by. -/
def WanAgrees (steered : Bool) (env : DpEnv) (node : DpNode) (ccbId : Nat) (pkt : Mbuf)
    (dist : DpFate × DpCcb) : Prop :=
  (∃ tag given, dist = (.worker tag given, node.ccb ccbId) ∧
    WanFanned node.wanConf ccbId pkt given) ∨
  (dist.1.Settled ∧
    dist.1.plain = (wanRssFrame steered env node (node.ccb ccbId) pkt).1.plain ∧
    dist.2 = (wanRssFrame steered env node (node.ccb ccbId) pkt).2)

section frames

variable {env : DpEnv} {node : DpNode} {ccbId : Nat} {pkt : Mbuf} {steered : Bool}

theorem wanAgrees_of_eq {dist : DpFate × DpCcb} (hsettled : dist.1.Settled)
    (h : dist = wanRssFrame steered env node (node.ccb ccbId) pkt) :
    WanAgrees steered env node ccbId pkt dist :=
  .inr ⟨hsettled, by rw [h], by rw [h]⟩

theorem wanToPppd_settled (ccb : DpCcb) : (wanToPppd ccb pkt).Settled := by
  unfold wanToPppd
  split
  · exact trivial
  · exact trivial

theorem wanIptv_settled : (wanIptv pkt).Settled := by
  unfold wanIptv
  split
  · exact trivial
  · exact trivial

/-- IPv6 is fanned out when it is forwarded, and goes the same way in every loop otherwise. -/
theorem wanIpv6_spread (env : DpEnv) (node : DpNode) (ccb : DpCcb) (pkt : Mbuf) :
    ((∃ tag, wanIpv6 true env node ccb pkt = (.worker tag pkt, ccb)) ∧ ccb.ipv6DpBool ∧
      ipv6WanClassify (node.ipv6Dp ccb) pkt.buf (pkt.ethHdr + ipv6L2Len + ipv6PppoeHdrLen)
        pkt.pktLen = .forward) ∨
    ((wanIpv6 true env node ccb pkt).1.Settled ∧
      wanIpv6 true env node ccb pkt = wanIpv6 false env node ccb pkt) := by
  unfold wanIpv6
  simp only
  by_cases hopen : ccb.ipv6DpBool = true
  · rw [if_pos hopen]
    rcases hverdict : ipv6WanClassify (node.ipv6Dp ccb) pkt.buf
      (pkt.ethHdr + ipv6L2Len + ipv6PppoeHdrLen) pkt.pktLen with _ | _ | _
    · exact .inr ⟨trivial, rfl⟩
    · exact .inr ⟨wanToPppd_settled ccb, rfl⟩
    · rcases ipv6FlowTag env pkt.buf (pkt.ethHdr + ipv6L2Len + ipv6PppoeHdrLen) with _ | tag
      · exact .inr ⟨keeping_forward.1, rfl⟩
      · exact .inl ⟨⟨tag, rfl⟩, hopen, rfl⟩
  · rw [if_neg hopen]
    exact .inr ⟨wanToPppd_settled ccb, rfl⟩

/-- A data queue on IPv4 of a session, with the packet as it was before its checksum was
cleared. -/
theorem wanData_v4 (env : DpEnv) (node : DpNode) (ccb : DpCcb)
    (hproto : pkt.pppProtocol = pppIpProtocol) :
    wanDataFrame env node ccb pkt =
      if !ccb.dpStartBool then (.drop .wan, ccb)
      else if (stripPppoe pkt).ip 9 = ipprotoUdp then
        if wanIsDnsAnswer ccb (stripPppoe pkt) then
          (.toCp .dns .wan (stripPppoe pkt).clearIpCksum, ccb)
        else decapsUdpPkt env node ccb (stripPppoe pkt).clearIpCksum
      else if (stripPppoe pkt).ip 9 = ipprotoTcp then
        decapsTcpPkt env node ccb (stripPppoe pkt).clearIpCksum
      else if node.i40e ∧ (stripPppoe pkt).ip 9 = ipprotoIcmp then
        decapsIcmpPkt env node ccb (stripPppoe pkt)
      else (.drop .wan, ccb) := by
  have hv6 : pkt.pppProtocol ≠ pppIpv6Protocol := by
    rw [hproto]
    decide
  unfold wanDataFrame
  simp only
  rw [if_neg hv6, clearIpCksum_proto, wanIsDnsAnswer_clear, decapsIcmpPkt_clear]

section session

variable (hsession : pkt.nextProto = ethPPppSes) (hproto : pkt.pppProtocol = pppIpProtocol)
include hsession hproto

/-- Neither a control protocol nor IPv6. -/
theorem session_v4 : ¬ (pkt.nextProto ≠ ethPPppSes ∧ pkt.nextProto ≠ ethPPppDis) ∧
    ¬ (pkt.nextProto = ethPPppDis ∨ isPppControl pkt.pppProtocol = true) ∧
    pkt.pppProtocol ≠ pppIpv6Protocol := by
  rw [hsession, hproto]
  decide

/-- Queue 0 on IPv4 of a session. -/
theorem wanCtrl_v4 (env : DpEnv) (node : DpNode) (ccb : DpCcb) :
    wanCtrlFrame env node ccb pkt =
      if !ccb.dpStartBool then (.drop .wan, ccb)
      else if (stripPppoe pkt).ip 9 = ipprotoIcmp then decapsIcmpPkt env node ccb (stripPppoe pkt)
      else (.drop .wan, ccb) := by
  obtain ⟨hppp, hcontrol, hv6⟩ := session_v4 hsession hproto
  unfold wanCtrlFrame
  rw [if_neg hppp, if_neg hcontrol, if_neg hv6]

theorem wanDist_v4 (ccb : DpCcb) :
    wanDistFrame env node ccb pkt =
      if !ccb.dpStartBool then (.drop .wan, ccb)
      else if (stripPppoe pkt).ip 9 = ipprotoIcmp then decapsIcmpPkt env node ccb (stripPppoe pkt)
      else if (stripPppoe pkt).ip 9 = ipprotoUdp then
        if wanIsDnsAnswer ccb (stripPppoe pkt) then (.toCp .dns .wan (stripPppoe pkt), ccb)
        else (.worker (computeFlowTag env (stripPppoe pkt).ip ipprotoUdp) (stripPppoe pkt), ccb)
      else if (stripPppoe pkt).ip 9 = ipprotoTcp then
        (.worker (computeFlowTag env (stripPppoe pkt).ip ipprotoTcp) (stripPppoe pkt), ccb)
      else (.drop .wan, ccb) := by
  obtain ⟨hppp, hcontrol, hv6⟩ := session_v4 hsession hproto
  unfold wanDistFrame
  rw [if_neg hppp, if_neg hcontrol, if_neg hv6]

/-- IPv4 of a session. -/
theorem wanDist_v4_agrees (hpkt : pkt.Received) (hcard : WanSteered node.i40e pkt steered) :
    WanAgrees steered env node ccbId pkt (wanDistFrame env node (node.ccb ccbId) pkt) := by
  have hctrl := wanCtrl_v4 hsession hproto env node (node.ccb ccbId)
  have hdata := wanData_v4 env node (node.ccb ccbId) hproto
  have hip : (stripPppoe pkt).ip = pkt.sessionIp := stripPppoe_ip hpkt
  rw [wanDist_v4 hsession hproto]
  by_cases hgate : (!(node.ccb ccbId).dpStartBool) = true
  · rw [if_pos hgate] at hctrl hdata ⊢
    refine wanAgrees_of_eq trivial ?_
    cases steered with
    | true => exact hdata.symm
    | false => exact hctrl.symm
  rw [if_neg hgate] at hctrl hdata ⊢
  by_cases hl4 : isL4 (stripPppoe pkt).ip
  · -- The card puts it on a data queue.
    have hicmp := hl4.not_icmp
    have hqueue : steered = true := hcard.all hsession hproto (hip ▸ hl4)
    subst hqueue
    rw [if_neg hicmp]
    by_cases hudp : (stripPppoe pkt).ip 9 = ipprotoUdp
    · rw [if_pos hudp] at hdata ⊢
      by_cases hdns : wanIsDnsAnswer (node.ccb ccbId) (stripPppoe pkt) = true
      · rw [if_pos hdns] at hdata ⊢
        refine .inr ⟨trivial, ?_, (congrArg Prod.snd hdata).symm⟩
        show _ = (wanDataFrame env node (node.ccb ccbId) pkt).1.plain
        rw [hdata]
        exact congrArg (DpFate.toCp .dns .wan) (clearIpCksum_twice _).symm
      · rw [if_neg hdns]
        refine .inl ⟨_, _, rfl, WanFanned.v4 hsession hproto rfl (.inr ⟨hudp, fun h => hdns ?_⟩)⟩
        exact decide_eq_true h
    · have htcp : (stripPppoe pkt).ip 9 = ipprotoTcp := hl4.resolve_right hudp
      rw [if_neg hudp, if_pos htcp]
      exact .inl ⟨_, _, rfl, WanFanned.v4 hsession hproto rfl (.inl htcp)⟩
  · have hudp : (stripPppoe pkt).ip 9 ≠ ipprotoUdp := fun h => hl4 (.inr h)
    have htcp : (stripPppoe pkt).ip 9 ≠ ipprotoTcp := fun h => hl4 (.inl h)
    rw [if_neg hudp, if_neg htcp] at hdata ⊢
    by_cases hicmp : (stripPppoe pkt).ip 9 = ipprotoIcmp
    · rw [if_pos hicmp] at hctrl ⊢
      refine wanAgrees_of_eq keeping_decapsIcmp.1 ?_
      cases steered with
      | true =>
          have hi40e : node.i40e = true := by
            rcases (hcard.only rfl).2 with ⟨-, h | h⟩ | h
            · exact absurd (hip ▸ h) hl4
            · exact h
            · rw [hproto] at h
              exact absurd h (by decide)
          rw [if_pos ⟨hi40e, hicmp⟩] at hdata
          exact hdata.symm
      | false => exact hctrl.symm
    · rw [if_neg hicmp] at hctrl ⊢
      rw [if_neg fun h => hicmp h.2] at hdata
      refine wanAgrees_of_eq trivial ?_
      cases steered with
      | true => exact hdata.symm
      | false => exact hctrl.symm

end session

/-- RSS on what is neither data of a session nor steered. -/
theorem wanRss_ctrl (hcard : WanSteered node.i40e pkt steered)
    (h : pkt.nextProto ≠ ethPPppSes ∨ isPppControl pkt.pppProtocol = true) :
    wanRssFrame steered = wanCtrlFrame := by
  cases steered with
  | false => rfl
  | true =>
      obtain ⟨hsession, hdata⟩ := hcard.only rfl
      rcases h with h | h
      · exact absurd hsession h
      rcases hdata with ⟨hproto, -⟩ | hproto
      · rw [hproto] at h
        exact absurd h (by decide)
      · rw [hproto] at h
        exact absurd h (by decide)

/-- RSS on IPv6 of a session. -/
theorem wanRss_v6 (hsession : pkt.nextProto = ethPPppSes)
    (hproto : pkt.pppProtocol = pppIpv6Protocol) (ccb : DpCcb) :
    wanRssFrame steered env node ccb pkt = wanIpv6 false env node ccb pkt := by
  have hppp : ¬ (pkt.nextProto ≠ ethPPppSes ∧ pkt.nextProto ≠ ethPPppDis) :=
    fun h => h.1 hsession
  have hcontrol : ¬ (pkt.nextProto = ethPPppDis ∨ isPppControl pkt.pppProtocol = true) := by
    rw [hsession, hproto]
    decide
  cases steered with
  | true => exact if_pos hproto
  | false =>
      show wanCtrlFrame env node ccb pkt = _
      unfold wanCtrlFrame
      rw [if_neg hppp, if_neg hcontrol, if_pos hproto]

/-- Any frame of a subscriber. -/
theorem wanDistFrame_agrees (env : DpEnv) (hpkt : pkt.Received) (hspeaks : pkt.SpeaksPpp)
    (hcard : WanSteered node.i40e pkt steered) :
    WanAgrees steered env node ccbId pkt (wanDistFrame env node (node.ccb ccbId) pkt) := by
  by_cases hppp : pkt.nextProto ≠ ethPPppSes ∧ pkt.nextProto ≠ ethPPppDis
  · have hdist : wanDistFrame env node (node.ccb ccbId) pkt = (wanIptv pkt, node.ccb ccbId) :=
      if_pos hppp
    refine wanAgrees_of_eq ?_ ?_
    · rw [hdist]
      exact wanIptv_settled
    · rw [hdist, wanRss_ctrl hcard (.inl hppp.1)]
      exact (if_pos hppp).symm
  by_cases hcontrol : pkt.nextProto = ethPPppDis ∨ isPppControl pkt.pppProtocol = true
  · have hdist : wanDistFrame env node (node.ccb ccbId) pkt =
        (wanToPppd (node.ccb ccbId) pkt, node.ccb ccbId) := by
      unfold wanDistFrame
      rw [if_neg hppp, if_pos hcontrol]
    have hqueue : pkt.nextProto ≠ ethPPppSes ∨ isPppControl pkt.pppProtocol = true := by
      rcases hcontrol with h | h
      · rw [h]
        exact .inl (by decide)
      · exact .inr h
    refine wanAgrees_of_eq ?_ ?_
    · rw [hdist]
      exact wanToPppd_settled _
    · rw [hdist, wanRss_ctrl hcard hqueue]
      unfold wanCtrlFrame
      rw [if_neg hppp, if_pos hcontrol]
  have hsession : pkt.nextProto = ethPPppSes := by
    by_contra hne
    exact hppp ⟨hne, fun h => hcontrol (.inl h)⟩
  rcases hspeaks hsession with h | hproto | hproto
  · exact absurd (.inr h) hcontrol
  · exact wanDist_v4_agrees hsession hproto hpkt hcard
  have hdist : wanDistFrame env node (node.ccb ccbId) pkt =
      wanIpv6 true env node (node.ccb ccbId) pkt := by
    unfold wanDistFrame
    rw [if_neg hppp, if_neg hcontrol, if_pos hproto]
  rw [hdist]
  rcases wanIpv6_spread env node (node.ccb ccbId) pkt with
    ⟨⟨tag, htag⟩, hopen, hforward⟩ | ⟨hsettled, hsame⟩
  · exact .inl ⟨tag, pkt, htag, WanFanned.v6 (node.ipv6Dp (node.ccb ccbId)) hsession hproto rfl
      hopen rfl hforward⟩
  · refine wanAgrees_of_eq hsettled ?_
    rw [hsame, wanRss_v6 hsession hproto]

/-- A worker does with what it is given what RSS would do with the frame, by then. -/
theorem wanWorker_agrees (env : DpEnv) {given : Mbuf} (hpkt : pkt.Received)
    (hcard : WanSteered node.i40e pkt steered) (h : WanFanned node.wanConf ccbId pkt given) :
    dpWanDistWorkerProcessPkt env node (node.ccb ccbId) given =
      wanRssFrame steered env node (node.ccb ccbId) pkt := by
  cases h with
  | v4 hsession hproto hgiven hl4 =>
      subst hgiven
      have hstripped : (stripPppoe pkt).nextProto ≠ ethPPppSes := by
        rw [stripPppoe_nextProto hpkt]
        decide
      have hl4' : isL4 pkt.sessionIp := by
        rw [← stripPppoe_ip hpkt]
        exact hl4.imp id And.left
      have hqueue : steered = true := hcard.all hsession hproto hl4'
      subst hqueue
      show _ = wanDataFrame env node (node.ccb ccbId) pkt
      rw [wanData_v4 _ _ _ hproto]
      unfold dpWanDistWorkerProcessPkt
      simp only
      rw [if_neg hstripped, clearIpCksum_proto]
      rcases hl4 with htcp | ⟨hudp, hdns⟩
      · have hudp : (stripPppoe pkt).ip 9 ≠ ipprotoUdp := by
          rw [htcp]
          decide
        rw [if_neg hudp, if_neg hudp, if_pos htcp, if_pos htcp]
      · have hdns' : ¬ wanIsDnsAnswer (node.ccb ccbId) (stripPppoe pkt) = true :=
          fun h => hdns (of_decide_eq_true h)
        rw [if_pos hudp, if_pos hudp, if_neg hdns']
  | v6 dp hsession hproto hgiven hopen hpfx hforward =>
      subst hgiven
      have hopen' : (node.ccb ccbId).ipv6DpBool = true := hopen
      have hclassify := ipv6WanClassify_congr (node.ipv6Dp (node.ccb ccbId)) dp hpfx.symm given.buf
        (given.ethHdr + ipv6L2Len + ipv6PppoeHdrLen) given.pktLen
      rw [wanRss_v6 hsession hproto]
      unfold dpWanDistWorkerProcessPkt wanIpv6
      simp only
      rw [if_pos hsession, if_pos hopen', hclassify, hforward, hopen']
      rfl

end frames

/-- The two modes part on a protocol of PPP the node does not know: no rule steers such a frame and
queue 0 drops it, but `wan_dist_rx` takes it for IPv4. -/
theorem unknown_protocol_parts {env : DpEnv} {node : DpNode} {ccbId : Nat} {pkt : Mbuf}
    {steered : Bool} (hcard : WanSteered node.i40e pkt steered)
    (hsession : pkt.nextProto = ethPPppSes) (hcontrol : ¬ isPppControl pkt.pppProtocol = true)
    (hv4 : pkt.pppProtocol ≠ pppIpProtocol) (hv6 : pkt.pppProtocol ≠ pppIpv6Protocol)
    (hgate : (node.ccb ccbId).dpStartBool = true)
    (htcp : (stripPppoe pkt).ip 9 = ipprotoTcp) :
    (wanRssFrame steered env node (node.ccb ccbId) pkt).1 = .drop .wan ∧
      ∃ tag, (wanDistFrame env node (node.ccb ccbId) pkt).1 = .worker tag (stripPppoe pkt) := by
  have hqueue : steered = false := by
    cases steered with
    | false => rfl
    | true =>
        rcases (hcard.only rfl).2 with ⟨h, -⟩ | h
        · exact absurd h hv4
        · exact absurd h hv6
  have hdis : ethPPppSes ≠ ethPPppDis := by decide
  have hicmp : ipprotoTcp ≠ ipprotoIcmp := by decide
  have hudp : ipprotoTcp ≠ ipprotoUdp := by decide
  subst hqueue
  refine ⟨?_, computeFlowTag env (stripPppoe pkt).ip ipprotoTcp, ?_⟩
  · show (wanCtrlFrame env node (node.ccb ccbId) pkt).1 = _
    simp [wanCtrlFrame, hsession, hdis, hcontrol, hv6, hgate, htcp, hicmp]
  · simp [wanDistFrame, hsession, hdis, hcontrol, hv6, hgate, htcp, hicmp, hudp]

end FastRG
