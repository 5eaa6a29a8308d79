/-
Distributor mode does to a frame of the LAN what RSS does.

A frame `lan_dist_rx` handles itself goes where `lan_ctrl_rx` or `lan_data_rx` sends it; one that a
worker takes up goes where `lan_data_rx` sends it, in the state the worker finds.  In between
gates may close and open, tables may be cleared, sessions may come up with other addresses, as long
as what `lan_dist_rx` went by stays.

The one thing in which the two modes differ is the table of the hosts' addresses: `lan_dist_rx`
learns from every IPv4 packet and earlier.  No function of the LAN port reads the table, so it is
put out of sight first (`MacBlind`).
-/
import FastRG.DpModes
import FastRG.Proofs.DpIpv6

namespace FastRG

/-! ### The headers in front

`encaps_icmp` cuts the headers off and prepends others, `lan_dist_rx` moves them in place.
-/

/-- The PPPoE header, and the protocol field of PPP. -/
def pppIpHeaders (ccb : DpCcb) (len : BitVec 16) : List (BitVec 8) :=
  [verType] ++ ([0] ++ (le16Bytes ccb.sessionId ++ (be16Bytes len ++ be16Bytes pppIpProtocol)))

/-- The headers of a packet to the WAN, from its first byte to the IPv4 header. -/
def sessionHeaders (node : DpNode) (ccb : DpCcb) (tci len : BitVec 16) : List (BitVec 8) :=
  l2Headers ccb.pppDstMac node.hsiWanSrcMac (be16Bytes vlanProto ++ le16Bytes tci) ethPPppSes ++
    pppIpHeaders ccb len

theorem length_pppIpHeaders (ccb : DpCcb) (len : BitVec 16) : (pppIpHeaders ccb len).length = 8 :=
  rfl

theorem length_sessionHeaders (node : DpNode) (ccb : DpCcb) (tci len : BitVec 16) :
    (sessionHeaders node ccb tci len).length = 26 := rfl

/-- The type of a tagged frame, and its tag. -/
theorem slice_tag {b : Octets} {i : Nat} (h : b.be16 i = vlanProto) :
    b.slice i 4 = be16Bytes vlanProto ++ le16Bytes (b.le16 (i + 2)) := by
  have hhigh : b i = vlanProto.extractLsb' 8 8 := by
    rw [← h]
    exact (BitVec.extractLsb'_append_eq_left).symm
  have hlow : b (i + 1) = vlanProto.extractLsb' 0 8 := by
    rw [← h]
    exact (BitVec.extractLsb'_append_eq_right).symm
  have htag : le16Bytes (b.le16 (i + 2)) = [b (i + 2), b (i + 3)] := by
    unfold le16Bytes Octets.le16
    rw [BitVec.extractLsb'_append_eq_right, BitVec.extractLsb'_append_eq_left]
  rw [htag]
  show [b (i + 0), b (i + 1), b (i + 2), b (i + 3)] = _
  rw [Nat.add_zero, hhigh, hlow]
  rfl

/-- `insert_pppoes_hdr` stores one block. -/
theorem putPppoesHdr_eq {node : DpNode} {ccb : DpCcb} {tci : BitVec 16} {pkt : Mbuf} {c : Nat}
    (hoff : pkt.dataOff.toNat = c + 26) :
    putPppoesHdr node ccb tci pkt = some { pkt with
      buf := pkt.buf.putBytes c
        (sessionHeaders node ccb tci (pkt.dataLen + BitVec.ofNat 16 26 - BitVec.ofNat 16 24))
      dataOff := pkt.dataOff - BitVec.ofNat 16 26
      pktLen := pkt.pktLen + BitVec.ofNat 32 26
      dataLen := pkt.dataLen + BitVec.ofNat 16 26 } := by
  have hroom : ¬ pkt.dataOff.toNat < pppoesHdrLen := by
    rw [hoff]
    unfold pppoesHdrLen
    omega
  have hstart : pkt.dataOff.toNat - pppoesHdrLen = c := by
    rw [hoff]
    unfold pppoesHdrLen
    omega
  unfold putPppoesHdr
  rw [if_neg hroom]
  simp only [hstart]
  congr 2
  rw [Octets.putBytes_comm pkt.buf (i := c + 6) (j := c) (.inr (Nat.le_refl _))]
  unfold sessionHeaders l2Headers pppIpHeaders
  repeat rw [← Octets.putBytes_append _ _ _ _ rfl]
  rfl

theorem readdress_of_ne (b : Octets) {e k : Nat} (dst src : BitVec 48) (proto : BitVec 16)
    (h : k < e ∨ e + 18 ≤ k) : readdress b e dst src proto k = b k := by
  have hsrc := macBytes_length src
  have hdst := macBytes_length dst
  have hproto := be16Bytes_length proto
  unfold readdress
  rw [Octets.putBytes_of_ne _ _ (by omega), Octets.putBytes_of_ne _ _ (by omega),
    Octets.putBytes_of_ne _ _ (by omega)]

theorem moveBack_of_ne (b : Octets) {c k : Nat} (h : k < c ∨ c + 18 ≤ k) :
    moveBack b c k = b k := by
  have heth := Octets.length_slice b (c + 8) 14
  have hvlan := Octets.length_slice (b.putBytes c (b.slice (c + 8) 14)) (c + 22) 4
  unfold moveBack
  rw [Octets.copy_eq b 14 (by omega), Octets.copy_eq _ 4 (by omega),
    Octets.putBytes_of_ne _ _ (by omega), Octets.putBytes_of_ne _ _ (by omega)]

/-- And so does the move, where the frame has a tag. -/
theorem moveForPppoe_buf (node : DpNode) (ccb : DpCcb) {pkt : Mbuf} {c : Nat}
    (heth : pkt.ethHdr = c + 8) (hvlan : pkt.vlanHdr = c + 22)
    (htag : pkt.buf.be16 (c + 20) = vlanProto) :
    (moveForPppoe node ccb pkt).buf = pkt.buf.putBytes c
      (sessionHeaders node ccb (pkt.buf.le16 (c + 22))
        ((pkt.pktLen - BitVec.ofNat 32 ipv6L2Len + 2).setWidth 16)) := by
  have hmoved : (moveForPppoe node ccb pkt).buf =
      (moveBack (readdress pkt.buf (c + 8) ccb.pppDstMac node.hsiWanSrcMac ethPPppSes) c).putBytes
        (c + 18) (pppIpHeaders ccb ((pkt.pktLen - BitVec.ofNat 32 ipv6L2Len + 2).setWidth 16)) := by
    unfold pppIpHeaders
    repeat rw [← Octets.putBytes_append _ _ _ _ rfl]
    unfold moveForPppoe
    rw [heth, hvlan]
    rfl
  rw [hmoved]
  refine Octets.eq_of_slice (i := c) (n := 26) ?_ fun k hk => ?_
  · rw [Octets.slice_putBytes _ c _ (length_sessionHeaders node ccb _ _),
      show 26 = 18 + 8 from rfl, Octets.slice_add,
      Octets.slice_putBytes_of_ne _ _ (.inl (by omega)),
      Octets.slice_putBytes _ _ _ (length_pppIpHeaders ccb _), slice_moveBack, slice_readdress,
      slice_tag htag]
    rfl
  · rw [Octets.putBytes_of_ne _ (pppIpHeaders _ _) (by rw [length_pppIpHeaders]; omega),
      Octets.putBytes_of_ne _ (sessionHeaders _ _ _ _) (by rw [length_sessionHeaders]; omega),
      moveBack_of_ne _ (by omega), readdress_of_ne _ _ _ _ (by omega)]

/-- What `encaps_icmp` sends is what `lan_dist_rx` sends. -/
theorem putPppoesHdr_adjL2 (node : DpNode) (ccb : DpCcb) {pkt : Mbuf} (hpkt : pkt.Received)
    (hroom : pkt.Roomy) (htag : pkt.buf.be16 (pkt.dataOff.toNat + 12) = vlanProto) :
    putPppoesHdr node ccb (pkt.buf.le16 pkt.vlanHdr) pkt.adjL2 =
      some (moveForPppoe node ccb pkt) := by
  obtain ⟨hfront, hback, hone⟩ := hroom
  unfold pppoesHdrLen ipv6L2Len at hfront
  unfold ipv6L2Len at hback
  obtain ⟨c, hc⟩ := Nat.exists_eq_add_of_le' (show 8 ≤ pkt.dataOff.toNat by omega)
  have hadj : pkt.adjL2.dataOff.toNat = c + 26 := by
    show (pkt.dataOff + BitVec.ofNat 16 18).toNat = c + 26
    rw [BitVec.toNat_add, BitVec.toNat_ofNat, Nat.mod_eq_of_lt (show 18 < 2 ^ 16 by decide),
      Nat.mod_eq_of_lt (by omega)]
    omega
  have heth : pkt.ethHdr = c + 8 := by rw [hpkt.ethHdr, hc]
  have hvlan : pkt.vlanHdr = c + 22 := by rw [hpkt.vlanHdr, hc]; rfl
  have htag' : pkt.buf.be16 (c + 20) = vlanProto := by rw [← htag, hc]
  have hbuf := moveForPppoe_buf node ccb heth hvlan htag'
  rw [← hvlan] at hbuf
  have hlen : pkt.adjL2.dataLen + BitVec.ofNat 16 26 - BitVec.ofNat 16 24 =
      (pkt.pktLen - BitVec.ofNat 32 ipv6L2Len + 2).setWidth 16 := by
    show pkt.dataLen - 18#16 + 26#16 - 24#16 = (pkt.pktLen - 18#32 + 2#32).setWidth 16
    rw [← hone]
    bv_omega
  have hdataOff : pkt.dataOff + 18#16 - 26#16 = pkt.dataOff - 8#16 := by bv_omega
  have hpktLen : pkt.pktLen - 18#32 + 26#32 = pkt.pktLen + 8#32 := by bv_omega
  have hdataLen : pkt.dataLen - 18#16 + 26#16 = pkt.dataLen + 8#16 := by bv_omega
  have hmove : moveForPppoe node ccb pkt = { pkt with
      buf := (moveForPppoe node ccb pkt).buf
      dataOff := pkt.dataOff - 8#16
      pktLen := pkt.pktLen + 8#32
      dataLen := pkt.dataLen + 8#16 } := rfl
  rw [putPppoesHdr_eq hadj, hlen, hmove, hbuf, ← hdataOff, ← hpktLen, ← hdataLen]
  rfl

/-! ### What lies before the packet -/

theorem setIp_of_lt (pkt : Mbuf) (ip : Octets) {k : Nat} (h : k < pkt.ethHdr + ipv6L2Len) :
    (pkt.setIp ip).buf k = pkt.buf k :=
  Octets.putBeyond_of_lt _ _ h

theorem le16_setIp (pkt : Mbuf) (ip : Octets) {k : Nat} (h : k + 1 < pkt.ethHdr + ipv6L2Len) :
    (pkt.setIp ip).buf.le16 k = pkt.buf.le16 k :=
  Octets.le16_congr (setIp_of_lt pkt ip (by omega)) (setIp_of_lt pkt ip h)

theorem be16_setIp (pkt : Mbuf) (ip : Octets) {k : Nat} (h : k + 1 < pkt.ethHdr + ipv6L2Len) :
    (pkt.setIp ip).buf.be16 k = pkt.buf.be16 k :=
  Octets.be16_congr (setIp_of_lt pkt ip (by omega)) (setIp_of_lt pkt ip h)

/-- ICMP leaves `encaps_icmp` as it leaves `lan_dist_rx`. -/
theorem encapsIcmpPkt_eq (env : DpEnv) (node : DpNode) (ccb : DpCcb) {pkt : Mbuf}
    (hpkt : pkt.Received) (hroom : pkt.Roomy)
    (htag : pkt.buf.be16 (pkt.dataOff.toNat + 12) = vlanProto) :
    (encapsIcmpPkt env node ccb pkt.adjL2).1.plain = (lanDistIcmpPkt env node ccb pkt).1.plain ∧
      (encapsIcmpPkt env node ccb pkt.adjL2).2 = (lanDistIcmpPkt env node ccb pkt).2 := by
  have hencaps : encapsIcmp env.crc env.hz env.now env.natChances env.rte true ccb.hsiIpv4 ccb.nat
      (pkt.adjL2.mac (pkt.adjL2.ethHdr + 6)) pkt.adjL2.ip =
        lanDistRxIcmp env.crc env.hz env.now env.natChances env.rte ccb.hsiIpv4 ccb.nat
          (pkt.mac (pkt.ethHdr + 6)) pkt.ip := rfl
  unfold encapsIcmpPkt lanDistIcmpPkt
  rw [hencaps]
  rcases lanDistRxIcmp env.crc env.hz env.now env.natChances env.rte ccb.hsiIpv4 ccb.nat
    (pkt.mac (pkt.ethHdr + 6)) pkt.ip with ⟨_ | ip, nat⟩
  · exact ⟨rfl, rfl⟩
  · have heth := hpkt.ethHdr
    have hvlan := hpkt.vlanHdr
    have htci : (pkt.setIp ip).buf.le16 pkt.vlanHdr = pkt.buf.le16 pkt.vlanHdr :=
      le16_setIp pkt ip (by rw [hvlan, heth]; unfold etherHdrLen ipv6L2Len; omega)
    have htag' : (pkt.setIp ip).buf.be16 (pkt.dataOff.toNat + 12) = vlanProto := by
      rw [be16_setIp pkt ip (by rw [heth]; unfold ipv6L2Len; omega), htag]
    have hreceived : (pkt.setIp ip).Received := ⟨heth, hvlan⟩
    have hroomy : (pkt.setIp ip).Roomy := ⟨hroom.front, hroom.back, hroom.oneSegment⟩
    have hput := putPppoesHdr_adjL2 node ccb hreceived hroomy htag'
    have hput' : putPppoesHdr node ccb (pkt.adjL2.buf.le16 pkt.adjL2.vlanHdr) (pkt.adjL2.setIp ip) =
        some (moveForPppoe node ccb (pkt.setIp ip)) := by
      rw [← hput]
      show putPppoesHdr node ccb (pkt.buf.le16 pkt.vlanHdr) (pkt.setIp ip).adjL2 =
        putPppoesHdr node ccb ((pkt.setIp ip).buf.le16 pkt.vlanHdr) (pkt.setIp ip).adjL2
      rw [htci]
    simp only [hput']
    exact ⟨trivial, trivial⟩

/-! ### The table of the hosts' addresses is not read -/

/-- A function of a subscriber that neither reads the table nor depends on what it has written
to it, and leaves the settings alone. -/
structure MacBlind (f : DpCcb → DpFate × DpCcb) : Prop where
  blind : ∀ ccb, f ccb.forgetMacs = ((f ccb).1, (f ccb).2.forgetMacs)
  keeps : ∀ ccb, (f ccb).2.lanSettings = ccb.lanSettings

section blind

variable {env : DpEnv} {node : DpNode} {pkt : Mbuf} {f g : DpCcb → DpFate × DpCcb}

/-- Learning writes to the table and nowhere else. -/
theorem learn_forgetMacs (ccb : DpCcb) (env : DpEnv) (ip : BitVec 32) (mac : BitVec 48) :
    ccb.forgetMacs.learn env ip mac = ccb.forgetMacs ∧
      (ccb.learn env ip mac).forgetMacs = ccb.forgetMacs ∧
      (ccb.learn env ip mac).lanSettings = ccb.lanSettings := by
  unfold DpCcb.learn
  refine ⟨?_, ?_, ?_⟩
  · split
    · rfl
    · rfl
  · split
    · rfl
    · rfl
  · split
    · rfl
    · rfl

theorem MacBlind.both (h : ∀ ccb, f ccb.forgetMacs = ((f ccb).1, (f ccb).2.forgetMacs) ∧
    (f ccb).2.lanSettings = ccb.lanSettings) : MacBlind f :=
  ⟨fun ccb => (h ccb).1, fun ccb => (h ccb).2⟩

/-- What follows learning may be looked at without it. -/
theorem MacBlind.learn (hf : MacBlind f) (ip : BitVec 32) (mac : BitVec 48) :
    MacBlind fun ccb => f (ccb.learn env ip mac) := by
  refine ⟨fun ccb => ?_, fun ccb => ?_⟩
  · have hlearn := learn_forgetMacs ccb env ip mac
    show f (ccb.forgetMacs.learn env ip mac) = _
    rw [hlearn.1, ← hlearn.2.1, hf.blind]
  · exact (hf.keeps _).trans (learn_forgetMacs ccb env ip mac).2.2

theorem MacBlind.fate (h : DpCcb → DpFate) (hh : ∀ ccb, h ccb.forgetMacs = h ccb) :
    MacBlind fun ccb => (h ccb, ccb) := by
  refine ⟨fun ccb => ?_, fun _ => rfl⟩
  show (h ccb.forgetMacs, ccb.forgetMacs) = (h ccb, ccb.forgetMacs)
  rw [hh]

theorem MacBlind.const (fate : DpFate) : MacBlind fun ccb => (fate, ccb) :=
  MacBlind.fate (fun _ => fate) fun _ => rfl

theorem MacBlind.ite (p : DpCcb → Prop) [DecidablePred p] (hp : ∀ ccb, p ccb.forgetMacs ↔ p ccb)
    (hf : MacBlind f) (hg : MacBlind g) : MacBlind fun ccb => if p ccb then f ccb else g ccb := by
  refine ⟨fun ccb => ?_, fun ccb => ?_⟩
  · show (if p ccb.forgetMacs then f ccb.forgetMacs else g ccb.forgetMacs) =
      ((if p ccb then f ccb else g ccb).1, (if p ccb then f ccb else g ccb).2.forgetMacs)
    by_cases h : p ccb
    · rw [if_pos ((hp ccb).mpr h), if_pos h, hf.blind]
    · rw [if_neg (mt (hp ccb).mp h), if_neg h, hg.blind]
  · show (if p ccb then f ccb else g ccb).2.lanSettings = ccb.lanSettings
    by_cases h : p ccb
    · rw [if_pos h, hf.keeps]
    · rw [if_neg h, hg.keeps]

/-- A choice the subscriber has no part in. -/
theorem MacBlind.iteConst (p : Prop) [Decidable p] (hf : MacBlind f) (hg : MacBlind g) :
    MacBlind fun ccb => if p then f ccb else g ccb :=
  MacBlind.ite (fun _ => p) (fun _ => Iff.rfl) hf hg

theorem macBlind_encapsL4Pkt (hdrOf : Octets → L4Hdr) (cksumAt : Nat) :
    MacBlind fun ccb => encapsL4Pkt hdrOf cksumAt env node ccb pkt := by
  refine .both fun ccb => ?_
  have hput : putPppoesHdr node ccb.forgetMacs = putPppoesHdr node ccb := rfl
  unfold encapsL4Pkt
  simp only [↓hput, DpCcb.forgetMacs]
  split
  · split
    · exact ⟨rfl, rfl⟩
    · exact ⟨rfl, rfl⟩
  · split
    · exact ⟨rfl, rfl⟩
    · split
      · exact ⟨rfl, rfl⟩
      · exact ⟨rfl, rfl⟩

theorem macBlind_encapsIcmpPkt : MacBlind fun ccb => encapsIcmpPkt env node ccb pkt := by
  refine .both fun ccb => ?_
  have hput : putPppoesHdr node ccb.forgetMacs = putPppoesHdr node ccb := rfl
  unfold encapsIcmpPkt
  simp only [↓hput, DpCcb.forgetMacs]
  split
  · exact ⟨rfl, rfl⟩
  · split
    · exact ⟨rfl, rfl⟩
    · exact ⟨rfl, rfl⟩

theorem macBlind_lanDistIcmpPkt : MacBlind fun ccb => lanDistIcmpPkt env node ccb pkt := by
  refine .both fun ccb => ?_
  unfold lanDistIcmpPkt DpCcb.forgetMacs
  simp only
  split
  · exact ⟨rfl, rfl⟩
  · exact ⟨rfl, rfl⟩

theorem macBlind_lanArp : MacBlind fun ccb => lanArp env node ccb pkt := by
  refine MacBlind.learn (f := fun ccb =>
    if pkt.buf.be16 (pkt.ethHdr + ipv6L2Len + 6) = arpOpRequest ∧
        pkt.buf.le32 (pkt.ethHdr + ipv6L2Len + 24) = ccb.dhcpServerIp then
      (.tx .lan (pkt.arpReply node ccb), ccb)
    else if pkt.buf.be16 (pkt.ethHdr + ipv6L2Len + 6) = arpOpReply ∧
        pkt.buf.le32 (pkt.ethHdr + ipv6L2Len + 24) = ccb.dhcpServerIp then
      (.drainArp (pkt.buf.le32 (pkt.ethHdr + ipv6L2Len + 14))
        (pkt.mac (pkt.ethHdr + ipv6L2Len + 8)), ccb)
    else (.tx .wan pkt, ccb)) ?_ _ _
  refine MacBlind.ite _ (fun _ => Iff.rfl) ?_ (MacBlind.ite _ (fun _ => Iff.rfl) ?_ ?_)
  · exact MacBlind.fate _ fun _ => rfl
  · exact MacBlind.const _
  · exact MacBlind.const _

theorem macBlind_lanIpv6 (handoff spread : Bool) :
    MacBlind fun ccb => lanIpv6 handoff spread env node ccb pkt := by
  refine .both fun ccb => ?_
  have hdp : node.ipv6Dp ccb.forgetMacs = node.ipv6Dp ccb := rfl
  have henabled : ccb.forgetMacs.ipv6Enabled = ccb.ipv6Enabled := rfl
  unfold lanIpv6
  simp only [hdp, henabled]
  split
  · exact ⟨rfl, rfl⟩
  split
  · exact ⟨rfl, rfl⟩
  · exact ⟨rfl, rfl⟩
  · exact ⟨rfl, rfl⟩
  · split
    · exact ⟨rfl, rfl⟩
    · exact ⟨rfl, rfl⟩
  · split
    · exact ⟨rfl, rfl⟩
    · exact ⟨rfl, rfl⟩

theorem macBlind_lanCtrlIpv4 : MacBlind fun ccb => lanCtrlIpv4 env node ccb pkt := by
  refine MacBlind.ite _ (fun _ => Iff.rfl) (MacBlind.iteConst _ ?_ ?_) (MacBlind.iteConst _
    (MacBlind.iteConst _ ?_ (MacBlind.ite _ (fun _ => Iff.rfl) ?_ ?_))
    (MacBlind.iteConst _ ?_ ?_))
  · exact MacBlind.fate _ fun _ => rfl
  · exact MacBlind.const _
  · exact MacBlind.const _
  · exact MacBlind.const _
  · exact macBlind_encapsIcmpPkt
  · exact MacBlind.const _
  · exact MacBlind.const _

theorem macBlind_lanCtrlFrame : MacBlind fun ccb => lanCtrlFrame env node ccb pkt := by
  refine MacBlind.iteConst _ macBlind_lanArp (MacBlind.iteConst _ (macBlind_lanIpv6 _ _)
    (MacBlind.iteConst _ (MacBlind.const _) (MacBlind.iteConst _ ?_ (MacBlind.const _))))
  exact MacBlind.learn macBlind_lanCtrlIpv4 _ _

theorem macBlind_lanDataFrame : MacBlind fun ccb => lanDataFrame env node ccb pkt := by
  refine MacBlind.iteConst _ (macBlind_lanIpv6 _ _) (MacBlind.iteConst _ (MacBlind.const _)
    (MacBlind.ite _ (fun _ => Iff.rfl) (MacBlind.fate _ fun _ => rfl)
      (MacBlind.learn (f := fun ccb => lanDataWan env node ccb pkt) ?_ _ _)))
  refine MacBlind.iteConst _ (MacBlind.iteConst _ (MacBlind.const _)
    (MacBlind.ite _ (fun _ => Iff.rfl) (MacBlind.const _) (macBlind_encapsL4Pkt _ _)))
    (MacBlind.iteConst _ (MacBlind.iteConst _ (MacBlind.const _) (MacBlind.iteConst _ ?_
      (MacBlind.iteConst _ (MacBlind.const _) (MacBlind.ite _ (fun _ => Iff.rfl)
        (MacBlind.const _) (macBlind_encapsL4Pkt _ _))))) (MacBlind.const _))
  exact MacBlind.fate _ fun _ => rfl

theorem macBlind_lanDistIpv4 : MacBlind fun ccb => lanDistIpv4 env node ccb pkt := by
  have hgate : ∀ {h : DpCcb → DpFate × DpCcb}, MacBlind h → MacBlind fun ccb =>
      if (!pkt.toLanMac node) = true then (.batch pkt, ccb)
      else if (!ccb.dpStartBool) = true then (.drop .lan, ccb) else h ccb := fun hh =>
    MacBlind.iteConst _ (MacBlind.const _) (MacBlind.ite _ (fun _ => Iff.rfl) (MacBlind.const _) hh)
  refine MacBlind.ite _ (fun _ => Iff.rfl) (MacBlind.iteConst _ ?_ ?_) (MacBlind.iteConst _
    (hgate macBlind_lanDistIcmpPkt) (MacBlind.iteConst _ (hgate (MacBlind.const _))
      (MacBlind.iteConst _ (MacBlind.iteConst _ (MacBlind.const _) (MacBlind.iteConst _ ?_
        (hgate (MacBlind.const _)))) (MacBlind.iteConst _ (MacBlind.const _) (MacBlind.const _)))))
  · exact MacBlind.fate _ fun _ => rfl
  · exact MacBlind.fate _ fun _ => rfl
  · exact MacBlind.fate _ fun _ => rfl

theorem macBlind_lanDistFrame : MacBlind fun ccb => lanDistFrame env node ccb pkt := by
  refine MacBlind.iteConst _ macBlind_lanArp (MacBlind.iteConst _ (MacBlind.const _)
    (MacBlind.iteConst _ (macBlind_lanIpv6 _ _) (MacBlind.iteConst _ ?_ (MacBlind.const _))))
  exact MacBlind.learn macBlind_lanDistIpv4 _ _

theorem macBlind_worker : MacBlind fun ccb => dpLanDistWorkerProcessPkt env node ccb pkt := by
  refine MacBlind.iteConst _ (MacBlind.ite _ (fun _ => Iff.rfl) (MacBlind.const _) ?_)
    (MacBlind.ite _ (fun _ => Iff.rfl) (MacBlind.const _) (MacBlind.iteConst _
      (macBlind_encapsL4Pkt _ _) (MacBlind.iteConst _ (macBlind_encapsL4Pkt _ _)
        (MacBlind.const _))))
  exact ⟨fun _ => rfl, fun _ => rfl⟩

end blind

/-! ### The two modes, frame by frame -/

/-- What `lan_dist_rx` has made sure of when it gives a frame to a worker. -/
inductive LanFanned (conf : LanConf) (ccbId : Nat) (pkt : Mbuf) : Prop
  | v4 (hproto : pkt.nextProto = frameTypeIp)
      (hwan : ¬ isIpInRange (pkt.ip.le32 16) (conf.settings ccbId).dhcpServerIp
        (conf.settings ccbId).subnetMask)
      (hmac : pkt.buf.slice pkt.ethHdr 6 = macBytes conf.hsiLanMac)
      (hl4 : pkt.ip 9 = ipprotoTcp ∨ (pkt.ip 9 = ipprotoUdp ∧
        ¬ rteIsIpv4Mcast (pkt.ip.le32 16) ∧ pkt.ip.be16 22 ≠ dhcpServerPort))
  | v6 (dp : Ipv6Dp) (hproto : pkt.nextProto = frameTypeIpv6)
      (henabled : (conf.settings ccbId).ipv6Enabled) (hmac : dp.hsiLanMac = conf.hsiLanMac)
      (hpfx : dp.hsiIpv6LanPrefix = (conf.settings ccbId).hsiIpv6LanPrefix)
      (hforward : ipv6LanClassify dp pkt.buf pkt.ethHdr (pkt.ethHdr + ipv6L2Len) pkt.pktLen =
        .forward)

/-- A fate other than a worker's queue. -/
def DpFate.Settled : DpFate → Prop
  | .worker _ _ => False
  | _ => True

/-- A frame with RSS, by what the card does. -/
def lanRssFrame (steered : Bool) := if steered then lanDataFrame else lanCtrlFrame

/-- What a card may do with a frame. -/
structure LanSteered (pkt : Mbuf) (steered : Bool) : Prop where
  only : steered → (pkt.nextProto = frameTypeIp ∧ isL4 pkt.ip) ∨ pkt.nextProto = frameTypeIpv6
  all : pkt.nextProto = frameTypeIp → isL4 pkt.ip → steered

/-- Gates and sessions have no part in what a packet is, except that a closed gate stops what
would be forwarded. -/
theorem ipv6LanClassify_gate {dp : Ipv6Dp} (dp' : Ipv6Dp) {b : Octets} {e i : Nat} {len : BitVec 32}
    (h : ipv6LanClassify dp b e i len = .forward) (hmac : dp'.hsiLanMac = dp.hsiLanMac)
    (hpfx : dp'.hsiIpv6LanPrefix = dp.hsiIpv6LanPrefix) :
    ipv6LanClassify dp' b e i len = if dp'.gateOpen then .forward else .drop := by
  revert h
  unfold ipv6LanClassify ipv6AddrInLanPrefix
  simp only
  rw [hmac, hpfx]
  -- the checks that read no gate, and the one that does
  split
  · simp
  split
  · simp
  split
  · simp
  split
  · simp
  split
  · simp
  split
  · simp
  split
  · simp
  split
  · simp
  split
  · simp
  cases dp'.gateOpen <;> simp

/-- IPv6 is fanned out when it is forwarded, and goes the same way in every loop otherwise. -/
theorem lanIpv6_spread (env : DpEnv) (node : DpNode) (ccb : DpCcb) (pkt : Mbuf) :
    ((∃ tag, lanIpv6 false true env node ccb pkt = (.worker tag pkt, ccb)) ∧ ccb.ipv6Enabled ∧
      ipv6LanClassify (node.ipv6Dp ccb) pkt.buf pkt.ethHdr (pkt.ethHdr + ipv6L2Len) pkt.pktLen =
        .forward) ∨
    ((lanIpv6 false true env node ccb pkt).1.Settled ∧ ∀ handoff,
      (lanIpv6 false true env node ccb pkt).1.plain =
        (lanIpv6 handoff false env node ccb pkt).1.plain ∧
      (lanIpv6 false true env node ccb pkt).2 = (lanIpv6 handoff false env node ccb pkt).2) := by
  unfold lanIpv6
  simp only
  split
  · exact .inr ⟨trivial, fun _ => ⟨rfl, rfl⟩⟩
  rename_i henabled
  split
  · exact .inr ⟨trivial, fun _ => ⟨rfl, rfl⟩⟩
  · exact .inr ⟨trivial, fun _ => ⟨rfl, rfl⟩⟩
  · exact .inr ⟨trivial, fun _ => ⟨rfl, rfl⟩⟩
  · split
    · exact .inr ⟨trivial, fun _ => ⟨rfl, rfl⟩⟩
    · exact .inr ⟨trivial, fun _ => ⟨rfl, rfl⟩⟩
  · rename_i hforward
    split
    · exact .inl ⟨⟨_, rfl⟩, by simpa using henabled, hforward⟩
    · exact .inr ⟨trivial, fun _ => ⟨rfl, rfl⟩⟩

theorem learnIp_forgetMacs {ccb : DpCcb} (hccb : ccb.forgetMacs = ccb) (env : DpEnv) (pkt : Mbuf) :
    ccb.learnIp env pkt = ccb := by
  have hlearn := (learn_forgetMacs ccb env (pkt.ip.le32 12) (pkt.mac (pkt.ethHdr + 6))).1
  rw [hccb] at hlearn
  exact hlearn

/-- What `lan_dist_rx` does with a frame is what RSS does with it, or it is put by. -/
def LanAgrees (steered : Bool) (env : DpEnv) (node : DpNode) (ccbId : Nat) (pkt : Mbuf)
    (dist : DpFate × DpCcb) : Prop :=
  (∃ tag, dist = (.worker tag pkt, node.ccb ccbId) ∧ LanFanned node.lanConf ccbId pkt) ∨
  (dist.1.Settled ∧
    dist.1.plain = (lanRssFrame steered env node (node.ccb ccbId) pkt).1.plain ∧
    dist.2 = (lanRssFrame steered env node (node.ccb ccbId) pkt).2)

section frames

variable {env : DpEnv} {node : DpNode} {ccbId : Nat} {pkt : Mbuf} {steered : Bool}

theorem lanAgrees_of_eq {dist : DpFate × DpCcb} (hsettled : dist.1.Settled)
    (h : dist = lanRssFrame steered env node (node.ccb ccbId) pkt) :
    LanAgrees steered env node ccbId pkt dist :=
  .inr ⟨hsettled, by rw [h], by rw [h]⟩

theorem lanArp_settled (ccb : DpCcb) : (lanArp env node ccb pkt).1.Settled := by
  unfold lanArp
  simp only
  split
  · exact trivial
  split
  · exact trivial
  · exact trivial

theorem lanGatewayIcmp_settled (ccb : DpCcb) : (lanGatewayIcmp node ccb pkt).Settled := by
  unfold lanGatewayIcmp
  split
  · split
    · exact trivial
    · exact trivial
  · exact trivial

theorem lanDhcp_settled (ccb : DpCcb) : (lanDhcp ccb pkt).Settled := by
  unfold lanDhcp
  split
  · exact trivial
  · exact trivial

theorem lanGatewayL4_settled (ccb : DpCcb) : (lanGatewayL4 ccb pkt).Settled := by
  unfold lanGatewayL4
  simp only
  split
  · exact lanDhcp_settled ccb
  split
  · split
    · exact trivial
    · exact trivial
  · exact trivial

theorem lanDistIcmpPkt_settled (ccb : DpCcb) : (lanDistIcmpPkt env node ccb pkt).1.Settled := by
  unfold lanDistIcmpPkt
  split
  · exact trivial
  · exact trivial

/-- IPv4 that the card leaves on queue 0. -/
theorem lanDistIpv4_ctrl (hpkt : pkt.Received) (hroom : pkt.Roomy)
    (htag : pkt.buf.be16 (pkt.dataOff.toNat + 12) = vlanProto) (hl4 : ¬ isL4 pkt.ip)
    (ccb : DpCcb) :
    (lanDistIpv4 env node ccb pkt).1.Settled ∧
      (lanDistIpv4 env node ccb pkt).1.plain = (lanCtrlIpv4 env node ccb pkt).1.plain ∧
      (lanDistIpv4 env node ccb pkt).2 = (lanCtrlIpv4 env node ccb pkt).2 := by
  have htcp : pkt.ip 9 ≠ ipprotoTcp := fun h => hl4 (.inl h)
  have hudp : pkt.ip 9 ≠ ipprotoUdp := fun h => hl4 (.inr h)
  have hgateway : lanGatewayL4 ccb pkt = .drop .lan := by
    unfold lanGatewayL4
    simp only
    rw [if_neg (fun h => hudp h.1), if_neg (fun h => h.1.elim hudp htcp)]
  unfold lanDistIpv4 lanCtrlIpv4
  simp only
  rw [if_neg htcp, if_neg hudp, hgateway]
  by_cases hrange : isIpInRange (pkt.ip.le32 16) ccb.dhcpServerIp ccb.subnetMask = true
  · rw [if_pos hrange, if_pos hrange]
    by_cases hicmp : pkt.ip 9 = ipprotoIcmp
    · rw [if_pos hicmp]
      exact ⟨lanGatewayIcmp_settled ccb, rfl, rfl⟩
    · rw [if_neg hicmp]
      exact ⟨trivial, rfl, rfl⟩
  rw [if_neg hrange, if_neg hrange]
  by_cases hicmp : pkt.ip 9 = ipprotoIcmp
  · rw [if_pos hicmp, if_pos hicmp]
    by_cases hmac : (!pkt.toLanMac node) = true
    · rw [if_pos hmac, if_pos hmac]
      exact ⟨trivial, rfl, rfl⟩
    rw [if_neg hmac, if_neg hmac]
    by_cases hgate : (!ccb.dpStartBool) = true
    · rw [if_pos hgate, if_pos hgate]
      exact ⟨trivial, rfl, rfl⟩
    rw [if_neg hgate, if_neg hgate]
    obtain ⟨hfate, hccb⟩ := encapsIcmpPkt_eq env node ccb hpkt hroom htag
    exact ⟨lanDistIcmpPkt_settled ccb, hfate.symm, hccb.symm⟩
  rw [if_neg hicmp, if_neg hicmp]
  split
  · exact ⟨trivial, rfl, rfl⟩
  · exact ⟨trivial, rfl, rfl⟩

theorem slice_of_toLanMac (h : ¬ (!pkt.toLanMac node) = true) :
    pkt.buf.slice pkt.ethHdr 6 = macBytes node.hsiLanMac := by
  simpa [Mbuf.toLanMac] using h

theorem isL4.not_icmp {ip : Octets} (h : isL4 ip) : ip 9 ≠ ipprotoIcmp := by
  rcases h with h | h
  all_goals
    rw [h]
    decide

/-- TCP and UDP, which the card puts on a data queue. -/
theorem lanDistIpv4_data (hblind : (node.ccb ccbId).forgetMacs = node.ccb ccbId)
    (hproto : pkt.nextProto = frameTypeIp) (hl4 : isL4 pkt.ip) :
    LanAgrees true env node ccbId pkt (lanDistIpv4 env node (node.ccb ccbId) pkt) := by
  have hv6 : pkt.nextProto ≠ frameTypeIpv6 := by
    rw [hproto]
    decide
  have hicmp := hl4.not_icmp
  have hrss : lanRssFrame true env node (node.ccb ccbId) pkt =
      if isIpInRange (pkt.ip.le32 16) (node.ccb ccbId).dhcpServerIp (node.ccb ccbId).subnetMask then
        (lanGatewayL4 (node.ccb ccbId) pkt, node.ccb ccbId)
      else lanDataWan env node (node.ccb ccbId) pkt := by
    show lanDataFrame env node (node.ccb ccbId) pkt = _
    unfold lanDataFrame
    rw [if_neg hv6, if_neg (not_not.mpr hproto), learnIp_forgetMacs hblind]
  by_cases hrange : isIpInRange (pkt.ip.le32 16) (node.ccb ccbId).dhcpServerIp
      (node.ccb ccbId).subnetMask = true
  · have hdist : lanDistIpv4 env node (node.ccb ccbId) pkt =
        (lanGatewayL4 (node.ccb ccbId) pkt, node.ccb ccbId) := by
      unfold lanDistIpv4
      rw [if_pos hrange, if_neg hicmp]
    refine lanAgrees_of_eq ?_ ?_
    · rw [hdist]
      exact lanGatewayL4_settled _
    · rw [hdist, hrss, if_pos hrange]
  rw [if_neg hrange] at hrss
  unfold lanDistIpv4
  simp only
  unfold lanDataWan at hrss
  simp only at hrss
  rw [if_neg hrange, if_neg hicmp]
  by_cases htcp : pkt.ip 9 = ipprotoTcp
  · rw [if_pos htcp] at hrss ⊢
    by_cases hmac : (!pkt.toLanMac node) = true
    · rw [if_pos hmac] at hrss ⊢
      exact lanAgrees_of_eq trivial hrss.symm
    rw [if_neg hmac] at hrss ⊢
    by_cases hgate : (!(node.ccb ccbId).dpStartBool) = true
    · rw [if_pos hgate] at hrss ⊢
      exact lanAgrees_of_eq trivial hrss.symm
    rw [if_neg hgate]
    exact .inl ⟨_, rfl, LanFanned.v4 hproto hrange (slice_of_toLanMac hmac) (.inl htcp)⟩
  have hudp : pkt.ip 9 = ipprotoUdp := hl4.resolve_left htcp
  rw [if_neg htcp, if_pos hudp] at hrss ⊢
  by_cases hmcast : rteIsIpv4Mcast (pkt.ip.le32 16) = true
  · rw [if_pos hmcast] at hrss ⊢
    exact lanAgrees_of_eq trivial hrss.symm
  rw [if_neg hmcast] at hrss ⊢
  by_cases hdhcp : pkt.ip.be16 22 = dhcpServerPort
  · rw [if_pos hdhcp] at hrss ⊢
    exact lanAgrees_of_eq (lanDhcp_settled _) hrss.symm
  rw [if_neg hdhcp] at hrss ⊢
  by_cases hmac : (!pkt.toLanMac node) = true
  · rw [if_pos hmac] at hrss ⊢
    exact lanAgrees_of_eq trivial hrss.symm
  rw [if_neg hmac] at hrss ⊢
  by_cases hgate : (!(node.ccb ccbId).dpStartBool) = true
  · rw [if_pos hgate] at hrss ⊢
    exact lanAgrees_of_eq trivial hrss.symm
  rw [if_neg hgate]
  exact .inl ⟨_, rfl, LanFanned.v4 hproto hrange (slice_of_toLanMac hmac)
    (.inr ⟨hudp, hmcast, hdhcp⟩)⟩

/-- RSS handles IPv6 in one of two ways, which differ in how a reply goes. -/
theorem lanRss_v6 (steered : Bool) (env : DpEnv) (node : DpNode) (ccb : DpCcb)
    (hproto : pkt.nextProto = frameTypeIpv6) :
    ∃ handoff, lanRssFrame steered env node ccb pkt = lanIpv6 handoff false env node ccb pkt := by
  have harp : pkt.nextProto ≠ frameTypeArp := by
    rw [hproto]
    decide
  cases steered with
  | true => exact ⟨true, if_pos hproto⟩
  | false => exact ⟨false, (if_neg harp).trans (if_pos hproto)⟩

/-- Any frame of a subscriber. -/
theorem lanDistFrame_agrees (env : DpEnv) (hpkt : pkt.Received) (hroom : pkt.Roomy)
    (htag : pkt.buf.be16 (pkt.dataOff.toNat + 12) = vlanProto)
    (hblind : (node.ccb ccbId).forgetMacs = node.ccb ccbId) (hcard : LanSteered pkt steered) :
    LanAgrees steered env node ccbId pkt (lanDistFrame env node (node.ccb ccbId) pkt) := by
  have hctrl : pkt.nextProto ≠ frameTypeIp → pkt.nextProto ≠ frameTypeIpv6 →
      lanRssFrame steered = lanCtrlFrame := by
    intro hip hv6
    cases steered with
    | true => exact absurd (hcard.only rfl) fun h => h.elim (fun h => hip h.1) hv6
    | false => rfl
  unfold lanDistFrame
  by_cases harp : pkt.nextProto = frameTypeArp
  · rw [if_pos harp]
    refine lanAgrees_of_eq (lanArp_settled _) ?_
    rw [hctrl (by rw [harp]; decide) (by rw [harp]; decide)]
    unfold lanCtrlFrame
    rw [if_pos harp]
  rw [if_neg harp]
  by_cases hppp : pkt.nextProto = ethPPppDis ∨ pkt.nextProto = ethPPppSes
  · have hother : pkt.nextProto ≠ frameTypeIp ∧ pkt.nextProto ≠ frameTypeIpv6 := by
      rcases hppp with h | h
      all_goals
        rw [h]
        decide
    rw [if_pos hppp]
    refine lanAgrees_of_eq trivial ?_
    rw [hctrl hother.1 hother.2]
    unfold lanCtrlFrame
    rw [if_neg harp, if_neg hother.2, if_pos hppp]
  rw [if_neg hppp]
  by_cases hv6 : pkt.nextProto = frameTypeIpv6
  · rw [if_pos hv6]
    obtain ⟨handoff, hrss⟩ := lanRss_v6 steered env node (node.ccb ccbId) hv6
    rcases lanIpv6_spread env node (node.ccb ccbId) pkt with
      ⟨⟨tag, htag⟩, henabled, hforward⟩ | ⟨hsettled, hagree⟩
    · exact .inl ⟨tag, htag, LanFanned.v6 (node.ipv6Dp (node.ccb ccbId)) hv6 henabled rfl rfl
        hforward⟩
    · refine .inr ⟨hsettled, ?_⟩
      rw [hrss]
      exact hagree handoff
  rw [if_neg hv6]
  by_cases hip : pkt.nextProto = frameTypeIp
  · rw [if_pos hip, learnIp_forgetMacs hblind]
    by_cases hl4 : isL4 pkt.ip
    · rw [hcard.all hip hl4]
      exact lanDistIpv4_data hblind hip hl4
    · have hqueue : steered = false := by
        cases steered with
        | true => exact absurd (hcard.only rfl) fun h => h.elim (fun h => hl4 h.2) hv6
        | false => rfl
      refine .inr ?_
      have hrss : lanRssFrame steered env node (node.ccb ccbId) pkt =
          lanCtrlIpv4 env node (node.ccb ccbId) pkt := by
        rw [hqueue]
        show lanCtrlFrame env node (node.ccb ccbId) pkt = _
        unfold lanCtrlFrame
        rw [if_neg harp, if_neg hv6, if_neg hppp, if_pos hip, learnIp_forgetMacs hblind]
      rw [hrss]
      exact lanDistIpv4_ctrl hpkt hroom htag hl4 _
  rw [if_neg hip]
  refine lanAgrees_of_eq trivial ?_
  rw [hctrl hip hv6]
  unfold lanCtrlFrame
  rw [if_neg harp, if_neg hv6, if_neg hppp, if_neg hip]

/-- A worker does with a frame what the data queue would, by then. -/
theorem worker_agrees (env : DpEnv) {node : DpNode} (hblind : (node.ccb ccbId).forgetMacs =
      node.ccb ccbId) (hcard : LanSteered pkt steered) (h : LanFanned node.lanConf ccbId pkt) :
    (dpLanDistWorkerProcessPkt env node (node.ccb ccbId) pkt).1.plain =
        (lanRssFrame steered env node (node.ccb ccbId) pkt).1.plain ∧
      (dpLanDistWorkerProcessPkt env node (node.ccb ccbId) pkt).2 =
        (lanRssFrame steered env node (node.ccb ccbId) pkt).2 := by
  cases h with
  | v4 hproto hwan hmac hl4 =>
      have hv6 : pkt.nextProto ≠ frameTypeIpv6 := by
        rw [hproto]
        decide
      have hours : ¬ (!pkt.toLanMac node) = true := by
        have hmac' : pkt.buf.slice pkt.ethHdr 6 = macBytes node.hsiLanMac := hmac
        simp [Mbuf.toLanMac, hmac']
      have hwan' : ¬ isIpInRange (pkt.ip.le32 16) (node.ccb ccbId).dhcpServerIp
          (node.ccb ccbId).subnetMask = true := hwan
      have hqueue : steered = true := hcard.all hproto (hl4.elim .inl fun h => .inr h.1)
      have hrss : lanRssFrame steered env node (node.ccb ccbId) pkt =
          lanDataWan env node (node.ccb ccbId) pkt := by
        rw [hqueue]
        show lanDataFrame env node (node.ccb ccbId) pkt = _
        unfold lanDataFrame
        rw [if_neg hv6, if_neg (not_not.mpr hproto), if_neg hwan', learnIp_forgetMacs hblind]
      have hsame : dpLanDistWorkerProcessPkt env node (node.ccb ccbId) pkt =
          lanDataWan env node (node.ccb ccbId) pkt := by
        unfold dpLanDistWorkerProcessPkt lanDataWan
        simp only
        rcases hl4 with htcp | ⟨hudp, hmcast, hdhcp⟩
        · rw [if_neg hv6, if_pos htcp, if_pos htcp, if_neg hours]
        · have htcp : pkt.ip 9 ≠ ipprotoTcp := by
            rw [hudp]
            decide
          rw [if_neg hv6, if_neg htcp, if_neg htcp, if_pos hudp, if_pos hudp, if_neg hmcast,
            if_neg hdhcp, if_neg hours]
      rw [hrss, hsame]
      exact ⟨rfl, rfl⟩
  | v6 dp hproto henabled hmac hpfx hforward =>
      have henabled' : ¬ (!(node.ccb ccbId).ipv6Enabled) = true := by
        have henabled'' : (node.ccb ccbId).ipv6Enabled = true := henabled
        simp [henabled'']
      have hclassify := ipv6LanClassify_gate (node.ipv6Dp (node.ccb ccbId)) hforward
        hmac.symm hpfx.symm
      obtain ⟨handoff, hrss⟩ := lanRss_v6 steered env node (node.ccb ccbId) hproto
      have hsame : dpLanDistWorkerProcessPkt env node (node.ccb ccbId) pkt =
          lanIpv6 handoff false env node (node.ccb ccbId) pkt := by
        unfold dpLanDistWorkerProcessPkt lanIpv6
        simp only
        rw [if_pos hproto, if_neg henabled', hclassify]
        have hopen : (node.ipv6Dp (node.ccb ccbId)).gateOpen = (node.ccb ccbId).ipv6DpBool := rfl
        rw [hopen]
        cases (node.ccb ccbId).ipv6DpBool with
        | false => rfl
        | true => rfl
      rw [hrss, hsame]
      exact ⟨rfl, rfl⟩

end frames

end FastRG
