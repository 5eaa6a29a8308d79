/-
What becomes of one packet: the receive loops of `dp.c`, `parse_l2_hdr`, and what they call in
`dp_codec.h` and `dp_ipv6.h`.

A loop takes the packets of a burst one after the other.  Where it puts one is told as a `DpFate`,
with the bytes the packet has by then.  The tables it looks into and changes on the way are those
of the packet's subscriber.

Each mode of the data plane has loops of its own.  With RSS the card puts a packet on queue 0 or on
a data queue, and both have a loop; in distributor mode a port has one loop, which gives some
packets to workers.

The counters of packets are left out, and the branches under `TEST_MODE`.  The clock, checksums the
repository does not compute, and what the pools and hashes of DPDK answer are in `DpEnv`.
-/
import FastRG.DhcpWire
import FastRG.DnsCodec
import FastRG.DpIpv6
import FastRG.DpPackets
import FastRG.Mailbox
import FastRG.Northbound
import FastRG.PdumpCapture

namespace FastRG

/-! ### Constants -/

def frameTypeIp : BitVec 16 := 0x0800
def frameTypeArp : BitVec 16 := 0x0806
def pppIpProtocol : BitVec 16 := 0x0021
def ipprotoIgmp : BitVec 8 := 2
def arpOpRequest : BitVec 16 := 1
def arpOpReply : BitVec 16 := 2
def arpHrdEther : BitVec 16 := 1
def icmpUnreachable : BitVec 8 := 3
def icmpFragNeedDfSet : BitVec 8 := 4
def icmpUnreachDataPayloadLen : Nat := 8
def multicastTag : Nat := 4001

/-- `sizeof` of the headers that `insert_pppoes_hdr` puts in front. -/
def pppoesHdrLen : Nat := 26

/-! ### Data -/

/-- What the data plane uses of a subscriber's control blocks, `ppp_ccb_t` and `dhcp_ccb_t`.
`sessionId` and the addresses are as they lie in memory. -/
structure DpCcb where
  nat : NatCcb
  firewall : Ipv6FirewallCcb
  macTable : Option MacTable
  nd6Table : Nd6Table
  nd6MissLastCycles : BitVec 64
  pppBool : Bool
  dpStartBool : Bool
  ipv6DpBool : Bool
  ipv6Enabled : Bool
  vlanId : BitVec 16
  hsiIpv4 : BitVec 32
  hsiIpv6LanPrefix : BitVec 64
  pppDstMac : BitVec 48
  sessionId : BitVec 16
  dhcpBool : Bool
  dhcpServerIp : BitVec 32
  subnetMask : BitVec 32
  dnsProxyEnabled : Bool

/-- And of the node's. -/
structure DpNode where
  hsiLanMac : BitVec 48
  hsiWanSrcMac : BitVec 48
  i40e : Bool
  userCount : BitVec 16
  vlanUseridMap : Nat → BitVec 16
  ccb : Nat → DpCcb

/-- What is asked of the rest of the machine while one packet is handled. -/
structure DpEnv where
  hz : Nat
  now : Nat
  crc : BitVec 32 → BitVec 32 → BitVec 32
  crc1byte : BitVec 8 → BitVec 32 → BitVec 32
  rte : RteCksum
  rteRawCksum : Octets → Nat → BitVec 16
  icmp6Cksum : Octets → Nat → Nat → BitVec 16
  natChances : BitVec 16 → NatChance
  firewallChance : Ipv6FirewallChance
  /-- Whether the hash of MACs has a place for a new address. -/
  macRoom : Bool
  /-- What `rte_pktmbuf_alloc` gives. -/
  alloc : Option Mbuf
  /-- Whether the compare-and-exchange of `ipv6_neighbor_miss` succeeds. -/
  exchanged : Bool

/-- Where a packet goes. -/
inductive DpFate
  /-- `drop_packet`. -/
  | drop (port : Port)
  /-- Dropped by the function called, and once more by its caller. -/
  | dropTwice
  /-- `send2cp`. -/
  | toCp (type : DpType) (port : Port) (pkt : Mbuf)
  /-- Into the burst for the other port. -/
  | batch (pkt : Mbuf)
  /-- Sent at once and alone, on the loop's own queue of that port. -/
  | tx (port : Port) (pkt : Mbuf)
  /-- An ARP reply: what waits for it is drained, and it is freed. -/
  | drainArp (ip : BitVec 32) (mac : BitVec 48)
  /-- Another is sent to the LAN in its place, at once or over the ring of a data queue. -/
  | reply (handoff : Bool) (reply : Mbuf)
  /-- `arp_pending_enqueue`, and an ARP request is sent if there is a buffer for it. -/
  | hold (targetIp : BitVec 32) (pkt : Mbuf) (request : Option Mbuf)
  /-- To a worker, by this tag. -/
  | worker (tag : BitVec 32) (pkt : Mbuf)

/-- The view that the functions of `dp_ipv6.h` take. -/
def DpNode.ipv6Dp (node : DpNode) (ccb : DpCcb) : Ipv6Dp where
  hsiLanMac := node.hsiLanMac
  hsiWanSrcMac := node.hsiWanSrcMac
  pppDstMac := ccb.pppDstMac
  sessionId := ccb.sessionId
  hsiIpv6LanPrefix := ccb.hsiIpv6LanPrefix
  gateOpen := ccb.ipv6DpBool
  nd6Table := ccb.nd6Table

def DpNode.setCcb (node : DpNode) (ccbId : Nat) (ccb : DpCcb) : DpNode :=
  { node with ccb := Function.update node.ccb ccbId ccb }

/-! ### Fields of a frame -/

/-- The MAC at an offset. -/
def Mbuf.mac (pkt : Mbuf) (i : Nat) : BitVec 48 :=
  pkt.buf (i + 5) ++ pkt.buf (i + 4) ++ pkt.buf (i + 3) ++ pkt.buf (i + 2) ++ pkt.buf (i + 1) ++
    pkt.buf i

/-- `vlan_header->next_proto`, in host order. -/
def Mbuf.nextProto (pkt : Mbuf) : BitVec 16 := pkt.buf.be16 (pkt.vlanHdr + 2)

/-- `ppp_payload->ppp_protocol`, in host order. -/
def Mbuf.pppProtocol (pkt : Mbuf) : BitVec 16 := pkt.buf.be16 (pkt.ethHdr + ipv6L2Len + 6)

/-- The memory from the IPv4 header of a frame on. -/
def Mbuf.ip (pkt : Mbuf) : Octets := pkt.buf.beyond (pkt.ethHdr + ipv6L2Len)

def Mbuf.setIp (pkt : Mbuf) (ip : Octets) : Mbuf :=
  { pkt with buf := pkt.buf.putBeyond (pkt.ethHdr + ipv6L2Len) ip }

/-- The frame is addressed to the node. -/
def Mbuf.toLanMac (node : DpNode) (pkt : Mbuf) : Bool :=
  pkt.buf.slice pkt.ethHdr 6 = macBytes node.hsiLanMac

/-- `is_ip_in_range`. -/
def isIpInRange (ip gatewayIp subnetMask : BitVec 32) : Bool :=
  ip &&& subnetMask = gatewayIp &&& subnetMask

/-- `RTE_IS_IPV4_MCAST`, of an address as it lies in memory. -/
def rteIsIpv4Mcast (addr : BitVec 32) : Bool := addr.extractLsb' 0 8 &&& 0xf0 = 0xe0

/-- `parse_l2_hdr`: where the headers are, and the subscriber. -/
def parseL2Hdr (node : DpNode) (pkt : Mbuf) : Option (Mbuf × Nat) :=
  let ethHdr := pkt.dataOff.toNat
  let vlanHdr := ethHdr + etherHdrLen
  let vlanId := (pkt.buf.be16 vlanHdr).toNat % 4096
  if pkt.buf.be16 (ethHdr + 12) ≠ vlanProto then none
  else if vlanId < minVlanId ∨ maxVlanId < vlanId then none
  else
    let ccbId := (node.vlanUseridMap (vlanId - 1)).toNat
    if node.userCount.toNat ≤ ccbId then none
    else some ({ pkt with ethHdr, vlanHdr }, ccbId)

/-- `compute_flow_tag`. -/
def computeFlowTag (env : DpEnv) (ip : Octets) (proto : BitVec 8) : BitVec 32 :=
  let h := env.crc (ip.le32 12) 0
  let h := env.crc (ip.le32 16) h
  let h := env.crc ((ip.le16 20).setWidth 32 <<< 16 ||| (ip.le16 22).setWidth 32) h
  env.crc1byte proto h

/-- `compute_flow_tag6`; `rte_hash_crc` of 16 bytes is four words. -/
def computeFlowTag6 (env : DpEnv) (b : Octets) (ip6 : Nat) : BitVec 32 :=
  let h := [8, 12, 16, 20, 24, 28, 32, 36].foldl (fun h i => env.crc (b.le32 (ip6 + i)) h) 0
  let h := env.crc ((b.le16 (ip6 + 40)).setWidth 32 <<< 16 ||| (b.le16 (ip6 + 42)).setWidth 32) h
  env.crc1byte (b (ip6 + 6)) h

/-- `ipv6_flow_tag`. -/
def ipv6FlowTag (env : DpEnv) (b : Octets) (ip6 : Nat) : Option (BitVec 32) :=
  if b (ip6 + 6) ≠ ipprotoTcp ∧ b (ip6 + 6) ≠ ipprotoUdp then none
  else if (b.be16 (ip6 + 4)).toNat < 4 then none
  else some (computeFlowTag6 env b ip6)

/-! ### What the loops share -/

/-- `mac_table_learn`, if the address is one of the LAN's. -/
def DpCcb.learn (ccb : DpCcb) (env : DpEnv) (ip : BitVec 32) (mac : BitVec 48) : DpCcb :=
  if isIpInRange ip ccb.dhcpServerIp ccb.subnetMask then
    { ccb with macTable := ccb.macTable.map fun t => (macTableLearn t ip mac env.macRoom).2 }
  else ccb

/-- Learning from the IPv4 header of a frame. -/
def DpCcb.learnIp (ccb : DpCcb) (env : DpEnv) (pkt : Mbuf) : DpCcb :=
  ccb.learn env (pkt.ip.le32 12) (pkt.mac (pkt.ethHdr + 6))

/-- `encode_arp_request`. -/
def encodeArpRequest (srcMac : BitVec 48) (srcIp targetIp : BitVec 32) (vlanId : BitVec 16) :
    List (BitVec 8) :=
  macBytes 0xFFFFFFFFFFFF ++ macBytes srcMac ++ be16Bytes vlanProto ++
    be16Bytes vlanId ++ be16Bytes frameTypeArp ++
    be16Bytes arpHrdEther ++ be16Bytes frameTypeIp ++ [6, 4] ++ be16Bytes arpOpRequest ++
    macBytes srcMac ++ le32Bytes srcIp ++ macBytes 0 ++ le32Bytes targetIp

/-- `send_arp_request`, up to the burst. -/
def sendArpRequest (node : DpNode) (ccb : DpCcb) (targetIp : BitVec 32) (alloc : Option Mbuf) :
    Option Mbuf :=
  alloc.map fun m =>
    let frame := encodeArpRequest node.hsiLanMac ccb.dhcpServerIp targetIp ccb.vlanId
    { m with
      buf := m.buf.putBytes m.dataOff.toNat frame
      pktLen := BitVec.ofNat 32 frame.length
      dataLen := BitVec.ofNat 16 frame.length }

/-- `build_icmp_unreach`. -/
def buildIcmpUnreach (env : DpEnv) (node : DpNode) (ccb : DpCcb) (pkt reply : Mbuf) : Mbuf :=
  let out := reply.dataOff.toNat
  let ip := pkt.ip
  let newIp := out + ipv6L2Len
  let icmp := newIp + 20
  let origDataLen :=
    if (ip.be16 2).toNat < 20 then icmpUnreachDataPayloadLen
    else min ((ip.be16 2).toNat - 20) icmpUnreachDataPayloadLen
  let b := reply.buf.putBytes out (pkt.buf.slice (pkt.ethHdr + 6) 6)
  let b := b.putBytes (out + 6) (macBytes node.hsiLanMac)
  let b := b.putBytes (out + 12) (be16Bytes vlanProto)
  let b := b.putBytes (out + 14) (pkt.buf.slice pkt.vlanHdr 4)
  let b := b.putBytes newIp (ip.slice 0 20)
  let b := b.put32 (newIp + 16) (ip.le32 12)
  let b := b.put32 (newIp + 12) ccb.dhcpServerIp
  let b := b.put16 (newIp + 4) 0
  let b := b.put8 (newIp + 9) ipprotoIcmp
  let b := b.put8 icmp icmpUnreachable
  let b := b.put8 (icmp + 1) icmpFragNeedDfSet
  let b := b.put16 (icmp + 4) 0
  let b := b.putBytes (icmp + 6) (be16Bytes (BitVec.ofNat 16 (ethMtu - 20 - 4 - 6 - 2)))
  let b := b.putBytes (icmp + 8) (ip.slice 0 (20 + origDataLen))
  let b := b.putBytes (newIp + 2) (be16Bytes (BitVec.ofNat 16 (20 + 8 + 20 + 8)))
  let b := b.put16 (icmp + 2) 0
  let b := b.put16 (icmp + 2) (~~~env.rteRawCksum (b.beyond icmp) (8 + 20 + 8))
  let b := b.put16 (newIp + 10) 0
  let b := b.put16 (newIp + 10) (env.rte.ipv4Cksum (b.beyond newIp))
  { reply with buf := b, pktLen := 56 + 18, dataLen := 56 + 18 }

/-! ### To the WAN -/

/-- `rte_pktmbuf_adj`, of the headers of layer 2. -/
def Mbuf.adjL2 (pkt : Mbuf) : Mbuf :=
  { pkt with
    dataOff := pkt.dataOff + BitVec.ofNat 16 ipv6L2Len
    pktLen := pkt.pktLen - BitVec.ofNat 32 ipv6L2Len
    dataLen := pkt.dataLen - BitVec.ofNat 16 ipv6L2Len }

/-- `insert_pppoes_hdr`, with the room that `rte_pktmbuf_prepend` needs. -/
def putPppoesHdr (node : DpNode) (ccb : DpCcb) (vlanHdrTci : BitVec 16) (pkt : Mbuf) :
    Option Mbuf :=
  if pkt.dataOff.toNat < pppoesHdrLen then none
  else
    let dataLen := pkt.dataLen + BitVec.ofNat 16 pppoesHdrLen
    let ethHdr := pkt.dataOff.toNat - pppoesHdrLen
    let vlanHdr := ethHdr + etherHdrLen
    let pppoeHdr := vlanHdr + 4
    let b := pkt.buf.putBytes (ethHdr + 6) (macBytes node.hsiWanSrcMac)
    let b := b.putBytes ethHdr (macBytes ccb.pppDstMac)
    let b := b.putBytes (ethHdr + 12) (be16Bytes vlanProto)
    let b := b.putBytes vlanHdr (le16Bytes vlanHdrTci)
    let b := b.putBytes (vlanHdr + 2) (be16Bytes ethPPppSes)
    let b := b.putBytes pppoeHdr [verType]
    let b := b.putBytes (pppoeHdr + 1) [0]
    let b := b.putBytes (pppoeHdr + 2) (le16Bytes ccb.sessionId)
    let b := b.putBytes (pppoeHdr + 4) (be16Bytes (dataLen - BitVec.ofNat 16 (14 + 4 + 6)))
    let b := b.putBytes (pppoeHdr + 6) (be16Bytes pppIpProtocol)
    some { pkt with
      buf := b
      dataOff := pkt.dataOff - BitVec.ofNat 16 pppoesHdrLen
      pktLen := pkt.pktLen + BitVec.ofNat 32 pppoesHdrLen
      dataLen }

/-- `encaps_udp` and `encaps_tcp`, of a packet whose headers of layer 2 are cut off. -/
def encapsL4Pkt (hdrOf : Octets → L4Hdr) (cksumAt : Nat) (env : DpEnv) (node : DpNode) (ccb : DpCcb)
    (pkt : Mbuf) : DpFate × DpCcb :=
  if pkt.pktLen.toNat > pppoeMtu then
    match env.alloc with
    | none => (.drop .lan, ccb)
    | some reply => (.reply true (buildIcmpUnreach env node ccb pkt reply), ccb)
  else
    match encapsL4 hdrOf cksumAt env.crc env.hz env.now env.natChances env.rte true ccb.hsiIpv4
        pkt.pktLen.toNat ccb.nat (pkt.mac (pkt.ethHdr + 6)) pkt.ip with
    | (none, nat) => (.drop .lan, { ccb with nat })
    | (some ip, nat) =>
        match putPppoesHdr node ccb (pkt.buf.le16 pkt.vlanHdr) (pkt.setIp ip) with
        | none => (.drop .lan, { ccb with nat })
        | some pkt => (.batch pkt, { ccb with nat })

def encapsUdpPkt := encapsL4Pkt rteUdpHdr 26
def encapsTcpPkt := encapsL4Pkt rteTcpHdr 36

/-- `encaps_icmp` as `lan_ctrl_rx` calls it: what it drops is dropped by the caller too. -/
def encapsIcmpPkt (env : DpEnv) (node : DpNode) (ccb : DpCcb) (pkt : Mbuf) : DpFate × DpCcb :=
  match encapsIcmp env.crc env.hz env.now env.natChances env.rte true ccb.hsiIpv4 ccb.nat
      (pkt.mac (pkt.ethHdr + 6)) pkt.ip with
  | (none, nat) => (.dropTwice, { ccb with nat })
  | (some ip, nat) =>
      match putPppoesHdr node ccb (pkt.buf.le16 pkt.vlanHdr) (pkt.setIp ip) with
      | none => (.dropTwice, { ccb with nat })
      | some pkt => (.batch pkt, { ccb with nat })

/-- The headers of layer 2 move to make room for a PPPoE header: the end of ICMP in
`lan_dist_rx`. -/
def moveForPppoe (node : DpNode) (ccb : DpCcb) (pkt : Mbuf) : Mbuf :=
  let ethHdr := pkt.ethHdr
  let vlanHdr := pkt.vlanHdr
  let cur := ethHdr - ipv6PppoeHdrLen
  let pppoeHdr := cur + ipv6L2Len
  let b := pkt.buf.putBytes (ethHdr + 6) (macBytes node.hsiWanSrcMac)
  let b := b.putBytes ethHdr (macBytes ccb.pppDstMac)
  let b := b.putBytes (vlanHdr + 2) (be16Bytes ethPPppSes)
  let b := b.copy cur ethHdr etherHdrLen
  let b := b.copy (cur + etherHdrLen) vlanHdr 4
  let b := b.putBytes pppoeHdr [verType]
  let b := b.putBytes (pppoeHdr + 1) [0]
  let b := b.putBytes (pppoeHdr + 2) (le16Bytes ccb.sessionId)
  let b := b.putBytes (pppoeHdr + 4)
    (be16Bytes ((pkt.pktLen - BitVec.ofNat 32 ipv6L2Len + 2).setWidth 16))
  let b := b.putBytes (pppoeHdr + 6) (be16Bytes pppIpProtocol)
  { pkt with
    buf := b
    dataOff := pkt.dataOff - BitVec.ofNat 16 ipv6PppoeHdrLen
    pktLen := pkt.pktLen + BitVec.ofNat 32 ipv6PppoeHdrLen
    dataLen := pkt.dataLen + BitVec.ofNat 16 ipv6PppoeHdrLen }

/-- ICMP for the WAN in `lan_dist_rx`, where the code of `encaps_icmp` stands inline. -/
def lanDistIcmpPkt (env : DpEnv) (node : DpNode) (ccb : DpCcb) (pkt : Mbuf) : DpFate × DpCcb :=
  match lanDistRxIcmp env.crc env.hz env.now env.natChances env.rte ccb.hsiIpv4 ccb.nat
      (pkt.mac (pkt.ethHdr + 6)) pkt.ip with
  | (none, nat) => (.drop .lan, { ccb with nat })
  | (some ip, nat) => (.batch (moveForPppoe node ccb (pkt.setIp ip)), { ccb with nat })

/-- `ipv6_firewall_lan_to_wan_encap`. -/
def ipv6FirewallLanToWanEncap (env : DpEnv) (node : DpNode) (ccb : DpCcb) (pkt : Mbuf) :
    Mbuf × DpCcb :=
  (ipv6LanToWanEncap (node.ipv6Dp ccb) pkt,
    { ccb with
      firewall := (ipv6FirewallLearn env.hz env.now env.firewallChance ccb.firewall pkt.buf
        (pkt.ethHdr + ipv6L2Len)).val })

/-! ### The LAN port -/

/-- The answer to an ARP request, in place. -/
def Mbuf.arpReply (node : DpNode) (ccb : DpCcb) (pkt : Mbuf) : Mbuf :=
  let arp := pkt.ethHdr + ipv6L2Len
  let b := pkt.buf.putBytes pkt.ethHdr (pkt.buf.slice (pkt.ethHdr + 6) 6)
  let b := b.putBytes (pkt.ethHdr + 6) (macBytes node.hsiLanMac)
  let b := b.putBytes (arp + 18) (b.slice (arp + 8) 6)
  let b := b.putBytes (arp + 8) (macBytes node.hsiLanMac)
  let b := b.put32 (arp + 24) (b.le32 (arp + 14))
  let b := b.put32 (arp + 14) ccb.dhcpServerIp
  let b := b.putBytes (arp + 6) (be16Bytes arpOpReply)
  { pkt with buf := b }

/-- ARP, in `lan_ctrl_rx` and `lan_dist_rx`. -/
def lanArp (env : DpEnv) (node : DpNode) (ccb : DpCcb) (pkt : Mbuf) : DpFate × DpCcb :=
  let arp := pkt.ethHdr + ipv6L2Len
  let opcode := pkt.buf.be16 (arp + 6)
  let sip := pkt.buf.le32 (arp + 14)
  let tip := pkt.buf.le32 (arp + 24)
  let ccb := ccb.learn env sip (pkt.mac (arp + 8))
  if opcode = arpOpRequest ∧ tip = ccb.dhcpServerIp then (.tx .lan (pkt.arpReply node ccb), ccb)
  else if opcode = arpOpReply ∧ tip = ccb.dhcpServerIp then
    (.drainArp sip (pkt.mac (arp + 8)), ccb)
  else (.tx .wan pkt, ccb)

/-- IPv6, in the loops of the LAN port: whether a reply is handed over, and whether TCP and UDP are
left to workers. -/
def lanIpv6 (handoff spread : Bool) (env : DpEnv) (node : DpNode) (ccb : DpCcb) (pkt : Mbuf) :
    DpFate × DpCcb :=
  let ip6 := pkt.ethHdr + ipv6L2Len
  if !ccb.ipv6Enabled then (.drop .lan, ccb)
  else
    match ipv6LanClassify (node.ipv6Dp ccb) pkt.buf pkt.ethHdr ip6 pkt.pktLen with
    | .drop => (.drop .lan, ccb)
    | .toCp => (.toCp .icmp6 .lan pkt, ccb)
    | .passthrough => (.batch pkt, ccb)
    | .tooBig =>
        match buildIpv6PacketTooBigReply env.icmp6Cksum (node.ipv6Dp ccb) pkt env.alloc with
        | none => (.drop .lan, ccb)
        | some reply => (.reply handoff reply, ccb)
    | .forward =>
        match if spread then ipv6FlowTag env pkt.buf ip6 else none with
        | some tag => (.worker tag pkt, ccb)
        | none =>
            let (pkt, ccb) := ipv6FirewallLanToWanEncap env node ccb pkt
            (.batch pkt, ccb)

/-- ICMP to the subnet of the gateway, in `lan_ctrl_rx` and `lan_dist_rx`. -/
def lanGatewayIcmp (node : DpNode) (ccb : DpCcb) (pkt : Mbuf) : DpFate :=
  if pkt.ip.le32 16 = ccb.dhcpServerIp then
    match gatewayEcho ccb.dhcpServerIp pkt.ip with
    | none => .drop .lan
    | some ip =>
        let b := pkt.buf.putBytes pkt.ethHdr (pkt.buf.slice (pkt.ethHdr + 6) 6)
        let b := b.putBytes (pkt.ethHdr + 6) (macBytes node.hsiLanMac)
        .tx .lan (Mbuf.setIp { pkt with buf := b } ip)
  else .tx .lan pkt

/-- IPv4 in `lan_ctrl_rx`, when its sender has been learned. -/
def lanCtrlIpv4 (env : DpEnv) (node : DpNode) (ccb : DpCcb) (pkt : Mbuf) : DpFate × DpCcb :=
  let proto := pkt.ip 9
  if isIpInRange (pkt.ip.le32 16) ccb.dhcpServerIp ccb.subnetMask then
    if proto = ipprotoIcmp then (lanGatewayIcmp node ccb pkt, ccb) else (.drop .lan, ccb)
  else if proto = ipprotoIcmp then
    if !pkt.toLanMac node then (.batch pkt, ccb)
    else if !ccb.dpStartBool then (.drop .lan, ccb)
    else encapsIcmpPkt env node ccb pkt.adjL2
  else if proto = ipprotoIgmp then (.batch pkt, ccb)
  else (.drop .lan, ccb)

/-- `lan_ctrl_rx`, from a frame whose subscriber is known. -/
def lanCtrlFrame (env : DpEnv) (node : DpNode) (ccb : DpCcb) (pkt : Mbuf) : DpFate × DpCcb :=
  if pkt.nextProto = frameTypeArp then lanArp env node ccb pkt
  else if pkt.nextProto = frameTypeIpv6 then lanIpv6 false false env node ccb pkt
  else if pkt.nextProto = ethPPppDis ∨ pkt.nextProto = ethPPppSes then (.batch pkt, ccb)
  else if pkt.nextProto = frameTypeIp then lanCtrlIpv4 env node (ccb.learnIp env pkt) pkt
  else (.drop .lan, ccb)

/-- DHCP in the loops of the LAN port. -/
def lanDhcp (ccb : DpCcb) (pkt : Mbuf) : DpFate :=
  if ccb.dhcpBool then .toCp .dhcp .lan pkt else .drop .lan

/-- TCP and UDP to the subnet of the gateway: DHCP and DNS. -/
def lanGatewayL4 (ccb : DpCcb) (pkt : Mbuf) : DpFate :=
  let proto := pkt.ip 9
  if proto = ipprotoUdp ∧ pkt.ip.be16 22 = dhcpServerPort then lanDhcp ccb pkt
  else if (proto = ipprotoUdp ∨ proto = ipprotoTcp) ∧ pkt.ip.be16 22 = dnsPort then
    if ccb.dnsProxyEnabled then .toCp .dns .lan pkt else .drop .lan
  else .drop .lan

/-- IPv4 for the WAN in `lan_data_rx`, when its sender has been learned. -/
def lanDataWan (env : DpEnv) (node : DpNode) (ccb : DpCcb) (pkt : Mbuf) : DpFate × DpCcb :=
  let proto := pkt.ip 9
  if proto = ipprotoTcp then
    if !pkt.toLanMac node then (.batch pkt, ccb)
    else if !ccb.dpStartBool then (.drop .lan, ccb)
    else encapsTcpPkt env node ccb pkt.adjL2
  else if proto = ipprotoUdp then
    if rteIsIpv4Mcast (pkt.ip.le32 16) then (.drop .lan, ccb)
    else if pkt.ip.be16 22 = dhcpServerPort then (lanDhcp ccb pkt, ccb)
    else if !pkt.toLanMac node then (.batch pkt, ccb)
    else if !ccb.dpStartBool then (.drop .lan, ccb)
    else encapsUdpPkt env node ccb pkt.adjL2
  else (.drop .lan, ccb)

/-- `lan_data_rx`, from a frame whose subscriber is known. -/
def lanDataFrame (env : DpEnv) (node : DpNode) (ccb : DpCcb) (pkt : Mbuf) : DpFate × DpCcb :=
  if pkt.nextProto = frameTypeIpv6 then lanIpv6 true false env node ccb pkt
  else if pkt.nextProto ≠ frameTypeIp then (.drop .lan, ccb)
  else if isIpInRange (pkt.ip.le32 16) ccb.dhcpServerIp ccb.subnetMask then
    (lanGatewayL4 ccb pkt, ccb)
  else lanDataWan env node (ccb.learnIp env pkt) pkt

/-- IPv4 in `lan_dist_rx`, when its sender has been learned. -/
def lanDistIpv4 (env : DpEnv) (node : DpNode) (ccb : DpCcb) (pkt : Mbuf) : DpFate × DpCcb :=
  let proto := pkt.ip 9
  if isIpInRange (pkt.ip.le32 16) ccb.dhcpServerIp ccb.subnetMask then
    if proto = ipprotoIcmp then (lanGatewayIcmp node ccb pkt, ccb) else (lanGatewayL4 ccb pkt, ccb)
  else if proto = ipprotoIcmp then
    if !pkt.toLanMac node then (.batch pkt, ccb)
    else if !ccb.dpStartBool then (.drop .lan, ccb)
    else lanDistIcmpPkt env node ccb pkt
  else if proto = ipprotoTcp then
    if !pkt.toLanMac node then (.batch pkt, ccb)
    else if !ccb.dpStartBool then (.drop .lan, ccb)
    else (.worker (computeFlowTag env pkt.ip ipprotoTcp) pkt, ccb)
  else if proto = ipprotoUdp then
    if rteIsIpv4Mcast (pkt.ip.le32 16) then (.drop .lan, ccb)
    else if pkt.ip.be16 22 = dhcpServerPort then (lanDhcp ccb pkt, ccb)
    else if !pkt.toLanMac node then (.batch pkt, ccb)
    else if !ccb.dpStartBool then (.drop .lan, ccb)
    else (.worker (computeFlowTag env pkt.ip ipprotoUdp) pkt, ccb)
  else if proto = ipprotoIgmp then (.batch pkt, ccb)
  else (.drop .lan, ccb)

/-- `lan_dist_rx`, from a frame whose subscriber is known. -/
def lanDistFrame (env : DpEnv) (node : DpNode) (ccb : DpCcb) (pkt : Mbuf) : DpFate × DpCcb :=
  if pkt.nextProto = frameTypeArp then lanArp env node ccb pkt
  else if pkt.nextProto = ethPPppDis ∨ pkt.nextProto = ethPPppSes then (.batch pkt, ccb)
  else if pkt.nextProto = frameTypeIpv6 then lanIpv6 false true env node ccb pkt
  else if pkt.nextProto = frameTypeIp then lanDistIpv4 env node (ccb.learnIp env pkt) pkt
  else (.drop .lan, ccb)

/-- `dp_lan_dist_worker_process_pkt`. -/
def dpLanDistWorkerProcessPkt (env : DpEnv) (node : DpNode) (ccb : DpCcb) (pkt : Mbuf) :
    DpFate × DpCcb :=
  if pkt.nextProto = frameTypeIpv6 then
    if !ccb.ipv6DpBool then (.drop .lan, ccb)
    else
      let (pkt, ccb) := ipv6FirewallLanToWanEncap env node ccb pkt
      (.batch pkt, ccb)
  else if !ccb.dpStartBool then (.drop .lan, ccb)
  else if pkt.ip 9 = ipprotoTcp then encapsTcpPkt env node ccb pkt.adjL2
  else if pkt.ip 9 = ipprotoUdp then encapsUdpPkt env node ccb pkt.adjL2
  else (.drop .lan, ccb)

/-! ### The WAN port -/

/-- `is_iptv_pkt_need_drop`. -/
def isIptvPktNeedDrop (pkt : Mbuf) : Bool :=
  let ip := pkt.ip
  if pkt.nextProto = frameTypeIp then
    if ip 9 = ipprotoUdp then
      let vlanId := (pkt.buf.be16 pkt.vlanHdr).toNat % 4096
      if vlanId = multicastTag ∨ ip.le32 16 &&& 0xff = 10 then false
      else if 8 + 20 < (ip.be16 2).toNat ∧ ip.be16 22 = dhcpClientPort then false
      else true
    else ip 9 ≠ ipprotoIgmp
  else true

/-- A frame that is not of PPPoE, in `wan_ctrl_rx` and `wan_dist_rx`. -/
def wanIptv (pkt : Mbuf) : DpFate := if isIptvPktNeedDrop pkt then .drop .wan else .batch pkt

/-- The control protocols of PPP. -/
def isPppControl (proto : BitVec 16) : Bool :=
  proto = lcpProtocol ∨ proto = papProtocol ∨ proto = chapProtocol ∨ proto = ipcpProtocol ∨
    proto = mplscpProtocol ∨ proto = ipv6cpProtocol

/-- To the PPP daemon, if the subscriber has one running. -/
def wanToPppd (ccb : DpCcb) (pkt : Mbuf) : DpFate :=
  if ccb.pppBool then .toCp .pppoe .wan pkt else .drop .wan

/-- `ipv6_neighbor_miss`. -/
def ipv6NeighborMiss (env : DpEnv) (ccb : DpCcb) (pkt : Mbuf) : DpFate × DpCcb :=
  let now : BitVec 64 := BitVec.ofNat 64 env.now
  if (now - ccb.nd6MissLastCycles).toNat < env.hz ∨ !env.exchanged then (.drop .wan, ccb)
  else (.toCp .nd6Miss .wan pkt, { ccb with nd6MissLastCycles := now })

/-- `ipv6_firewall_wan_to_lan_forward`, and what every caller does with what it returns. -/
def ipv6FirewallWanToLanForward (env : DpEnv) (node : DpNode) (ccb : DpCcb) (pkt : Mbuf) :
    DpFate × DpCcb :=
  let (pass, firewall) := (ipv6FirewallInboundPass env.hz env.now ccb.firewall pkt.buf
    (pkt.ethHdr + ipv6L2Len + ipv6PppoeHdrLen)).val
  let ccb := { ccb with firewall }
  if !pass then (.drop .wan, ccb)
  else
    match ipv6WanToLanForward (node.ipv6Dp ccb) pkt with
    | (.ok, pkt) => (.batch pkt, ccb)
    | (.neighborMiss, pkt) => ipv6NeighborMiss env ccb pkt
    | (.hopLimit, _) => (.drop .wan, ccb)

/-- IPv6 session data in the loops of the WAN port. -/
def wanIpv6 (spread : Bool) (env : DpEnv) (node : DpNode) (ccb : DpCcb) (pkt : Mbuf) :
    DpFate × DpCcb :=
  let ip6 := pkt.ethHdr + ipv6L2Len + ipv6PppoeHdrLen
  let verdict :=
    if ccb.ipv6DpBool then ipv6WanClassify (node.ipv6Dp ccb) pkt.buf ip6 pkt.pktLen else .toCp
  match verdict with
  | .toCp => (wanToPppd ccb pkt, ccb)
  | .drop => (.drop .wan, ccb)
  | .forward =>
      match if spread then ipv6FlowTag env pkt.buf ip6 else none with
      | some tag => (.worker tag pkt, ccb)
      | none => ipv6FirewallWanToLanForward env node ccb pkt

/-- The PPPoE header is taken off: the headers before it move on, from copies. -/
def stripPppoe (pkt : Mbuf) : Mbuf :=
  let b := pkt.buf.putBytes (pkt.vlanHdr + 2) (be16Bytes frameTypeIp)
  let tmpEthHdr := b.slice pkt.ethHdr etherHdrLen
  let tmpVlanHeader := b.slice pkt.vlanHdr 4
  let b := b.putBytes (pkt.ethHdr + ipv6PppoeHdrLen) tmpEthHdr
  let b := b.putBytes (pkt.vlanHdr + ipv6PppoeHdrLen) tmpVlanHeader
  { buf := b
    dataOff := pkt.dataOff + BitVec.ofNat 16 ipv6PppoeHdrLen
    pktLen := pkt.pktLen - BitVec.ofNat 32 ipv6PppoeHdrLen
    dataLen := pkt.dataLen - BitVec.ofNat 16 ipv6PppoeHdrLen
    ethHdr := pkt.ethHdr + ipv6PppoeHdrLen
    vlanHdr := pkt.ethHdr + ipv6PppoeHdrLen + etherHdrLen }

/-- The addresses of layer 2 on the way to the LAN. -/
def Mbuf.readdressed (pkt : Mbuf) (srcMac : BitVec 48) (dstMac : Option (BitVec 48)) : Mbuf :=
  let b := pkt.buf.putBytes (pkt.ethHdr + 6) (macBytes srcMac)
  match dstMac with
  | none => { pkt with buf := b }
  | some mac => { pkt with buf := b.putBytes pkt.ethHdr (macBytes mac) }

/-- `ip_hdr->hdr_checksum = 0`. -/
def Mbuf.clearIpCksum (pkt : Mbuf) : Mbuf := pkt.setIp (pkt.ip.put16 10 0)

/-- `decaps_udp` and `decaps_tcp`; the checksum of the header has been set to zero. -/
def decapsL4Pkt (hdrOf : Octets → L4Hdr) (cksumAt : Nat) (env : DpEnv) (node : DpNode) (ccb : DpCcb)
    (pkt : Mbuf) : DpFate × DpCcb :=
  let ip := pkt.ip
  match decaps env.hz env.now ccb.macTable ccb.nat (rteIpv4Hdr ip) (hdrOf ip) with
  | (.drop, nat) => (.drop .wan, { ccb with nat })
  | (.forward mac dstAddr dstPort, nat) =>
      (.batch ((pkt.readdressed node.hsiLanMac (some mac)).setIp
        (decapsWrite env.rte cksumAt dstAddr dstPort ip)), { ccb with nat })
  | (.hold dstAddr dstPort, nat) =>
      (.hold dstAddr ((pkt.readdressed node.hsiLanMac none).setIp
        (decapsWrite env.rte cksumAt dstAddr dstPort ip))
        (sendArpRequest node ccb dstAddr env.alloc), { ccb with nat })

def decapsUdpPkt := decapsL4Pkt rteUdpHdr 26
def decapsTcpPkt := decapsL4Pkt rteTcpHdr 36

/-- `decaps_icmp`. -/
def decapsIcmpPkt (env : DpEnv) (node : DpNode) (ccb : DpCcb) (pkt : Mbuf) : DpFate × DpCcb :=
  match decapsIcmp env.hz env.now ccb.nat (rteIpv4Hdr pkt.ip) (rteIcmpHdr pkt.ip) with
  | (.forward mac srcIp srcPort, nat) =>
      (.batch ((pkt.readdressed node.hsiLanMac (some mac)).setIp
        (decapsIcmpWrite env.rte srcIp srcPort pkt.ip)), { ccb with nat })
  | (_, nat) => (.drop .wan, { ccb with nat })

/-- A packet of UDP from the WAN: a DNS answer goes to the proxy if it is enabled. -/
def wanIsDnsAnswer (ccb : DpCcb) (pkt : Mbuf) : Bool :=
  pkt.ip.be16 20 = dnsPort ∧ ccb.dnsProxyEnabled

/-- `wan_ctrl_rx`, from a frame whose subscriber is known. -/
def wanCtrlFrame (env : DpEnv) (node : DpNode) (ccb : DpCcb) (pkt : Mbuf) : DpFate × DpCcb :=
  if pkt.nextProto ≠ ethPPppSes ∧ pkt.nextProto ≠ ethPPppDis then (wanIptv pkt, ccb)
  else if pkt.nextProto = ethPPppDis ∨ isPppControl pkt.pppProtocol then (wanToPppd ccb pkt, ccb)
  else if pkt.pppProtocol = pppIpv6Protocol then wanIpv6 false env node ccb pkt
  else if !ccb.dpStartBool then (.drop .wan, ccb)
  else
    let pkt := stripPppoe pkt
    if pkt.ip 9 = ipprotoIcmp then decapsIcmpPkt env node ccb pkt else (.drop .wan, ccb)

/-- `wan_data_rx`, from a frame whose subscriber is known. -/
def wanDataFrame (env : DpEnv) (node : DpNode) (ccb : DpCcb) (pkt : Mbuf) : DpFate × DpCcb :=
  if pkt.pppProtocol = pppIpv6Protocol then wanIpv6 false env node ccb pkt
  else if !ccb.dpStartBool then (.drop .wan, ccb)
  else
    let pkt := (stripPppoe pkt).clearIpCksum
    if pkt.ip 9 = ipprotoUdp then
      if wanIsDnsAnswer ccb pkt then (.toCp .dns .wan pkt, ccb) else decapsUdpPkt env node ccb pkt
    else if pkt.ip 9 = ipprotoTcp then decapsTcpPkt env node ccb pkt
    else if node.i40e ∧ pkt.ip 9 = ipprotoIcmp then decapsIcmpPkt env node ccb pkt
    else (.drop .wan, ccb)

/-- `wan_dist_rx`, from a frame whose subscriber is known. -/
def wanDistFrame (env : DpEnv) (node : DpNode) (ccb : DpCcb) (pkt : Mbuf) : DpFate × DpCcb :=
  if pkt.nextProto ≠ ethPPppSes ∧ pkt.nextProto ≠ ethPPppDis then (wanIptv pkt, ccb)
  else if pkt.nextProto = ethPPppDis ∨ isPppControl pkt.pppProtocol then (wanToPppd ccb pkt, ccb)
  else if pkt.pppProtocol = pppIpv6Protocol then wanIpv6 true env node ccb pkt
  else if !ccb.dpStartBool then (.drop .wan, ccb)
  else
    let pkt := stripPppoe pkt
    if pkt.ip 9 = ipprotoIcmp then decapsIcmpPkt env node ccb pkt
    else if pkt.ip 9 = ipprotoUdp then
      if wanIsDnsAnswer ccb pkt then (.toCp .dns .wan pkt, ccb)
      else (.worker (computeFlowTag env pkt.ip ipprotoUdp) pkt, ccb)
    else if pkt.ip 9 = ipprotoTcp then
      (.worker (computeFlowTag env pkt.ip ipprotoTcp) pkt, ccb)
    else (.drop .wan, ccb)

/-- `dp_wan_dist_worker_process_pkt`. -/
def dpWanDistWorkerProcessPkt (env : DpEnv) (node : DpNode) (ccb : DpCcb) (pkt : Mbuf) :
    DpFate × DpCcb :=
  if pkt.nextProto = ethPPppSes then
    if !ccb.ipv6DpBool then (.drop .wan, ccb)
    else ipv6FirewallWanToLanForward env node ccb pkt
  else if !ccb.dpStartBool then (.drop .wan, ccb)
  else
    let pkt := pkt.clearIpCksum
    if pkt.ip 9 = ipprotoUdp then decapsUdpPkt env node ccb pkt
    else if pkt.ip 9 = ipprotoTcp then decapsTcpPkt env node ccb pkt
    else (.drop .wan, ccb)

/-! ### The loops, for one packet -/

/-- A frame without a subscriber is dropped. -/
def rxPkt (port : Port) (frame : DpEnv → DpNode → DpCcb → Mbuf → DpFate × DpCcb) (env : DpEnv)
    (node : DpNode) (pkt : Mbuf) : DpFate × Option Nat × DpNode :=
  match parseL2Hdr node pkt with
  | none => (.drop port, none, node)
  | some (pkt, ccbId) =>
      let (fate, ccb) := frame env node (node.ccb ccbId) pkt
      (fate, some ccbId, node.setCcb ccbId ccb)

def wanCtrlRx := rxPkt .wan wanCtrlFrame
def wanDataRx := rxPkt .wan wanDataFrame
def lanCtrlRx := rxPkt .lan lanCtrlFrame
def lanDataRx := rxPkt .lan lanDataFrame
def wanDistRx := rxPkt .wan wanDistFrame
def lanDistRx := rxPkt .lan lanDistFrame

end FastRG
