/-
The bytes of a packet as they are rewritten: the other half of `dp_codec.h`, and the places in
`dp.c` that do the same inline.

An IPv4 packet is memory that begins with its IP header.  What follows the header is looked for at a
fixed distance, as the code's `ip_hdr + 1`, whatever length the header states.  `DpCodec` and `Nat`
decide where a packet goes; here that is written into it, with the checksums.  The checksums of IP,
UDP and TCP are computed outside the repository and are parameters; the one of ICMP is adjusted in
place.
-/
import FastRG.DpCodec
import FastRG.Lib.Octets

namespace FastRG

/-- `rte_ipv4_cksum`, and `rte_ipv4_udptcp_cksum` with the distance of its header. -/
structure RteCksum where
  ipv4Cksum : Octets → BitVec 16
  ipv4UdptcpCksum : Octets → Nat → BitVec 16

/-! ### Fields

`rte_ipv4_hdr` states a length at 0 and 2, the protocol at 9, its checksum at 10 and the two
addresses at 12 and 16.  The headers after it begin at 20.
-/

def rteIpv4Hdr (m : Octets) : Ipv4Hdr := ⟨m 0, m.be16 2, m.le32 12, m.le32 16⟩

def rteIcmpHdr (m : Octets) : IcmpHdr := ⟨m 20, m.le16 24⟩

def rteUdpHdr (m : Octets) : L4Hdr := .udp (m.le16 20) (m.le16 22)

def rteTcpHdr (m : Octets) : L4Hdr :=
  .tcp ⟨m.le16 20, m.le16 22, m.be32 24, m.be32 28, m 32, m 33, m.be16 34⟩

/-- `insert_pppoes_hdr` needs room in front of the packet; without it the packet is dropped. -/
def insertPppoesHdr (headroom : Bool) (m : Octets) : Option Octets :=
  if headroom then some m else none

/-! ### UDP and TCP -/

/-- The longest packet that fits once the VLAN, PPPoE and PPP headers are added. -/
def pppoeMtu : Nat := 1500 - (4 + 6 + 2)

/-- What is written on the way out: the address, the port and both checksums, the one of UDP or TCP
at its place in the packet. -/
def encapsWrite (rte : RteCksum) (cksumAt : Nat) (hsiIpv4 : BitVec 32) (newPortId : BitVec 16)
    (m : Octets) : Octets :=
  let m := m.put32 12 hsiIpv4
  let m := m.put16 20 newPortId
  let m := m.put16 10 (rte.ipv4Cksum m)
  let m := m.put16 cksumAt 0
  m.put16 cksumAt (rte.ipv4UdptcpCksum m 20)

/-- The packet sent to the WAN.  One that is too long is answered with ICMP instead. -/
def encapsL4 (hdrOf : Octets → L4Hdr) (cksumAt : Nat) (crc : BitVec 32 → BitVec 32 → BitVec 32)
    (hz now : Nat) (chances : BitVec 16 → NatChance) (rte : RteCksum) (headroom : Bool)
    (hsiIpv4 : BitVec 32) (pktLen : Nat) (ccb : NatCcb) (srcMac : BitVec 48) (m : Octets) :
    Option Octets × NatCcb :=
  if pktLen > pppoeMtu then (none, ccb)
  else
    let m := m.put16 10 0
    let learned := natLearning crc hz now chances ccb srcMac (rteIpv4Hdr m) (hdrOf m)
    if learned.natPort = 0 then (none, learned.ccb)
    else (insertPppoesHdr headroom (encapsWrite rte cksumAt hsiIpv4 learned.natPort m), learned.ccb)

/-- `encaps_udp`. -/
def encapsUdp := encapsL4 rteUdpHdr 26

/-- `encaps_tcp`. -/
def encapsTcp := encapsL4 rteTcpHdr 36

/-- What is written on the way in. -/
def decapsWrite (rte : RteCksum) (cksumAt : Nat) (dstAddr : BitVec 32) (dstPort : BitVec 16)
    (m : Octets) : Octets :=
  let m := m.put32 16 dstAddr
  let m := m.put16 22 dstPort
  let m := m.put16 10 (rte.ipv4Cksum m)
  let m := m.put16 cksumAt 0
  m.put16 cksumAt (rte.ipv4UdptcpCksum m 20)

/-- The packet sent to the LAN, or held until its host's address is known.  The callers have set the
header's checksum to zero. -/
def decapsL4 (hdrOf : Octets → L4Hdr) (cksumAt : Nat) (hz now : Nat) (rte : RteCksum)
    (macTable : Option MacTable) (ccb : NatCcb) (m : Octets) : Option Octets × NatCcb :=
  let m := m.put16 10 0
  match decaps hz now macTable ccb (rteIpv4Hdr m) (hdrOf m) with
  | (.drop, ccb) => (none, ccb)
  | (.forward _ dstAddr dstPort, ccb) => (some (decapsWrite rte cksumAt dstAddr dstPort m), ccb)
  | (.hold dstAddr dstPort, ccb) => (some (decapsWrite rte cksumAt dstAddr dstPort m), ccb)

/-- `decaps_udp`, with the packet it sends. -/
def decapsUdpPacket := decapsL4 rteUdpHdr 26

/-- `decaps_tcp`, with the packet it sends. -/
def decapsTcpPacket := decapsL4 rteTcpHdr 36

/-! ### ICMP -/

/-- The checksum when an identifier takes the place of another, as `encaps_icmp` computes it. -/
def encapsIcmpCksum (icmpCksum oriIdent newPortId : BitVec 16) : BitVec 16 :=
  let icmpNewCksum : BitVec 32 :=
    icmpCksum.setWidth 32 + oriIdent.setWidth 32 - newPortId.setWidth 32
  let icmpNewCksum :=
    if icmpNewCksum >>> 16 ≠ 0 then (icmpNewCksum &&& 0xFFFF#32) + (icmpNewCksum >>> 16)
    else icmpNewCksum
  icmpNewCksum.setWidth 16

/-- What `encaps_icmp` writes for the port it was given. -/
def encapsIcmpWrite (rte : RteCksum) (hsiIpv4 : BitVec 32) (newPortId : BitVec 16) (m : Octets) :
    Octets :=
  let oriIdent := m.le16 24
  let m := m.put32 12 hsiIpv4
  let m := m.put16 24 newPortId
  let m := m.put16 10 0
  let m := m.put16 10 (rte.ipv4Cksum m)
  m.put16 22 (encapsIcmpCksum (m.le16 22) oriIdent newPortId)

/-- `encaps_icmp`. -/
def encapsIcmp (crc : BitVec 32 → BitVec 32 → BitVec 32) (hz now : Nat)
    (chances : BitVec 16 → NatChance) (rte : RteCksum) (headroom : Bool) (hsiIpv4 : BitVec 32)
    (ccb : NatCcb) (srcMac : BitVec 48) (m : Octets) : Option Octets × NatCcb :=
  let learned := natIcmpLearning crc hz now chances ccb srcMac (rteIpv4Hdr m) (rteIcmpHdr m)
  if learned.natPort = 0 then (none, learned.ccb)
  else (insertPppoesHdr headroom (encapsIcmpWrite rte hsiIpv4 learned.natPort m), learned.ccb)

/-- The same inline in `lan_dist_rx`, which takes the room in front of the packet for granted. -/
def lanDistRxIcmp (crc : BitVec 32 → BitVec 32 → BitVec 32) (hz now : Nat)
    (chances : BitVec 16 → NatChance) (rte : RteCksum) (hsiIpv4 : BitVec 32) (ccb : NatCcb)
    (srcMac : BitVec 48) (m : Octets) : Option Octets × NatCcb :=
  let learned := natIcmpLearning crc hz now chances ccb srcMac (rteIpv4Hdr m) (rteIcmpHdr m)
  if learned.natPort = 0 then (none, learned.ccb)
  else (some (encapsIcmpWrite rte hsiIpv4 learned.natPort m), learned.ccb)

/-- The checksum on the way back, where the difference is taken first and with its sign. -/
def decapsIcmpCksum (icmpCksum icmpIdent srcPort : BitVec 16) : BitVec 16 :=
  let icmpCksumDiff : BitVec 32 := icmpIdent.setWidth 32 - srcPort.setWidth 32
  let icmpNewCksum := icmpCksumDiff + icmpCksum.setWidth 32
  let icmpNewCksum :=
    if icmpNewCksum >>> 16 ≠ 0 then (icmpNewCksum &&& 0xFFFF#32) + (icmpNewCksum >>> 16)
    else icmpNewCksum
  icmpNewCksum.setWidth 16

/-- What `decaps_icmp` writes for the mapping it found. -/
def decapsIcmpWrite (rte : RteCksum) (srcIp : BitVec 32) (srcPort : BitVec 16) (m : Octets) :
    Octets :=
  let icmpNewCksum := decapsIcmpCksum (m.le16 22) (m.le16 24) srcPort
  let m := m.put32 16 srcIp
  let m := m.put16 24 srcPort
  let m := m.put16 22 icmpNewCksum
  let m := m.put16 10 0
  m.put16 10 (rte.ipv4Cksum m)

/-- `decaps_icmp`, with the packet it sends to the LAN. -/
def decapsIcmpPacket (hz now : Nat) (rte : RteCksum) (ccb : NatCcb) (m : Octets) :
    Option Octets × NatCcb :=
  match decapsIcmp hz now ccb (rteIpv4Hdr m) (rteIcmpHdr m) with
  | (.forward _ srcIp srcPort, ccb) => (some (decapsIcmpWrite rte srcIp srcPort m), ccb)
  | (_, ccb) => (none, ccb)

/-- The checksum when the type goes from 8 to 0, as the gateway computes it for its own answers. -/
def gatewayEchoCksum (icmpCksum : BitVec 16) : BitVec 16 :=
  let cksum : BitVec 32 := ~~~(icmpCksum.setWidth 32) &&& 0xFFFF#32
  let cksum := cksum + (~~~((swap16 (8#16 <<< 8)).setWidth 32) &&& 0xFFFF#32)
  let cksum := cksum + (swap16 (0#16 <<< 8)).setWidth 32
  let cksum := (cksum &&& 0xFFFF#32) + (cksum >>> 16)
  let cksum := (cksum &&& 0xFFFF#32) + (cksum >>> 16)
  (~~~cksum).setWidth 16

/-- `lan_ctrl_rx` and `lan_dist_rx` on ICMP to the gateway: an echo request is answered in place. -/
def gatewayEcho (dhcpServerIp : BitVec 32) (m : Octets) : Option Octets :=
  if m 20 ≠ icmpEchoRequest then none
  else
    let m := m.put32 16 (m.le32 12)
    let m := m.put32 12 dhcpServerIp
    let m := m.put8 20 0
    some (m.put16 22 (gatewayEchoCksum (m.le16 22)))

end FastRG
