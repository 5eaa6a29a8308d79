/-
IPv6 between the LAN and the WAN: `dp_ipv6.h`.

A frame lies in the memory of its mbuf, and what is written goes there, in the order of the source:
where a header is moved, loads and stores overlap as they do.  The lengths and the offset are the
mbuf's words.  A pointer into the memory is an offset.

The counters of packets are left out.  The checksum of a reply is an argument, a function of the
memory, and so is the mbuf the pool gives for it, whose memory may hold anything.
-/
import FastRG.Ipv6Firewall
import FastRG.Lib.Blocks
import FastRG.Nd6
import FastRG.PppEncode

namespace FastRG

/-! ### Sizes -/

def etherHdrLen : Nat := 14

/-- `IPV6_L2_LEN`. -/
def ipv6L2Len : Nat := 18

/-- `IPV6_PPPOE_HDR_LEN`. -/
def ipv6PppoeHdrLen : Nat := 8

def ipv6PppoeMtu : Nat := ethMtu - ipv6PppoeHdrLen
def ipv6MinMtu : Nat := 1280
def ipv6ErrorHopLimit : BitVec 8 := 64

def icmp6PacketTooBig : BitVec 8 := 2
def dhcp6ClientPort : BitVec 16 := 546

/-- `VLAN`, the type of a frame with a tag. -/
def vlanProto : BitVec 16 := 0x8100

/-! ### Packets -/

/-- An mbuf in one segment, with where `parse_l2_hdr` has found its headers. -/
structure Mbuf where
  buf : Octets
  dataOff : BitVec 16
  pktLen : BitVec 32
  dataLen : BitVec 16
  ethHdr : Nat
  vlanHdr : Nat

/-- The bytes of the frame. -/
def Mbuf.frame (m : Mbuf) : List (BitVec 8) := m.buf.slice m.dataOff.toNat m.pktLen.toNat

/-- A MAC in memory. -/
def macBytes (mac : BitVec 48) : List (BitVec 8) :=
  [mac.extractLsb' 0 8, mac.extractLsb' 8 8, mac.extractLsb' 16 8, mac.extractLsb' 24 8,
    mac.extractLsb' 32 8, mac.extractLsb' 40 8]

/-- A word in memory. -/
def le16Bytes (x : BitVec 16) : List (BitVec 8) := [x.extractLsb' 0 8, x.extractLsb' 8 8]

/-- An address in memory. -/
def ipv6Bytes (addr : BitVec 128) : List (BitVec 8) :=
  (List.range 16).map fun k => addr.extractLsb' (120 - 8 * k) 8

/-- The address at an offset. -/
def addrAt (buf : Octets) (i : Nat) : BitVec 128 := ipv6At (buf.slice i 16) 0

/-- What the data plane uses of the node and of a subscriber's control block.  `sessionId` is as it
lies in memory. -/
structure Ipv6Dp where
  hsiLanMac : BitVec 48
  hsiWanSrcMac : BitVec 48
  pppDstMac : BitVec 48
  sessionId : BitVec 16
  hsiIpv6LanPrefix : BitVec 64
  gateOpen : Bool
  nd6Table : Nd6Table

/-! ### Addresses -/

def ipv6AddrIsMulticast (addr : BitVec 128) : Bool := addr.extractLsb' 120 8 = 0xff

def ipv6AddrIsLinkLocal (addr : BitVec 128) : Bool :=
  addr.extractLsb' 120 8 = 0xfe ∧ addr.extractLsb' 112 8 &&& 0xc0 = 0x80

def ipv6AddrHigh64IsZero (addr : BitVec 128) : Bool := addr.extractLsb' 64 64 = 0

def ipv6AddrInLanPrefix (dp : Ipv6Dp) (addr : BitVec 128) : Bool :=
  addr.extractLsb' 64 64 = dp.hsiIpv6LanPrefix

/-- `rte_ipv6_check_version`. -/
def rteIpv6CheckVersion (buf : Octets) (ip6 : Nat) : Bool := buf ip6 &&& 0xf0 = 0x60

/-! ### What becomes of a frame -/

inductive Ipv6LanVerdict
  | drop
  | toCp
  | passthrough
  | tooBig
  | forward
  deriving DecidableEq

inductive Ipv6WanVerdict
  | drop
  | toCp
  | forward
  deriving DecidableEq

/-- `ipv6_forward_result_t`, but for what the firewall says before. -/
inductive Ipv6ForwardResult
  | ok
  | hopLimit
  | neighborMiss
  deriving DecidableEq

/-- `ipv6_lan_classify`. -/
def ipv6LanClassify (dp : Ipv6Dp) (buf : Octets) (ethHdr ip6 : Nat) (pktLen : BitVec 32) :
    Ipv6LanVerdict :=
  let srcIp := addrAt buf (ip6 + 8)
  let dstIp := addrAt buf (ip6 + 24)
  let payloadLen := (buf.be16 (ip6 + 4)).toNat
  let icmp6Type := buf (ip6 + ipv6HdrLen)
  if pktLen.toNat < ipv6L2Len + ipv6HdrLen then .drop
  else if !rteIpv6CheckVersion buf ip6 ∨ pktLen.toNat ≠ ipv6L2Len + ipv6HdrLen + payloadLen then
    .drop
  else if buf (ip6 + 6) = ipprotoIcmpv6 ∧ payloadLen ≥ icmp6PtbHdrLen ∧
      (icmp6Type = nd6IcmpRs ∨ icmp6Type = nd6IcmpNs ∨ icmp6Type = nd6IcmpNa) then .toCp
  else if !dp.gateOpen then .drop
  else if buf.slice ethHdr 6 ≠ macBytes dp.hsiLanMac then .passthrough
  else if !ipv6AddrInLanPrefix dp srcIp then .drop
  else if ipv6AddrIsMulticast dstIp ∨ ipv6AddrIsLinkLocal dstIp ∨ ipv6AddrInLanPrefix dp dstIp ∨
      ipv6AddrHigh64IsZero dstIp then .drop
  else if (buf (ip6 + 7)).toNat ≤ 1 then .drop
  else if ipv6HdrLen + payloadLen > ipv6PppoeMtu then .tooBig
  else .forward

/-- `ipv6_wan_classify`. -/
def ipv6WanClassify (dp : Ipv6Dp) (buf : Octets) (ip6 : Nat) (pktLen : BitVec 32) :
    Ipv6WanVerdict :=
  let dstIp := addrAt buf (ip6 + 24)
  let payloadLen := (buf.be16 (ip6 + 4)).toNat
  if pktLen.toNat < ipv6L2Len + ipv6PppoeHdrLen + ipv6HdrLen then .drop
  else if !rteIpv6CheckVersion buf ip6 ∨
      pktLen.toNat - ipv6L2Len - ipv6PppoeHdrLen ≠ ipv6HdrLen + payloadLen then .drop
  else if ipv6AddrInLanPrefix dp dstIp then .forward
  else if buf (ip6 + 6) = ipprotoUdp ∧ payloadLen ≥ udpHdrLen ∧
      buf.be16 (ip6 + ipv6HdrLen + 2) = dhcp6ClientPort then .toCp
  else if buf (ip6 + 6) = ipprotoIcmpv6 ∧
      (ipv6AddrIsLinkLocal dstIp ∨ ipv6AddrIsMulticast dstIp) then .toCp
  else .drop

/-! ### Too long a packet -/

/-- `ipv6_build_packet_too_big`: the reply is built from `out` on, from what lies in `orig`. -/
def ipv6BuildPacketTooBig (cksum : Octets → Nat → Nat → BitVec 16) (dp : Ipv6Dp) (orig : Octets)
    (ethHdr vlanHdr origIp6 : Nat) (origIp6Len : BitVec 16) (buffer : Octets) (out : Nat) :
    BitVec 16 × Octets :=
  let vlan := out + etherHdrLen
  let ip6 := out + ipv6L2Len
  let icmp6 := ip6 + ipv6HdrLen
  let quota := ipv6MinMtu - ipv6HdrLen - icmp6PtbHdrLen
  let quoteLen := min origIp6Len.toNat quota
  let icmpLen := icmp6PtbHdrLen + quoteLen
  let b := buffer.putBytes out (orig.slice (ethHdr + 6) 6)
  let b := b.putBytes (out + 6) (macBytes dp.hsiLanMac)
  let b := b.putBytes (out + 12) (be16Bytes vlanProto)
  let b := b.putBytes vlan (orig.slice vlanHdr 2)
  let b := b.putBytes (vlan + 2) (be16Bytes frameTypeIpv6)
  let b := b.putBytes ip6 [0x60, 0, 0, 0]
  let b := b.putBytes (ip6 + 4) (be16Bytes (BitVec.ofNat 16 icmpLen))
  let b := b.putBytes (ip6 + 6) [ipprotoIcmpv6]
  let b := b.putBytes (ip6 + 7) [ipv6ErrorHopLimit]
  let b := b.putBytes (ip6 + 8) (ipv6Bytes (nd6GatewayLinkLocal dp.hsiLanMac))
  let b := b.putBytes (ip6 + 24) (orig.slice (origIp6 + 8) 16)
  let b := b.putBytes icmp6 (List.replicate icmp6PtbHdrLen 0)
  let b := b.putBytes icmp6 [icmp6PacketTooBig]
  let b := b.putBytes (icmp6 + 4) (be16Bytes 0 ++ be16Bytes (BitVec.ofNat 16 ipv6PppoeMtu))
  let b := b.putBytes (icmp6 + icmp6PtbHdrLen) (orig.slice origIp6 quoteLen)
  let b := b.putBytes (icmp6 + 2) (le16Bytes (cksum b ip6 icmp6))
  (BitVec.ofNat 16 (ipv6L2Len + ipv6HdrLen + icmpLen), b)

/-- `build_ipv6_packet_too_big_reply`; the pool may be empty. -/
def buildIpv6PacketTooBigReply (cksum : Octets → Nat → Nat → BitVec 16) (dp : Ipv6Dp) (pkt : Mbuf)
    (reply : Option Mbuf) : Option Mbuf :=
  match reply with
  | none => none
  | some reply =>
      let (replyLen, buf) := ipv6BuildPacketTooBig cksum dp pkt.buf pkt.ethHdr pkt.vlanHdr
        (pkt.ethHdr + ipv6L2Len) ((pkt.pktLen - BitVec.ofNat 32 ipv6L2Len).setWidth 16) reply.buf
        reply.dataOff.toNat
      some { reply with buf, pktLen := replyLen.setWidth 32, dataLen := replyLen }

/-! ### To the WAN and to the LAN -/

/-- `ipv6_lan_to_wan_encap`. -/
def ipv6LanToWanEncap (dp : Ipv6Dp) (pkt : Mbuf) : Mbuf :=
  let ethHdr := pkt.ethHdr
  let vlanHdr := pkt.vlanHdr
  let ip6 := ethHdr + ipv6L2Len
  let cur := ethHdr - ipv6PppoeHdrLen
  let pppoeHdr := cur + ipv6L2Len
  let b := pkt.buf.put8 (ip6 + 7) (pkt.buf (ip6 + 7) - 1)
  let b := b.putBytes (ethHdr + 6) (macBytes dp.hsiWanSrcMac)
  let b := b.putBytes ethHdr (macBytes dp.pppDstMac)
  let b := b.putBytes (vlanHdr + 2) (be16Bytes ethPPppSes)
  let b := b.copy cur ethHdr etherHdrLen
  let b := b.copy (cur + etherHdrLen) vlanHdr 4
  let b := b.putBytes pppoeHdr [verType]
  let b := b.putBytes (pppoeHdr + 1) [0]
  let b := b.putBytes (pppoeHdr + 2) (le16Bytes dp.sessionId)
  let b := b.putBytes (pppoeHdr + 4)
    (be16Bytes ((pkt.pktLen - BitVec.ofNat 32 ipv6L2Len + 2).setWidth 16))
  let b := b.putBytes (pppoeHdr + 6) (be16Bytes pppIpv6Protocol)
  { buf := b
    dataOff := pkt.dataOff - BitVec.ofNat 16 ipv6PppoeHdrLen
    pktLen := pkt.pktLen + BitVec.ofNat 32 ipv6PppoeHdrLen
    dataLen := pkt.dataLen + BitVec.ofNat 16 ipv6PppoeHdrLen
    ethHdr := cur
    vlanHdr := cur + etherHdrLen }

/-- `ipv6_wan_to_lan_forward`. -/
def ipv6WanToLanForward (dp : Ipv6Dp) (pkt : Mbuf) : Ipv6ForwardResult × Mbuf :=
  let ethHdr := pkt.ethHdr
  let vlanHdr := pkt.vlanHdr
  let ip6 := ethHdr + ipv6L2Len + ipv6PppoeHdrLen
  if (pkt.buf (ip6 + 7)).toNat ≤ 1 then (.hopLimit, pkt)
  else
    match nd6TableLookup dp.nd6Table (addrAt pkt.buf (ip6 + 24)) with
    | none => (.neighborMiss, pkt)
    | some hostMac =>
        let b := pkt.buf.put8 (ip6 + 7) (pkt.buf (ip6 + 7) - 1)
        let b := b.putBytes (ethHdr + 6) (macBytes dp.hsiLanMac)
        let b := b.putBytes ethHdr (macBytes hostMac)
        let b := b.putBytes (vlanHdr + 2) (be16Bytes frameTypeIpv6)
        let tmpEth := b.slice ethHdr etherHdrLen
        let tmpVlan := b.slice vlanHdr 4
        let cur := ethHdr + ipv6PppoeHdrLen
        let b := b.putBytes cur tmpEth
        let b := b.putBytes (cur + etherHdrLen) tmpVlan
        (.ok,
          { buf := b
            dataOff := pkt.dataOff + BitVec.ofNat 16 ipv6PppoeHdrLen
            pktLen := pkt.pktLen - BitVec.ofNat 32 ipv6PppoeHdrLen
            dataLen := pkt.dataLen - BitVec.ofNat 16 ipv6PppoeHdrLen
            ethHdr := cur
            vlanHdr := cur + etherHdrLen })

end FastRG
