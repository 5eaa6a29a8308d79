/-
What happens to a packet from the WAN: the translated half of `dp_codec.h`.

A packet that arrives on the PPPoE session is matched against the translator's mappings,
and if there is none against the ports opened to the outside.  It is then rewritten and
sent to the LAN, held until the host's address is known, or dropped.  A TCP segment is
looked at once more, by connection tracking; the mapping it matched has been refreshed by
then.

What is written to the wire is the destination: the host, its address and its port.
Checksums and the packet counters are left out.
-/
import FastRG.Nat

namespace FastRG

/-- `mac_table_t`: the addresses learned, each with the generation it was learned in. -/
structure MacTable where
  hash : AList (fun _ : BitVec 32 => BitVec 64)
  generation : BitVec 16

/-- `mac_table_lookup`.  An entry from before the last reset does not count. -/
def macTableLookup (table : Option MacTable) (ipBe : BitVec 32) : Option (BitVec 48) :=
  match table with
  | none => none
  | some table =>
      match table.hash.lookup ipBe with
      | none => none
      | some v =>
          if v.extractLsb' 48 16 ≠ table.generation then none else some (v.extractLsb' 0 48)

/-- What becomes of a packet. -/
inductive DecapsAction
  | drop
  | forward (dstMac : BitVec 48) (dstAddr : BitVec 32) (dstPort : BitVec 16)
  /-- Queued until the host answers an ARP request. -/
  | hold (dstAddr : BitVec 32) (dstPort : BitVec 16)
  deriving DecidableEq

/-- A packet that matches no mapping may still be for a forwarded port. -/
def decapsPortFwd (macTable : Option MacTable) (ccb : NatCcb) (dstPort : BitVec 16) :
    DecapsAction × NatCcb :=
  match natPortFwdReverseLookup ccb.portFwdTable dstPort with
  | none => (.drop, ccb)
  | some (dip, iport) =>
      let eport := (swap16 dstPort).toNat
      let entry := ccb.portFwdTable eport
      let ccb := { ccb with
        portFwdTable := Function.update ccb.portFwdTable eport
          { entry with hitCount := entry.hitCount + 1 } }
      match macTableLookup macTable dip with
      | some mac => (.forward mac dip iport, ccb)
      | none => (.hold dip iport, ccb)

/-- A packet goes to the host whose mapping it matched. -/
def decapsForward (ccb : NatCcb) (i : Nat) : DecapsAction :=
  let entry := ccb.addrTable i
  .forward entry.macAddr entry.srcIp entry.srcPort

/-- `decaps_udp`. -/
def decapsUdp (hz now : Nat) (macTable : Option MacTable) (ccb : NatCcb) (ip : Ipv4Hdr)
    (srcPort dstPort : BitVec 16) : DecapsAction × NatCcb :=
  match natReverseLookup hz now ccb dstPort ip.srcAddr srcPort with
  | (none, ccb) => decapsPortFwd macTable ccb dstPort
  | (some i, ccb) => (decapsForward ccb i, ccb)

/-- `decaps_tcp`. -/
def decapsTcp (hz now : Nat) (macTable : Option MacTable) (ccb : NatCcb) (ip : Ipv4Hdr)
    (tcp : TcpHdr) : DecapsAction × NatCcb :=
  match natReverseLookup hz now ccb tcp.dstPort ip.srcAddr tcp.srcPort with
  | (none, ccb) => decapsPortFwd macTable ccb tcp.dstPort
  | (some i, ccb) =>
      let view := tcpConntrackNatView ccb i
      if tcpConntrackWanOk view tcp then
        (decapsForward ccb i, natSetConntrack ccb i
          (tcpConntrackWan hz now view tcp (ipv4TcpPayload ip tcp)))
      else if ccb.tcpConntrackEnabled then (.drop, ccb)
      else (decapsForward ccb i, ccb)

def icmpEchoReply : BitVec 8 := 0
def icmpEchoRequest : BitVec 8 := 8

/-- `decaps_icmp`.  Only an answer to an echo request is let in, and no port is forwarded. -/
def decapsIcmp (hz now : Nat) (ccb : NatCcb) (ip : Ipv4Hdr) (icmp : IcmpHdr) :
    DecapsAction × NatCcb :=
  if icmp.icmpType ≠ icmpEchoReply then (.drop, ccb)
  else
    match natReverseLookup hz now ccb icmp.icmpIdent ip.srcAddr (icmpEchoRequest.setWidth 16) with
    | (none, ccb) => (.drop, ccb)
    | (some i, ccb) => (decapsForward ccb i, ccb)

/-! ### The system

The packets of one subscriber, from either side and of whatever protocol, and the upkeep of the
table between them.
-/

/-- What follows the IPv4 header. -/
inductive L4Hdr
  | tcp (hdr : TcpHdr)
  | udp (srcPort dstPort : BitVec 16)
  | icmp (hdr : IcmpHdr)
  deriving DecidableEq

def L4Hdr.proto : L4Hdr → BitVec 8
  | .tcp _ => ipprotoTcp
  | .udp _ _ => ipprotoUdp
  | .icmp _ => ipprotoIcmp

/-- A packet from the LAN is learned. -/
def natLearning (crc : BitVec 32 → BitVec 32 → BitVec 32) (hz now : Nat)
    (chances : BitVec 16 → NatChance) (ccb : NatCcb) (srcMac : BitVec 48) (ip : Ipv4Hdr) :
    L4Hdr → NatLearned
  | .tcp hdr => natTcpLearning crc hz now chances ccb srcMac ip hdr
  | .udp srcPort dstPort => natUdpLearning crc hz now chances ccb srcMac ip srcPort dstPort
  | .icmp hdr => natIcmpLearning crc hz now chances ccb srcMac ip hdr

/-- A packet from the WAN is translated. -/
def decaps (hz now : Nat) (macTable : Option MacTable) (ccb : NatCcb) (ip : Ipv4Hdr) :
    L4Hdr → DecapsAction × NatCcb
  | .tcp hdr => decapsTcp hz now macTable ccb ip hdr
  | .udp srcPort dstPort => decapsUdp hz now macTable ccb ip srcPort dstPort
  | .icmp hdr => decapsIcmp hz now ccb ip hdr

/-- What happens to the translator. -/
inductive NatEvent
  | lan (srcMac : BitVec 48) (ip : Ipv4Hdr) (hdr : L4Hdr) (chances : BitVec 16 → NatChance)
  | wan (macTable : Option MacTable) (ip : Ipv4Hdr) (hdr : L4Hdr)
  | gcScan (maxSlots : BitVec 32) (grace : NatGrace)
  | delAll
  | reclaimReverse (m : Nat)
  | reclaimForward (m : Nat)

/-- An event and when it happens. -/
structure NatPacket where
  now : Nat
  event : NatEvent

/-- One event. -/
def natPacketStep (crc : BitVec 32 → BitVec 32 → BitVec 32) (hz : Nat) (ccb : NatCcb)
    (l : NatPacket) : NatCcb :=
  match l.event with
  | .lan srcMac ip hdr chances => (natLearning crc hz l.now chances ccb srcMac ip hdr).ccb
  | .wan macTable ip hdr => (decaps hz l.now macTable ccb ip hdr).2
  | .gcScan maxSlots grace => (natGcScanByCcb l.now ccb maxSlots grace).2
  | .delAll => natTableDelAllEntriesFromHash ccb
  | .reclaimReverse m => natReverseDqReclaim m ccb
  | .reclaimForward m => natForwardDqReclaim m ccb

end FastRG
