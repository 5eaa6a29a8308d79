/-
The bytes of a DHCP frame for the LAN: what `build_dhcp_offer`, `build_dhcp_ack`,
`build_dhcp_nak` and `build_dhcp_ack_inform` write into the buffer, and the buffer that
`fastrg_loop` hands to `lan_ctrl_tx`.

A reply is built in two places.  The Ethernet, IP and UDP headers are those of the packet at hand,
which the control block points at; the DHCP message is where the pool entry points.  So a frame
has the message of the reply only when these are one buffer, and has its headers in any case.
A row of the automaton that builds no reply leaves the buffer as decoding has left it, and
`dhcpd` returns the same for it as for a row that does.

Left out are the checksums and the identification of the IP header.
-/
import FastRG.CtrlTx
import FastRG.Lib.EndMarked

namespace FastRG

/-! ### Constants -/

def dhcpServerPort : BitVec 16 := 67
def dhcpClientPort : BitVec 16 := 68
/-- `BOOT_REPLY`. -/
def bootReply : BitVec 8 := 2
def dhcpOptSubnetMask : BitVec 8 := 1
def dhcpOptRouter : BitVec 8 := 3
def dhcpOptDns : BitVec 8 := 6
def dhcpOptLeaseTime : BitVec 8 := 51

/-! ### Options -/

/-- The bytes of a number in memory, from its low end on. -/
def leOctets32 (x : BitVec 32) : List (BitVec 8) :=
  [x.extractLsb' 0 8, x.extractLsb' 8 8, x.extractLsb' 16 8, x.extractLsb' 24 8]

/-- The bytes of a MAC address. -/
def macOctets (mac : BitVec 48) : List (BitVec 8) :=
  [mac.extractLsb' 40 8, mac.extractLsb' 32 8, mac.extractLsb' 24 8, mac.extractLsb' 16 8,
    mac.extractLsb' 8 8, mac.extractLsb' 0 8]

/-- The value of `DHCP_MSG_TYPE`. -/
def DhcpMsg.code : DhcpMsg → BitVec 8
  | .offer => 2
  | .ack => 5
  | .nak => 6

/-- An option as a builder stores it. -/
def DhcpReplyOpt.stored : DhcpReplyOpt → EndMarked.Opt
  | .serverId ip => (dhcpOptServerId, leOctets32 ip)
  | .subnetMask mask => (dhcpOptSubnetMask, leOctets32 mask)
  | .leaseTime secs => (dhcpOptLeaseTime, leOctets32 (swap32 (BitVec.ofNat 32 secs)))
  | .router ip => (dhcpOptRouter, leOctets32 ip)
  | .dns dns1 dns2 => (dhcpOptDns, leOctets32 dns1 ++ leOctets32 dns2)
  | .clientId mac => (dhcpOptClientId, dhcpHwTypeEthernet :: macOctets mac)

/-- All options of a message. -/
def DhcpBody.stored (body : DhcpBody) : List EndMarked.Opt :=
  (dhcpOptMsgType, [body.msg.code]) :: body.opts.map DhcpReplyOpt.stored

/-- `buf`, of which `dhcp_opt_len` bytes are copied behind the message's header. -/
def DhcpBody.optBuf (body : DhcpBody) : List (BitVec 8) := EndMarked.octets dhcpOptEnd body.stored

/-! ### Frames -/

/-- A frame with a DHCP message in it.  Lengths and ports are in host order. -/
structure DhcpWire where
  ethDst : BitVec 48
  ethSrc : BitVec 48
  ihl : BitVec 4
  ipTotal : BitVec 16
  ipSrc : BitVec 32
  ipDst : BitVec 32
  udpSrc : BitVec 16
  udpDst : BitVec 16
  dgramLen : BitVec 16
  msgType : BitVec 8
  transactionId : BitVec 32
  bootpFlag : BitVec 16
  clientIp : BitVec 32
  urClientIp : BitVec 32
  nextServerIp : BitVec 32
  /-- With its padding. -/
  macAddr : BitVec 128
  serverName : List (BitVec 8)
  fileName : List (BitVec 8)
  magicCookie : BitVec 32
  /-- What stands behind the message's header. -/
  opt : Nat → BitVec 8

/-- A packet handed over as `EV_DP_DHCP`, with the fields that only its sender and the LAN see. -/
structure DhcpRecv where
  frame : DhcpFrame
  ethDst : BitVec 48
  ihl : BitVec 4
  ipSrc : BitVec 32
  udpSrc : BitVec 16
  udpDst : BitVec 16
  msgType : BitVec 8
  transactionId : BitVec 32
  nextServerIp : BitVec 32
  macAddr : BitVec 128
  serverName : List (BitVec 8)
  fileName : List (BitVec 8)

/-- Its buffer, when decoding has left that header in it. -/
def DhcpRecv.wire (recv : DhcpRecv) (hdr : DhcpHdr) : DhcpWire where
  ethDst := recv.ethDst
  ethSrc := recv.frame.pkt.srcMac
  ihl := recv.ihl
  ipTotal := recv.frame.ipTotal
  ipSrc := recv.ipSrc
  ipDst := recv.frame.pkt.ipDst
  udpSrc := recv.udpSrc
  udpDst := recv.udpDst
  dgramLen := recv.frame.pkt.dgramLen
  msgType := recv.msgType
  transactionId := recv.transactionId
  bootpFlag := hdr.bootpFlag
  clientIp := hdr.clientIp
  urClientIp := hdr.urClientIp
  nextServerIp := recv.nextServerIp
  macAddr := recv.macAddr
  serverName := recv.serverName
  fileName := recv.fileName
  magicCookie := hdr.magicCookie
  opt := recv.frame.pkt.opt

/-- What a builder writes into the headers of the packet at hand. -/
def DhcpWire.withHeaders (lanMac : BitVec 48) (reply : DhcpReply) (opts : List DhcpReplyOpt)
    (w : DhcpWire) : DhcpWire :=
  { w with
    ethDst := reply.ethDst
    ethSrc := lanMac
    ipTotal := dhcpReplyIpTotal opts
    ipSrc := reply.ipSrc
    ipDst := reply.ipDst
    udpSrc := dhcpServerPort
    udpDst := dhcpClientPort
    dgramLen := BitVec.ofNat 16 (udpHdrLen + dhcpHdrLen + dhcpReplyOptLen opts) }

/-- What it writes into the message. -/
def DhcpWire.withBody (body : DhcpBody) (w : DhcpWire) : DhcpWire :=
  { w with
    msgType := bootReply
    clientIp := body.clientIp
    urClientIp := body.urClientIp
    nextServerIp := body.nextServerIp
    serverName := List.replicate 64 0
    fileName := List.replicate 128 0
    magicCookie := swap32 dhcpMagicCookie
    opt := fun k => body.optBuf.getD k (w.opt k) }

/-- A whole reply. -/
def DhcpWire.withReply (lanMac : BitVec 48) (reply : DhcpReply) (opts : List DhcpReplyOpt)
    (w : DhcpWire) : DhcpWire :=
  match reply.body with
  | none => w.withHeaders lanMac reply opts
  | some body => (w.withHeaders lanMac reply opts).withBody body

/-! ### Sending -/

/-- The options that are built for a packet, if any are. -/
def dhcpdOpts (hz now : Nat) (ccb : DhcpCcb) (pkt : DhcpPkt) : Option (List DhcpReplyOpt) :=
  (dhcpdRow hz now ccb pkt).bind fun r => r.2.2.hdl.findSome? (·.opts r.1)

/-- The buffer that `fastrg_loop` hands to `lan_ctrl_tx`, when `dhcpd` returns a positive
number. -/
def fastrgLoopDhcpLan (hz now : Nat) (lanMac : BitVec 48) (ccb : DhcpCcb) (recv : DhcpRecv) :
    Option DhcpWire :=
  if recv.frame.len < ctrlL2Len + rteIpv4HdrSize then none
  else
    match dhcpd hz now ccb recv.frame.pkt with
    | none => none
    | some ⟨.drop, _, _⟩ => none
    | some ⟨.toWan, _, _⟩ => none
    | some ⟨.toLan, ccb', none⟩ => some (recv.wire ccb'.pkt.hdr)
    | some ⟨.toLan, ccb', some reply⟩ =>
        some ((recv.wire ccb'.pkt.hdr).withReply lanMac reply
          ((dhcpdOpts hz now ccb recv.frame.pkt).getD []))

end FastRG
