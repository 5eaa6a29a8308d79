/-
Frames of the control thread: the `EV_DP_DHCP` and `EV_DP_DNS` cases of `fastrg_loop`, up to the
call of `lan_ctrl_tx` or `wan_ctrl_tx`.

A packet is answered in the buffer it came in.  What is sent is a number of bytes from the start
of that buffer, and the number is all that the two functions go by: they copy so many bytes into
a buffer of their own.  So a frame is that number, with the total length that the IP header in
the buffer states by then, how many bytes were received, and which stretches the code has
written since.

The stores into the Ethernet, VLAN, IP and UDP headers of an answer are left out: those bytes
have been received.
-/
import FastRG.Dhcpd
import FastRG.Dnsd

namespace FastRG

/-- `RTE_MBUF_DEFAULT_DATAROOM`: the bytes one buffer of the direct pools has room for. -/
def rteMbufDefaultDataroom : Nat := 2048

/-- The Ethernet and VLAN headers. -/
def ctrlL2Len : Nat := 18

/-- `sizeof(struct rte_ipv4_hdr)`. -/
def rteIpv4HdrSize : Nat := 20

/-- Where the options of a DHCP message start. -/
def dhcpOptOffset : Nat := ctrlL2Len + rteIpv4HdrSize + udpHdrLen + dhcpHdrLen

/-- `sizeof(pppoe_header_t) + sizeof(ppp_payload_t)`. -/
def pppoeExtra : Nat := 8

inductive CtrlPort
  | lan
  | wan
  deriving DecidableEq

/-- A call of `lan_ctrl_tx` or `wan_ctrl_tx`. -/
structure CtrlTx where
  port : CtrlPort
  mulen : BitVec 16
  /-- `total_length` of the IP header in the buffer, in host order. -/
  ipTotal : BitVec 16
  received : Nat
  /-- Where each stretch starts, and how long it is. -/
  written : List (Nat × Nat)
  deriving DecidableEq

/-- `out_len` of a frame for the LAN. -/
def lanOutLen (ipTotal : BitVec 16) : BitVec 16 := BitVec.ofNat 16 ctrlL2Len + ipTotal

/-! ### DHCP -/

/-- An option, with its type and length. -/
def DhcpReplyOpt.size : DhcpReplyOpt → Nat
  | .serverId _ => 2 + 4
  | .subnetMask _ => 2 + 4
  | .leaseTime _ => 2 + 4
  | .router _ => 2 + 4
  | .dns _ _ => 2 + 8
  | .clientId _ => 2 + 7

/-- The options after the message type, and the end marker. -/
def dhcpOptsSize : List DhcpReplyOpt → Nat
  | [] => 1
  | opt :: rest => opt.size + dhcpOptsSize rest

/-- `dhcp_opt_len` of a reply. -/
def dhcpReplyOptLen (opts : List DhcpReplyOpt) : Nat := 2 + 1 + dhcpOptsSize opts

/-- The options a handler puts into its reply, when it builds one. -/
def DhcpHandler.opts (ccb : DhcpCcb) : DhcpHandler → Option (List DhcpReplyOpt)
  | .sendDhcpOffer => some (leaseOpts ccb)
  | .sendDhcpAck => some (leaseOpts ccb)
  | .sendDhcpNak => some [.serverId ccb.dhcpServerIp, .clientId ccb.pkt.srcMac]
  | .sendDhcpAckInform =>
      let dns := dhcpSelectDnsServers ccb true
      some [.serverId ccb.dhcpServerIp, .subnetMask ccb.subnetMask, .router ccb.dhcpServerIp,
        .dns dns.1 dns.2]
  | .waitRequestTimer => none
  | .waitLeaseTimer => none
  | .release => none
  | .markIpConflicted => none

/-- What a handler changes of the packet's buffer. -/
structure DhcpBuf where
  ipTotal : BitVec 16
  written : List (Nat × Nat)

/-- `ip_hdr->total_length` of a reply. -/
def dhcpReplyIpTotal (opts : List DhcpReplyOpt) : BitVec 16 :=
  BitVec.ofNat 16 (rteIpv4HdrSize + udpHdrLen + dhcpHdrLen + dhcpReplyOptLen opts)

/-- A reply states its length in the packet's own header, and its options go where the entry's
header pointer leads. -/
def DhcpHandler.rewrites (ccb : DhcpCcb) (i : Nat) (buf : DhcpBuf) (h : DhcpHandler) : DhcpBuf :=
  match h.opts ccb with
  | none => buf
  | some opts =>
      ⟨dhcpReplyIpTotal opts,
        if (ccb.user i).dhcpHdr = some ccb.pkt.buf then
          (dhcpOptOffset, dhcpReplyOptLen opts) :: buf.written
        else buf.written⟩

/-- Where a packet gets to in `dhcpd`: the pool, the index, and the row of the automaton. -/
def dhcpdRow (hz now : Nat) (ccb : DhcpCcb) (pkt : DhcpPkt) : Option (DhcpCcb × Nat × DhcpRow) :=
  if ¬ ccb.dhcpBool then none
  else if pkt.truncated then none
  else
    match pickSlot ccb pkt.srcMac with
    | none => none
    | some slot =>
        match dhcpDecode (ccb.modUser slot fun e => (e.claim pkt.srcMac).watch hz now) slot pkt with
        | (.error, _, _) => none
        | (.noEvent, _, _) => none
        | (.event event, ccb, cur) =>
            (dhcpFindRow (ccb.user cur).state event).map fun row =>
              (ccb.modUser cur ({ · with state := row.nextState }), cur, row)

/-- A packet handed over as `EV_DP_DHCP`, in one buffer. -/
structure DhcpFrame where
  pkt : DhcpPkt
  len : Nat
  ipTotal : BitVec 16
  room_eq : pkt.room = len - (ctrlL2Len + rteIpv4HdrSize)
  fits : len ≤ rteMbufDefaultDataroom

/-- The packet's buffer when `dhcpd` returns.  No handler changes what the length of a reply
depends on. -/
def dhcpdBuf (hz now : Nat) (ccb : DhcpCcb) (frame : DhcpFrame) : DhcpBuf :=
  match dhcpdRow hz now ccb frame.pkt with
  | none => ⟨frame.ipTotal, []⟩
  | some (ccb, cur, row) => row.hdl.foldl (DhcpHandler.rewrites ccb cur) ⟨frame.ipTotal, []⟩

/-- The `EV_DP_DHCP` case.  A packet that ends before its UDP header is dropped where `dhcpd`
compares lengths. -/
def fastrgLoopDhcp (hz now : Nat) (ccb : DhcpCcb) (frame : DhcpFrame) : Option CtrlTx :=
  if frame.len < ctrlL2Len + rteIpv4HdrSize then none
  else
    match dhcpd hz now ccb frame.pkt with
    | none => none
    | some ⟨.drop, _, _⟩ => none
    | some ⟨.toWan, _, _⟩ =>
        some ⟨.wan, BitVec.ofNat 16 frame.len, frame.ipTotal, frame.len, []⟩
    | some ⟨.toLan, _, _⟩ =>
        let buf := dhcpdBuf hz now ccb frame
        some ⟨.lan, lanOutLen buf.ipTotal, buf.ipTotal, frame.len, buf.written⟩

/-! ### DNS -/

/-- A packet handed over as `EV_DP_DNS`, in one buffer. -/
structure DnsFrame where
  bytes : List (BitVec 8)
  fits : bytes.length ≤ rteMbufDefaultDataroom

/-- `cp_send_dns_udp_response_to_lan`. -/
def cpSendDnsUdpResponseToLan (pkt payload : List (BitVec 8)) : CtrlTx :=
  let ipTotalLen := BitVec.ofNat 16 (rteIpv4HdrSize + (udpHdrLen + payload.length))
  ⟨.lan, lanOutLen ipTotalLen, ipTotalLen, pkt.length, [(dnsL4Offset + udpHdrLen, payload.length)]⟩

/-- `cp_forward_dns_query_to_wan`: the packet is moved back to make room for a PPPoE header. -/
def cpForwardDnsQueryToWan (pkt : List (BitVec 8)) : CtrlTx :=
  let ipPayloadLen := pkt.length - ctrlL2Len
  ⟨.wan, BitVec.ofNat 16 (ctrlL2Len + pppoeExtra + ipPayloadLen), be16At pkt (dnsIpOffset + 2),
    pkt.length, [(0, ctrlL2Len + pppoeExtra), (ctrlL2Len + pppoeExtra, ipPayloadLen)]⟩

/-- The answer to a query over TCP, which goes behind the header and its own length. -/
def cpSendDnsTcpResponseToLan (pkt payload : List (BitVec 8)) : CtrlTx :=
  let tcpHdrLen := ((pkt.getD (dnsL4Offset + 12) 0) >>> 4).toNat * 4
  let newIpLen := BitVec.ofNat 16 (rteIpv4HdrSize + tcpHdrLen + 2 + payload.length)
  ⟨.lan, lanOutLen newIpLen, newIpLen, pkt.length, [(dnsL4Offset + tcpHdrLen, 2 + payload.length)]⟩

/-- The end of `dnsd_cp_process_wan_udp_response`. -/
def cpRelayDnsResponseToLan (pkt : List (BitVec 8)) : CtrlTx :=
  let ipTotalLen := be16At pkt (dnsIpOffset + 2)
  ⟨.lan, lanOutLen ipTotalLen, ipTotalLen, pkt.length, []⟩

/-- What is sent over UDP. -/
def dnsUdpTx (pkt : List (BitVec 8)) : DnsEvent → CtrlTx
  | .answer _ payload => cpSendDnsUdpResponseToLan pkt payload
  | .fromCache _ _ payload => cpSendDnsUdpResponseToLan pkt payload
  | .forward _ _ _ _ _ => cpForwardDnsQueryToWan pkt
  | .relay _ _ _ _ => cpRelayDnsResponseToLan pkt

/-- What is sent over TCP: answers only. -/
def dnsTcpTx (pkt : List (BitVec 8)) : DnsEvent → Option CtrlTx
  | .answer _ payload => some (cpSendDnsTcpResponseToLan pkt payload)
  | _ => none

/-- The `EV_DP_DNS` case. -/
def fastrgLoopDns (hz now : Nat) (dpStart : Bool) (state : DnsProxyState) (port : CtrlPort)
    (frame : DnsFrame) : Option CtrlTx :=
  let pkt := frame.bytes
  match port with
  | .wan => (dnsdCpProcessWanUdpResponse hz now state pkt).1.map (dnsUdpTx pkt)
  | .lan =>
      let proto := pkt.getD (dnsIpOffset + 9) 0
      if proto = ipprotoUdp then
        (dnsdCpProcessLanUdpQuery hz now dpStart state pkt).1.map (dnsUdpTx pkt)
      else if proto = ipprotoTcp then (dnsdCpProcessLanTcpQuery state pkt).bind (dnsTcpTx pkt)
      else none

/-! ### Mail -/

/-- What the control thread is handed. -/
inductive CtrlMail
  | dhcp (frame : DhcpFrame)
  | dns (port : CtrlPort) (dpStart : Bool) (frame : DnsFrame)

/-- `fastrg_loop`, of one such mail: the frame it sends, if it sends one. -/
def fastrgLoopTx (hz now : Nat) (dhcp : DhcpCcb) (state : DnsProxyState) :
    CtrlMail → Option CtrlTx
  | .dhcp frame => fastrgLoopDhcp hz now dhcp frame
  | .dns port dpStart frame => fastrgLoopDns hz now dpStart state port frame

end FastRG
