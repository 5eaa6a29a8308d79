/-
The DHCP server: the replies of `dhcp_codec.c`, the automaton of `dhcp_fsm.c` and
`dhcpd.c` itself.

Every function runs on the control thread, so a packet, a timer and a command are one
step each.  A handler runs for a pool index, and what it rewrites is the buffer that
the entry at that index points at.  When that is not the buffer of the packet at hand,
the packet goes out with new headers and the client's own message in it; when the
entry has never pointed anywhere, the process ends.

The octets of a reply are left out: a reply is the message type, addresses and options
put into it, and where it is sent.
-/
import FastRG.DhcpCodec
import FastRG.Lib.Run

namespace FastRG

/-- `DHCP_MAX_POOL_SIZE_PER_USER`. -/
def dhcpMaxPoolSizePerUser : Nat := 131072

/-! ### Replies -/

/-- The message types the server sends. -/
inductive DhcpMsg
  | offer
  | ack
  | nak
  deriving DecidableEq

/-- The options the server sends, after the message type. -/
inductive DhcpReplyOpt
  | serverId (ip : BitVec 32)
  | subnetMask (mask : BitVec 32)
  | leaseTime (secs : Nat)
  | router (ip : BitVec 32)
  | dns (dns1 dns2 : BitVec 32)
  | clientId (mac : BitVec 48)
  deriving DecidableEq

/-- A DHCP message as the server builds it. -/
structure DhcpBody where
  msg : DhcpMsg
  clientIp : BitVec 32
  urClientIp : BitVec 32
  nextServerIp : BitVec 32
  opts : List DhcpReplyOpt
  deriving DecidableEq

/-- A packet sent to the LAN in answer.  Without a body it carries the message that was
received. -/
structure DhcpReply where
  ethDst : BitVec 48
  ipSrc : BitVec 32
  ipDst : BitVec 32
  body : Option DhcpBody
  deriving DecidableEq

/-- `dhcp_select_dns_servers`. -/
def dhcpSelectDnsServers (ccb : DhcpCcb) (dpStarted : Bool) : BitVec 32 × BitVec 32 :=
  if ccb.dns.dnsProxyEnabled then (ccb.dhcpServerIp, ccb.dhcpServerIp)
  else if ¬ dpStarted then (swap32 0x08080808, swap32 0x01010101)
  else (ccb.dns.hsiPrimaryDns, ccb.dns.hsiSecondaryDns)

/-- The header a pointer leads to: the packet's, or what a freed buffer holds. -/
def DhcpCcb.hdrAt (ccb : DhcpCcb) (buf : Nat) : DhcpHdr :=
  if buf = ccb.pkt.buf then ccb.pkt.hdr else ccb.pkt.freed buf

/-- `bootp_flag & rte_cpu_to_be_16(DHCP_BOOTP_FLAG_BROADCAST)`. -/
def DhcpHdr.wantsBroadcast (hdr : DhcpHdr) : Bool := hdr.bootpFlag &&& swap16 0x8000 ≠ 0

/-- The packet that goes out: the body if it was built in the packet's own buffer, and
broadcast when that is asked for. -/
def dhcpReply (ccb : DhcpCcb) (buf : Nat) (broadcast : Bool) (ipDst : BitVec 32)
    (body : DhcpBody) : DhcpReply where
  ethDst := if broadcast then broadcastMac else ccb.pkt.srcMac
  ipSrc := ccb.dhcpServerIp
  ipDst := if broadcast then rteIpv4Broadcast else ipDst
  body := if buf = ccb.pkt.buf then some body else none

/-- The options of an OFFER and of an ACK. -/
def leaseOpts (ccb : DhcpCcb) : List DhcpReplyOpt :=
  let dns := dhcpSelectDnsServers ccb ccb.dns.dpStarted
  [.serverId ccb.dhcpServerIp, .subnetMask ccb.subnetMask, .leaseTime leaseTimeout,
    .router ccb.dhcpServerIp, .dns dns.1 dns.2]

/-! ### Handlers -/

/-- What a handler does: its status, the pool, and the packet it leaves to be sent. -/
structure DhcpDone where
  status : Status
  ccb : DhcpCcb
  reply : Option DhcpReply

/-- `release_lan_user`. -/
def PerLanUser.releaseLanUser (e : PerLanUser) : PerLanUser :=
  { e with
    timer := none
    used := false
    lanUserUsed := false
    lanMac := zeroMac
    state := .init
    acked := [] }

/-- `build_dhcp_offer`, through `A_send_dhcp_offer`. -/
def sendDhcpOffer (ccb : DhcpCcb) (i : Nat) : Option DhcpDone :=
  match pickIpFromPool ccb i ccb.pkt.srcMac with
  | none => some ⟨.error, ccb, none⟩
  | some (ccb, ip) =>
      match (ccb.user i).dhcpHdr with
      | none => none
      | some buf =>
          let hdr := ccb.hdrAt buf
          some ⟨.success, ccb, some (dhcpReply ccb buf hdr.wantsBroadcast ip
            ⟨.offer, hdr.clientIp, ip, ccb.dhcpServerIp, leaseOpts ccb⟩)⟩

/-- `build_dhcp_ack`, through `A_send_dhcp_ack`.  What the client is told is recorded in
`acked`; it is told nothing by a packet with its own message in it. -/
def sendDhcpAck (ccb : DhcpCcb) (i : Nat) : Option DhcpDone :=
  match (ccb.user i).dhcpHdr with
  | none => none
  | some buf =>
      let hdr := ccb.hdrAt buf
      let told := if buf = ccb.pkt.buf then [(ccb.pkt.srcMac, hdr.urClientIp)] else []
      some ⟨.success, ccb.modUser i fun e => { e with acked := told ++ e.acked },
        some (dhcpReply ccb buf hdr.wantsBroadcast hdr.urClientIp
          ⟨.ack, hdr.clientIp, hdr.urClientIp, ccb.dhcpServerIp, leaseOpts ccb⟩)⟩

/-- `build_dhcp_nak`, through `A_send_dhcp_nak`. -/
def sendDhcpNak (ccb : DhcpCcb) (i : Nat) : Option DhcpDone :=
  match (ccb.user i).dhcpHdr with
  | none => none
  | some buf =>
      some ⟨.success, ccb, some (dhcpReply ccb buf true rteIpv4Broadcast
        ⟨.nak, 0, 0, ccb.dhcpServerIp, [.serverId ccb.dhcpServerIp, .clientId ccb.pkt.srcMac]⟩)⟩

/-- `build_dhcp_ack_inform`, through `A_send_dhcp_ack_inform`. -/
def sendDhcpAckInform (ccb : DhcpCcb) (i : Nat) : Option DhcpDone :=
  match (ccb.user i).dhcpHdr with
  | none => none
  | some buf =>
      let hdr := ccb.hdrAt buf
      let dns := dhcpSelectDnsServers ccb true
      some ⟨.success, ccb, some (dhcpReply ccb buf false hdr.clientIp
        ⟨.ack, hdr.clientIp, 0, ccb.dhcpServerIp,
          [.serverId ccb.dhcpServerIp, .subnetMask ccb.subnetMask, .router ccb.dhcpServerIp,
            .dns dns.1 dns.2]⟩)⟩

/-- `A_wait_request_timer`. -/
def waitRequestTimer (hz now : Nat) (e : PerLanUser) : PerLanUser :=
  { e with timer := some ⟨.requestTimer, now + 5 * hz⟩ }

/-- `A_wait_lease_timer`. -/
def waitLeaseTimer (hz now : Nat) (e : PerLanUser) : PerLanUser :=
  let secs := if e.timeoutSecs ≠ 0 then e.timeoutSecs else leaseTimeout
  { e with timer := some ⟨.leaseTimer, now + secs * hz⟩ }

/-- `A_mark_ip_conflicted`.  Whoever was told to use the address has declined it. -/
def markIpConflicted (hz now : Nat) (e : PerLanUser) : PerLanUser :=
  { e with
    used := true
    lanUserUsed := true
    lanMac := zeroMac
    poolMac := zeroMac
    timer := some ⟨.releaseLanUser, now + 360 * hz⟩
    acked := [] }

/-- The handlers of the automaton. -/
inductive DhcpHandler
  | sendDhcpOffer
  | waitRequestTimer
  | sendDhcpAck
  | sendDhcpNak
  | waitLeaseTimer
  | release
  | markIpConflicted
  | sendDhcpAckInform
  deriving DecidableEq

/-- One handler, at one index. -/
def DhcpHandler.run (hz now : Nat) (ccb : DhcpCcb) (i : Nat) : DhcpHandler → Option DhcpDone
  | .sendDhcpOffer => FastRG.sendDhcpOffer ccb i
  | .waitRequestTimer => some ⟨.success, ccb.modUser i (FastRG.waitRequestTimer hz now), none⟩
  | .sendDhcpAck => FastRG.sendDhcpAck ccb i
  | .sendDhcpNak => FastRG.sendDhcpNak ccb i
  | .waitLeaseTimer => some ⟨.success, ccb.modUser i (FastRG.waitLeaseTimer hz now), none⟩
  | .release => some ⟨.success, ccb.modUser i PerLanUser.releaseLanUser, none⟩
  | .markIpConflicted => some ⟨.success, ccb.modUser i (FastRG.markIpConflicted hz now), none⟩
  | .sendDhcpAckInform => FastRG.sendDhcpAckInform ccb i

/-! ### The automaton -/

/-- `tDHCP_STATE_TBL`. -/
structure DhcpRow where
  state : DhcpState
  event : DhcpEvent
  nextState : DhcpState
  hdl : List DhcpHandler
  deriving DecidableEq

/-- `dhcp_fsm_tbl`, without the row that ends it. -/
def dhcpFsmTbl : List DhcpRow :=
  [ ⟨.init, .discover, .offerSent, [.sendDhcpOffer, .waitRequestTimer]⟩,
    ⟨.init, .goodRequest, .ackSent, [.sendDhcpAck, .waitLeaseTimer]⟩,
    ⟨.init, .badRequest, .init, [.sendDhcpNak]⟩,
    ⟨.init, .inform, .init, [.sendDhcpAckInform]⟩,
    ⟨.offerSent, .discover, .offerSent, [.sendDhcpOffer, .waitRequestTimer]⟩,
    ⟨.offerSent, .timeout, .init, [.release]⟩,
    ⟨.offerSent, .goodRequest, .ackSent, [.sendDhcpAck, .waitLeaseTimer]⟩,
    ⟨.offerSent, .badRequest, .init, [.sendDhcpNak, .release]⟩,
    ⟨.ackSent, .timeout, .init, [.release]⟩,
    ⟨.ackSent, .release, .init, [.release]⟩,
    ⟨.ackSent, .goodRequest, .ackSent, [.sendDhcpAck, .waitLeaseTimer]⟩,
    ⟨.ackSent, .badRequest, .init, [.sendDhcpNak, .release]⟩,
    ⟨.ackSent, .discover, .offerSent, [.sendDhcpOffer, .waitRequestTimer]⟩,
    ⟨.ackSent, .decline, .init, [.markIpConflicted]⟩,
    ⟨.ackSent, .inform, .ackSent, [.sendDhcpAckInform]⟩ ]

/-- The row for an event: the first row of the state's block that has it. -/
def dhcpFindRow (state : DhcpState) (event : DhcpEvent) : Option DhcpRow :=
  ((dhcpFsmTbl.dropWhile (·.state ≠ state)).takeWhile (·.state = state)).find? (·.event = event)

/-- The handlers of a row, until one fails.  One of them leaves a packet to be sent. -/
def runHandlers (hz now i : Nat) (done : DhcpDone) : List DhcpHandler → Option DhcpDone
  | [] => some done
  | h :: rest =>
      match h.run hz now done.ccb i with
      | none => none
      | some ⟨.error, ccb, reply⟩ => some ⟨.error, ccb, reply.or done.reply⟩
      | some ⟨.success, ccb, reply⟩ => runHandlers hz now i ⟨.success, ccb, reply.or done.reply⟩ rest

/-- `dhcp_fsm`. -/
def dhcpFsm (hz now : Nat) (ccb : DhcpCcb) (i : Nat) (event : DhcpEvent) : Option DhcpDone :=
  match dhcpFindRow (ccb.user i).state event with
  | none => some ⟨.error, ccb, none⟩
  | some row =>
      runHandlers hz now i ⟨.success, ccb.modUser i ({ · with state := row.nextState }), none⟩
        row.hdl

/-! ### The server -/

/-- The entry `dhcpd` takes for a client's slot: the first that is the client's, or free. -/
def pickSlot (ccb : DhcpCcb) (mac : BitVec 48) : Option Nat :=
  (List.range ccb.perLanUserPoolLen).find? fun i =>
    mac = (ccb.user i).lanMac || !(ccb.user i).lanUserUsed

/-- A slot, taken for a client that does not have it yet. -/
def PerLanUser.claim (mac : BitVec 48) (e : PerLanUser) : PerLanUser :=
  if mac = e.lanMac then e else { e with lanMac := mac, lanUserUsed := true }

/-- The timer of a slot, when a packet has come in for it. -/
def PerLanUser.watch (hz now : Nat) (e : PerLanUser) : PerLanUser :=
  { e with timer := some ⟨.releaseLanUser, now + leaseTimeout * 2 * hz⟩ }

/-- What `dhcpd` returns: nothing to send, the packet to be forwarded to the WAN, or the
packet to be sent to the LAN. -/
inductive DhcpRet
  | drop
  | toWan
  | toLan
  deriving DecidableEq

/-- What `dhcpd` has done with a packet. -/
structure DhcpdDone where
  ret : DhcpRet
  ccb : DhcpCcb
  reply : Option DhcpReply

/-- Whether the UDP header claims more bytes than the packet has. -/
def DhcpPkt.truncated (pkt : DhcpPkt) : Bool := pkt.dgramLen.toNat > pkt.room

/-- `dhcpd`, of a packet whose slot has been found. -/
def dhcpdAt (hz now : Nat) (ccb : DhcpCcb) (pkt : DhcpPkt) (slot : Nat) : Option DhcpdDone :=
  let ccb := ccb.modUser slot fun e => (e.claim pkt.srcMac).watch hz now
  match dhcpDecode ccb slot pkt with
  | (.error, ccb, cur) => some ⟨.drop, ccb.modUser cur PerLanUser.releaseLanUser, none⟩
  | (.noEvent, ccb, cur) => some ⟨.toWan, ccb.modUser cur PerLanUser.releaseLanUser, none⟩
  | (.event event, ccb, cur) =>
      match dhcpFsm hz now ccb cur event with
      | none => none
      | some ⟨.error, ccb, _⟩ => some ⟨.drop, ccb.modUser cur PerLanUser.releaseLanUser, none⟩
      | some ⟨.success, ccb, reply⟩ => some ⟨.toLan, ccb, reply⟩

/-- `dhcpd`.  It has no result when it follows a null pointer. -/
def dhcpd (hz now : Nat) (ccb : DhcpCcb) (pkt : DhcpPkt) : Option DhcpdDone :=
  if ¬ ccb.dhcpBool then some ⟨.drop, ccb, none⟩
  else if pkt.truncated then some ⟨.drop, ccb, none⟩
  else
    match pickSlot ccb pkt.srcMac with
    | none => some ⟨.drop, ccb, none⟩
    | some slot => dhcpdAt hz now ccb pkt slot

/-- What is sent to the LAN for a packet. -/
def dhcpdSends (hz now : Nat) (ccb : DhcpCcb) (pkt : DhcpPkt) : Option DhcpReply :=
  (dhcpd hz now ccb pkt).bind (·.reply)

/-! ### Configuration -/

/-- `dhcp_validate_pool_range`. -/
def dhcpValidatePoolRange (serverIp ipStart ipEnd mask : BitVec 32) : Status :=
  if serverIp = 0 ∧ ipStart = 0 ∧ ipEnd = 0 ∧ mask = 0 then .success
  else if swap32 ipStart > swap32 ipEnd then .error
  else if ipStart &&& mask ≠ serverIp &&& mask ∨ ipEnd &&& mask ≠ serverIp &&& mask then .error
  else .success

/-- The length of the window between two addresses. -/
def dhcpPoolLen (ipStart ipEnd : BitVec 32) : BitVec 32 :=
  if swap32 ipEnd ≥ swap32 ipStart then swap32 ipEnd - swap32 ipStart + 1
  else swap32 ipStart - swap32 ipEnd + 1

/-- One entry of the pool, put back for its place in a new window. -/
def PerLanUser.reset (newLen : Nat) (ipStart : BitVec 32) (i : Nat) (e : PerLanUser) :
    PerLanUser :=
  let entryIp := if i < newLen then swap32 ipStart + BitVec.ofNat 32 i else 0
  { e with
    used := false
    lanUserUsed := false
    lanMac := zeroMac
    poolMac := zeroMac
    state := .init
    ipAddr := swap32 entryIp
    reserved := decide (i < newLen) && dhcpIpIsReserved entryIp
    acked := [] }

/-- `dhcp_pool_init_by_user`. -/
def dhcpPoolInitByUser (ccb : DhcpCcb) (serverIp ipStart ipEnd mask : BitVec 32) :
    Status × DhcpCcb :=
  let newLen := (dhcpPoolLen ipStart ipEnd).toNat
  let oldLen := ccb.perLanUserPoolLen
  if newLen > dhcpMaxPoolSizePerUser then (.error, ccb)
  else
    (.success,
      { ccb with
        dhcpServerIp := serverIp
        poolStart := swap32 ipStart
        poolEnd := swap32 ipEnd
        subnetMask := mask
        perLanUserPoolLen := newLen
        perLanUserPool := fun i =>
          let e := ccb.perLanUserPool i
          let e := if i < oldLen then { e with timer := none } else e
          if i < max oldLen newLen then e.reset newLen ipStart i else e })

/-- `apply_hsi_config`, as far as the pool goes: a range is validated before it is applied. -/
def dhcpApplyConfig (ccb : DhcpCcb) (serverIp ipStart ipEnd mask : BitVec 32) : DhcpCcb :=
  match dhcpValidatePoolRange serverIp ipStart ipEnd mask with
  | .error => ccb
  | .success => (dhcpPoolInitByUser ccb serverIp ipStart ipEnd mask).2

/-- `dhcpd_disable_ccb`, of one subscriber. -/
def dhcpdDisableCcb (ccb : DhcpCcb) : DhcpCcb :=
  { ccb with
    dhcpBool := if ccb.perLanUserPoolLen = 0 then ccb.dhcpBool else false
    perLanUserPool := fun i =>
      if i < ccb.perLanUserPoolLen then (ccb.perLanUserPool i).releaseLanUser
      else ccb.perLanUserPool i }

/-- An entry as `dhcpd_allocate_ccbs` leaves it. -/
def perLanUserBlank : PerLanUser :=
  ⟨.init, false, 0, none, 0, 0, 0, false, false, none, []⟩

/-- A packet of zeros, which the header pointers of a fresh control block stand for. -/
def dhcpNoPkt : DhcpPkt := ⟨0, 0, 0, 0, 0, ⟨0, 0, 0, 0⟩, fun _ => 0, fun _ => ⟨0, 0, 0, 0⟩⟩

/-- A control block before `dhcp_init_by_user`. -/
def dhcpBlank : DhcpCcb where
  perLanUserPool := fun _ => perLanUserBlank
  perLanUserPoolLen := 0
  dhcpServerIp := 0
  poolStart := 0
  poolEnd := 0
  subnetMask := 0
  dhcpBool := false
  dns := ⟨true, false, 0, 0⟩
  pkt := dhcpNoPkt

/-- `dhcp_init_by_user`: the window of no addresses. -/
def dhcpInitByUser : DhcpCcb := (dhcpPoolInitByUser dhcpBlank 0 0 0 0).2

/-! ### Steps -/

/-- `rte_timer_manage`, for the timer of one entry. -/
def dhcpTimerFire (hz now : Nat) (ccb : DhcpCcb) (i : Nat) : DhcpCcb :=
  match (ccb.user i).timer with
  | none => ccb
  | some t =>
      if now < t.expire then ccb
      else
        let stopped := ccb.modUser i ({ · with timer := none })
        match t.cb with
        | .releaseLanUser => stopped.modUser i PerLanUser.releaseLanUser
        | .requestTimer => ((dhcpFsm hz now stopped i .timeout).map (·.ccb)).getD stopped
        | .leaseTimer => ((dhcpFsm hz now stopped i .timeout).map (·.ccb)).getD stopped

/-- What can happen to the server of one subscriber. -/
inductive DhcpLabel
  | packet (now : Nat) (pkt : DhcpPkt)
  | timer (now i : Nat)
  | applyConfig (serverIp ipStart ipEnd mask : BitVec 32)
  | dns (conf : DhcpDnsConf)
  | onOff (on : Bool)
  | disable

/-- One step.  A process that has ended stays where it was. -/
def dhcpStep (hz : Nat) (ccb : DhcpCcb) : DhcpLabel → DhcpCcb
  | .packet now pkt => ((dhcpd hz now ccb pkt).map (·.ccb)).getD ccb
  | .timer now i => dhcpTimerFire hz now ccb i
  | .applyConfig serverIp ipStart ipEnd mask => dhcpApplyConfig ccb serverIp ipStart ipEnd mask
  | .dns conf => { ccb with dns := conf }
  | .onOff on => { ccb with dhcpBool := on }
  | .disable => dhcpdDisableCcb ccb

/-- The runs from set-up, in which every step meets a condition. -/
def DhcpRun (hz : Nat) (cond : DhcpCcb → DhcpLabel → Prop) (ls : List DhcpLabel) (s : DhcpCcb) :
    Prop :=
  Run (dhcpStep hz) cond dhcpInitByUser ls s

end FastRG
