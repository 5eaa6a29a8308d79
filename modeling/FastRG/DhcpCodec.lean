/-
The DHCP server's pool and decoder: `dhcpd.h` and `dhcp_codec.c`.

A subscriber has a window of pool entries.  An entry plays two parts at once: it is
the slot of a client, found by the client's MAC, with the client's automaton state
and timer; and it is one address of the window, with the MAC it is taken for.  The
two parts need not be about the same client.

A packet is the buffer it sits in.  Its options are bytes of that buffer, and the
decoder walks them by offset; the two addresses of the header that the server
rewrites are part of it.  An entry keeps a pointer to the header of the last packet
that was decoded in it.  The buffer behind an old pointer has been freed since, so
what it holds is the environment's choice and comes with the packet.
-/
import FastRG.Common

namespace FastRG

/-! ### Constants -/

/-- `LEASE_TIMEOUT`, in seconds. -/
def leaseTimeout : Nat := 3600
def dhcpMagicCookie : BitVec 32 := 0x63825363
def dhcpHwTypeEthernet : BitVec 8 := 0x01
def dhcpOptRequestIp : BitVec 8 := 50
def dhcpOptMsgType : BitVec 8 := 53
def dhcpOptServerId : BitVec 8 := 54
def dhcpOptIspId : BitVec 8 := 60
def dhcpOptClientId : BitVec 8 := 61
def dhcpOptEnd : BitVec 8 := 255
def dhcpMsgDiscover : BitVec 8 := 1
def dhcpMsgRequest : BitVec 8 := 3
def dhcpMsgDecline : BitVec 8 := 4
def dhcpMsgRelease : BitVec 8 := 7
def dhcpMsgInform : BitVec 8 := 8
def rteIpv4Any : BitVec 32 := 0
def rteIpv4Broadcast : BitVec 32 := 0xffffffff
def zeroMac : BitVec 48 := 0
def broadcastMac : BitVec 48 := 0xffffffffffff
/-- `sizeof(dhcp_hdr_t)`. -/
def dhcpHdrLen : Nat := 240

/-! ### Data -/

/-- `DHCP_STATE`. -/
inductive DhcpState
  | init
  | discoverRecv
  | offerSent
  | requestRecv
  | ackSent
  | nakSent
  | invld
  deriving DecidableEq

/-- `DHCP_EVENT_TYPE`. -/
inductive DhcpEvent
  | discover
  | offer
  | goodRequest
  | badRequest
  | ack
  | nak
  | timeout
  | release
  | decline
  | inform
  deriving DecidableEq

/-- What an entry's timer calls when it fires. -/
inductive DhcpTimerCb
  | releaseLanUser
  | requestTimer
  | leaseTimer
  deriving DecidableEq

/-- A pending timer: its callback, and the cycle it is due at. -/
structure DhcpTimer where
  cb : DhcpTimerCb
  expire : Nat
  deriving DecidableEq

/-- The fields of a DHCP header that the server reads or rewrites. -/
structure DhcpHdr where
  bootpFlag : BitVec 16
  clientIp : BitVec 32
  urClientIp : BitVec 32
  magicCookie : BitVec 32
  deriving DecidableEq

/-- A packet handed to the server. -/
structure DhcpPkt where
  /-- The buffer it is in. -/
  buf : Nat
  srcMac : BitVec 48
  ipDst : BitVec 32
  /-- How many bytes the packet has from the UDP header on. -/
  room : Nat
  /-- `dgram_len` of the UDP header, in host order. -/
  dgramLen : BitVec 16
  hdr : DhcpHdr
  /-- The bytes after the fixed header. -/
  opt : Nat → BitVec 8
  /-- What the other buffers hold by now. -/
  freed : Nat → DhcpHdr

/--
`dhcp_ccb_per_lan_user_t`, with its `lan_user_info` and its `ip_pool`.

`acked` is not in the source, and nothing reads it: it lists the client and the
address of every acknowledgement sent for the entry since it was last released.
-/
structure PerLanUser where
  state : DhcpState
  lanUserUsed : Bool
  lanMac : BitVec 48
  timer : Option DhcpTimer
  timeoutSecs : Nat
  poolMac : BitVec 48
  ipAddr : BitVec 32
  used : Bool
  reserved : Bool
  dhcpHdr : Option Nat
  acked : List (BitVec 48 × BitVec 32)

/-- What the DNS servers of a reply depend on, outside the server. -/
structure DhcpDnsConf where
  dnsProxyEnabled : Bool
  dpStarted : Bool
  hsiPrimaryDns : BitVec 32
  hsiSecondaryDns : BitVec 32

/-- `dhcp_ccb_t`.  `pkt` is what its header pointers point at. -/
structure DhcpCcb where
  perLanUserPool : Nat → PerLanUser
  perLanUserPoolLen : Nat
  dhcpServerIp : BitVec 32
  /-- In host order, as `poolEnd`. -/
  poolStart : BitVec 32
  poolEnd : BitVec 32
  subnetMask : BitVec 32
  dhcpBool : Bool
  dns : DhcpDnsConf
  pkt : DhcpPkt

namespace DhcpCcb

/-- One entry of the pool. -/
def user (ccb : DhcpCcb) (i : Nat) : PerLanUser := ccb.perLanUserPool i

/-- One entry changed. -/
def modUser (ccb : DhcpCcb) (i : Nat) (f : PerLanUser → PerLanUser) : DhcpCcb :=
  { ccb with perLanUserPool := Function.update ccb.perLanUserPool i (f (ccb.perLanUserPool i)) }

variable (ccb : DhcpCcb) (i : Nat) (f : PerLanUser → PerLanUser)

@[simp] theorem user_modUser_self : (ccb.modUser i f).user i = f (ccb.user i) := by
  simp [user, modUser]

@[simp] theorem user_modUser_of_ne {i j : Nat} (h : j ≠ i) :
    (ccb.modUser i f).user j = ccb.user j := by
  simp [user, modUser, h]

theorem user_modUser (j : Nat) :
    (ccb.modUser i f).user j = if j = i then f (ccb.user j) else ccb.user j := by
  by_cases h : j = i
  · subst h; simp
  · simp [h]

@[simp] theorem modUser_len : (ccb.modUser i f).perLanUserPoolLen = ccb.perLanUserPoolLen := rfl
@[simp] theorem modUser_pkt : (ccb.modUser i f).pkt = ccb.pkt := rfl

end DhcpCcb

/-! ### Addresses -/

/-- `dhcp_ip_is_reserved`, of an address in host order. -/
def dhcpIpIsReserved (hostOrderIp : BitVec 32) : Bool :=
  let hostByte := hostOrderIp.extractLsb' 0 8
  hostByte = 0x00 || hostByte = 0xff

/-- `(ip & subnet_mask) == (dhcp_server_ip & subnet_mask)`. -/
def dhcpInSubnet (ccb : DhcpCcb) (ip : BitVec 32) : Bool :=
  ip &&& ccb.subnetMask = ccb.dhcpServerIp &&& ccb.subnetMask

/-- The three checks `decode_request` makes of an address a client names. -/
def dhcpIpAcceptable (ccb : DhcpCcb) (ip : BitVec 32) : Bool :=
  dhcpInSubnet ccb ip && !(swap32 ip < ccb.poolStart || swap32 ip > ccb.poolEnd) &&
    !dhcpIpIsReserved (swap32 ip)

/-! ### Options -/

/-- The options a walk visits, by offset, and how it ends: at the end of the field or
its end marker, or at an option that runs past the field. -/
inductive OptWalk
  | done
  | malformed
  | opt (off : Nat) (rest : OptWalk)
  deriving DecidableEq

namespace DhcpPkt

/-- `cur->len`. -/
def optLen (pkt : DhcpPkt) (off : Nat) : Nat := (pkt.opt (off + 1)).toNat

/-- `cur->val[i]`. -/
def optVal (pkt : DhcpPkt) (off i : Nat) : BitVec 8 := pkt.opt (off + 2 + i)

/-- Four bytes of an option, as the machine loads them. -/
def optU32 (pkt : DhcpPkt) (off : Nat) : BitVec 32 :=
  pkt.optVal off 3 ++ pkt.optVal off 2 ++ pkt.optVal off 1 ++ pkt.optVal off 0

/-- The MAC of a client identifier, after its hardware type. -/
def optMac (pkt : DhcpPkt) (off : Nat) : BitVec 48 :=
  pkt.optVal off 1 ++ pkt.optVal off 2 ++ pkt.optVal off 3 ++ pkt.optVal off 4 ++
    pkt.optVal off 5 ++ pkt.optVal off 6

/-- `dhcp_field_len`. -/
def fieldLen (pkt : DhcpPkt) : Nat := pkt.dgramLen.toNat - udpHdrLen - dhcpHdrLen

/-- The loop over options from an offset on.  It goes at least two bytes a turn. -/
def walkFrom (pkt : DhcpPkt) : Nat → Nat → OptWalk
  | 0, _ => .done
  | fuel + 1, off =>
      if pkt.opt off = dhcpOptEnd ∨ pkt.fieldLen ≤ off then .done
      else if off + pkt.optLen off + 2 > pkt.fieldLen then .malformed
      else .opt off (walkFrom pkt fuel (off + 2 + pkt.optLen off))

/-- The walk over all options. -/
def walk (pkt : DhcpPkt) : OptWalk := pkt.walkFrom (pkt.fieldLen + 1) 0

end DhcpPkt

/-! ### The pool -/

/-- `is_client_in_pool`. -/
def isClientInPool (ccb : DhcpCcb) (mac : BitVec 48) (cur : Nat) : Bool :=
  (List.range' cur (ccb.perLanUserPoolLen - cur) ++ List.range (max cur ccb.perLanUserPoolLen)).any
    fun i => (ccb.user i).used || (ccb.user i).poolMac = mac

/-- An address taken for a client. -/
def PerLanUser.take (mac : BitVec 48) (e : PerLanUser) : PerLanUser :=
  { e with poolMac := mac, used := true }

/-- `check_and_set_single_pool_entry`: the pool afterwards, when the entry will do. -/
def checkAndSetSinglePoolEntry (ccb : DhcpCcb) (index : Nat) (mac : BitVec 48) : Option DhcpCcb :=
  let entry := ccb.user index
  if entry.reserved then none
  else if ¬ entry.used then some (ccb.modUser index (·.take mac))
  else if mac = entry.poolMac then some ccb
  else none

/-- The loops of `check_pool`, over the indices they try. -/
def scanPool (ccb : DhcpCcb) (mac : BitVec 48) : List Nat → Option (DhcpCcb × Nat)
  | [] => none
  | i :: rest =>
      match checkAndSetSinglePoolEntry ccb i mac with
      | some ccb' => some (ccb', i)
      | none => scanPool ccb mac rest

/-- `check_pool`, of the client whose slot is `own`: the pool and the index it settles
on, unless no entry will do. -/
def checkPool (ccb : DhcpCcb) (own cur : Nat) (mac : BitVec 48) : Option (DhcpCcb × Nat) :=
  let e := ccb.user own
  if ¬ e.reserved ∧ ¬ e.used then some (ccb.modUser own (·.take mac), cur)
  else if ¬ e.reserved ∧ mac = e.poolMac then some (ccb, cur)
  else scanPool ccb mac
    (List.range' cur (ccb.perLanUserPoolLen - cur) ++ List.range (max cur ccb.perLanUserPoolLen))

/-- The addresses `pick_ip_from_pool` looks at, over the indices it tries. -/
def pickFrom (ccb : DhcpCcb) (mac : BitVec 48) : List Nat → Option (DhcpCcb × BitVec 32)
  | [] => none
  | i :: rest =>
      let e := ccb.user i
      if e.reserved then pickFrom ccb mac rest
      else if mac = e.poolMac then some (ccb, e.ipAddr)
      else if ¬ e.used then some (ccb.modUser i ({ · with poolMac := mac }), e.ipAddr)
      else pickFrom ccb mac rest

/-- `pick_ip_from_pool`. -/
def pickIpFromPool (ccb : DhcpCcb) (i : Nat) (mac : BitVec 48) : Option (DhcpCcb × BitVec 32) :=
  pickFrom ccb mac
    (List.range' i (ccb.perLanUserPoolLen - i) ++ List.range (max i ccb.perLanUserPoolLen))

/-! ### REQUEST -/

/-- How the options of a REQUEST read: `ERROR`, `E_BAD_REQUEST`, or on to the pool. -/
inductive RequestVerdict
  | error
  | bad
  | ok
  deriving DecidableEq

/-- The options of a REQUEST with a `ciaddr`: a renewal or a rebind. -/
def renewWalk (ccb : DhcpCcb) : OptWalk → RequestVerdict
  | .done => .ok
  | .malformed => .error
  | .opt off rest =>
      if ccb.pkt.opt off = dhcpOptServerId then
        if ccb.pkt.optLen off ≠ 4 then .error
        else if ccb.pkt.optU32 off ≠ ccb.dhcpServerIp then .error
        else .ok
      else if ccb.pkt.ipDst = rteIpv4Broadcast then .ok
      else renewWalk ccb rest

/-- What the options of a REQUEST without a `ciaddr` leave behind: the MAC to look for
and the `yiaddr` in the buffer. -/
structure SelectScan where
  verdict : RequestVerdict
  mac : BitVec 48
  urClientIp : BitVec 32

/-- The options of a REQUEST without a `ciaddr`. -/
def selectWalk (ccb : DhcpCcb) (mac : BitVec 48) (ur : BitVec 32) : OptWalk → SelectScan
  | .done => ⟨.ok, mac, ur⟩
  | .malformed => ⟨.error, mac, ur⟩
  | .opt off rest =>
      if ccb.pkt.opt off = dhcpOptClientId then
        if ccb.pkt.optLen off < 7 then ⟨.error, mac, ur⟩
        else if ccb.pkt.optVal off 0 ≠ dhcpHwTypeEthernet then ⟨.error, mac, ur⟩
        else selectWalk ccb (ccb.pkt.optMac off) ur rest
      else if ccb.pkt.opt off = dhcpOptRequestIp then
        if ccb.pkt.optLen off ≠ 4 then ⟨.error, mac, ur⟩
        else if ¬ dhcpIpAcceptable ccb (ccb.pkt.optU32 off) then ⟨.bad, mac, ccb.pkt.optU32 off⟩
        else selectWalk ccb mac (ccb.pkt.optU32 off) rest
      else if ccb.pkt.opt off = dhcpOptServerId then
        if ccb.pkt.optLen off ≠ 4 then ⟨.error, mac, ur⟩
        else if ccb.pkt.optU32 off ≠ ccb.dhcpServerIp then ⟨.error, mac, ur⟩
        else selectWalk ccb mac ur rest
      else selectWalk ccb mac ur rest

/-- The two addresses of the header in the buffer, rewritten. -/
def setHdrIps (ccb : DhcpCcb) (ci ur : BitVec 32) : DhcpCcb :=
  { ccb with pkt := { ccb.pkt with hdr := { ccb.pkt.hdr with clientIp := ci, urClientIp := ur } } }

/-- The first half of `decode_request`: the header and the options. -/
def requestScan (ccb : DhcpCcb) (own : Nat) : RequestVerdict × DhcpCcb × BitVec 48 :=
  let hdr := ccb.pkt.hdr
  if hdr.clientIp ≠ rteIpv4Any then
    -- the verdict is out before the header is touched
    if ¬ dhcpIpAcceptable ccb hdr.clientIp then (.bad, ccb, ccb.pkt.srcMac)
    else
      let ccb := (setHdrIps ccb 0 hdr.clientIp).modUser own ({ · with timeoutSecs := leaseTimeout })
      (renewWalk ccb ccb.pkt.walk, ccb, ccb.pkt.srcMac)
  else
    let scan := selectWalk ccb ccb.pkt.srcMac hdr.urClientIp ccb.pkt.walk
    (scan.verdict, setHdrIps ccb hdr.clientIp scan.urClientIp, scan.mac)

/-- `decode_request`; no event is `ERROR`. -/
def decodeRequest (ccb : DhcpCcb) (own cur : Nat) : Option DhcpEvent × DhcpCcb × Nat :=
  match requestScan ccb own with
  | (.error, ccb, _) => (none, ccb, cur)
  | (.bad, ccb, _) => (some .badRequest, ccb, cur)
  | (.ok, ccb, mac) =>
      match checkPool ccb own cur mac with
      | some (ccb, cur) => (some .goodRequest, ccb, cur)
      | none => (some .badRequest, ccb, cur)

/-! ### DECLINE -/

/-- What the options of a DECLINE say: the address declined, and whether the server named
is this one.  An option that runs past the field only ends the walk. -/
def declineWalk (ccb : DhcpCcb) (requestedIp : BitVec 32) (hasServerId : Bool) :
    OptWalk → BitVec 32 × Bool
  | .done => (requestedIp, hasServerId)
  | .malformed => (requestedIp, hasServerId)
  | .opt off rest =>
      if ccb.pkt.opt off = dhcpOptServerId then
        declineWalk ccb requestedIp
          (hasServerId || (ccb.pkt.optLen off = 4 && ccb.pkt.optU32 off = ccb.dhcpServerIp)) rest
      else if ccb.pkt.opt off = dhcpOptRequestIp ∧ ccb.pkt.optLen off = 4 then
        declineWalk ccb (ccb.pkt.optU32 off) hasServerId rest
      else declineWalk ccb requestedIp hasServerId rest

/-- Whether a DECLINE is one the server acts on. -/
def declineAccepted (ccb : DhcpCcb) (cur : Nat) : Bool :=
  let scan := declineWalk ccb 0 false ccb.pkt.walk
  scan.2 && scan.1 ≠ 0 && dhcpInSubnet ccb scan.1 && isClientInPool ccb ccb.pkt.srcMac cur

/-! ### Decoding -/

/-- What `dhcp_decode` returns: a negative number, zero, or an event. -/
inductive DhcpDecoded
  | error
  | noEvent
  | event (e : DhcpEvent)
  deriving DecidableEq

/-- The event a walk has come to, as a return value. -/
def DhcpDecoded.ofEvent : Option DhcpEvent → DhcpDecoded
  | none => .error
  | some e => .event e

/-- The pool, the index and the event, as `dhcp_decode`'s loop carries them. -/
structure DecodeSt where
  ccb : DhcpCcb
  cur : Nat
  event : Option DhcpEvent

/-- The message type option, for the client whose slot is `own`. -/
def decodeMsgType (own : Nat) (st : DecodeSt) (msgType : BitVec 8) : DecodeSt :=
  if msgType = dhcpMsgDiscover then { st with event := some .discover }
  else if msgType = dhcpMsgRequest then
    let r := decodeRequest st.ccb own st.cur
    ⟨r.2.1.modUser own ({ · with timer := none }), r.2.2, r.1⟩
  else if msgType = dhcpMsgRelease then
    match checkPool st.ccb own st.cur st.ccb.pkt.srcMac with
    | some (ccb, cur) => ⟨ccb, cur, some .release⟩
    | none => st
  else if msgType = dhcpMsgDecline then
    if declineAccepted st.ccb st.cur then { st with event := some .decline } else st
  else if msgType = dhcpMsgInform then { st with event := some .inform }
  else st

/-- The loop of `dhcp_decode`.  The type of a message is the first byte of the option's
value, whatever length the option gives itself. -/
def decodeWalk (own : Nat) (st : DecodeSt) : OptWalk → DhcpDecoded × DhcpCcb × Nat
  | .done => (.ofEvent st.event, st.ccb, st.cur)
  | .malformed => (.error, st.ccb, st.cur)
  | .opt off rest =>
      if st.ccb.pkt.opt off = dhcpOptIspId then (.noEvent, st.ccb, st.cur)
      else if st.ccb.pkt.opt off = dhcpOptMsgType then
        decodeWalk own (decodeMsgType own st (st.ccb.pkt.optVal off 0)) rest
      else decodeWalk own st rest

/-- `dhcp_decode`, of the packet of a client whose slot is `own`. -/
def dhcpDecode (ccb : DhcpCcb) (own : Nat) (pkt : DhcpPkt) : DhcpDecoded × DhcpCcb × Nat :=
  let ccb := { ccb with pkt := pkt }.modUser own ({ · with dhcpHdr := some pkt.buf })
  if pkt.dgramLen.toNat < udpHdrLen + dhcpHdrLen then (.error, ccb, own)
  else if swap32 pkt.hdr.magicCookie ≠ dhcpMagicCookie then (.error, ccb, own)
  else decodeWalk own ⟨ccb, own, none⟩ pkt.walk

end FastRG
