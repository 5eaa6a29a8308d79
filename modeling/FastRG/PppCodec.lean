/-
Decoding PPPoE and PPP frames: `codec.c`, the receiving half.

A frame is its bytes, VLAN tag and all.  A PPP frame is first stored in the control block,
in the slot of its protocol, and then decoded from there: the decoder checks it, takes over
what it negotiates, stops the restart timer where an answer has come, and says which event
the automaton is to be given.

The three decoders share their loops.  `check_*_nak_rej` are one function with a body for
each protocol and flag; the loops over the options of an answer are `Tlv.walk`, each
with the check and the writes the source has in that loop.  The walks of the source are bounded by
`ppp_hdr_len`, which is the length of the stored options and the four bytes of the header.

Allocation does not fail here, frames that are sent are not kept, and neither are the stored
copies of the outer headers.
-/
import FastRG.PppFsm
import FastRG.Lib.Tlv

namespace FastRG

/-! ### Constants -/

def ethPPppDis : BitVec 16 := 0x8863
def ethPPppSes : BitVec 16 := 0x8864
def ethJumbo : Nat := 9000
def pppMsgBufLen : Nat := 128

def padoCode : BitVec 8 := 0x7
def padsCode : BitVec 8 := 0x65
def padtCode : BitVec 8 := 0xa7
def padmCode : BitVec 8 := 0xd3

def configNakCode : BitVec 8 := 0x3
def configRejectCode : BitVec 8 := 0x4

def papRequest : BitVec 8 := 0x1
def papAck : BitVec 8 := 0x2
def papNak : BitVec 8 := 0x3
def chapChallenge : BitVec 8 := 0x1
def chapSuccess : BitVec 8 := 0x3
def chapFailure : BitVec 8 := 0x4

def optMru : BitVec 8 := 0x1
def optAuth : BitVec 8 := 0x3
def optMagicNum : BitVec 8 := 0x5
def optIpAddress : BitVec 8 := 0x3
def optPrimaryDns : BitVec 8 := 0x81
def optSecondaryDns : BitVec 8 := 0x83
def optInterfaceId : BitVec 8 := 0x1

def pppMruHighByte : BitVec 8 := 0x05
def pppMruLowByte : BitVec 8 := 0xD0

/-- The code field of an LCP, IPCP or IPV6CP frame. -/
inductive PppCode
  | configRequest
  | configAck
  | configNak
  | configReject
  | terminRequest
  | terminAck
  | codeReject
  | protoReject
  | echoRequest
  | echoReply
  | other
  deriving DecidableEq

def pppCode (b : BitVec 8) : PppCode :=
  if b = 0x1 then .configRequest
  else if b = 0x2 then .configAck
  else if b = configNakCode then .configNak
  else if b = configRejectCode then .configReject
  else if b = 0x5 then .terminRequest
  else if b = 0x6 then .terminAck
  else if b = 0x7 then .codeReject
  else if b = 0x8 then .protoReject
  else if b = 0x9 then .echoRequest
  else if b = 0xa then .echoReply
  else .other

/-! ### Bytes -/

/-- The eight bytes of an interface identifier. -/
def iidBytes (iid : BitVec 64) : List (BitVec 8) :=
  (List.range 8).map fun i => iid.extractLsb' (8 * (7 - i)) 8

/-! ### The stored frame -/

namespace PppCcb

/-- The options of the frame stored for a protocol. -/
def opts (s : PppCcb) (cp : PppCp) : List (BitVec 8) := (s.controlProtocol.get cp).pppOptions

/-- A frame stored in the slot of a protocol. -/
def store (s : PppCcb) (cp : PppCp) (proto : BitVec 16) (hdr : PppHdr) (opts : List (BitVec 8)) :
    PppCcb :=
  { s with
      controlProtocol := s.controlProtocol.set cp ({ s.controlProtocol.get cp with
        pppProtocol := proto, pppHdr := hdr, pppOptions := opts }) }

/-- The header and the options of a stored frame rewritten. -/
def rewrite (s : PppCcb) (cp : PppCp) (hdr : PppHdr) (opts : List (BitVec 8)) : PppCcb :=
  s.store cp (s.controlProtocol.get cp).pppProtocol hdr opts

/-- The frame that answers a request of ours: one is pending, and this is its identifier. -/
def answersRequest (s : PppCcb) (cp : PppCp) : Bool :=
  s.configRequestPending.get cp &&
    (s.controlProtocol.get cp).pppHdr.identifier == s.identifier.get cp

/-- A loop over the options of a stored frame. -/
def walkOpts (s : PppCcb) (cp : PppCp) (ok : Tlv → Bool) (eff : Tlv → PppCcb → PppCcb) :
    Bool × PppCcb :=
  Tlv.walk ok eff (Tlv.split (s.opts cp)).1 (Tlv.split (s.opts cp)).2 s

end PppCcb

/-- What a decoder returns: a status, the event, and the control block. -/
structure Decoded where
  status : Status
  event : PppEvent
  ccb : PppCcb

namespace Decoded

def ok (ev : PppEvent) (s : PppCcb) : Decoded := ⟨.success, ev, s⟩

def fail (s : PppCcb) : Decoded := ⟨.error, .eUnknown, s⟩

/-- `cp_id` is set once the decoder has succeeded. -/
def select (d : Decoded) (cp : PppCp) : Decoded :=
  if d.status = .error then d else { d with ccb := { d.ccb with cpId := cp } }

end Decoded

/-! ### Judging a Configure-Request -/

inductive CheckNakRej
  | error
  | noAction
  | sendResponse
  deriving DecidableEq

/-- What the loop of `check_*_nak_rej` works on: the control block, the options it has been
over as they stand now, and those it has put aside for the answer. -/
structure NakRej where
  ccb : PppCcb
  walked : List (BitVec 8)
  tmpBuf : List (BitVec 8)
  needRes : Bool

namespace NakRej

def pass (o : Tlv) (r : NakRej) : NakRej := { r with walked := r.walked ++ o.bytes }

/-- An option put aside as `kept`, and left in the list as `o`. -/
def keep (o kept : Tlv) (r : NakRej) : NakRej :=
  { r with walked := r.walked ++ o.bytes, tmpBuf := r.tmpBuf ++ kept.bytes, needRes := true }

end NakRej

/-- `check_lcp_nak_rej`, `check_ipcp_nak_rej` and `check_ipv6cp_nak_rej`, with the check and
the body of their loops as arguments.  A rewritten option is rewritten where it stands, also
when the loop fails further on. -/
def checkNakRej (cp : PppCp) (flag : BitVec 8) (ok : Tlv → Bool) (eff : Tlv → NakRej → NakRej)
    (s : PppCcb) : CheckNakRej × PppCcb :=
  let opts := s.opts cp
  if pppMsgBufLen < opts.length then (.error, s)
  else
    let (done, r) := Tlv.walk ok eff (Tlv.split opts).1 (Tlv.split opts).2 ⟨s, [], [], false⟩
    let hdr := (s.controlProtocol.get cp).pppHdr
    let len := BitVec.ofNat 16 (4 + r.tmpBuf.length)
    let opts := r.walked ++ opts.drop r.walked.length
    if !done then (.error, r.ccb.rewrite cp { hdr with length := len } opts)
    else if r.needRes then
      (.sendResponse, r.ccb.rewrite cp { hdr with length := swap16 len, code := flag }
        (r.tmpBuf ++ opts.drop r.tmpBuf.length))
    else (.noAction, r.ccb.rewrite cp { hdr with length := len } opts)

/-- An option whose first two value bytes are set. -/
def withHead (o : Tlv) (b0 b1 : BitVec 8) : Tlv := { o with val := b0 :: b1 :: o.val.drop 2 }

/-- The loop of `check_lcp_nak_rej` for `CONFIG_NAK`: an MRU other than ours, and an
authentication we do not know, are answered with ours.  That the peer wants
authentication, and which, is remembered as it goes. -/
def lcpNakBody (o : Tlv) (r : NakRej) : NakRej :=
  if o.type = optMru then
    if o.val.getD 0 0 ≠ pppMruHighByte ∨ o.val.getD 1 0 ≠ pppMruLowByte then
      let o := withHead o pppMruHighByte pppMruLowByte
      r.keep o o
    else r.pass o
  else if o.type = optAuth then
    let r := { r with ccb := { r.ccb with params := { r.ccb.params with peerRequiresAuth := true } } }
    let method := be16At o.val 0
    if method = r.ccb.params.authMethod then r.pass o
    else if method = papProtocol ∨ method = chapProtocol then
      { r with ccb := { r.ccb with params := { r.ccb.params with authMethod := method } } }.pass o
    else
      let o := withHead o 0xc0 0x23
      { r with ccb := { r.ccb with params := { r.ccb.params with authMethod := papProtocol } } }.keep
        o o
  else r.pass o

def lcpRejectBody (o : Tlv) (r : NakRej) : NakRej :=
  if o.type ≠ optMagicNum ∧ o.type ≠ optMru ∧ o.type ≠ optAuth then r.keep o o else r.pass o

/-- `check_lcp_nak_rej`. -/
def checkLcpNakRej (flag : BitVec 8) : PppCcb → CheckNakRej × PppCcb :=
  if flag = configNakCode then
    checkNakRej .lcp flag (fun o => !((o.type == optMru || o.type == optAuth) && o.val.length < 2))
      lcpNakBody
  else checkNakRej .lcp flag (fun _ => true) lcpRejectBody

def ipcpNakBody (o : Tlv) (r : NakRej) : NakRej :=
  if o.type = optIpAddress ∧ o.val.getD 0 0 = 0 then r.keep o o else r.pass o

def ipcpRejectBody (o : Tlv) (r : NakRej) : NakRej :=
  if o.type ≠ optIpAddress then r.keep o o else r.pass o

/-- `check_ipcp_nak_rej`. -/
def checkIpcpNakRej (flag : BitVec 8) : PppCcb → CheckNakRej × PppCcb :=
  if flag = configNakCode then
    checkNakRej .ipcp flag (fun o => !(o.type == optIpAddress && o.val.length < 4)) ipcpNakBody
  else checkNakRej .ipcp flag (fun _ => true) ipcpRejectBody

/-- A peer identifier that is zero or ours is answered with the one after ours. -/
def ipv6cpNakBody (o : Tlv) (r : NakRej) : NakRej :=
  let own := r.ccb.params.ipv6cpLocalIid
  if o.type = optInterfaceId ∧ (be64At o.val 0 = 0 ∨ be64At o.val 0 = own) then
    let last := own.extractLsb' 0 8 + 1
    r.keep o { o with val := (iidBytes own).take 7 ++ [last] }
  else r.pass o

def ipv6cpRejectBody (o : Tlv) (r : NakRej) : NakRej :=
  if o.type ≠ optInterfaceId then r.keep o o else r.pass o

/-- An Interface-Identifier has eight bytes. -/
def ipv6cpOptOk (o : Tlv) : Bool := !(o.type == optInterfaceId && o.val.length != 8)

/-- `check_ipv6cp_nak_rej`. -/
def checkIpv6cpNakRej (flag : BitVec 8) : PppCcb → CheckNakRej × PppCcb :=
  checkNakRej .ipv6cp flag ipv6cpOptOk
    (if flag = configNakCode then ipv6cpNakBody else ipv6cpRejectBody)

/-- A Configure-Request: both checks, then the loop that takes over what it says. -/
def recvConfigRequest (cp : PppCp) (check : BitVec 8 → PppCcb → CheckNakRej × PppCcb)
    (take : PppCcb → Bool × PppCcb) (s : PppCcb) : Decoded :=
  match check configNakCode s with
  | (.error, s) => .fail s
  | (.sendResponse, s) => .ok .eRecvBadConfigRequest s
  | (.noAction, s) =>
      match check configRejectCode s with
      | (.error, s) => .fail s
      | (.sendResponse, s) => .ok .eRecvBadConfigRequest s
      | (.noAction, s) =>
          match take s with
          | (false, s) => .fail s
          | (true, s) =>
              let hdr := (s.controlProtocol.get cp).pppHdr
              let len := BitVec.ofNat 16 ((s.opts cp).length + 4)
              .ok .eRecvGoodConfigRequest
                (s.rewrite cp { hdr with length := swap16 len } (s.opts cp))

/-! ### LCP -/

/-- The loop of a Configure-Ack: a Magic-Number must be ours. -/
def lcpAckOk (magicNum : BitVec 32) (o : Tlv) : Bool :=
  !(o.type == optMagicNum) || (o.val.length == 4 && le32At o.val 0 == magicNum)

/-- What a Configure-Nak of LCP changes. -/
def lcpNakTake (o : Tlv) (s : PppCcb) : PppCcb :=
  if o.type = optAuth ∧ 2 ≤ o.val.length then
    let method := if be16At o.val 0 = chapProtocol then chapProtocol else papProtocol
    { s with params := { s.params with authMethod := method } }
  else if o.type = optMru ∧ 2 ≤ o.val.length then
    let mru := be16At o.val 0
    if mru ≠ 0 ∧ mru ≤ maxRecvUnit then { s with params := { s.params with mru := mru } } else s
  else if o.type = optMagicNum then
    { s with
        params := { s.params with magicNum := swap32 (s.rand 0 % 0xFFFFFFFE + 1) }
        rand := fun n => s.rand (n + 1) }
  else s

/-- What a Configure-Reject of LCP changes. -/
def lcpRejectTake (o : Tlv) (s : PppCcb) : PppCcb :=
  if o.type = optAuth then { s with params := { s.params with lcpAuthRejected := true } }
  else if o.type = optMru then { s with params := { s.params with lcpMruRejected := true } }
  else if o.type = optMagicNum then
    { s with params := { s.params with lcpMagicRejected := true } }
  else s

/-- A Configure-Nak or a Configure-Reject: the options are taken over, and the request is no
longer pending. -/
def recvNakRej (cp : PppCp) (ok : Tlv → Bool) (take : Tlv → PppCcb → PppCcb) (s : PppCcb) :
    Decoded :=
  if !s.answersRequest cp then .fail s
  else
    match s.walkOpts cp ok take with
    | (false, s) => .fail s
    | (true, s) => .ok .eRecvConfigNakRej (s.setPending cp false)

/-- `decode_lcp`. -/
def decodeLcp (tim : PppTimerId) (s : PppCcb) : Decoded :=
  let s := { s with echoMissCount := 0 }
  match pppCode (s.controlProtocol.get .lcp).pppHdr.code with
  | .configRequest =>
      if s.phase ≠ lcpPhase then .fail s
      else recvConfigRequest .lcp checkLcpNakRej (fun s => (true, s)) s
  | .configAck =>
      if s.phase ≠ lcpPhase then .fail s
      else if !s.answersRequest .lcp then .fail s
      else if !(s.walkOpts .lcp (lcpAckOk s.params.magicNum) (fun _ s => s)).1 then .fail s
      else .ok .eRecvConfigAck ((s.setPending .lcp false).stopTimer tim)
  | .configNak => recvNakRej .lcp (fun _ => true) lcpNakTake s
  | .configReject => recvNakRej .lcp (fun _ => true) lcpRejectTake s
  | .terminRequest => .ok .eRecvTerminateRequest s
  | .terminAck => .ok .eRecvTerminateAck (s.stopTimer tim)
  | .codeReject => .ok .eRecvGoodCodeProtocolReject s
  | .protoReject =>
      if 2 ≤ (s.opts .lcp).length ∧ be16At (s.opts .lcp) 0 = ipv6cpProtocol then
        .ok .eRecvGoodCodeProtocolReject s.ipv6cpStop
      else .ok .eRecvBadCodeProtocolReject s
  | .echoRequest => if s.phase < lcpPhase then .fail s else .ok .eRecvEchoRequest s
  | .echoReply => if s.phase < lcpPhase then .fail s else .ok .eRecvEchoReply s
  | .other => .ok .eRecvUnknownCode s

/-! ### IPCP -/

/-- An address option has four bytes. -/
def ipcpOptOk (o : Tlv) : Bool :=
  !((o.type == optIpAddress || o.type == optPrimaryDns || o.type == optSecondaryDns) &&
    o.val.length < 4)

/-- What the DNS options of an IPCP frame change. -/
def ipcpDnsTake (o : Tlv) (s : PppCcb) : PppCcb :=
  if o.type = optPrimaryDns then
    { s with params := { s.params with hsiPrimaryDns := le32At o.val 0 } }
  else if o.type = optSecondaryDns then
    { s with params := { s.params with hsiSecondaryDns := le32At o.val 0 } }
  else s

/-- A Configure-Request tells the peer's address. -/
def ipcpRequestTake (o : Tlv) (s : PppCcb) : PppCcb :=
  if o.type = optIpAddress then { s with params := { s.params with hsiIpv4Gw := le32At o.val 0 } }
  else ipcpDnsTake o s

/-- A Configure-Ack or Configure-Nak tells ours. -/
def ipcpAnswerTake (o : Tlv) (s : PppCcb) : PppCcb :=
  if o.type = optIpAddress then { s with params := { s.params with hsiIpv4 := le32At o.val 0 } }
  else ipcpDnsTake o s

def ipcpRejectTake (o : Tlv) (s : PppCcb) : PppCcb :=
  if o.type = optPrimaryDns then { s with params := { s.params with hsiPrimaryDns := 0 } }
  else if o.type = optSecondaryDns then { s with params := { s.params with hsiSecondaryDns := 0 } }
  else s

/-- `decode_ipcp`.  A Configure-Ack is taken for received before its options are looked at. -/
def decodeIpcp (tim : PppTimerId) (s : PppCcb) : Decoded :=
  let s := { s with echoMissCount := 0 }
  match pppCode (s.controlProtocol.get .ipcp).pppHdr.code with
  | .configRequest =>
      recvConfigRequest .ipcp checkIpcpNakRej
        (fun s => s.walkOpts .ipcp ipcpOptOk ipcpRequestTake) s
  | .configAck =>
      if !s.answersRequest .ipcp then .fail s
      else
        match ((s.setPending .ipcp false).stopTimer tim).walkOpts .ipcp ipcpOptOk
            ipcpAnswerTake with
        | (false, s) => .fail s
        | (true, s) => .ok .eRecvConfigAck s
  | .configNak => recvNakRej .ipcp ipcpOptOk ipcpAnswerTake s
  | .configReject => recvNakRej .ipcp (fun _ => true) ipcpRejectTake s
  | .terminRequest => .ok .eRecvTerminateRequest s
  | .terminAck => .ok .eRecvTerminateAck (s.stopTimer tim)
  | .codeReject => .ok .eRecvGoodCodeProtocolReject s
  | .protoReject | .echoRequest | .echoReply | .other => .ok .eRecvUnknownCode s

/-! ### IPV6CP -/

def ipv6cpRequestTake (o : Tlv) (s : PppCcb) : PppCcb :=
  if o.type = optInterfaceId then
    { s with params := { s.params with ipv6cpPeerIid := be64At o.val 0 } }
  else s

def ipv6cpNakTake (o : Tlv) (s : PppCcb) : PppCcb :=
  if o.type = optInterfaceId then
    { s with params := { s.params with ipv6cpLocalIid := be64At o.val 0 } }
  else s

/-- A Configure-Reject of IPV6CP.  One that names the Interface-Identifier leaves nothing to
negotiate: IPV6CP is closed on the spot, and `ERROR` keeps the automaton from being run
again. -/
def recvIpv6cpReject (env : PppEnv) (tim : PppTimerId) (s : PppCcb) : Decoded :=
  if !s.answersRequest .ipv6cp then .fail s
  else
    let (os, wf) := Tlv.split (s.opts .ipv6cp)
    match os.find? fun o => o.type == optInterfaceId with
    | some o =>
        if o.val.length ≠ 8 then .fail s
        else .fail (pppFsm env tim .eClose { s.setPending .ipv6cp false with cpId := .ipv6cp }).2
    | none => if wf then .ok .eRecvConfigNakRej (s.setPending .ipv6cp false) else .fail s

/-- `decode_ipv6cp`. -/
def decodeIpv6cp (env : PppEnv) (tim : PppTimerId) (s : PppCcb) : Decoded :=
  let s := { s with echoMissCount := 0 }
  match pppCode (s.controlProtocol.get .ipv6cp).pppHdr.code with
  | .configRequest =>
      recvConfigRequest .ipv6cp checkIpv6cpNakRej
        (fun s => s.walkOpts .ipv6cp (fun _ => true) ipv6cpRequestTake) s
  | .configAck =>
      if !s.answersRequest .ipv6cp then .fail s
      else if !(s.walkOpts .ipv6cp ipv6cpOptOk (fun _ s => s)).1 then .fail s
      else .ok .eRecvConfigAck ((s.setPending .ipv6cp false).stopTimer tim)
  | .configNak => recvNakRej .ipv6cp ipv6cpOptOk ipv6cpNakTake s
  | .configReject => recvIpv6cpReject env tim s
  | .terminRequest => .ok .eRecvTerminateRequest s
  | .terminAck => .ok .eRecvTerminateAck (s.stopTimer tim)
  | .codeReject => .ok .eRecvGoodCodeProtocolReject s
  | .protoReject | .echoRequest | .echoReply | .other => .ok .eRecvUnknownCode s

/-! ### Frames -/

/-- The authentication result, kept in the slot of LCP. -/
def PppCcb.storeAuth (s : PppCcb) (proto : BitVec 16) (hdr : PppHdr) : PppCcb :=
  s.store .lcp proto hdr (s.opts .lcp)

/-- `decode_ppp` for PAP.  A code it does not know is no error. -/
def decodePap (env : PppEnv) (hdr : PppHdr) (s : PppCcb) : Decoded :=
  if s.phase ≠ authPhase then .fail s
  else if hdr.code = papAck then .ok .eUnknown (s.storeAuth papProtocol hdr)
  else if hdr.code = papNak then
    .ok .eUnknown (pppFsm env .ppp .eClose (s.enterPhase lcpPhase)).2
  else if hdr.code = papRequest then .ok .eUnknown (s.enterPhase authPhase)
  else .ok .eUnknown s

/-- `decode_ppp` for CHAP; `data` is what follows the header. -/
def decodeChap (hdr : PppHdr) (data : List (BitVec 8)) (s : PppCcb) : Decoded :=
  if s.phase ≠ authPhase then .fail s
  else if hdr.code = chapChallenge then
    if data.length < 1 ∨ data.length - 1 < (data.getD 0 0).toNat then .fail s
    else .ok .eUnknown (s.enterPhase authPhase)
  else if hdr.code = chapSuccess then .ok .eUnknown (s.storeAuth chapProtocol hdr)
  else if hdr.code = chapFailure then .ok .eUnknown (s.storeAuth chapProtocol hdr)
  else .ok .eUnknown s

/-- `decode_ppp`: `payload` is the frame from the PPP protocol field on. -/
def decodePpp (env : PppEnv) (payload : List (BitVec 8)) (s : PppCcb) : Decoded :=
  let proto := be16At payload 0
  let len := (be16At payload 4).toNat
  let hdr : PppHdr := ⟨payload.getD 2 0, payload.getD 3 0, swap16 (be16At payload 4)⟩
  let data := (payload.drop 6).take (len - 4)
  if len < 4 then .fail s
  else if payload.length < 2 + len then .fail s
  else if proto = ipcpProtocol then
    let s := s.store .ipcp proto hdr data
    if s.phase ≠ ipcpPhase then .fail s else (decodeIpcp .ppp s).select .ipcp
  else if proto = ipv6cpProtocol ∧ s.ipv6Enabled = true then
    let s := s.store .ipv6cp proto hdr data
    if s.phase ≠ ipcpPhase ∧ s.phase ≠ dataPhase then .fail s
    else (decodeIpv6cp env .pppIpv6cp s).select .ipv6cp
  else if proto = lcpProtocol then (decodeLcp .ppp (s.store .lcp proto hdr data)).select .lcp
  else if proto = papProtocol then decodePap env hdr s
  else if proto = chapProtocol then decodeChap hdr data s
  -- MPLSCP and a disabled IPV6CP are answered with a Protocol-Reject, anything else with nothing
  else .fail s

/-- The fields of a frame. -/
def frameSrcMac (pkt : List (BitVec 8)) : BitVec 48 := be48At pkt 6
def frameNextProto (pkt : List (BitVec 8)) : BitVec 16 := be16At pkt 16
def framePppoeCode (pkt : List (BitVec 8)) : BitVec 8 := pkt.getD 19 0
def frameSessionId (pkt : List (BitVec 8)) : BitVec 16 := be16At pkt 20
def framePayload (pkt : List (BitVec 8)) : List (BitVec 8) := pkt.drop 24

/-- `PADT` received: back to where a session starts from, then `PPP_bye`. -/
def recvPadt (env : PppEnv) (s : PppCcb) : PppCcb :=
  pppBye (pppFsm env) ({ s with
    phase := endPhase
    pppoePhase := { s.pppoePhase with maxRetransmit := maxRetran, active := false } }).resetStates

/-- `decode_pppoe`.  In a PADO the first PADR goes out, so the counter is at one. -/
def decodePppoe (env : PppEnv) (pkt : List (BitVec 8)) (s : PppCcb) : PppCcb :=
  if framePppoeCode pkt = padoCode then
    if s.pppoePhase.active then s
    else
      { s with
          pppoePhase := ⟨maxRetran, 1, true⟩
          pppDstMac := frameSrcMac pkt
          pppoe := some .padr }
  else if framePppoeCode pkt = padsCode then
    (pppFsm env .ppp .eOpen
      { s with pppoe := none, sessionId := frameSessionId pkt, cpId := .lcp }).2
  else if framePppoeCode pkt = padtCode then recvPadt env s
  else s

/-- `PPP_decode_frame`.  A discovery frame is handled here and never reaches the automaton's
event. -/
def pppDecodeFrame (env : PppEnv) (pkt : List (BitVec 8)) (s : PppCcb) : Decoded :=
  if ethJumbo < pkt.length then .fail s
  else if pkt.length < 24 then .fail s
  else if frameNextProto pkt = ethPPppDis then
    let s := if framePppoeCode pkt = padsCode then s.enterPhase lcpPhase else s
    .fail (decodePppoe env pkt s)
  else if frameNextProto pkt = ethPPppSes then
    if pkt.length < 30 then .fail s else decodePpp env (framePayload pkt) s
  else .ok .eUnknown s

/-- `check_auth_result`: whether it has dealt with the frame. -/
def checkAuthResult (env : PppEnv) (s : PppCcb) : Bool × PppCcb :=
  let proto := (s.controlProtocol.get .lcp).pppProtocol
  let code := (s.controlProtocol.get .lcp).pppHdr.code
  if s.phase ≠ authPhase then (false, s)
  else if (proto = papProtocol ∧ code = papNak) ∨ (proto = chapProtocol ∧ code = chapFailure) then
    (true, (pppFsm env .ppp .eClose { s with cpId := .lcp }).2)
  else if (proto = papProtocol ∧ code = papAck) ∨ (proto = chapProtocol ∧ code = chapSuccess) then
    (true, openNcps env (pppFsm env) s)
  else (false, s)

end FastRG
