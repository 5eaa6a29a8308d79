/-
Building PPP frames: `codec.c`, the sending half.

A builder fills a buffer and says how many bytes of it are to be sent.  `PppFrame` keeps the two
apart: the headers and the data the builder wrote, one after the other from the start of the
buffer, and `mulen`, which is all that `wan_ctrl_tx` goes by.  A builder that finds no room
leaves `mulen` at zero, and then nothing is sent; here it returns nothing.

Some builders write the outer headers afresh, and some copy those of the frame that was received
last, which `PPP_decode_frame` keeps in the control block.  The control block of the model does
not hold them, so they are an argument here, and whoever calls a builder says which frame they
are from.
-/
import FastRG.PppCodec

namespace FastRG

/-! ### Constants -/

def verType : BitVec 8 := 0x11
def etherVlan : BitVec 16 := 0x8100

/-- `ETH_MTU`, the size of the buffer a Protocol-Reject is built in. -/
def ethMtu : Nat := 1500

/-- The Ethernet, VLAN and PPPoE headers. -/
def pppL2Len : Nat := 24

/-- `sizeof(ppp_header_t)`. -/
def pppHdrLen : Nat := 4

/-- The headers of a PPP frame, from the Ethernet header to the one of the control protocol. -/
def pppOverhead : Nat := pppL2Len + 2 + pppHdrLen

/-- `PPP_BUILD_MAX_OPT_LEN`. -/
def pppBuildMaxOptLen : Nat := pppMsgBufLen - pppOverhead

def configRequestCode : BitVec 8 := 0x1
def configAckCode : BitVec 8 := 0x2
def terminRequestCode : BitVec 8 := 0x5
def terminAckCode : BitVec 8 := 0x6
def codeRejectCode : BitVec 8 := 0x7
def protoRejectCode : BitVec 8 := 0x8
def echoRequestCode : BitVec 8 := 0x9
def echoReplyCode : BitVec 8 := 0xa
def chapResponse : BitVec 8 := 0x2

/-- The protocol number of a control protocol. -/
def cpProtocol : PppCp → BitVec 16
  | .lcp => lcpProtocol
  | .ipcp => ipcpProtocol
  | .ipv6cp => ipv6cpProtocol

/-! ### Frames -/

/-- The Ethernet, VLAN and PPPoE headers, as they are on the wire. -/
structure OuterHdr where
  dstAddr : BitVec 48
  srcAddr : BitVec 48
  etherType : BitVec 16
  tci : BitVec 16
  nextProto : BitVec 16
  verType : BitVec 8
  code : BitVec 8
  sessionId : BitVec 16
  length : BitVec 16
  deriving DecidableEq

namespace OuterHdr

def bytes (h : OuterHdr) : List (BitVec 8) :=
  be48Bytes h.dstAddr ++ be48Bytes h.srcAddr ++ be16Bytes h.etherType ++ be16Bytes h.tci ++
    be16Bytes h.nextProto ++ [h.verType, h.code] ++ be16Bytes h.sessionId ++ be16Bytes h.length

/-- `vlan_id`: twelve bits of the tag. -/
def vlanId (h : OuterHdr) : BitVec 12 := h.tci.extractLsb' 0 12

/-- The headers of a received frame. -/
def ofPkt (pkt : List (BitVec 8)) : OuterHdr where
  dstAddr := be48At pkt 0
  srcAddr := frameSrcMac pkt
  etherType := be16At pkt 12
  tci := be16At pkt 14
  nextProto := frameNextProto pkt
  verType := pkt.getD 18 0
  code := framePppoeCode pkt
  sessionId := frameSessionId pkt
  length := be16At pkt 22

end OuterHdr

def PppHdr.bytes (h : PppHdr) : List (BitVec 8) :=
  [h.code, h.identifier] ++ be16Bytes (swap16 h.length)

/-- A frame as it is handed to `wan_ctrl_tx`. -/
structure PppFrame where
  outer : OuterHdr
  proto : BitVec 16
  hdr : PppHdr
  data : List (BitVec 8)
  mulen : BitVec 16
  deriving DecidableEq

namespace PppFrame

/-- The bytes the builder has written, from the start of the buffer. -/
def bytes (f : PppFrame) : List (BitVec 8) :=
  f.outer.bytes ++ be16Bytes f.proto ++ f.hdr.bytes ++ f.data

/-- The length field of the PPP packet. -/
def pppLen (f : PppFrame) : BitVec 16 := swap16 f.hdr.length

/-- A packet of `len` bytes closes a frame: the three lengths the way most builders work them
out, the two in the headers and the one that is returned. -/
def close (outer : OuterHdr) (proto : BitVec 16) (code identifier : BitVec 8) (len : BitVec 16)
    (data : List (BitVec 8)) : PppFrame where
  outer := { outer with length := len + 2 }
  proto := proto
  hdr := ⟨code, identifier, swap16 len⟩
  data := data
  mulen := len + 2 + BitVec.ofNat 16 pppL2Len

end PppFrame

/-- What the builders read of the node and of the subscriber's configuration.  `md5` is the
digest of a message. -/
structure PppTx where
  hsiWanSrcMac : BitVec 48
  vlanId : BitVec 12
  pppUserAcc : List (BitVec 8)
  pppPasswd : List (BitVec 8)
  md5 : List (BitVec 8) → Vector (BitVec 8) 16

/-! ### Configure-Request -/

/-- The Authentication-Protocol option, with MD5 for CHAP. -/
def authOptions (method : BitVec 16) : List Tlv :=
  if method = papProtocol then [⟨optAuth, be16Bytes papProtocol⟩]
  else if method = chapProtocol then [⟨optAuth, be16Bytes chapProtocol ++ [0x5]⟩]
  else []

/-- A DNS address is asked for while none is known. -/
def dnsOption (type : BitVec 8) (dns : BitVec 32) : List Tlv :=
  if dns = 0xffffffff then [⟨type, [0, 0, 0, 0]⟩] else []

/-- The options of a Configure-Request. -/
def configOptions (p : PppParams) : PppCp → List Tlv
  | .lcp =>
      (if p.lcpAuthRejected then [] else authOptions p.authMethod) ++
      (if p.lcpMruRejected then []
        -- zero stands for an MRU that has not been negotiated yet
        else [⟨optMru, be16Bytes (if p.mru ≠ 0 then p.mru else maxRecvUnit)⟩]) ++
      (if p.lcpMagicRejected then [] else [⟨optMagicNum, le32Bytes p.magicNum⟩])
  | .ipcp =>
      [⟨optIpAddress, le32Bytes p.hsiIpv4⟩] ++ dnsOption optPrimaryDns p.hsiPrimaryDns ++
        dnsOption optSecondaryDns p.hsiSecondaryDns
  | .ipv6cp => [⟨optInterfaceId, iidBytes p.ipv6cpLocalIid⟩]

/-! ### The builders -/

namespace PppTx

variable (tx : PppTx) (outer : OuterHdr) (s : PppCcb)

/-- The outer headers written afresh. -/
def freshOuter : OuterHdr where
  dstAddr := s.pppDstMac
  srcAddr := tx.hsiWanSrcMac
  etherType := etherVlan
  tci := tx.vlanId.setWidth 16
  nextProto := ethPPppSes
  verType := FastRG.verType
  code := 0
  sessionId := s.sessionId
  length := 0

/-- The outer headers of the frame received last, with the two addresses replaced. -/
def copiedOuter : OuterHdr := { outer with dstAddr := s.pppDstMac, srcAddr := tx.hsiWanSrcMac }

/-- An identifier drawn from `rand()`. -/
def randId : BitVec 8 := (s.rand 0 % 254 + 1).setWidth 8

/-- `build_config_request`.  What it writes to the control block is `PppCcb.buildConfigRequest`. -/
def buildConfigRequest : PppFrame :=
  let opts := (configOptions s.params s.cpId).flatMap Tlv.bytes
  .close (tx.freshOuter s) (cpProtocol s.cpId) configRequestCode
    (s.buildConfigRequest.identifier.get s.cpId) (BitVec.ofNat 16 (pppHdrLen + opts.length)) opts

/-- `build_config_ack` and `build_config_nak_rej`: the frame stored for the current protocol sent
back, with the code as an argument.  The length of the frame is what the stored PPPoE header
says. -/
def buildConfigAnswer (code : BitVec 8) : Option PppFrame :=
  let c := s.controlProtocol.get s.cpId
  let total := (swap16 c.pppHdr.length).toNat
  let frameLen := outer.length + BitVec.ofNat 16 pppL2Len
  if total < pppHdrLen ∨ pppBuildMaxOptLen < total - pppHdrLen ∨ pppMsgBufLen < frameLen.toNat then
    none
  else
    some {
      outer := tx.copiedOuter outer s
      proto := c.pppProtocol
      hdr := { c.pppHdr with code := code }
      data := c.pppOptions.take (total - pppHdrLen)
      mulen := frameLen }

/-- `build_config_ack`. -/
def buildConfigAck : Option PppFrame := tx.buildConfigAnswer outer s configAckCode

/-- `build_config_nak_rej`, with the code `check_*_nak_rej` stored. -/
def buildConfigNakRej : Option PppFrame :=
  tx.buildConfigAnswer outer s (s.controlProtocol.get s.cpId).pppHdr.code

/-- `build_echo_reply`, which goes by the frame stored for LCP.  Our magic number answers
theirs, and the four bytes they sent are repeated after it where eight were received. -/
def buildEchoReply : PppFrame :=
  let c := s.controlProtocol.lcp
  let optLen : BitVec 8 := (swap16 c.pppHdr.length).setWidth 8 - 4
  let data := (if 0 < optLen then le32Bytes s.params.magicNum else []) ++
    if optLen - 4 = 4 then c.pppOptions.take 4 else []
  .close (tx.copiedOuter outer s) c.pppProtocol echoReplyCode c.pppHdr.identifier
    (BitVec.ofNat 16 (pppHdrLen + data.length)) data

/-- `build_echo_request`. -/
def buildEchoRequest : PppFrame :=
  .close (tx.freshOuter s) lcpProtocol echoRequestCode (randId s) (BitVec.ofNat 16 (pppHdrLen + 4))
    (le32Bytes s.params.magicNum)

/-- `build_terminate_ack`. -/
def buildTerminateAck : PppFrame :=
  let c := s.controlProtocol.get s.cpId
  .close (tx.copiedOuter outer s) c.pppProtocol terminAckCode c.pppHdr.identifier
    (BitVec.ofNat 16 pppHdrLen) []

/-- `build_terminate_request`. -/
def buildTerminateRequest : PppFrame :=
  .close (tx.freshOuter s) (cpProtocol s.cpId) terminRequestCode (randId s)
    (BitVec.ofNat 16 pppHdrLen) []

/-- `build_code_reject`: the stored packet from its code on, as much of it as fits. -/
def buildCodeReject : Option PppFrame :=
  let c := s.controlProtocol.get s.cpId
  let rejectedLen := (swap16 c.pppHdr.length).toNat
  let copyLen := min rejectedLen pppBuildMaxOptLen
  if rejectedLen < pppHdrLen then none
  else
    some (.close (tx.freshOuter s) (cpProtocol s.cpId) codeRejectCode (randId s)
      (BitVec.ofNat 16 (pppHdrLen + copyLen))
      (c.pppHdr.bytes ++ c.pppOptions.take (copyLen - pppHdrLen)))

/-- `build_proto_reject`: the rejected protocol, then what was received under it. -/
def buildProtoReject (rejectedProto : BitVec 16) (rejectedInfo : List (BitVec 8)) : PppFrame :=
  let maxInfo := ethMtu - (pppOverhead + 2)
  let copyLen := min rejectedInfo.length maxInfo
  .close (tx.freshOuter s) lcpProtocol protoRejectCode (randId s)
    (BitVec.ofNat 16 (pppHdrLen + 2 + copyLen))
    (be16Bytes rejectedProto ++ rejectedInfo.take copyLen)

/-- `build_auth_request_pap`. -/
def buildAuthRequestPap : Option PppFrame :=
  let accLen := tx.pppUserAcc.length
  let passwdLen := tx.pppPasswd.length
  if 255 < accLen ∨ 255 < passwdLen ∨ pppMsgBufLen < pppOverhead + 2 + accLen + passwdLen then none
  else
    some (.close { tx.copiedOuter outer s with etherType := etherVlan } papProtocol papRequest
      s.identifier.lcp (BitVec.ofNat 16 (2 + accLen + passwdLen + pppHdrLen))
      ([BitVec.ofNat 8 accLen] ++ tx.pppUserAcc ++ [BitVec.ofNat 8 passwdLen] ++ tx.pppPasswd))

/-- `"Login ok"`. -/
def loginMsg : List (BitVec 8) := [0x4c, 0x6f, 0x67, 0x69, 0x6e, 0x20, 0x6f, 0x6b]

/-- `build_auth_ack_pap`. -/
def buildAuthAckPap : PppFrame :=
  .close { tx.copiedOuter outer s with etherType := etherVlan } papProtocol papAck
    s.identifier.lcp (BitVec.ofNat 16 (pppHdrLen + loginMsg.length + 1))
    ([BitVec.ofNat 8 loginMsg.length] ++ loginMsg)

/-- `build_auth_response_chap`, for the value of a challenge.  The frame goes back to where the
stored one came from. -/
def buildAuthResponseChap (value : List (BitVec 8)) : Option PppFrame :=
  let c := s.controlProtocol.lcp
  let nameLen := tx.pppUserAcc.length
  let hash := tx.md5 ([c.pppHdr.identifier] ++ tx.pppPasswd ++ value)
  if pppMsgBufLen < pppOverhead + 1 + 16 + nameLen then none
  else
    some (.close { outer with dstAddr := outer.srcAddr, srcAddr := outer.dstAddr } chapProtocol
      chapResponse c.pppHdr.identifier (BitVec.ofNat 16 (pppHdrLen + 1 + 16 + nameLen))
      ([16] ++ hash.toList ++ tx.pppUserAcc))

end PppTx

/-- The builders of a session's frames, with what they are given besides the control block. -/
inductive PppBuild
  | configRequest | configAck | configNakRej
  | echoReply | echoRequest
  | terminateAck | terminateRequest
  | codeReject | protoReject (rejectedProto : BitVec 16) (rejectedInfo : List (BitVec 8))
  | authRequestPap | authAckPap | authResponseChap (value : List (BitVec 8))

/-- The frame a builder makes, if there is room. -/
def PppTx.build (tx : PppTx) (outer : OuterHdr) (s : PppCcb) : PppBuild → Option PppFrame
  | .configRequest => some (tx.buildConfigRequest s)
  | .configAck => tx.buildConfigAck outer s
  | .configNakRej => tx.buildConfigNakRej outer s
  | .echoReply => some (tx.buildEchoReply outer s)
  | .echoRequest => some (tx.buildEchoRequest s)
  | .terminateAck => some (tx.buildTerminateAck outer s)
  | .terminateRequest => some (tx.buildTerminateRequest s)
  | .codeReject => tx.buildCodeReject s
  | .protoReject proto info => some (tx.buildProtoReject s proto info)
  | .authRequestPap => tx.buildAuthRequestPap outer s
  | .authAckPap => some (tx.buildAuthAckPap outer s)
  | .authResponseChap value => tx.buildAuthResponseChap outer s value

/-- The buffer a frame is built in. -/
def PppBuild.bufLen : PppBuild → Nat
  | .protoReject _ _ => ethMtu
  | _ => pppMsgBufLen

end FastRG
