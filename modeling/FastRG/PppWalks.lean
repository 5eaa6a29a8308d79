/-
The option walks of `codec.c`, byte by byte.

The decoders are written once more, this time over the bytes of the stored options and of the
temporary that the checks copy to, so that it is known which bytes each loop looks at and which
it writes.  A loop keeps a cursor and the length it has been over, a 16-bit number; it ends when
that reaches `ppp_hdr_len`, and gives up after a number of rounds that is a parameter here.  Only
the loop that takes over a Configure-Request of IPV6CP makes no check of its own.

What a loop makes of an option is `judge` of its type, its length and those bytes of its value
that it looks at, of which there are `width` many.
-/
import FastRG.PppCodec
import FastRG.Lib.Access

namespace FastRG

/-- The buffers the loops touch: the stored options, and the temporary of the checks. -/
inductive PppBuf
  | options
  | tmpBuf
  deriving DecidableEq

section Walks

variable {σ : Type}

/-- A loop over options that checks each one's length before its body.  `buf` is what the options
hold by now, and a body that answers `false` leaves the loop with an error. -/
def optWalk (buf : σ → List (BitVec 8)) (body : Nat → σ → Access PppBuf (Bool × σ))
    (pppHdrLen : Nat) : Nat → Nat → Nat → σ → Access PppBuf (Option (Bool × σ))
  | 0, total, _, s => pure (if total < pppHdrLen then none else some (true, s))
  | rounds + 1, total, cur, s =>
      if total < pppHdrLen then
        if pppHdrLen - total < 2 then pure (some (false, s))
        else do
          let len ← Access.u8 .options (buf s) (cur + 1)
          if len.toNat < 2 ∨ pppHdrLen - total < len.toNat then pure (some (false, s))
          else do
            let r ← body cur s
            if r.1 then do
              let len ← Access.u8 .options (buf r.2) (cur + 1)
              optWalk buf body pppHdrLen rounds ((total + len.toNat) % 65536) (cur + len.toNat) r.2
            else pure (some (false, r.2))
      else pure (some (true, s))

/-- A loop over options that takes their lengths as they are. -/
def optWalkUnchecked (opts : List (BitVec 8)) (body : Nat → σ → Access PppBuf σ)
    (pppHdrLen : Nat) : Nat → Nat → Nat → σ → Access PppBuf (Option σ)
  | 0, total, _, s => pure (if total < pppHdrLen then none else some s)
  | rounds + 1, total, cur, s =>
      if total < pppHdrLen then do
        let s ← body cur s
        let len ← Access.u8 .options opts (cur + 1)
        optWalkUnchecked opts body pppHdrLen rounds ((total + len.toNat) % 65536)
          (cur + len.toNat) s
      else pure (some s)

/-- What a body sees of an option. -/
structure OptView where
  type : BitVec 8
  length : Nat
  val : List (BitVec 8)

/-- An option looked at, with as many bytes of its value as its type and length call for. -/
def lookAt (opts : List (BitVec 8)) (width : BitVec 8 → Nat → Nat) (cur : Nat) :
    Access PppBuf OptView := do
  let type ← Access.u8 .options opts cur
  let len ← Access.u8 .options opts (cur + 1)
  let val ← Access.bytes .options opts (cur + 2) (width type len.toNat)
  return ⟨type, len.toNat, val⟩

/-- A body that only looks. -/
def readBody (opts : List (BitVec 8)) (width : BitVec 8 → Nat → Nat)
    (judge : OptView → σ → Bool × σ) (cur : Nat) (s : σ) : Access PppBuf (Bool × σ) := do
  let o ← lookAt opts width cur
  return judge o s

end Walks

/-- A loop over the options stored for a protocol, from the first. -/
def PppCcb.walkAcc (s : PppCcb) (cp : PppCp) (width : BitVec 8 → Nat → Nat)
    (judge : OptView → PppCcb → Bool × PppCcb) (rounds pppHdrLen : Nat) :
    Access PppBuf (Option (Bool × PppCcb)) :=
  optWalk (fun _ => s.opts cp) (readBody (s.opts cp) width judge) pppHdrLen rounds 4 0 s

/-! ### Judging a Configure-Request -/

/-- What the loop of `check_*_nak_rej` works on: `ppp_options` as they stand, what lies before
`tmp_cur`, and `ppp_hdr->length`. -/
structure NakRejAcc where
  ccb : PppCcb
  opts : List (BitVec 8)
  tmpBuf : List (BitVec 8)
  length : BitVec 16
  needRes : Bool

namespace NakRejAcc

/-- An option copied to `tmp_cur`, which moves on. -/
def copyOut (cur : Nat) (m : NakRejAcc) : Access PppBuf NakRejAcc := do
  let len ← Access.u8 .options m.opts (cur + 1)
  let o ← Access.bytes .options m.opts cur len.toNat
  Access.put .tmpBuf m.tmpBuf.length len.toNat
  return { m with
    tmpBuf := m.tmpBuf ++ o, length := m.length + len.setWidth 16, needRes := true }

/-- The first two bytes of a value, written where they stand. -/
def setHead (cur : Nat) (b0 b1 : BitVec 8) (m : NakRejAcc) : Access PppBuf NakRejAcc := do
  Access.put .options (cur + 2) 2
  return { m with opts := (m.opts.set (cur + 2) b0).set (cur + 3) b1 }

/-- An option copied out, with its value then overwritten in the temporary. -/
def copyOutWith (cur : Nat) (val : List (BitVec 8)) (m : NakRejAcc) : Access PppBuf NakRejAcc := do
  let len ← Access.u8 .options m.opts (cur + 1)
  let o ← Access.bytes .options m.opts cur len.toNat
  Access.put .tmpBuf m.tmpBuf.length len.toNat
  Access.put .tmpBuf (m.tmpBuf.length + 2) val.length
  return { m with
    tmpBuf := m.tmpBuf ++ (o.take 2 ++ val), length := m.length + len.setWidth 16, needRes := true }

/-- The option is left alone. -/
def pass (m : NakRejAcc) : Bool × NakRejAcc := (true, m)

end NakRejAcc

/-- `check_lcp_nak_rej`, `check_ipcp_nak_rej` and `check_ipv6cp_nak_rej`, with the body of their
loops as an argument.  The first two fill the temporary with the options to begin with, which is
`fill`, and the third with zeros. -/
def checkNakRejAcc (cp : PppCp) (flag : BitVec 8) (fill : Bool)
    (body : Nat → NakRejAcc → Access PppBuf (Bool × NakRejAcc)) (rounds pppHdrLen : Nat)
    (s : PppCcb) : Access PppBuf (Option (CheckNakRej × PppCcb)) :=
  if pppHdrLen < 4 ∨ pppMsgBufLen < pppHdrLen - 4 then pure (some (.error, s))
  else do
    Access.put .tmpBuf 0 pppMsgBufLen
    let head ← Access.bytes .options (s.opts cp) 0 (if fill then pppHdrLen - 4 else 0)
    Access.put .tmpBuf 0 head.length
    (optWalk NakRejAcc.opts body pppHdrLen rounds 4 0 ⟨s, s.opts cp, [], 4, false⟩).andThen
      fun r => do
        let m := r.2
        let hdr := (s.controlProtocol.get cp).pppHdr
        if !r.1 then return some (.error, m.ccb.rewrite cp { hdr with length := m.length } m.opts)
        else if m.needRes then do
          let n := m.length.toNat - 4
          let back ← Access.bytes .tmpBuf m.tmpBuf 0 n
          Access.put .options 0 n
          return some (.sendResponse,
            m.ccb.rewrite cp { hdr with length := swap16 m.length, code := flag }
              (back ++ m.opts.drop n))
        else return some (.noAction, m.ccb.rewrite cp { hdr with length := m.length } m.opts)

/-- An option of type MRU or Authentication-Protocol has two bytes to look at. -/
def lcpNakWidth (type : BitVec 8) (len : Nat) : Nat :=
  if (type = optMru ∨ type = optAuth) ∧ 4 ≤ len then 2 else 0

def lcpNakBodyAcc (cur : Nat) (m : NakRejAcc) : Access PppBuf (Bool × NakRejAcc) := do
  let o ← lookAt m.opts lcpNakWidth cur
  if (o.type = optMru ∨ o.type = optAuth) ∧ o.length < 4 then return (false, m)
  else if o.type = optMru then
    if o.val.getD 0 0 ≠ pppMruHighByte ∨ o.val.getD 1 0 ≠ pppMruLowByte then do
      let m ← m.setHead cur pppMruHighByte pppMruLowByte
      let m ← m.copyOut cur
      return m.pass
    else return m.pass
  else if o.type = optAuth then
    let m := { m with
      ccb := { m.ccb with params := { m.ccb.params with peerRequiresAuth := true } } }
    let method := be16At o.val 0
    if method = m.ccb.params.authMethod then return m.pass
    else if method = papProtocol ∨ method = chapProtocol then
      return NakRejAcc.pass { m with
        ccb := { m.ccb with params := { m.ccb.params with authMethod := method } } }
    else do
      let m := { m with
        ccb := { m.ccb with params := { m.ccb.params with authMethod := papProtocol } } }
      let m ← m.setHead cur 0xc0 0x23
      let m ← m.copyOut cur
      return m.pass
  else return m.pass

/-- The loops that put aside what they do not know. -/
def rejectBodyAcc (width : BitVec 8 → Nat → Nat) (ok : OptView → Bool) (known : BitVec 8 → Bool)
    (cur : Nat) (m : NakRejAcc) : Access PppBuf (Bool × NakRejAcc) := do
  let o ← lookAt m.opts width cur
  if !ok o then return (false, m)
  else if known o.type then return m.pass
  else do
    let m ← m.copyOut cur
    return m.pass

/-- A body that looks at nothing but type and length. -/
def noWidth (_ : BitVec 8) (_ : Nat) : Nat := 0

def lcpRejectBodyAcc : Nat → NakRejAcc → Access PppBuf (Bool × NakRejAcc) :=
  rejectBodyAcc noWidth (fun _ => true) fun type =>
    type == optMagicNum || type == optMru || type == optAuth

/-- `check_lcp_nak_rej`. -/
def checkLcpNakRejAcc (rounds pppHdrLen : Nat) (flag : BitVec 8) :
    PppCcb → Access PppBuf (Option (CheckNakRej × PppCcb)) :=
  checkNakRejAcc .lcp flag true (if flag = configNakCode then lcpNakBodyAcc else lcpRejectBodyAcc)
    rounds pppHdrLen

/-- Of an address, the first byte is looked at. -/
def ipcpNakWidth (type : BitVec 8) (len : Nat) : Nat :=
  if type = optIpAddress ∧ 6 ≤ len then 1 else 0

def ipcpNakBodyAcc (cur : Nat) (m : NakRejAcc) : Access PppBuf (Bool × NakRejAcc) := do
  let o ← lookAt m.opts ipcpNakWidth cur
  if o.type = optIpAddress then
    if o.length < 6 then return (false, m)
    else if o.val.getD 0 0 = 0 then do
      let m ← m.copyOut cur
      return m.pass
    else return m.pass
  else return m.pass

def ipcpRejectBodyAcc : Nat → NakRejAcc → Access PppBuf (Bool × NakRejAcc) :=
  rejectBodyAcc noWidth (fun _ => true) fun type => type == optIpAddress

/-- `check_ipcp_nak_rej`. -/
def checkIpcpNakRejAcc (rounds pppHdrLen : Nat) (flag : BitVec 8) :
    PppCcb → Access PppBuf (Option (CheckNakRej × PppCcb)) :=
  checkNakRejAcc .ipcp flag true
    (if flag = configNakCode then ipcpNakBodyAcc else ipcpRejectBodyAcc) rounds pppHdrLen

/-- Of an Interface-Identifier of the right length, all eight bytes are looked at. -/
def ipv6cpNakWidth (type : BitVec 8) (len : Nat) : Nat :=
  if type = optInterfaceId ∧ len = 10 then 8 else 0

/-- The check of an option that the loops of IPV6CP make. -/
def ipv6cpViewOk (o : OptView) : Bool := !(o.type == optInterfaceId && o.length != 10)

def ipv6cpNakBodyAcc (cur : Nat) (m : NakRejAcc) : Access PppBuf (Bool × NakRejAcc) := do
  let o ← lookAt m.opts ipv6cpNakWidth cur
  let own := m.ccb.params.ipv6cpLocalIid
  if !ipv6cpViewOk o then return (false, m)
  else if o.type = optInterfaceId ∧ (be64At o.val 0 = 0 ∨ be64At o.val 0 = own) then do
    let last := own.extractLsb' 0 8 + 1
    let m ← m.copyOutWith cur ((iidBytes own).take 7 ++ [last])
    return m.pass
  else return m.pass

def ipv6cpRejectBodyAcc : Nat → NakRejAcc → Access PppBuf (Bool × NakRejAcc) :=
  rejectBodyAcc noWidth ipv6cpViewOk fun type => type == optInterfaceId

/-- `check_ipv6cp_nak_rej`. -/
def checkIpv6cpNakRejAcc (rounds pppHdrLen : Nat) (flag : BitVec 8) :
    PppCcb → Access PppBuf (Option (CheckNakRej × PppCcb)) :=
  checkNakRejAcc .ipv6cp flag false
    (if flag = configNakCode then ipv6cpNakBodyAcc else ipv6cpRejectBodyAcc) rounds pppHdrLen

/-- A Configure-Request: both checks, then the loop that takes over what it says. -/
def recvConfigRequestAcc (cp : PppCp)
    (check : BitVec 8 → PppCcb → Access PppBuf (Option (CheckNakRej × PppCcb)))
    (take : PppCcb → Access PppBuf (Option (Bool × PppCcb))) (pppHdrLen : Nat) (s : PppCcb) :
    Access PppBuf (Option Decoded) :=
  (check configNakCode s).andThen fun r =>
    match r with
    | (.error, s) => pure (some (.fail s))
    | (.sendResponse, s) => pure (some (.ok .eRecvBadConfigRequest s))
    | (.noAction, s) =>
        (check configRejectCode s).andThen fun r =>
          match r with
          | (.error, s) => pure (some (.fail s))
          | (.sendResponse, s) => pure (some (.ok .eRecvBadConfigRequest s))
          | (.noAction, s) =>
              (take s).andThen fun r =>
                match r with
                | (false, s) => pure (some (.fail s))
                | (true, s) =>
                    let hdr := (s.controlProtocol.get cp).pppHdr
                    pure (some (.ok .eRecvGoodConfigRequest (s.rewrite cp
                      { hdr with length := swap16 (BitVec.ofNat 16 pppHdrLen) } (s.opts cp))))

/-- A Configure-Nak or a Configure-Reject. -/
def recvNakRejAcc (cp : PppCp) (width : BitVec 8 → Nat → Nat)
    (judge : OptView → PppCcb → Bool × PppCcb) (rounds pppHdrLen : Nat) (s : PppCcb) :
    Access PppBuf (Option Decoded) :=
  if !s.answersRequest cp then pure (some (.fail s))
  else
    (s.walkAcc cp width judge rounds pppHdrLen).andThen fun r =>
      pure (some (if r.1 then .ok .eRecvConfigNakRej (r.2.setPending cp false) else .fail r.2))

/-! ### LCP -/

/-- Of a Magic-Number of the right length, all four bytes are looked at. -/
def lcpAckWidth (type : BitVec 8) (len : Nat) : Nat :=
  if type = optMagicNum ∧ len = 6 then 4 else 0

def lcpAckJudge (magicNum : BitVec 32) (o : OptView) (s : PppCcb) : Bool × PppCcb :=
  (!(o.type == optMagicNum) || (o.length == 6 && le32At o.val 0 == magicNum), s)

def lcpNakJudge (o : OptView) (s : PppCcb) : Bool × PppCcb :=
  (true,
    if o.type = optAuth ∧ 4 ≤ o.length then
      let method := if be16At o.val 0 = chapProtocol then chapProtocol else papProtocol
      { s with params := { s.params with authMethod := method } }
    else if o.type = optMru ∧ 4 ≤ o.length then
      let mru := be16At o.val 0
      if mru ≠ 0 ∧ mru ≤ maxRecvUnit then { s with params := { s.params with mru := mru } } else s
    else if o.type = optMagicNum then
      { s with
          params := { s.params with magicNum := swap32 (s.rand 0 % 0xFFFFFFFE + 1) }
          rand := fun n => s.rand (n + 1) }
    else s)

def lcpRejectJudge (o : OptView) (s : PppCcb) : Bool × PppCcb :=
  (true,
    if o.type = optAuth then { s with params := { s.params with lcpAuthRejected := true } }
    else if o.type = optMru then { s with params := { s.params with lcpMruRejected := true } }
    else if o.type = optMagicNum then
      { s with params := { s.params with lcpMagicRejected := true } }
    else s)

/-- `decode_lcp`. -/
def decodeLcpAcc (tim : PppTimerId) (rounds pppHdrLen : Nat) (s : PppCcb) :
    Access PppBuf (Option Decoded) :=
  let s := { s with echoMissCount := 0 }
  match pppCode (s.controlProtocol.get .lcp).pppHdr.code with
  | .configRequest =>
      if s.phase ≠ lcpPhase then pure (some (.fail s))
      else recvConfigRequestAcc .lcp (checkLcpNakRejAcc rounds pppHdrLen)
        (fun s => pure (some (true, s))) pppHdrLen s
  | .configAck =>
      if s.phase ≠ lcpPhase then pure (some (.fail s))
      else if !s.answersRequest .lcp then pure (some (.fail s))
      else
        (s.walkAcc .lcp lcpAckWidth (lcpAckJudge s.params.magicNum) rounds pppHdrLen).andThen
          fun r => pure (some (if r.1 then
            .ok .eRecvConfigAck ((r.2.setPending .lcp false).stopTimer tim) else .fail r.2))
  | .configNak => recvNakRejAcc .lcp lcpNakWidth lcpNakJudge rounds pppHdrLen s
  | .configReject => recvNakRejAcc .lcp noWidth lcpRejectJudge rounds pppHdrLen s
  | .terminRequest => pure (some (.ok .eRecvTerminateRequest s))
  | .terminAck => pure (some (.ok .eRecvTerminateAck (s.stopTimer tim)))
  | .codeReject => pure (some (.ok .eRecvGoodCodeProtocolReject s))
  | .protoReject => do
      let rejected ← Access.bytes .options (s.opts .lcp) 0 (if 6 ≤ pppHdrLen then 2 else 0)
      return some (if 6 ≤ pppHdrLen ∧ be16At rejected 0 = ipv6cpProtocol then
        .ok .eRecvGoodCodeProtocolReject s.ipv6cpStop else .ok .eRecvBadCodeProtocolReject s)
  | .echoRequest =>
      pure (some (if s.phase < lcpPhase then .fail s else .ok .eRecvEchoRequest s))
  | .echoReply => pure (some (if s.phase < lcpPhase then .fail s else .ok .eRecvEchoReply s))
  | .other => pure (some (.ok .eRecvUnknownCode s))

/-! ### IPCP -/

/-- Whether an option carries an address. -/
def isIpcpAddress (type : BitVec 8) : Bool :=
  type == optIpAddress || type == optPrimaryDns || type == optSecondaryDns

/-- Of an address that is long enough, four bytes are looked at. -/
def ipcpWidth (type : BitVec 8) (len : Nat) : Nat := if isIpcpAddress type ∧ 6 ≤ len then 4 else 0

/-- The loops of IPCP that take addresses over. -/
def ipcpJudge (take : Tlv → PppCcb → PppCcb) (o : OptView) (s : PppCcb) : Bool × PppCcb :=
  if isIpcpAddress o.type ∧ o.length < 6 then (false, s) else (true, take ⟨o.type, o.val⟩ s)

def ipcpRejectJudge (o : OptView) (s : PppCcb) : Bool × PppCcb :=
  (true,
    if o.type = optPrimaryDns then { s with params := { s.params with hsiPrimaryDns := 0 } }
    else if o.type = optSecondaryDns then
      { s with params := { s.params with hsiSecondaryDns := 0 } }
    else s)

/-- `decode_ipcp`. -/
def decodeIpcpAcc (tim : PppTimerId) (rounds pppHdrLen : Nat) (s : PppCcb) :
    Access PppBuf (Option Decoded) :=
  let s := { s with echoMissCount := 0 }
  match pppCode (s.controlProtocol.get .ipcp).pppHdr.code with
  | .configRequest =>
      recvConfigRequestAcc .ipcp (checkIpcpNakRejAcc rounds pppHdrLen)
        (fun s => s.walkAcc .ipcp ipcpWidth (ipcpJudge ipcpRequestTake) rounds pppHdrLen)
        pppHdrLen s
  | .configAck =>
      if !s.answersRequest .ipcp then pure (some (.fail s))
      else
        let s := (s.setPending .ipcp false).stopTimer tim
        (s.walkAcc .ipcp ipcpWidth (ipcpJudge ipcpAnswerTake) rounds pppHdrLen).andThen fun r =>
          pure (some (if r.1 then .ok .eRecvConfigAck r.2 else .fail r.2))
  | .configNak => recvNakRejAcc .ipcp ipcpWidth (ipcpJudge ipcpAnswerTake) rounds pppHdrLen s
  | .configReject => recvNakRejAcc .ipcp noWidth ipcpRejectJudge rounds pppHdrLen s
  | .terminRequest => pure (some (.ok .eRecvTerminateRequest s))
  | .terminAck => pure (some (.ok .eRecvTerminateAck (s.stopTimer tim)))
  | .codeReject => pure (some (.ok .eRecvGoodCodeProtocolReject s))
  | .protoReject | .echoRequest | .echoReply | .other => pure (some (.ok .eRecvUnknownCode s))

/-! ### IPV6CP -/

/-- Of an Interface-Identifier, eight bytes are looked at, whatever its length. -/
def ipv6cpRequestWidth (type : BitVec 8) (_ : Nat) : Nat := if type = optInterfaceId then 8 else 0

/-- The loop that takes over the Interface-Identifier of a Configure-Request. -/
def ipv6cpRequestBodyAcc (opts : List (BitVec 8)) (cur : Nat) (s : PppCcb) :
    Access PppBuf PppCcb := do
  let o ← lookAt opts ipv6cpRequestWidth cur
  return if o.type = optInterfaceId then
    { s with params := { s.params with ipv6cpPeerIid := be64At o.val 0 } } else s

def ipv6cpAckJudge (o : OptView) (s : PppCcb) : Bool × PppCcb := (ipv6cpViewOk o, s)

def ipv6cpNakJudge (o : OptView) (s : PppCcb) : Bool × PppCcb :=
  if !ipv6cpViewOk o then (false, s)
  else if o.type = optInterfaceId then
    (true, { s with params := { s.params with ipv6cpLocalIid := be64At o.val 0 } })
  else (true, s)

/-- At the Interface-Identifier the loop is left, with IPV6CP closed. -/
def ipv6cpRejectJudge (env : PppEnv) (tim : PppTimerId) (o : OptView) (s : PppCcb) :
    Bool × PppCcb :=
  if !ipv6cpViewOk o then (false, s)
  else if o.type = optInterfaceId then
    (false, (pppFsm env tim .eClose { s.setPending .ipv6cp false with cpId := .ipv6cp }).2)
  else (true, s)

/-- `decode_ipv6cp`. -/
def decodeIpv6cpAcc (env : PppEnv) (tim : PppTimerId) (rounds pppHdrLen : Nat) (s : PppCcb) :
    Access PppBuf (Option Decoded) :=
  let s := { s with echoMissCount := 0 }
  match pppCode (s.controlProtocol.get .ipv6cp).pppHdr.code with
  | .configRequest =>
      recvConfigRequestAcc .ipv6cp (checkIpv6cpNakRejAcc rounds pppHdrLen)
        (fun s => (optWalkUnchecked (s.opts .ipv6cp) (ipv6cpRequestBodyAcc (s.opts .ipv6cp))
          pppHdrLen rounds 4 0 s).andThen fun s => pure (some (true, s))) pppHdrLen s
  | .configAck =>
      if !s.answersRequest .ipv6cp then pure (some (.fail s))
      else
        (s.walkAcc .ipv6cp noWidth ipv6cpAckJudge rounds pppHdrLen).andThen fun r =>
          pure (some (if r.1 then
            .ok .eRecvConfigAck ((r.2.setPending .ipv6cp false).stopTimer tim) else .fail r.2))
  | .configNak => recvNakRejAcc .ipv6cp ipv6cpNakWidth ipv6cpNakJudge rounds pppHdrLen s
  | .configReject => recvNakRejAcc .ipv6cp noWidth (ipv6cpRejectJudge env tim) rounds pppHdrLen s
  | .terminRequest => pure (some (.ok .eRecvTerminateRequest s))
  | .terminAck => pure (some (.ok .eRecvTerminateAck (s.stopTimer tim)))
  | .codeReject => pure (some (.ok .eRecvGoodCodeProtocolReject s))
  | .protoReject | .echoRequest | .echoReply | .other => pure (some (.ok .eRecvUnknownCode s))

/-! ### Every protocol -/

/-- The check of a protocol. -/
def checkAcc (cp : PppCp) (rounds pppHdrLen : Nat) (flag : BitVec 8) (s : PppCcb) :
    Access PppBuf (Option (CheckNakRej × PppCcb)) :=
  match cp with
  | .lcp => checkLcpNakRejAcc rounds pppHdrLen flag s
  | .ipcp => checkIpcpNakRejAcc rounds pppHdrLen flag s
  | .ipv6cp => checkIpv6cpNakRejAcc rounds pppHdrLen flag s

/-- The decoder of a protocol. -/
def decodeAcc (env : PppEnv) (cp : PppCp) (tim : PppTimerId) (rounds pppHdrLen : Nat)
    (s : PppCcb) : Access PppBuf (Option Decoded) :=
  match cp with
  | .lcp => decodeLcpAcc tim rounds pppHdrLen s
  | .ipcp => decodeIpcpAcc tim rounds pppHdrLen s
  | .ipv6cp => decodeIpv6cpAcc env tim rounds pppHdrLen s

end FastRG
