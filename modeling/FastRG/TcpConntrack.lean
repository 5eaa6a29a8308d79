/-
TCP connection tracking: `tcp_conntrack.h` and `tcp_conntrack.c`.

A tracked connection is a state of a ten-state machine, a mask of the FINs seen, a
deadline, and for each direction the largest sequence number, acknowledgement and
last window seen.  The C code reaches these fields through a struct of pointers,
so that IPv4 mappings and IPv6 sessions share one machine; `TcpConntrackView` is
the struct of what they point at.

The machine is a table of rows.  A row names a state, an event, the next state and
a chain of handlers, and a handler may overwrite the state the row has just set.
The rows are looked up through an index built at start-up, in which the first row
for a state and event wins; `tcpFsmRow` is that lookup.
-/
import FastRG.Common

namespace FastRG

/-- `tcp_conntrack_state_t`.  `invld` stands for every value from the sentinel on. -/
inductive TcpConntrackState
  | none
  | synSent
  | synRecv
  | established
  | finWait
  | closeWait
  | lastAck
  | timeWait
  | close
  | midStream
  | invld
  deriving DecidableEq

/-- `tcp_conntrack_event_t`. -/
inductive TcpConntrackEvent
  | syn
  | synAck
  | ack
  | finLan
  | finWan
  | rst
  | invld
  deriving DecidableEq

/-! ### Timeouts, in seconds -/

def tcpTimeoutSynSent : Nat := 30
def tcpTimeoutSynRecv : Nat := 30
def tcpTimeoutEstablished : Nat := 7200
def tcpTimeoutFinWait : Nat := 120
def tcpTimeoutCloseWait : Nat := 60
def tcpTimeoutLastAck : Nat := 30
def tcpTimeoutTimeWait : Nat := 120
def tcpTimeoutClose : Nat := 10
def tcpTimeoutMidStream : Nat := 60

/-! ### Flag bits -/

def tcpFinFlagLan : BitVec 8 := 0x01
def tcpFinFlagWan : BitVec 8 := 0x02

def rteTcpFinFlag : BitVec 8 := 0x01
def rteTcpSynFlag : BitVec 8 := 0x02
def rteTcpRstFlag : BitVec 8 := 0x04
def rteTcpAckFlag : BitVec 8 := 0x10

/-- `flags & bit`, as a C condition. -/
def hasFlag (flags bit : BitVec 8) : Bool := flags &&& bit != 0

/-- The fields `tcp_conntrack_view_t` points at. -/
structure TcpConntrackView where
  tcpState : TcpConntrackState
  tcpFinFlags : BitVec 8
  /-- The deadline, `*expire_slot`. -/
  expireSlot : Nat
  maxSeqEndLan : BitVec 32
  maxSeqEndWan : BitVec 32
  maxAckLan : BitVec 32
  maxAckWan : BitVec 32
  maxWinLan : BitVec 16
  maxWinWan : BitVec 16
  deriving DecidableEq

/-- The fields of `rte_tcp_hdr` that are read, numbers in host order and ports as they stand. -/
structure TcpHdr where
  srcPort : BitVec 16
  dstPort : BitVec 16
  sentSeq : BitVec 32
  recvAck : BitVec 32
  dataOff : BitVec 8
  tcpFlags : BitVec 8
  rxWin : BitVec 16
  deriving DecidableEq

/-- `tcp_flags_to_event`. -/
def tcpFlagsToEvent (tcpFlags : BitVec 8) (isReply : Bool) : TcpConntrackEvent :=
  if hasFlag tcpFlags rteTcpRstFlag then .rst
  else if hasFlag tcpFlags rteTcpSynFlag && hasFlag tcpFlags rteTcpAckFlag then .synAck
  else if hasFlag tcpFlags rteTcpSynFlag then .syn
  else if hasFlag tcpFlags rteTcpFinFlag then (if isReply then .finWan else .finLan)
  else if hasFlag tcpFlags rteTcpAckFlag then .ack
  else .invld

/-- `tcp_conntrack_inbound_valid`: what each state lets in from the WAN. -/
def tcpConntrackInboundValid (state : TcpConntrackState) (tcpFlags : BitVec 8) : Bool :=
  let event := tcpFlagsToEvent tcpFlags true
  match state with
  | .none => event = .ack ∨ event = .finWan ∨ event = .rst
  | .midStream => event = .ack ∨ event = .finWan ∨ event = .rst ∨ event = .synAck
  | .synSent => event = .synAck ∨ event = .rst
  | .synRecv => event = .synAck ∨ event = .ack ∨ event = .finWan ∨ event = .rst
  | .established => event = .ack ∨ event = .finWan ∨ event = .rst ∨ event = .synAck
  | .finWait => event = .ack ∨ event = .finWan ∨ event = .rst
  | .closeWait | .lastAck | .timeWait => event = .ack ∨ event = .rst
  | .close | .invld => false

/-! ### Handlers -/

/-- A handler of the table: it may change the connection, and reports a status. -/
abbrev TcpHandler := (hz now : Nat) → TcpConntrackView → (isReply : Bool) →
  Status × TcpConntrackView

/-- The handlers that set the deadline `secs` seconds out. -/
def tcpActTimeout (secs : Nat) : TcpHandler := fun hz now v _ =>
  (.success, { v with expireSlot := natExpireSet v.expireSlot (now + secs * hz) })

def tcpActTimeoutSynSent : TcpHandler := tcpActTimeout tcpTimeoutSynSent
def tcpActTimeoutSynRecv : TcpHandler := tcpActTimeout tcpTimeoutSynRecv
def tcpActTimeoutEstablished : TcpHandler := tcpActTimeout tcpTimeoutEstablished
def tcpActTimeoutFinWait : TcpHandler := tcpActTimeout tcpTimeoutFinWait
def tcpActTimeoutCloseWait : TcpHandler := tcpActTimeout tcpTimeoutCloseWait
def tcpActTimeoutLastAck : TcpHandler := tcpActTimeout tcpTimeoutLastAck
def tcpActTimeoutTimeWait : TcpHandler := tcpActTimeout tcpTimeoutTimeWait
def tcpActTimeoutClose : TcpHandler := tcpActTimeout tcpTimeoutClose
def tcpActTimeoutMidStream : TcpHandler := tcpActTimeout tcpTimeoutMidStream

/-- `tcp_act_refresh_established`: the same deadline, but only ever moved out. -/
def tcpActRefreshEstablished : TcpHandler := fun hz now v _ =>
  (.success, { v with
    expireSlot := natExpireRefresh hz v.expireSlot (now + tcpTimeoutEstablished * hz) })

/-- `tcp_act_mid_stream_ack`: a WAN acknowledgement promotes, a LAN one only refreshes. -/
def tcpActMidStreamAck : TcpHandler := fun hz now v isReply =>
  if isReply then
    (.success, { v with
      tcpState := .established
      expireSlot := natExpireSet v.expireSlot (now + tcpTimeoutEstablished * hz) })
  else
    (.success, { v with
      expireSlot := natExpireRefresh hz v.expireSlot (now + tcpTimeoutMidStream * hz) })

def tcpActSetFinLan : TcpHandler := fun _ _ v _ =>
  (.success, { v with tcpFinFlags := v.tcpFinFlags ||| tcpFinFlagLan })

def tcpActSetFinWan : TcpHandler := fun _ _ v _ =>
  (.success, { v with tcpFinFlags := v.tcpFinFlags ||| tcpFinFlagWan })

def tcpActResetFinFlags : TcpHandler := fun _ _ v _ =>
  (.success, { v with tcpFinFlags := 0 })

/-! ### The table -/

/-- `tcp_conntrack_state_tbl_t`. -/
structure TcpConntrackRow where
  state : TcpConntrackState
  event : TcpConntrackEvent
  nextState : TcpConntrackState
  hdl : List TcpHandler

/-- `tcp_conntrack_tbl`, without its sentinel. -/
def tcpConntrackTbl : List TcpConntrackRow :=
  [ ⟨.none, .syn, .synSent, [tcpActTimeoutSynSent]⟩,
    ⟨.none, .synAck, .synRecv, [tcpActTimeoutSynRecv]⟩,
    ⟨.none, .ack, .midStream, [tcpActTimeoutMidStream]⟩,
    ⟨.none, .finLan, .finWait, [tcpActSetFinLan, tcpActTimeoutFinWait]⟩,
    ⟨.none, .finWan, .closeWait, [tcpActSetFinWan, tcpActTimeoutCloseWait]⟩,
    ⟨.none, .rst, .close, [tcpActTimeoutClose]⟩,

    ⟨.midStream, .ack, .midStream, [tcpActMidStreamAck]⟩,
    ⟨.midStream, .syn, .synSent, [tcpActResetFinFlags, tcpActTimeoutSynSent]⟩,
    ⟨.midStream, .synAck, .midStream, [tcpActTimeoutMidStream]⟩,
    ⟨.midStream, .finLan, .finWait, [tcpActSetFinLan, tcpActTimeoutFinWait]⟩,
    ⟨.midStream, .finWan, .closeWait, [tcpActSetFinWan, tcpActTimeoutCloseWait]⟩,
    ⟨.midStream, .rst, .close, [tcpActTimeoutClose]⟩,

    ⟨.synSent, .syn, .synSent, [tcpActTimeoutSynSent]⟩,
    ⟨.synSent, .synAck, .synRecv, [tcpActTimeoutSynRecv]⟩,
    ⟨.synSent, .rst, .close, [tcpActTimeoutClose]⟩,

    ⟨.synRecv, .ack, .established, [tcpActTimeoutEstablished]⟩,
    ⟨.synRecv, .synAck, .synRecv, [tcpActTimeoutSynRecv]⟩,
    ⟨.synRecv, .finLan, .finWait, [tcpActSetFinLan, tcpActTimeoutFinWait]⟩,
    ⟨.synRecv, .finWan, .finWait, [tcpActSetFinWan, tcpActTimeoutFinWait]⟩,
    ⟨.synRecv, .rst, .close, [tcpActTimeoutClose]⟩,

    ⟨.established, .ack, .established, [tcpActRefreshEstablished]⟩,
    ⟨.established, .syn, .synSent, [tcpActResetFinFlags, tcpActTimeoutSynSent]⟩,
    ⟨.established, .synAck, .established, [tcpActTimeoutEstablished]⟩,
    ⟨.established, .finLan, .finWait, [tcpActSetFinLan, tcpActTimeoutFinWait]⟩,
    ⟨.established, .finWan, .closeWait, [tcpActSetFinWan, tcpActTimeoutCloseWait]⟩,
    ⟨.established, .rst, .close, [tcpActTimeoutClose]⟩,

    ⟨.finWait, .finWan, .timeWait, [tcpActSetFinWan, tcpActTimeoutTimeWait]⟩,
    ⟨.finWait, .finLan, .finWait, [tcpActSetFinLan, tcpActTimeoutFinWait]⟩,
    ⟨.finWait, .ack, .finWait, [tcpActTimeoutFinWait]⟩,
    ⟨.finWait, .rst, .close, [tcpActTimeoutClose]⟩,

    ⟨.closeWait, .finLan, .lastAck, [tcpActSetFinLan, tcpActTimeoutLastAck]⟩,
    ⟨.closeWait, .ack, .closeWait, [tcpActTimeoutCloseWait]⟩,
    ⟨.closeWait, .rst, .close, [tcpActTimeoutClose]⟩,

    ⟨.lastAck, .ack, .timeWait, [tcpActTimeoutTimeWait]⟩,
    ⟨.lastAck, .rst, .close, [tcpActTimeoutClose]⟩,

    ⟨.timeWait, .ack, .timeWait, [tcpActTimeoutTimeWait]⟩,
    ⟨.timeWait, .rst, .close, [tcpActTimeoutClose]⟩,
    ⟨.timeWait, .syn, .synSent, [tcpActResetFinFlags, tcpActTimeoutSynSent]⟩,

    ⟨.close, .rst, .close, [tcpActTimeoutClose]⟩,
    ⟨.close, .syn, .synSent, [tcpActResetFinFlags, tcpActTimeoutSynSent]⟩ ]

/-- `tcp_fsm_idx`: the first row for a state and an event. -/
def tcpFsmRow (state : TcpConntrackState) (event : TcpConntrackEvent) : Option TcpConntrackRow :=
  tcpConntrackTbl.find? fun row => row.state = state && row.event = event

/-- `tcp_state_has_rows`. -/
def tcpStateHasRows (state : TcpConntrackState) : Bool :=
  tcpConntrackTbl.any fun row => row.state = state

/-- The handler chain, which stops at the first handler that fails. -/
def tcpRunHandlers (hz now : Nat) (isReply : Bool) :
    List TcpHandler → TcpConntrackView → Status × TcpConntrackView
  | [], v => (.success, v)
  | hdl :: rest, v =>
      match hdl hz now v isReply with
      | (.error, v') => (.error, v')
      | (.success, v') => tcpRunHandlers hz now isReply rest v'

/-- `tcp_conntrack_fsm_view`. -/
def tcpConntrackFsmView (hz now : Nat) (v : TcpConntrackView) (tcpFlags : BitVec 8)
    (isReply : Bool) : Status × TcpConntrackView :=
  let event := tcpFlagsToEvent tcpFlags isReply
  if event = .invld then (.success, v)
  else if v.tcpState = .invld then (.error, v)
  else
    match tcpFsmRow v.tcpState event with
    | none => (if tcpStateHasRows v.tcpState then .success else .error, v)
    | some row => tcpRunHandlers hz now isReply row.hdl { v with tcpState := row.nextState }

/-! ### Sequence baselines -/

/-- `0x00FFFFFF`, how far a sequence number may lie from the baseline. -/
def seqSlack : Int := 0x00FFFFFF

/-- `0xFFFF`, how far an acknowledgement may lie ahead of what was sent. -/
def ackSlack : Int := 0xFFFF

/-- `tcp_conntrack_seq_valid_view`. -/
def tcpConntrackSeqValidView (v : TcpConntrackView) (tcpHdr : TcpHdr) (isReply : Bool) : Bool :=
  let seq := tcpHdr.sentSeq
  let ack := tcpHdr.recvAck
  let flags := tcpHdr.tcpFlags
  if hasFlag flags rteTcpSynFlag then true
  else
    let peerMaxAck := if isReply then v.maxAckLan else v.maxAckWan
    let peerMaxSeqend := if isReply then v.maxSeqEndLan else v.maxSeqEndWan
    if peerMaxSeqend = 0 ∧ peerMaxAck = 0 then true
    else
      let seqDelta := (seq - peerMaxAck).toInt
      if seqDelta < -seqSlack ∨ seqDelta > seqSlack then false
      else if hasFlag flags rteTcpAckFlag then
        let ackDelta := (ack - peerMaxSeqend).toInt
        if ackDelta < -seqSlack ∨ ackDelta > ackSlack then false else true
      else true

/--
How a baseline moves to a new number: seeded while it is zero, and otherwise only
forward, in the sense of the sign of the 32-bit difference.
-/
def seqAdvance (cur new : BitVec 32) : BitVec 32 :=
  if cur = 0 ∨ (new - cur).toInt > 0 then new else cur

/-- `tcp_conntrack_seq_update_view`. -/
def tcpConntrackSeqUpdateView (v : TcpConntrackView) (tcpHdr : TcpHdr)
    (payloadLen : BitVec 16) (isReply : Bool) : TcpConntrackView :=
  let seq := tcpHdr.sentSeq
  let ack := tcpHdr.recvAck
  let win := tcpHdr.rxWin
  let seqEnd := seq + payloadLen.setWidth 32 +
    (if hasFlag tcpHdr.tcpFlags (rteTcpSynFlag ||| rteTcpFinFlag) then 1 else 0)
  if isReply then
    { v with
      maxSeqEndWan := seqAdvance v.maxSeqEndWan seqEnd
      maxAckWan := seqAdvance v.maxAckWan ack
      maxWinWan := win }
  else
    { v with
      maxSeqEndLan := seqAdvance v.maxSeqEndLan seqEnd
      maxAckLan := seqAdvance v.maxAckLan ack
      maxWinLan := win }

/-! ### One segment

The two directions a segment can take through the tracker.  A LAN segment is
trusted and only updates; a WAN segment is checked first, and updates only if both
checks accept it.
-/

/-- What both LAN paths do with a segment. -/
def tcpConntrackLan (hz now : Nat) (v : TcpConntrackView) (tcpHdr : TcpHdr)
    (payloadLen : BitVec 16) : TcpConntrackView :=
  tcpConntrackSeqUpdateView (tcpConntrackFsmView hz now v tcpHdr.tcpFlags false).2 tcpHdr
    payloadLen false

/-- The two checks a WAN segment has to pass, the second made only after the first. -/
def tcpConntrackWanOk (v : TcpConntrackView) (tcpHdr : TcpHdr) : Bool :=
  tcpConntrackInboundValid v.tcpState tcpHdr.tcpFlags && tcpConntrackSeqValidView v tcpHdr true

/-- What both WAN paths do with a segment that passed. -/
def tcpConntrackWan (hz now : Nat) (v : TcpConntrackView) (tcpHdr : TcpHdr)
    (payloadLen : BitVec 16) : TcpConntrackView :=
  tcpConntrackSeqUpdateView (tcpConntrackFsmView hz now v tcpHdr.tcpFlags true).2 tcpHdr
    payloadLen true

end FastRG
