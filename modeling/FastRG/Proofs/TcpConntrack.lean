/-
What the tracking machine does with an event.

The table is read once, here: `tcpNextState` is where a state goes on an event,
and `fsm_frame` says that running the machine changes nothing but the state, the
FIN mask and the deadline.  Everything after that speaks of states and events, and
never of rows or handlers.

Two questions are then settled about runs of segments.  The first is whether a
connection can be given its two-hour lease before the WAN has said anything: it
can, because the row that completes a handshake does not ask which side the
acknowledgement came from.  The second is whether a segment that was let in is let
in again when the sender repeats it: every segment is, except a FIN.
-/
import FastRG.TcpConntrack
import Mathlib.Data.List.Induction

namespace FastRG

/-! ### The machine, one event at a time -/

/-- Where a state goes on an event, the promotion out of `midStream` included. -/
def tcpNextState (state : TcpConntrackState) (event : TcpConntrackEvent) (isReply : Bool) :
    TcpConntrackState :=
  match tcpFsmRow state event with
  | none => state
  | some row =>
      if state = .midStream && event = .ack && isReply then .established else row.nextState

@[simp] theorem fsm_tcpState (hz now : Nat) (v : TcpConntrackView) (tcpFlags : BitVec 8)
    (isReply : Bool) :
    (tcpConntrackFsmView hz now v tcpFlags isReply).2.tcpState
      = tcpNextState v.tcpState (tcpFlagsToEvent tcpFlags isReply) isReply := by
  unfold tcpConntrackFsmView
  generalize tcpFlagsToEvent tcpFlags isReply = event
  obtain ⟨state, _, _, _, _, _, _, _, _⟩ := v
  cases state <;> cases event <;> cases isReply <;> rfl

/-- The machine leaves every sequence baseline where it was. -/
theorem fsm_frame (hz now : Nat) (v : TcpConntrackView) (tcpFlags : BitVec 8) (isReply : Bool) :
    ∃ state fin deadline, (tcpConntrackFsmView hz now v tcpFlags isReply).2
      = { v with tcpState := state, tcpFinFlags := fin, expireSlot := deadline } := by
  unfold tcpConntrackFsmView
  generalize tcpFlagsToEvent tcpFlags isReply = event
  obtain ⟨state, _, _, _, _, _, _, _, _⟩ := v
  cases state <;> cases event <;> cases isReply <;> exact ⟨_, _, _, rfl⟩

@[simp] theorem fsm_maxSeqEndLan (hz now : Nat) (v : TcpConntrackView) (tcpFlags : BitVec 8)
    (isReply : Bool) :
    (tcpConntrackFsmView hz now v tcpFlags isReply).2.maxSeqEndLan = v.maxSeqEndLan := by
  obtain ⟨_, _, _, h⟩ := fsm_frame hz now v tcpFlags isReply
  rw [h]

@[simp] theorem fsm_maxAckLan (hz now : Nat) (v : TcpConntrackView) (tcpFlags : BitVec 8)
    (isReply : Bool) :
    (tcpConntrackFsmView hz now v tcpFlags isReply).2.maxAckLan = v.maxAckLan := by
  obtain ⟨_, _, _, h⟩ := fsm_frame hz now v tcpFlags isReply
  rw [h]

/-! ### Flags behind an event -/

theorem flags_of_ack {tcpFlags : BitVec 8} {isReply : Bool}
    (h : tcpFlagsToEvent tcpFlags isReply = .ack) :
    hasFlag tcpFlags rteTcpSynFlag = false ∧ hasFlag tcpFlags rteTcpFinFlag = false ∧
      hasFlag tcpFlags rteTcpAckFlag = true := by
  unfold tcpFlagsToEvent at h
  cases isReply <;> cases hr : hasFlag tcpFlags rteTcpRstFlag <;>
    cases hs : hasFlag tcpFlags rteTcpSynFlag <;> cases hf : hasFlag tcpFlags rteTcpFinFlag <;>
    cases ha : hasFlag tcpFlags rteTcpAckFlag <;> simp_all

theorem flags_of_syn {tcpFlags : BitVec 8} {isReply : Bool}
    (h : tcpFlagsToEvent tcpFlags isReply = .syn ∨ tcpFlagsToEvent tcpFlags isReply = .synAck) :
    hasFlag tcpFlags rteTcpSynFlag = true := by
  unfold tcpFlagsToEvent at h
  cases isReply <;> cases hr : hasFlag tcpFlags rteTcpRstFlag <;>
    cases hs : hasFlag tcpFlags rteTcpSynFlag <;> cases hf : hasFlag tcpFlags rteTcpFinFlag <;>
    cases ha : hasFlag tcpFlags rteTcpAckFlag <;> simp_all

theorem event_ne_rst {tcpFlags : BitVec 8} (isReply : Bool)
    (h : hasFlag tcpFlags rteTcpRstFlag = false) : tcpFlagsToEvent tcpFlags isReply ≠ .rst := by
  unfold tcpFlagsToEvent
  rw [h]
  cases isReply <;> cases hasFlag tcpFlags rteTcpSynFlag <;>
    cases hasFlag tcpFlags rteTcpFinFlag <;> cases hasFlag tcpFlags rteTcpAckFlag <;> simp

/-! ### Is a lease always confirmed by the WAN?

The segments a connection sees, in any order.  Beside the tracked fields the run
remembers one bit: whether a WAN segment has been let in since the connection
began, or since the LAN last restarted it with a SYN.
-/

/-- One TCP segment: when it came, its flags, and whether it came from the WAN. -/
structure TcpSegment where
  now : Nat
  tcpFlags : BitVec 8
  isReply : Bool

/-- A connection, and whether the WAN has confirmed it. -/
structure Tracked where
  view : TcpConntrackView
  wanAccepted : Bool

/-- The conntrack fields of an entry that has just been created. -/
def freshConntrack (deadline : Nat) : TcpConntrackView :=
  ⟨.none, 0, deadline, 0, 0, 0, 0, 0, 0⟩

/-- A LAN SYN the table has a row for starts the connection over. -/
def lanRestarts (state : TcpConntrackState) (tcpFlags : BitVec 8) : Bool :=
  tcpFlagsToEvent tcpFlags false = .syn && (tcpFsmRow state .syn).isSome

/-- A LAN segment runs the machine; a WAN segment does so only if it is let in. -/
def trackSegment (hz : Nat) (t : Tracked) (seg : TcpSegment) : Tracked :=
  if seg.isReply then
    if tcpConntrackInboundValid t.view.tcpState seg.tcpFlags then
      ⟨(tcpConntrackFsmView hz seg.now t.view seg.tcpFlags true).2, true⟩
    else t
  else
    ⟨(tcpConntrackFsmView hz seg.now t.view seg.tcpFlags false).2,
      t.wanAccepted && !lanRestarts t.view.tcpState seg.tcpFlags⟩

/-- A fresh entry after a sequence of segments. -/
def trackSegments (hz deadline : Nat) (segs : List TcpSegment) : Tracked :=
  segs.foldl (trackSegment hz) ⟨freshConntrack deadline, false⟩

theorem trackSegments_snoc (hz deadline : Nat) (segs : List TcpSegment) (seg : TcpSegment) :
    trackSegments hz deadline (segs ++ [seg])
      = trackSegment hz (trackSegments hz deadline segs) seg := by
  simp [trackSegments]

/-- A LAN acknowledgement completing a handshake the WAN has had no part in. -/
def LanCompletes (t : Tracked) (seg : TcpSegment) : Prop :=
  seg.isReply = false ∧ tcpFlagsToEvent seg.tcpFlags false = .ack ∧
    t.view.tcpState = .synRecv ∧ t.wanAccepted = false

/-- The lease is held only by a confirmed connection. -/
def Confirmed (t : Tracked) : Prop := t.view.tcpState = .established → t.wanAccepted = true

/-- The LAN reaches `established` only from `established` or `synRecv`, and without a restart. -/
theorem next_established_lan {state : TcpConntrackState} {tcpFlags : BitVec 8}
    (h : tcpNextState state (tcpFlagsToEvent tcpFlags false) false = .established) :
    (state = .established ∨ (state = .synRecv ∧ tcpFlagsToEvent tcpFlags false = .ack)) ∧
      lanRestarts state tcpFlags = false := by
  unfold lanRestarts
  revert h
  generalize tcpFlagsToEvent tcpFlags false = event
  cases state <;> cases event <;> decide

theorem trackSegment_confirmed {hz : Nat} {t : Tracked} {seg : TcpSegment} (ht : Confirmed t)
    (hlan : ¬ LanCompletes t seg) : Confirmed (trackSegment hz t seg) := by
  unfold trackSegment
  by_cases hreply : seg.isReply = true
  · rw [if_pos hreply]
    split
    · intro _; rfl
    · exact ht
  · rw [if_neg hreply]
    intro hest
    have hnext : tcpNextState t.view.tcpState (tcpFlagsToEvent seg.tcpFlags false) false
        = .established := by rw [← fsm_tcpState hz seg.now]; exact hest
    obtain ⟨hfrom, hstart⟩ := next_established_lan hnext
    have hwan : t.wanAccepted = true := by
      rcases hfrom with hest0 | ⟨hrecv, hack⟩
      · exact ht hest0
      · by_contra hno
        exact hlan ⟨by simpa using hreply, hack, hrecv, by simpa using hno⟩
    show (t.wanAccepted && !lanRestarts t.view.tcpState seg.tcpFlags) = true
    rw [hwan, hstart]
    rfl

theorem trackSegment_lanCompletes (hz : Nat) {t : Tracked} {seg : TcpSegment}
    (h : LanCompletes t seg) : ¬ Confirmed (trackSegment hz t seg) := by
  obtain ⟨hreply, hack, hrecv, hwan⟩ := h
  intro hc
  have hest : (trackSegment hz t seg).view.tcpState = .established := by
    unfold trackSegment
    rw [if_neg (by simp [hreply])]
    show (tcpConntrackFsmView hz seg.now t.view seg.tcpFlags false).2.tcpState = .established
    rw [fsm_tcpState, hack, hrecv]
    rfl
  have hfalse : (trackSegment hz t seg).wanAccepted = false := by
    unfold trackSegment
    rw [if_neg (by simp [hreply])]
    show (t.wanAccepted && !lanRestarts t.view.tcpState seg.tcpFlags) = false
    rw [hwan]
    rfl
  rw [hc hest] at hfalse
  simp at hfalse

/--
**When a lease is always confirmed.**  Along a sequence of segments, every state
that holds the `established` lease has had a WAN segment let in since the start or
the last restart, exactly when no LAN acknowledgement completes a handshake before
one has.
-/
theorem established_confirmed_iff (hz deadline : Nat) (segs : List TcpSegment) :
    (∀ pre, pre <+: segs → Confirmed (trackSegments hz deadline pre)) ↔
      ∀ pre seg, pre ++ [seg] <+: segs → ¬ LanCompletes (trackSegments hz deadline pre) seg := by
  refine ⟨?_, ?_⟩
  · intro hall pre seg hpre hlan
    refine trackSegment_lanCompletes hz hlan ?_
    rw [← trackSegments_snoc]
    exact hall _ hpre
  · intro hall pre
    induction pre using List.reverseRecOn with
    | nil =>
        intro _ hest
        exact absurd hest (show TcpConntrackState.none ≠ .established by decide)
    | append_singleton pre seg ih =>
        intro hpre
        rw [trackSegments_snoc]
        exact trackSegment_confirmed (ih ((List.prefix_append pre [seg]).trans hpre))
          (hall pre seg hpre)

/-- A LAN host alone gets the lease with a SYN-ACK and an ACK of its own. -/
theorem established_unconfirmed :
    ¬ ∀ pre, pre <+: [⟨0, rteTcpSynFlag ||| rteTcpAckFlag, false⟩, ⟨1, rteTcpAckFlag, false⟩] →
      Confirmed (trackSegments 2000000000 0 pre) := by
  intro h
  have hlast := h _ (List.prefix_refl _)
  exact absurd (hlast (by decide)) (by decide)

/-! ### Is a repeated segment let in again? -/

/-- A WAN segment at the tracker: checked, and then followed if it passed. -/
def tcpConntrackInbound (hz now : Nat) (v : TcpConntrackView) (tcpHdr : TcpHdr)
    (payloadLen : BitVec 16) : TcpConntrackView :=
  if tcpConntrackWanOk v tcpHdr then tcpConntrackWan hz now v tcpHdr payloadLen else v

/-- The same segment arriving once for each of the given times. -/
def retransmit (hz : Nat) (tcpHdr : TcpHdr) (payloadLen : BitVec 16) (v : TcpConntrackView)
    (times : List Nat) : TcpConntrackView :=
  times.foldl (fun v now => tcpConntrackInbound hz now v tcpHdr payloadLen) v

theorem tcpConntrackWan_tcpState (hz now : Nat) (v : TcpConntrackView) (tcpHdr : TcpHdr)
    (payloadLen : BitVec 16) :
    (tcpConntrackWan hz now v tcpHdr payloadLen).tcpState
      = tcpNextState v.tcpState (tcpFlagsToEvent tcpHdr.tcpFlags true) true := by
  show (tcpConntrackFsmView hz now v tcpHdr.tcpFlags true).2.tcpState = _
  exact fsm_tcpState ..

/-- A WAN segment is measured against what the LAN sent, which following it does not change. -/
theorem seqValid_tcpConntrackWan (hz now : Nat) (v : TcpConntrackView) (tcpHdr : TcpHdr)
    (payloadLen : BitVec 16) :
    tcpConntrackSeqValidView (tcpConntrackWan hz now v tcpHdr payloadLen) tcpHdr true
      = tcpConntrackSeqValidView v tcpHdr true := by
  have hseq : (tcpConntrackWan hz now v tcpHdr payloadLen).maxSeqEndLan = v.maxSeqEndLan :=
    fsm_maxSeqEndLan hz now v tcpHdr.tcpFlags true
  have hack : (tcpConntrackWan hz now v tcpHdr payloadLen).maxAckLan = v.maxAckLan :=
    fsm_maxAckLan hz now v tcpHdr.tcpFlags true
  unfold tcpConntrackSeqValidView
  simp only [hseq, hack, if_true]

/-- Following an event that is neither a RST nor a FIN leads to a state that lets it in. -/
theorem inboundValid_next {state : TcpConntrackState} {tcpFlags : BitVec 8}
    (hrst : tcpFlagsToEvent tcpFlags true ≠ .rst) (hfin : tcpFlagsToEvent tcpFlags true ≠ .finWan)
    (h : tcpConntrackInboundValid state tcpFlags = true) :
    tcpConntrackInboundValid (tcpNextState state (tcpFlagsToEvent tcpFlags true) true) tcpFlags
      = true := by
  unfold tcpConntrackInboundValid at h ⊢
  revert hrst hfin h
  generalize tcpFlagsToEvent tcpFlags true = event
  cases state <;> cases event <;> decide

/-- A FIN closes the door behind itself, at once or at its first repetition. -/
theorem inboundValid_fin_twice {state : TcpConntrackState} {tcpFlags : BitVec 8}
    (hfin : tcpFlagsToEvent tcpFlags true = .finWan)
    (h : tcpConntrackInboundValid state tcpFlags = true) :
    tcpConntrackInboundValid (tcpNextState state .finWan true) tcpFlags = false ∨
      tcpConntrackInboundValid (tcpNextState (tcpNextState state .finWan true) .finWan true)
        tcpFlags = false := by
  unfold tcpConntrackInboundValid at h ⊢
  rw [hfin] at h ⊢
  revert h
  cases state <;> decide

theorem wanOk_tcpConntrackWan {hz now : Nat} {v : TcpConntrackView} {tcpHdr : TcpHdr}
    {payloadLen : BitVec 16} (hrst : tcpFlagsToEvent tcpHdr.tcpFlags true ≠ .rst)
    (hfin : tcpFlagsToEvent tcpHdr.tcpFlags true ≠ .finWan)
    (hok : tcpConntrackWanOk v tcpHdr = true) :
    tcpConntrackWanOk (tcpConntrackWan hz now v tcpHdr payloadLen) tcpHdr = true := by
  obtain ⟨hstate, hseq⟩ := Bool.and_eq_true_iff.mp hok
  refine Bool.and_eq_true_iff.mpr ⟨?_, ?_⟩
  · rw [tcpConntrackWan_tcpState]
    exact inboundValid_next hrst hfin hstate
  · rw [seqValid_tcpConntrackWan]
    exact hseq

/--
**Which segments can be repeated.**  Take a WAN segment without the RST flag that
the tracker lets in.  However often it is repeated, and at whatever times, it goes
on being let in, exactly when it is not a FIN.
-/
theorem retransmission_accepted_iff (hz : Nat) (v : TcpConntrackView) (tcpHdr : TcpHdr)
    (payloadLen : BitVec 16) (hrst : hasFlag tcpHdr.tcpFlags rteTcpRstFlag = false)
    (hok : tcpConntrackWanOk v tcpHdr = true) :
    (∀ times, tcpConntrackWanOk (retransmit hz tcpHdr payloadLen v times) tcpHdr = true) ↔
      tcpFlagsToEvent tcpHdr.tcpFlags true ≠ .finWan := by
  refine ⟨?_, ?_⟩
  · intro hall hfin
    have hstate : tcpConntrackInboundValid v.tcpState tcpHdr.tcpFlags = true :=
      (Bool.and_eq_true_iff.mp hok).1
    -- The segment once, and then once more.
    have h1 := hall [0]
    have h2 := hall [0, 0]
    simp only [retransmit, List.foldl_cons, List.foldl_nil, tcpConntrackInbound, hok,
      if_true] at h1 h2
    rw [if_pos h1] at h2
    have hv1 := (Bool.and_eq_true_iff.mp h1).1
    have hv2 := (Bool.and_eq_true_iff.mp h2).1
    rw [tcpConntrackWan_tcpState, hfin] at hv1
    rw [tcpConntrackWan_tcpState, tcpConntrackWan_tcpState, hfin] at hv2
    rcases inboundValid_fin_twice hfin hstate with hno | hno
    · rw [hv1] at hno; simp at hno
    · rw [hv2] at hno; simp at hno
  · intro hfin times
    induction times generalizing v with
    | nil => exact hok
    | cons now rest ih =>
        have hnext : tcpConntrackInbound hz now v tcpHdr payloadLen
            = tcpConntrackWan hz now v tcpHdr payloadLen := by
          unfold tcpConntrackInbound
          rw [if_pos hok]
        show tcpConntrackWanOk (retransmit hz tcpHdr payloadLen
          (tcpConntrackInbound hz now v tcpHdr payloadLen) rest) tcpHdr = true
        rw [hnext]
        exact ih _ (wanOk_tcpConntrackWan (event_ne_rst true hrst) hfin hok)

/-- An acknowledgement of an established connection, repeated three times. -/
theorem retransmission_accepted_ack :
    tcpConntrackWanOk (retransmit 2000000000 ⟨443, 40000, 5001, 1001, 0x50, 0x10, 0⟩ 0
      ⟨.established, 0, 0, 1001, 5001, 5001, 1001, 0, 0⟩ [1, 2, 3])
        ⟨443, 40000, 5001, 1001, 0x50, 0x10, 0⟩ = true :=
  (retransmission_accepted_iff 2000000000 _ _ 0 (by decide) (by decide)).mpr (by decide) [1, 2, 3]

/-- A FIN of an established connection is let in, and its repetition is refused. -/
theorem fin_retransmission_refused :
    tcpConntrackWanOk ⟨.established, 0, 0, 1001, 5001, 5001, 1001, 0, 0⟩
      ⟨443, 40000, 5001, 1001, 0x50, 0x11, 0⟩ = true ∧
    ¬ ∀ times, tcpConntrackWanOk (retransmit 2000000000 ⟨443, 40000, 5001, 1001, 0x50, 0x11, 0⟩ 0
      ⟨.established, 0, 0, 1001, 5001, 5001, 1001, 0, 0⟩ times)
        ⟨443, 40000, 5001, 1001, 0x50, 0x11, 0⟩ = true := by
  refine ⟨by decide, ?_⟩
  intro h
  exact absurd (h [1]) (by decide)

end FastRG
