/-
Whether a new connection gets through the tracker.

A client reuses a port, or opens one for the first time; either way the LAN sends
a SYN the table has a row for, the server answers, the LAN acknowledges, and the
server goes on with its next segment.  What stands in the way is the sequence
check.  It compares a WAN segment with the LAN's two baselines, and these are
running maxima: a SYN does not reset them, it is only one more number to take the
maximum with.

So the check passes when the client's new number is not far behind the old one,
and when the server's is close to the acknowledgement baseline.  On a fresh entry
that baseline is the zero the SYN carried, because zero counts as unset only when
both baselines are.  `handshake_passes_iff` is the exact condition.
-/
import FastRG.Proofs.TcpConntrack

namespace FastRG

/-! ### The sequence check on an acknowledgement from the WAN -/

/-- Both LAN baselines are unset. -/
def Unset (v : TcpConntrackView) : Prop := v.maxSeqEndLan = 0 ∧ v.maxAckLan = 0

/-- A number is within the slack of the acknowledgement baseline. -/
def SeqNear (seq base : BitVec 32) : Prop :=
  -seqSlack ≤ (seq - base).toInt ∧ (seq - base).toInt ≤ seqSlack

/-- An acknowledgement is not far behind, and not ahead of, what was sent. -/
def AckNear (ack base : BitVec 32) : Prop :=
  -seqSlack ≤ (ack - base).toInt ∧ (ack - base).toInt ≤ ackSlack

theorem seqValid_ack_iff {v : TcpConntrackView} {tcpHdr : TcpHdr}
    (h : tcpFlagsToEvent tcpHdr.tcpFlags true = .ack) :
    tcpConntrackSeqValidView v tcpHdr true = true ↔
      Unset v ∨ (SeqNear tcpHdr.sentSeq v.maxAckLan ∧ AckNear tcpHdr.recvAck v.maxSeqEndLan) := by
  obtain ⟨hsyn, -, hack⟩ := flags_of_ack h
  unfold tcpConntrackSeqValidView Unset SeqNear AckNear
  simp only [hsyn, hack, if_true, Bool.false_eq_true, if_false]
  by_cases hzero : v.maxSeqEndLan = 0 ∧ v.maxAckLan = 0
  · simp [hzero]
  · simp only [hzero, if_false, false_or]
    split
    · simp only [Bool.false_eq_true, false_iff]; omega
    · split
      · simp only [Bool.false_eq_true, false_iff]; omega
      · simp only [true_iff]; omega

/-! ### How a baseline moves -/

theorem toInt_sub_self (x : BitVec 32) : (x - x).toInt = 0 := by simp

/-- A baseline that has taken in a number is not ahead of it by more than before. -/
theorem ackNear_seqAdvance {cur new : BitVec 32} :
    AckNear new (seqAdvance cur new) ↔ cur = 0 ∨ -seqSlack ≤ (new - cur).toInt := by
  unfold AckNear seqAdvance
  by_cases hzero : cur = 0
  · simp [hzero, seqSlack, ackSlack]
  · by_cases hpos : (new - cur).toInt > 0
    · rw [if_pos (Or.inr hpos), toInt_sub_self]
      simp only [seqSlack, ackSlack]
      omega
    · rw [if_neg (fun h => h.elim hzero hpos)]
      simp only [hzero, false_or, seqSlack, ackSlack]
      omega

theorem seqNear_seqAdvance {cur new : BitVec 32} (h : SeqNear new cur) :
    SeqNear new (seqAdvance cur new) := by
  unfold seqAdvance
  split
  · unfold SeqNear
    rw [toInt_sub_self]
    simp [seqSlack]
  · exact h

theorem seqNear_seqAdvance_zero (new : BitVec 32) : SeqNear new (seqAdvance 0 new) := by
  unfold seqAdvance SeqNear
  rw [if_pos (Or.inl rfl), toInt_sub_self]
  simp [seqSlack]

/-! ### The handshake -/

/-- The four segments of a new connection, with the client's and server's first numbers. -/
structure Handshake (c s : BitVec 32) (syn synAck ack data : TcpHdr) : Prop where
  syn : tcpFlagsToEvent syn.tcpFlags false = .syn ∧ syn.sentSeq = c
  synAck : tcpFlagsToEvent synAck.tcpFlags true = .synAck
  ack : tcpFlagsToEvent ack.tcpFlags false = .ack ∧ ack.sentSeq = c + 1 ∧ ack.recvAck = s + 1
  data : tcpFlagsToEvent data.tcpFlags true = .ack ∧ data.sentSeq = s + 1 ∧ data.recvAck = c + 1

/--
The server's SYN-ACK passes after the LAN's SYN, and its next segment passes both
before and after the LAN's final ACK.  LAN segments are not checked.
-/
def HandshakePasses (hz t₁ t₂ t₃ : Nat) (v : TcpConntrackView)
    (syn synAck ack data : TcpHdr) : Prop :=
  let afterSyn := tcpConntrackLan hz t₁ v syn 0
  let afterSynAck := tcpConntrackWan hz t₂ afterSyn synAck 0
  let afterAck := tcpConntrackLan hz t₃ afterSynAck ack 0
  tcpConntrackWanOk afterSyn synAck = true ∧ tcpConntrackWanOk afterSynAck data = true ∧
    tcpConntrackWanOk afterAck data = true

/--
The old baselines do not stand in the way: the client's number is not far behind
the one the LAN last sent, and the server's is near the acknowledgement baseline
the SYN leaves behind, unless both baselines come out as zero and so count as unset.
-/
def BaselinesAdmit (v : TcpConntrackView) (c s synAckNo : BitVec 32) : Prop :=
  (v.maxSeqEndLan = 0 ∨ -seqSlack ≤ (c + 1 - v.maxSeqEndLan).toInt) ∧
      SeqNear (s + 1) (seqAdvance v.maxAckLan synAckNo) ∨
    c + 1 = 0 ∧ (v.maxSeqEndLan = 0 ∨ (c + 1 - v.maxSeqEndLan).toInt > 0) ∧
      seqAdvance v.maxAckLan synAckNo = 0

variable {hz now : Nat} {v : TcpConntrackView} {tcpHdr : TcpHdr} {payloadLen : BitVec 16}

theorem tcpConntrackLan_tcpState :
    (tcpConntrackLan hz now v tcpHdr payloadLen).tcpState
      = tcpNextState v.tcpState (tcpFlagsToEvent tcpHdr.tcpFlags false) false := by
  show (tcpConntrackFsmView hz now v tcpHdr.tcpFlags false).2.tcpState = _
  exact fsm_tcpState ..

theorem tcpConntrackLan_maxAckLan :
    (tcpConntrackLan hz now v tcpHdr payloadLen).maxAckLan
      = seqAdvance v.maxAckLan tcpHdr.recvAck := by
  show seqAdvance (tcpConntrackFsmView hz now v tcpHdr.tcpFlags false).2.maxAckLan _ = _
  rw [fsm_maxAckLan]

/-- A bare LAN segment moves the sequence baseline to the number after it. -/
theorem tcpConntrackLan_maxSeqEndLan :
    (tcpConntrackLan hz now v tcpHdr 0).maxSeqEndLan
      = seqAdvance v.maxSeqEndLan (tcpHdr.sentSeq +
          if hasFlag tcpHdr.tcpFlags (rteTcpSynFlag ||| rteTcpFinFlag) then 1 else 0) := by
  show seqAdvance (tcpConntrackFsmView hz now v tcpHdr.tcpFlags false).2.maxSeqEndLan
    (tcpHdr.sentSeq + (0 : BitVec 16).setWidth 32 + _) = _
  rw [fsm_maxSeqEndLan]
  simp

theorem tcpConntrackWan_maxAckLan :
    (tcpConntrackWan hz now v tcpHdr payloadLen).maxAckLan = v.maxAckLan :=
  fsm_maxAckLan ..

theorem tcpConntrackWan_maxSeqEndLan :
    (tcpConntrackWan hz now v tcpHdr payloadLen).maxSeqEndLan = v.maxSeqEndLan :=
  fsm_maxSeqEndLan ..

/-- A SYN or FIN takes up one number. -/
theorem hasFlag_synFin_of_syn {tcpFlags : BitVec 8} (h : hasFlag tcpFlags rteTcpSynFlag = true) :
    hasFlag tcpFlags (rteTcpSynFlag ||| rteTcpFinFlag) = true := by
  revert h
  revert tcpFlags
  decide

theorem hasFlag_synFin_of_neither {tcpFlags : BitVec 8}
    (hs : hasFlag tcpFlags rteTcpSynFlag = false) (hf : hasFlag tcpFlags rteTcpFinFlag = false) :
    hasFlag tcpFlags (rteTcpSynFlag ||| rteTcpFinFlag) = false := by
  revert hs hf
  revert tcpFlags
  decide

theorem tcpNextState_syn {state : TcpConntrackState} (h : (tcpFsmRow state .syn).isSome = true) :
    tcpNextState state .syn false = .synSent := by
  revert h
  cases state <;> decide

theorem seqAdvance_eq_zero_iff {cur new : BitVec 32} :
    seqAdvance cur new = 0 ↔ new = 0 ∧ (cur = 0 ∨ (new - cur).toInt > 0) := by
  unfold seqAdvance
  by_cases h : cur = 0 ∨ (new - cur).toInt > 0
  · rw [if_pos h]
    exact ⟨fun hnew => ⟨hnew, h⟩, fun hnew => hnew.1⟩
  · rw [if_neg h]
    exact ⟨fun hcur => absurd (Or.inl hcur) h, fun hnew => absurd hnew.2 h⟩

/-- The baselines the handshake leaves behind once the server has answered. -/
theorem afterSynAck_baselines (hz t₁ t₂ : Nat) (v : TcpConntrackView) {c s : BitVec 32}
    {syn synAck ack data : TcpHdr} (hh : Handshake c s syn synAck ack data) :
    (tcpConntrackWan hz t₂ (tcpConntrackLan hz t₁ v syn 0) synAck 0).maxSeqEndLan
        = seqAdvance v.maxSeqEndLan (c + 1) ∧
      (tcpConntrackWan hz t₂ (tcpConntrackLan hz t₁ v syn 0) synAck 0).maxAckLan
        = seqAdvance v.maxAckLan syn.recvAck := by
  have hflag : hasFlag syn.tcpFlags (rteTcpSynFlag ||| rteTcpFinFlag) = true :=
    hasFlag_synFin_of_syn (flags_of_syn (Or.inl hh.syn.1))
  refine ⟨?_, ?_⟩
  · rw [tcpConntrackWan_maxSeqEndLan, tcpConntrackLan_maxSeqEndLan, hflag, if_pos rfl, hh.syn.2]
  · rw [tcpConntrackWan_maxAckLan, tcpConntrackLan_maxAckLan]

/-- The next segment passes after the final ACK if it passed before it. -/
theorem data_passes_after_ack {t₃ : Nat} {c s : BitVec 32} {syn synAck ack data : TcpHdr}
    (hh : Handshake c s syn synAck ack data) (hstate : v.tcpState = .synRecv)
    (hdata : Unset v ∨ (SeqNear (s + 1) v.maxAckLan ∧ AckNear (c + 1) v.maxSeqEndLan)) :
    tcpConntrackWanOk (tcpConntrackLan hz t₃ v ack 0) data = true := by
  obtain ⟨hack, hackSeq, hackAck⟩ := hh.ack
  obtain ⟨hdataEv, hdataSeq, hdataAck⟩ := hh.data
  obtain ⟨hsyn, hfin, -⟩ := flags_of_ack hack
  refine Bool.and_eq_true_iff.mpr ⟨?_, ?_⟩
  · rw [tcpConntrackLan_tcpState, hstate, hack]
    show tcpConntrackInboundValid .established data.tcpFlags = true
    simp [tcpConntrackInboundValid, hdataEv]
  · have hmaxAck : (tcpConntrackLan hz t₃ v ack 0).maxAckLan = seqAdvance v.maxAckLan (s + 1) := by
      rw [tcpConntrackLan_maxAckLan, hackAck]
    have hmaxSeq : (tcpConntrackLan hz t₃ v ack 0).maxSeqEndLan
        = seqAdvance v.maxSeqEndLan (c + 1) := by
      rw [tcpConntrackLan_maxSeqEndLan, hasFlag_synFin_of_neither hsyn hfin, hackSeq]
      exact congrArg _ (BitVec.add_zero _)
    rw [seqValid_ack_iff hdataEv, hmaxAck, hmaxSeq, hdataSeq, hdataAck]
    refine Or.inr ?_
    rcases hdata with ⟨hseq0, hack0⟩ | ⟨hseq, hnear⟩
    · rw [hack0]
      exact ⟨seqNear_seqAdvance_zero _, ackNear_seqAdvance.mpr (Or.inl hseq0)⟩
    · exact ⟨seqNear_seqAdvance hseq, ackNear_seqAdvance.mpr (Or.inr hnear.1)⟩

/--
**When a new connection gets through.**  From any state the table has a SYN row
for, whatever the old connection left behind, the handshake and the server's next
segment pass the tracker exactly when the baselines admit the new numbers.
-/
theorem handshake_passes_iff (hz t₁ t₂ t₃ : Nat) (v : TcpConntrackView) {c s : BitVec 32}
    {syn synAck ack data : TcpHdr} (hrow : (tcpFsmRow v.tcpState .syn).isSome = true)
    (hh : Handshake c s syn synAck ack data) :
    HandshakePasses hz t₁ t₂ t₃ v syn synAck ack data ↔ BaselinesAdmit v c s syn.recvAck := by
  obtain ⟨hdataEv, hdataSeq, hdataAck⟩ := hh.data
  have hsent : (tcpConntrackLan hz t₁ v syn 0).tcpState = .synSent := by
    rw [tcpConntrackLan_tcpState, hh.syn.1, tcpNextState_syn hrow]
  have hrecv : (tcpConntrackWan hz t₂ (tcpConntrackLan hz t₁ v syn 0) synAck 0).tcpState
      = .synRecv := by
    rw [tcpConntrackWan_tcpState, hsent, hh.synAck]
    rfl
  obtain ⟨hseq, hack⟩ := afterSynAck_baselines hz t₁ t₂ v hh
  -- The SYN-ACK always passes: `synSent` lets it in, and a SYN is not measured.
  have hsynAck : tcpConntrackWanOk (tcpConntrackLan hz t₁ v syn 0) synAck = true := by
    refine Bool.and_eq_true_iff.mpr ⟨?_, ?_⟩
    · rw [hsent]
      simp [tcpConntrackInboundValid, hh.synAck]
    · simp [tcpConntrackSeqValidView, flags_of_syn (Or.inr hh.synAck)]
  have hearly : tcpConntrackWanOk
      (tcpConntrackWan hz t₂ (tcpConntrackLan hz t₁ v syn 0) synAck 0) data = true ↔
      BaselinesAdmit v c s syn.recvAck := by
    unfold tcpConntrackWanOk BaselinesAdmit
    rw [hrecv, Bool.and_eq_true_iff, seqValid_ack_iff hdataEv]
    unfold Unset
    rw [hseq, hack, hdataSeq, hdataAck, ackNear_seqAdvance, seqAdvance_eq_zero_iff]
    simp only [tcpConntrackInboundValid, hdataEv, decide_true, or_true, true_or, true_and]
    tauto
  refine ⟨?_, ?_⟩
  · intro hpass
    exact hearly.mp hpass.2.1
  · intro hadmit
    have hok := hearly.mpr hadmit
    refine ⟨hsynAck, hok, data_passes_after_ack hh hrecv ?_⟩
    have hvalid := (Bool.and_eq_true_iff.mp hok).2
    rw [seqValid_ack_iff hdataEv, hdataSeq, hdataAck] at hvalid
    exact hvalid

/-- A first connection whose two numbers are small gets through. -/
theorem handshake_passes_small :
    HandshakePasses 2000000000 0 1 2 (freshConntrack 0) ⟨40000, 443, 1000, 0, 0x50, 0x02, 0⟩
      ⟨443, 40000, 2000, 1001, 0x50, 0x12, 0⟩ ⟨40000, 443, 1001, 2001, 0x50, 0x10, 0⟩
      ⟨443, 40000, 2001, 1001, 0x50, 0x18, 0⟩ :=
  (handshake_passes_iff 2000000000 0 1 2 (freshConntrack 0) (c := 1000) (s := 2000) (by decide)
    ⟨by decide, by decide, by decide, by decide⟩).mpr
    (Or.inl ⟨Or.inl rfl, by unfold SeqNear; decide⟩)

/--
A first connection to a server whose number is `0x20000000`: its next segment is
refused if it overtakes the LAN's final ACK.
-/
theorem handshake_blocked :
    ¬ HandshakePasses 2000000000 0 1 2 (freshConntrack 0) ⟨40000, 443, 1000, 0, 0x50, 0x02, 0⟩
      ⟨443, 40000, 0x20000000, 1001, 0x50, 0x12, 0⟩
      ⟨40000, 443, 1001, 0x20000001, 0x50, 0x10, 0⟩
      ⟨443, 40000, 0x20000001, 1001, 0x50, 0x18, 0⟩ := by
  intro h
  exact absurd h.2.1 (by decide)

end FastRG
