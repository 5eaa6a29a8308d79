/-
What a run of segments keeps.

A connection is an entry that has just been made, followed by any segments from either side.  A LAN
segment always runs the machine; a WAN segment does so only if it is let in.  Two things are asked
of every state such a run reaches.

The first is whether the state and the FIN mask tell the same story.  They do but for one row: a
FIN from the WAN in `synRecv` leads to `finWait`, which stands for a FIN of the LAN.

The second is whether the sequence baselines ever move back.  A baseline that stands at zero is
taken for one that was never set, so the number that brings one to zero makes room for any other.
-/
import FastRG.Proofs.TcpConntrack

namespace FastRG

/-! ### Runs -/

/-- One segment, and the length of its payload as the caller has computed it. -/
structure ConnSegment where
  now : Nat
  tcpHdr : TcpHdr
  payloadLen : BitVec 16
  isReply : Bool

/-- The event of a segment. -/
def ConnSegment.event (seg : ConnSegment) : TcpConntrackEvent :=
  tcpFlagsToEvent seg.tcpHdr.tcpFlags seg.isReply

/-- A segment that is followed: it is the LAN's, or it is let in. -/
def ConnSegment.followed (seg : ConnSegment) (v : TcpConntrackView) : Bool :=
  !seg.isReply || tcpConntrackWanOk v seg.tcpHdr

def connStep (hz : Nat) (v : TcpConntrackView) (seg : ConnSegment) : TcpConntrackView :=
  if seg.isReply then tcpConntrackInbound hz seg.now v seg.tcpHdr seg.payloadLen
  else tcpConntrackLan hz seg.now v seg.tcpHdr seg.payloadLen

/-- A fresh entry after a sequence of segments. -/
def connRun (hz deadline : Nat) (segs : List ConnSegment) : TcpConntrackView :=
  segs.foldl (connStep hz) (freshConntrack deadline)

theorem connRun_snoc (hz deadline : Nat) (segs : List ConnSegment) (seg : ConnSegment) :
    connRun hz deadline (segs ++ [seg]) = connStep hz (connRun hz deadline segs) seg := by
  simp [connRun]

/-- What every segment keeps, every prefix of a run keeps. -/
theorem connRun_inv {hz deadline : Nat} {segs : List ConnSegment} {I : TcpConntrackView → Prop}
    (hfresh : I (freshConntrack deadline))
    (hstep : ∀ pre seg, pre ++ [seg] <+: segs → I (connRun hz deadline pre) →
      I (connStep hz (connRun hz deadline pre) seg)) :
    ∀ pre, pre <+: segs → I (connRun hz deadline pre) := by
  intro pre
  induction pre using List.reverseRecOn with
  | nil =>
      intro _
      exact hfresh
  | append_singleton pre seg ih =>
      intro hpre
      rw [connRun_snoc]
      exact hstep pre seg hpre (ih ((List.prefix_append pre [seg]).trans hpre))

variable {hz : Nat} {v : TcpConntrackView} {seg : ConnSegment}

/-- The machine and the baselines, after a segment that is followed. -/
theorem connStep_followed (h : seg.followed v = true) :
    connStep hz v seg =
      tcpConntrackSeqUpdateView (tcpConntrackFsmView hz seg.now v seg.tcpHdr.tcpFlags seg.isReply).2
        seg.tcpHdr seg.payloadLen seg.isReply := by
  unfold connStep
  cases hreply : seg.isReply with
  | false => rfl
  | true =>
      have hok : tcpConntrackWanOk v seg.tcpHdr = true := by
        simpa [ConnSegment.followed, hreply] using h
      rw [if_pos rfl]
      unfold tcpConntrackInbound
      rw [if_pos hok]
      rfl

theorem connStep_not_followed (h : seg.followed v = false) : connStep hz v seg = v := by
  have hparts : seg.isReply = true ∧ tcpConntrackWanOk v seg.tcpHdr = false := by
    simpa [ConnSegment.followed] using h
  unfold connStep tcpConntrackInbound
  rw [if_pos hparts.1, hparts.2, if_neg Bool.false_ne_true]

@[simp] theorem seqUpdate_tcpState (v : TcpConntrackView) (tcpHdr : TcpHdr)
    (payloadLen : BitVec 16) (isReply : Bool) :
    (tcpConntrackSeqUpdateView v tcpHdr payloadLen isReply).tcpState = v.tcpState := by
  cases isReply <;> rfl

@[simp] theorem seqUpdate_tcpFinFlags (v : TcpConntrackView) (tcpHdr : TcpHdr)
    (payloadLen : BitVec 16) (isReply : Bool) :
    (tcpConntrackSeqUpdateView v tcpHdr payloadLen isReply).tcpFinFlags = v.tcpFinFlags := by
  cases isReply <;> rfl

@[simp] theorem seqUpdate_expireSlot (v : TcpConntrackView) (tcpHdr : TcpHdr)
    (payloadLen : BitVec 16) (isReply : Bool) :
    (tcpConntrackSeqUpdateView v tcpHdr payloadLen isReply).expireSlot = v.expireSlot := by
  cases isReply <;> rfl

/-! ### FINs -/

/-- The mask after an event. -/
def tcpNextFin (state : TcpConntrackState) (event : TcpConntrackEvent) (fin : BitVec 8) : BitVec 8 :=
  match tcpFsmRow state event with
  | none => fin
  | some _ =>
      match event with
      | .finLan => fin ||| tcpFinFlagLan
      | .finWan => fin ||| tcpFinFlagWan
      | .syn => if state = .none ∨ state = .synSent then fin else 0
      | _ => fin

theorem fsm_tcpFinFlags (hz now : Nat) (v : TcpConntrackView) (tcpFlags : BitVec 8)
    (isReply : Bool) :
    (tcpConntrackFsmView hz now v tcpFlags isReply).2.tcpFinFlags
      = tcpNextFin v.tcpState (tcpFlagsToEvent tcpFlags isReply) v.tcpFinFlags := by
  unfold tcpConntrackFsmView
  generalize tcpFlagsToEvent tcpFlags isReply = event
  obtain ⟨state, _, _, _, _, _, _, _, _⟩ := v
  cases state <;> cases event <;> cases isReply <;> rfl

/-- The FINs that a state stands for are the ones in the mask. -/
def finAgrees (state : TcpConntrackState) (fin : BitVec 8) : Bool :=
  match state with
  | .none | .synSent | .synRecv | .established | .midStream => fin = 0
  | .finWait => fin = tcpFinFlagLan
  | .closeWait => fin = tcpFinFlagWan
  | .lastAck | .timeWait => fin = tcpFinFlagLan ||| tcpFinFlagWan
  | .close | .invld => true

/-- A FIN of the WAN that is let in before the handshake is complete. -/
def FinBeforeOpen (v : TcpConntrackView) (seg : ConnSegment) : Prop :=
  v.tcpState = .synRecv ∧ seg.event = .finWan ∧ seg.followed v = true

/-- One event, in any state but that one. -/
theorem finAgrees_next {state : TcpConntrackState} {event : TcpConntrackEvent} {fin : BitVec 8}
    (isReply : Bool) (h : finAgrees state fin = true)
    (hfin : ¬ (state = .synRecv ∧ event = .finWan)) :
    finAgrees (tcpNextState state event isReply) (tcpNextFin state event fin) = true := by
  have hknown : ∀ known : BitVec 8, finAgrees state fin = decide (fin = known) → fin = known :=
    fun known hk => of_decide_eq_true (hk.symm.trans h)
  cases state
  case close => cases event <;> cases isReply <;> rfl
  case invld => cases event <;> cases isReply <;> rfl
  case finWait =>
    obtain rfl := hknown tcpFinFlagLan rfl
    cases event <;> cases isReply <;> rfl
  case closeWait =>
    obtain rfl := hknown tcpFinFlagWan rfl
    cases event <;> cases isReply <;> rfl
  case lastAck | timeWait =>
    obtain rfl := hknown (tcpFinFlagLan ||| tcpFinFlagWan) rfl
    cases event <;> cases isReply <;> rfl
  case synRecv =>
    obtain rfl := hknown 0 rfl
    cases event <;> cases isReply <;>
      first
        | rfl
        | exact absurd ⟨rfl, rfl⟩ hfin
  case none | synSent | established | midStream =>
    obtain rfl := hknown 0 rfl
    cases event <;> cases isReply <;> rfl

/-- A segment of the prefix carried that FIN and was followed. -/
def Closed (hz deadline : Nat) (pre : List ConnSegment) (event : TcpConntrackEvent) : Prop :=
  ∃ before seg, before ++ [seg] <+: pre ∧ seg.event = event ∧
    seg.followed (connRun hz deadline before) = true

theorem Closed.snoc {hz deadline : Nat} {pre : List ConnSegment} {event : TcpConntrackEvent}
    (h : Closed hz deadline pre event) (seg : ConnSegment) :
    Closed hz deadline (pre ++ [seg]) event := by
  obtain ⟨before, old, hpre, hevent, hfollowed⟩ := h
  exact ⟨before, old, hpre.trans (List.prefix_append pre [seg]), hevent, hfollowed⟩

/-- What a state and its mask promise after a prefix of a run. -/
structure FinCoherent (hz deadline : Nat) (pre : List ConnSegment) : Prop where
  mask : finAgrees (connRun hz deadline pre).tcpState (connRun hz deadline pre).tcpFinFlags = true
  closed : (connRun hz deadline pre).tcpState = .timeWait →
    Closed hz deadline pre .finLan ∧ Closed hz deadline pre .finWan

theorem hasFlag_zero (bit : BitVec 8) : hasFlag 0 bit = false := by
  simp [hasFlag]

theorem hasFlag_or (x y bit : BitVec 8) :
    hasFlag (x ||| y) bit = (hasFlag x bit || hasFlag y bit) := by
  unfold hasFlag
  rw [BitVec.and_or_distrib_right]
  by_cases hx : x &&& bit = 0
  · simp [hx]
  · have hboth : (x &&& bit) ||| (y &&& bit) ≠ 0 := fun h => hx (BitVec.or_eq_zero_iff.mp h).1
    rw [bne_iff_ne.mpr hboth, bne_iff_ne.mpr hx, Bool.true_or]

/-- A bit of the mask is an old one, or it is the bit of the event's own side. -/
theorem tcpNextFin_bit {state : TcpConntrackState} {event : TcpConntrackEvent}
    {fin bit : BitVec 8} (h : hasFlag (tcpNextFin state event fin) bit = true) :
    hasFlag fin bit = true ∨ (event = .finLan ∧ hasFlag tcpFinFlagLan bit = true) ∨
      (event = .finWan ∧ hasFlag tcpFinFlagWan bit = true) := by
  unfold tcpNextFin at h
  cases hrow : tcpFsmRow state event with
  | none =>
      rw [hrow] at h
      exact Or.inl h
  | some row =>
      rw [hrow] at h
      cases event with
      | finLan =>
          rw [hasFlag_or, Bool.or_eq_true] at h
          exact h.imp_right fun hlan => Or.inl ⟨rfl, hlan⟩
      | finWan =>
          rw [hasFlag_or, Bool.or_eq_true] at h
          exact h.imp_right fun hwan => Or.inr ⟨rfl, hwan⟩
      | syn =>
          by_cases hkeep : state = .none ∨ state = .synSent
          · simp only [if_pos hkeep] at h
            exact Or.inl h
          · simp only [if_neg hkeep] at h
            exact absurd ((hasFlag_zero bit).symm.trans h) Bool.false_ne_true
      | synAck | ack | rst | invld => exact Or.inl h

theorem connStep_tcpFinFlags (hfollowed : seg.followed v = true) :
    (connStep hz v seg).tcpFinFlags = tcpNextFin v.tcpState seg.event v.tcpFinFlags := by
  rw [connStep_followed hfollowed, seqUpdate_tcpFinFlags]
  exact fsm_tcpFinFlags hz seg.now v seg.tcpHdr.tcpFlags seg.isReply

theorem connStep_tcpState (hfollowed : seg.followed v = true) :
    (connStep hz v seg).tcpState = tcpNextState v.tcpState seg.event seg.isReply := by
  rw [connStep_followed hfollowed, seqUpdate_tcpState]
  exact fsm_tcpState hz seg.now v seg.tcpHdr.tcpFlags seg.isReply

/-- A bit of the mask is there only if the FIN of its side was followed. -/
def MaskSeen (hz deadline : Nat) (pre : List ConnSegment) : Prop :=
  (hasFlag (connRun hz deadline pre).tcpFinFlags tcpFinFlagLan = true →
    Closed hz deadline pre .finLan) ∧
  (hasFlag (connRun hz deadline pre).tcpFinFlags tcpFinFlagWan = true →
    Closed hz deadline pre .finWan)

theorem maskSeen_connRun (hz deadline : Nat) (pre : List ConnSegment) :
    MaskSeen hz deadline pre := by
  induction pre using List.reverseRecOn with
  | nil =>
      have hfresh : (connRun hz deadline []).tcpFinFlags = 0 := rfl
      unfold MaskSeen
      rw [hfresh, hasFlag_zero, hasFlag_zero]
      exact ⟨fun h => absurd h Bool.false_ne_true, fun h => absurd h Bool.false_ne_true⟩
  | append_singleton pre seg ih =>
      have hown : seg.followed (connRun hz deadline pre) = true →
          Closed hz deadline (pre ++ [seg]) seg.event :=
        fun hfollowed => ⟨pre, seg, List.prefix_refl _, rfl, hfollowed⟩
      unfold MaskSeen
      rw [connRun_snoc]
      cases hfollowed : seg.followed (connRun hz deadline pre) with
      | false =>
          rw [connStep_not_followed hfollowed]
          exact ⟨fun h => (ih.1 h).snoc seg, fun h => (ih.2 h).snoc seg⟩
      | true =>
          rw [connStep_tcpFinFlags hfollowed]
          refine ⟨?_, ?_⟩
          · intro h
            rcases tcpNextFin_bit h with hold | ⟨hevent, _⟩ | ⟨_, hbit⟩
            · exact (ih.1 hold).snoc seg
            · exact hevent ▸ hown hfollowed
            · exact absurd hbit (by decide)
          · intro h
            rcases tcpNextFin_bit h with hold | ⟨_, hbit⟩ | ⟨hevent, _⟩
            · exact (ih.2 hold).snoc seg
            · exact absurd hbit (by decide)
            · exact hevent ▸ hown hfollowed

/-- Where the mask agrees, a connection in `timeWait` was closed from both sides. -/
theorem finCoherent_of_mask {hz deadline : Nat} {pre : List ConnSegment}
    (h : finAgrees (connRun hz deadline pre).tcpState (connRun hz deadline pre).tcpFinFlags = true) :
    FinCoherent hz deadline pre := by
  refine ⟨h, ?_⟩
  intro hstate
  rw [hstate] at h
  have hmask : (connRun hz deadline pre).tcpFinFlags = tcpFinFlagLan ||| tcpFinFlagWan :=
    of_decide_eq_true h
  obtain ⟨hlan, hwan⟩ := maskSeen_connRun hz deadline pre
  rw [hmask] at hlan hwan
  exact ⟨hlan (by decide), hwan (by decide)⟩

/--
**State and FIN mask.**  Along a run, every state agrees with its FIN mask and `timeWait` is
reached only after a FIN of either side, exactly when no FIN of the WAN is let in before the
handshake is complete.
-/
theorem finCoherent_run_iff (hz deadline : Nat) (segs : List ConnSegment) :
    (∀ pre, pre <+: segs → FinCoherent hz deadline pre) ↔
      ∀ pre seg, pre ++ [seg] <+: segs → ¬ FinBeforeOpen (connRun hz deadline pre) seg := by
  refine ⟨?_, ?_⟩
  · intro hall pre seg hpre hfin
    obtain ⟨hstate, hevent, hfollowed⟩ := hfin
    have hmask := (hall pre ((List.prefix_append pre [seg]).trans hpre)).mask
    rw [hstate] at hmask
    have hnone : (connRun hz deadline pre).tcpFinFlags = 0 := of_decide_eq_true hmask
    have hafter := (hall (pre ++ [seg]) hpre).mask
    -- The row leads to `finWait`, and the bit it sets is the WAN's.
    rw [connRun_snoc, connStep_tcpState hfollowed, connStep_tcpFinFlags hfollowed, hstate, hevent,
      hnone] at hafter
    exact absurd hafter (by cases seg.isReply <;> decide)
  · intro hnever pre hpre
    apply finCoherent_of_mask
    refine connRun_inv (I := fun v => finAgrees v.tcpState v.tcpFinFlags = true) rfl ?_ pre hpre
    intro before seg hbefore hv
    cases hfollowed : seg.followed (connRun hz deadline before) with
    | false =>
        rw [connStep_not_followed hfollowed]
        exact hv
    | true =>
        rw [connStep_tcpState hfollowed, connStep_tcpFinFlags hfollowed]
        refine finAgrees_next seg.isReply hv ?_
        intro hrow
        exact hnever before seg hbefore ⟨hrow.1, hrow.2, hfollowed⟩

/-- A handshake that the WAN's FIN overtakes: `finWait` is reached with no FIN of the LAN. -/
theorem finWait_of_wan_fin : ¬ FinCoherent 1 0
    [⟨0, ⟨0x1000, 0x2000, 100, 0, 0x50, rteTcpSynFlag, 1000⟩, 0, false⟩,
     ⟨1, ⟨0x2000, 0x1000, 300, 101, 0x50, rteTcpSynFlag ||| rteTcpAckFlag, 1000⟩, 0, true⟩,
     ⟨2, ⟨0x2000, 0x1000, 301, 101, 0x50, rteTcpFinFlag ||| rteTcpAckFlag, 1000⟩, 0, true⟩] := by
  intro h
  exact absurd h.mask (by decide)

/-! ### Sequence baselines -/

/-- The four baselines of a connection. -/
inductive Baseline
  | seqEndLan
  | ackLan
  | seqEndWan
  | ackWan
  deriving DecidableEq

namespace Baseline

/-- The side whose segments move it. -/
def isReply : Baseline → Bool
  | seqEndLan | ackLan => false
  | seqEndWan | ackWan => true

def get : Baseline → TcpConntrackView → BitVec 32
  | seqEndLan, v => v.maxSeqEndLan
  | ackLan, v => v.maxAckLan
  | seqEndWan, v => v.maxSeqEndWan
  | ackWan, v => v.maxAckWan

/-- The number a segment has for it. -/
def number : Baseline → ConnSegment → BitVec 32
  | seqEndLan, seg | seqEndWan, seg =>
      seg.tcpHdr.sentSeq + seg.payloadLen.setWidth 32 +
        (if hasFlag seg.tcpHdr.tcpFlags (rteTcpSynFlag ||| rteTcpFinFlag) then 1 else 0)
  | ackLan, seg | ackWan, seg => seg.tcpHdr.recvAck

/-- Whether that number means anything: an acknowledgement does only under its flag. -/
def stated : Baseline → ConnSegment → Bool
  | seqEndLan, _ | seqEndWan, _ => true
  | ackLan, seg | ackWan, seg => hasFlag seg.tcpHdr.tcpFlags rteTcpAckFlag

/-- A segment of its side that stated a number was followed. -/
def Seeded (hz deadline : Nat) (pre : List ConnSegment) (b : Baseline) : Prop :=
  ∃ before seg, before ++ [seg] <+: pre ∧ seg.isReply = b.isReply ∧ b.stated seg = true ∧
    seg.followed (connRun hz deadline before) = true

/-- A baseline that stands at zero, and a followed segment whose number lies behind zero. -/
def Reseeds (b : Baseline) (v : TcpConntrackView) (seg : ConnSegment) : Prop :=
  seg.isReply = b.isReply ∧ seg.followed v = true ∧ b.get v = 0 ∧ (b.number seg).toInt < 0

end Baseline

/-- `later` does not lie behind `cur`, in the order of serial numbers. -/
def SerialLe (cur later : BitVec 32) : Prop := 0 ≤ (later - cur).toInt

theorem serialLe_refl (cur : BitVec 32) : SerialLe cur cur := by
  unfold SerialLe
  rw [BitVec.sub_self]
  exact Int.le_refl 0

/-- A baseline moves back in one case only. -/
theorem serialLe_seqAdvance_iff (cur new : BitVec 32) :
    SerialLe cur (seqAdvance cur new) ↔ ¬ (cur = 0 ∧ new.toInt < 0) := by
  unfold seqAdvance
  by_cases hzero : cur = 0
  · subst hzero
    rw [if_pos (Or.inl rfl)]
    have hsub : new - 0 = new := BitVec.sub_zero new
    unfold SerialLe
    rw [hsub]
    refine ⟨fun h hneg => ?_, fun h => ?_⟩
    · omega
    · by_contra hneg
      exact h ⟨rfl, by omega⟩
  · refine ⟨fun _ hneg => hzero hneg.1, fun _ => ?_⟩
    by_cases hahead : (new - cur).toInt > 0
    · rw [if_pos (Or.inr hahead)]
      unfold SerialLe
      omega
    · rw [if_neg (fun h => h.elim hzero hahead)]
      exact serialLe_refl cur

/-- A number that is not ahead leaves a baseline where it stands, but for that case. -/
theorem seqAdvance_of_behind {cur new : BitVec 32} (hbehind : (new - cur).toInt ≤ 0)
    (h : ¬ (cur = 0 ∧ new.toInt < 0)) : seqAdvance cur new = cur := by
  unfold seqAdvance
  by_cases hzero : cur = 0
  · subst hzero
    have hsub : new - 0 = new := BitVec.sub_zero new
    rw [hsub] at hbehind
    have hnum : new.toInt = 0 := by
      by_contra hne
      exact h ⟨rfl, by omega⟩
    rw [if_pos (Or.inl rfl)]
    exact BitVec.eq_of_toInt_eq hnum
  · rw [if_neg]
    intro hmove
    rcases hmove with hz | hahead
    · exact hzero hz
    · omega

/-- A followed segment advances the baselines of its own side and no others. -/
theorem connStep_baseline (b : Baseline) (hfollowed : seg.followed v = true) :
    b.get (connStep hz v seg) =
      if seg.isReply = b.isReply then seqAdvance (b.get v) (b.number seg) else b.get v := by
  rw [connStep_followed hfollowed]
  obtain ⟨state, fin, deadline, hframe⟩ :=
    fsm_frame hz seg.now v seg.tcpHdr.tcpFlags seg.isReply
  rw [hframe]
  cases hreply : seg.isReply <;> cases b <;> rfl

/-- A segment with nothing new: both its numbers are seeded and not ahead. -/
def OldDuplicate (hz deadline : Nat) (pre : List ConnSegment) (seg : ConnSegment) : Prop :=
  ∀ b : Baseline, b.isReply = seg.isReply →
    b.Seeded hz deadline pre ∧ (b.number seg - b.get (connRun hz deadline pre)).toInt ≤ 0

/-- What is asked of one step of a run. -/
structure MovesForward (hz deadline : Nat) (pre : List ConnSegment) (seg : ConnSegment) : Prop where
  baselines : ∀ b : Baseline, b.Seeded hz deadline pre →
    SerialLe (b.get (connRun hz deadline pre)) (b.get (connRun hz deadline (pre ++ [seg])))
  window : OldDuplicate hz deadline pre seg → ∀ tcpHdr isReply,
    tcpConntrackSeqValidView (connRun hz deadline (pre ++ [seg])) tcpHdr isReply
      = tcpConntrackSeqValidView (connRun hz deadline pre) tcpHdr isReply

/-- The window is a matter of the baselines. -/
theorem seqValid_congr {v w : TcpConntrackView} (h : ∀ b : Baseline, b.get v = b.get w)
    (tcpHdr : TcpHdr) (isReply : Bool) :
    tcpConntrackSeqValidView v tcpHdr isReply = tcpConntrackSeqValidView w tcpHdr isReply := by
  have hackLan : v.maxAckLan = w.maxAckLan := h .ackLan
  have hackWan : v.maxAckWan = w.maxAckWan := h .ackWan
  have hseqLan : v.maxSeqEndLan = w.maxSeqEndLan := h .seqEndLan
  have hseqWan : v.maxSeqEndWan = w.maxSeqEndWan := h .seqEndWan
  unfold tcpConntrackSeqValidView
  rw [hackLan, hackWan, hseqLan, hseqWan]

/--
**Baselines and zero.**  Along a run, every baseline that has been seeded only moves forward,
and an old duplicate leaves the window as it was, exactly when no seeded baseline stands at zero
while a segment whose number lies behind zero is followed.
-/
theorem baselines_forward_iff (hz deadline : Nat) (segs : List ConnSegment) :
    (∀ pre seg, pre ++ [seg] <+: segs → MovesForward hz deadline pre seg) ↔
      ∀ pre seg, pre ++ [seg] <+: segs → ∀ b : Baseline, b.Seeded hz deadline pre →
        ¬ b.Reseeds (connRun hz deadline pre) seg := by
  refine ⟨?_, ?_⟩
  · intro hall pre seg hpre b hseeded hreseeds
    obtain ⟨hside, hfollowed, hzero, hbehind⟩ := hreseeds
    have hforward := (hall pre seg hpre).baselines b hseeded
    rw [connRun_snoc, connStep_baseline b hfollowed, if_pos hside,
      serialLe_seqAdvance_iff] at hforward
    exact hforward ⟨hzero, hbehind⟩
  · intro hnever pre seg hpre
    cases hfollowed : seg.followed (connRun hz deadline pre) with
    | false =>
        have hsame : connRun hz deadline (pre ++ [seg]) = connRun hz deadline pre := by
          rw [connRun_snoc, connStep_not_followed hfollowed]
        refine ⟨?_, ?_⟩
        · intro b _
          rw [hsame]
          exact serialLe_refl _
        · intro _ tcpHdr isReply
          rw [hsame]
    | true =>
        have hstays : ∀ b : Baseline, b.Seeded hz deadline pre → seg.isReply = b.isReply →
            ¬ (b.get (connRun hz deadline pre) = 0 ∧ (b.number seg).toInt < 0) :=
          fun b hseeded hside hz' => hnever pre seg hpre b hseeded ⟨hside, hfollowed, hz'⟩
        refine ⟨?_, ?_⟩
        · intro b hseeded
          rw [connRun_snoc, connStep_baseline b hfollowed]
          by_cases hside : seg.isReply = b.isReply
          · rw [if_pos hside, serialLe_seqAdvance_iff]
            exact hstays b hseeded hside
          · rw [if_neg hside]
            exact serialLe_refl _
        · intro hold
          apply seqValid_congr
          intro b
          rw [connRun_snoc, connStep_baseline b hfollowed]
          by_cases hside : seg.isReply = b.isReply
          · obtain ⟨hseeded, hbehind⟩ := hold b hside.symm
            rw [if_pos hside]
            exact seqAdvance_of_behind hbehind (hstays b hseeded hside)
          · rw [if_neg hside]

/-- A LAN segment that ends exactly at zero, and an older one after it. -/
theorem baseline_moves_back : ¬ MovesForward 1 0
    [⟨0, ⟨0x1000, 0x2000, 0xFFFFFF00, 500, 0x50, rteTcpAckFlag, 1000⟩, 0x100, false⟩]
    ⟨1, ⟨0x1000, 0x2000, 0xFFFFFE00, 500, 0x50, rteTcpAckFlag, 1000⟩, 0x100, false⟩ := by
  intro h
  have hseeded : Baseline.seqEndLan.Seeded 1 0
      [⟨0, ⟨0x1000, 0x2000, 0xFFFFFF00, 500, 0x50, rteTcpAckFlag, 1000⟩, 0x100, false⟩] :=
    ⟨[], _, List.prefix_refl _, rfl, rfl, rfl⟩
  exact absurd (h.baselines .seqEndLan hseeded) (by unfold SerialLe; decide)

end FastRG
