/-
How long an entry is kept.

Two writers share the deadline of an entry.  A packet that finds the mapping refreshes it, which
never shortens and leaves differences of a second alone; the machine sets it, on every row but the
two that only refresh.  `fsm_expireSlot` says what the machine writes, as a function of the state it
leads to.

From there the lease of an entry is bounded on both sides along any run whose clock does not go
back: above by the time of the last packet and the longer of two timeouts, the idle one and that of
the state, and below by the timeout of the state each time a row fires.
-/
import FastRG.Proofs.TcpRuns
import FastRG.Nat

namespace FastRG

/-! ### The deadline the machine writes -/

/-- The timeout of a state, in seconds; a fresh entry has none of its own. -/
def tcpStateTimeout : TcpConntrackState → Nat
  | .none | .invld => 0
  | .synSent => tcpTimeoutSynSent
  | .synRecv => tcpTimeoutSynRecv
  | .established => tcpTimeoutEstablished
  | .finWait => tcpTimeoutFinWait
  | .closeWait => tcpTimeoutCloseWait
  | .lastAck => tcpTimeoutLastAck
  | .timeWait => tcpTimeoutTimeWait
  | .close => tcpTimeoutClose
  | .midStream => tcpTimeoutMidStream

/-- The two rows whose handler refreshes instead of setting. -/
def refreshesOnly (state : TcpConntrackState) (event : TcpConntrackEvent) (isReply : Bool) : Bool :=
  event = .ack && (state = .established || (state = .midStream && !isReply))

/-- The deadline after an event. -/
def tcpNextDeadline (hz now : Nat) (state : TcpConntrackState) (event : TcpConntrackEvent)
    (isReply : Bool) (cur : Nat) : Nat :=
  match tcpFsmRow state event with
  | none => cur
  | some _ =>
      let target := now + tcpStateTimeout (tcpNextState state event isReply) * hz
      if refreshesOnly state event isReply then natExpireRefresh hz cur target
      else natExpireSet cur target

theorem fsm_expireSlot (hz now : Nat) (v : TcpConntrackView) (tcpFlags : BitVec 8)
    (isReply : Bool) :
    (tcpConntrackFsmView hz now v tcpFlags isReply).2.expireSlot
      = tcpNextDeadline hz now v.tcpState (tcpFlagsToEvent tcpFlags isReply) isReply
          v.expireSlot := by
  unfold tcpConntrackFsmView
  generalize tcpFlagsToEvent tcpFlags isReply = event
  obtain ⟨state, _, _, _, _, _, _, _, _⟩ := v
  cases state <;> cases event <;> cases isReply <;> rfl

/-- A refresh leads to the target, to within a second, and to nothing later than both. -/
theorem natExpireRefresh_bounds (hz cur target : Nat) :
    target ≤ natExpireRefresh hz cur target + natExpireCoalesceSec * hz ∧
      natExpireRefresh hz cur target ≤ max cur target := by
  unfold natExpireRefresh
  by_cases h : cur + natExpireCoalesceSec * hz < target
  · rw [if_pos h]
    exact ⟨Nat.le_add_right _ _, Nat.le_max_right _ _⟩
  · rw [if_neg h]
    exact ⟨Nat.le_of_not_lt h, Nat.le_max_left _ _⟩

/-- The rows that refresh stay in their state. -/
theorem tcpNextState_of_refreshesOnly {state : TcpConntrackState} {event : TcpConntrackEvent}
    {isReply : Bool} (h : refreshesOnly state event isReply = true) :
    tcpNextState state event isReply = state := by
  simp only [refreshesOnly, Bool.and_eq_true, Bool.or_eq_true, decide_eq_true_eq,
    Bool.not_eq_true'] at h
  obtain ⟨rfl, rfl | ⟨rfl, rfl⟩⟩ := h
  · rfl
  · rfl

/-- An event with no row leads nowhere. -/
theorem tcpNextState_of_no_row {state : TcpConntrackState} {event : TcpConntrackEvent}
    (isReply : Bool) (h : tcpFsmRow state event = none) :
    tcpNextState state event isReply = state := by
  unfold tcpNextState
  rw [h]

/-- Every row leads to a state with a timeout. -/
theorem tcpStateTimeout_pos {state : TcpConntrackState} {event : TcpConntrackEvent}
    {row : TcpConntrackRow} (isReply : Bool) (h : tcpFsmRow state event = some row) :
    0 < tcpStateTimeout (tcpNextState state event isReply) := by
  have hsome : (tcpFsmRow state event).isSome = true := Option.isSome_of_eq_some h
  clear h
  revert hsome
  cases state <;> cases event <;> cases isReply <;> decide

/-! ### A deadline that is ahead stays ahead -/

section

variable {hz now d : Nat}

theorem lt_tcpNextDeadline {cur : Nat} (hhz : 0 < hz) (hnow : d ≤ now) (hd : d < cur)
    (state : TcpConntrackState) (event : TcpConntrackEvent) (isReply : Bool) :
    d < tcpNextDeadline hz now state event isReply cur := by
  unfold tcpNextDeadline
  split
  · exact hd
  · rename_i row hrow
    dsimp only
    split
    · exact Nat.lt_of_lt_of_le hd (le_natExpireRefresh _ _ _)
    · have hpos := Nat.mul_pos (tcpStateTimeout_pos isReply hrow) hhz
      unfold natExpireSet
      omega

theorem lt_tcpConntrackLan {v : TcpConntrackView} (hhz : 0 < hz) (hnow : d ≤ now)
    (hd : d < v.expireSlot) (tcpHdr : TcpHdr) (payloadLen : BitVec 16) :
    d < (tcpConntrackLan hz now v tcpHdr payloadLen).expireSlot := by
  unfold tcpConntrackLan
  rw [seqUpdate_expireSlot, fsm_expireSlot]
  exact lt_tcpNextDeadline hhz hnow hd _ _ _

theorem lt_tcpConntrackWan {v : TcpConntrackView} (hhz : 0 < hz) (hnow : d ≤ now)
    (hd : d < v.expireSlot) (tcpHdr : TcpHdr) (payloadLen : BitVec 16) :
    d < (tcpConntrackWan hz now v tcpHdr payloadLen).expireSlot := by
  unfold tcpConntrackWan
  rw [seqUpdate_expireSlot, fsm_expireSlot]
  exact lt_tcpNextDeadline hhz hnow hd _ _ _

end

/-! ### Runs of an entry -/

/-- A packet that finds the mapping, or an event of its connection. -/
inductive LeaseOp
  | refresh
  | event (tcpFlags : BitVec 8) (isReply : Bool)

/-- An operation, and the reading of the clock it runs at. -/
structure LeaseLabel where
  now : Nat
  op : LeaseOp

def leaseStep (hz : Nat) (v : TcpConntrackView) (l : LeaseLabel) : TcpConntrackView :=
  match l.op with
  | .refresh => { v with expireSlot := natExpireRefresh hz v.expireSlot (natExpiryCycles hz l.now) }
  | .event tcpFlags isReply => (tcpConntrackFsmView hz l.now v tcpFlags isReply).2

/-- An entry filled in at `opened`, after a sequence of operations. -/
def leaseRun (hz opened : Nat) (ls : List LeaseLabel) : TcpConntrackView :=
  ls.foldl (leaseStep hz) (freshConntrack (natExpiryCycles hz opened))

/-- When the last of the operations ran. -/
def lastNow (opened : Nat) (ls : List LeaseLabel) : Nat := ls.foldl (fun _ l => l.now) opened

/-- No reading of the clock is earlier than the one before it. -/
def ClockRuns : Nat → List LeaseLabel → Prop
  | _, [] => True
  | last, l :: rest => last ≤ l.now ∧ ClockRuns l.now rest

/-- How far past the last packet an entry in a state may be kept. -/
def leaseSpan (hz : Nat) (state : TcpConntrackState) : Nat :=
  max natEntryTimeoutSec (tcpStateTimeout state) * hz

theorem leaseSpan_ge (hz : Nat) (state : TcpConntrackState) :
    natEntryTimeoutSec * hz ≤ leaseSpan hz state ∧ tcpStateTimeout state * hz ≤ leaseSpan hz state :=
  ⟨Nat.mul_le_mul_right hz (Nat.le_max_left _ _), Nat.mul_le_mul_right hz (Nat.le_max_right _ _)⟩

/-- The bound from above. -/
def LeaseBound (hz last : Nat) (v : TcpConntrackView) : Prop :=
  v.expireSlot ≤ last + leaseSpan hz v.tcpState

theorem leaseBound_fresh (hz opened : Nat) :
    LeaseBound hz opened (freshConntrack (natExpiryCycles hz opened)) := by
  show opened + natEntryTimeoutSec * hz ≤ opened + leaseSpan hz .none
  exact Nat.add_le_add_left (leaseSpan_ge hz .none).1 opened

theorem leaseBound_refresh {hz last now : Nat} {v : TcpConntrackView} (hclock : last ≤ now)
    (h : LeaseBound hz last v) :
    LeaseBound hz now
      { v with expireSlot := natExpireRefresh hz v.expireSlot (natExpiryCycles hz now) } := by
  have hidle := (leaseSpan_ge hz v.tcpState).1
  have hmax := (natExpireRefresh_bounds hz v.expireSlot (natExpiryCycles hz now)).2
  unfold natExpiryCycles at hmax
  unfold LeaseBound at h ⊢
  show natExpireRefresh hz v.expireSlot (now + natEntryTimeoutSec * hz) ≤ now + leaseSpan hz v.tcpState
  omega

/-- An event keeps the bound, at its own time. -/
theorem leaseBound_event {hz last now : Nat} {v : TcpConntrackView} (tcpFlags : BitVec 8)
    (isReply : Bool) (hclock : last ≤ now) (h : LeaseBound hz last v) :
    LeaseBound hz now (tcpConntrackFsmView hz now v tcpFlags isReply).2 := by
  unfold LeaseBound at h ⊢
  rw [fsm_expireSlot, fsm_tcpState]
  generalize tcpFlagsToEvent tcpFlags isReply = event
  have hspan := (leaseSpan_ge hz (tcpNextState v.tcpState event isReply)).2
  unfold tcpNextDeadline
  cases hrow : tcpFsmRow v.tcpState event with
  | none =>
      rw [tcpNextState_of_no_row isReply hrow]
      show v.expireSlot ≤ now + leaseSpan hz v.tcpState
      omega
  | some row =>
      by_cases hrefresh : refreshesOnly v.tcpState event isReply = true
      · simp only [if_pos hrefresh]
        rw [tcpNextState_of_refreshesOnly hrefresh] at hspan ⊢
        have hmax := (natExpireRefresh_bounds hz v.expireSlot
          (now + tcpStateTimeout v.tcpState * hz)).2
        omega
      · simp only [if_neg hrefresh]
        exact Nat.add_le_add_left hspan now

theorem leaseBound_step {hz last : Nat} {v : TcpConntrackView} {l : LeaseLabel}
    (hclock : last ≤ l.now) (h : LeaseBound hz last v) : LeaseBound hz l.now (leaseStep hz v l) := by
  obtain ⟨now, op⟩ := l
  cases op with
  | refresh => exact leaseBound_refresh hclock h
  | event tcpFlags isReply => exact leaseBound_event tcpFlags isReply hclock h

/-- From any entry within the bound, a run stays within it. -/
theorem leaseBound_foldl (hz : Nat) (ls : List LeaseLabel) :
    ∀ {last : Nat} {v : TcpConntrackView}, ClockRuns last ls → LeaseBound hz last v →
      LeaseBound hz (lastNow last ls) (ls.foldl (leaseStep hz) v) := by
  induction ls with
  | nil =>
      intro last v _ h
      exact h
  | cons l rest ih =>
      intro last v hclock h
      exact ih hclock.2 (leaseBound_step hclock.1 h)

/-- The bound from below: a row that fires leaves at least the timeout of its state, less a second. -/
theorem fsm_lease_ge (hz now : Nat) (v : TcpConntrackView) (tcpFlags : BitVec 8) (isReply : Bool)
    (hrow : tcpFsmRow v.tcpState (tcpFlagsToEvent tcpFlags isReply) ≠ none) :
    now + tcpStateTimeout (tcpConntrackFsmView hz now v tcpFlags isReply).2.tcpState * hz
      ≤ (tcpConntrackFsmView hz now v tcpFlags isReply).2.expireSlot + natExpireCoalesceSec * hz := by
  rw [fsm_expireSlot, fsm_tcpState]
  unfold tcpNextDeadline
  cases hfound : tcpFsmRow v.tcpState (tcpFlagsToEvent tcpFlags isReply) with
  | none => exact absurd hfound hrow
  | some row =>
      by_cases hrefresh :
          refreshesOnly v.tcpState (tcpFlagsToEvent tcpFlags isReply) isReply = true
      · simp only [if_pos hrefresh]
        exact (natExpireRefresh_bounds hz _ _).1
      · simp only [if_neg hrefresh]
        exact Nat.le_add_right _ _

/-- Every state but `established` has a timeout of two minutes or less. -/
theorem leaseSpan_le_finWait (hz : Nat) {state : TcpConntrackState} (h : state ≠ .established) :
    leaseSpan hz state ≤ tcpTimeoutFinWait * hz := by
  unfold leaseSpan
  apply Nat.mul_le_mul_right
  cases state with
  | established => exact absurd rfl h
  | none | synSent | synRecv | finWait | closeWait | lastAck | timeWait | close | midStream
  | invld => decide

/-- What is promised of an entry after a run. -/
structure LeaseKept (hz opened : Nat) (ls : List LeaseLabel) : Prop where
  /-- No later than the last packet and the longer of the two timeouts. -/
  upper : LeaseBound hz (lastNow opened ls) (leaseRun hz opened ls)
  /-- An event that has a row leaves at least the timeout of the state, less a second. -/
  lower : ∀ before now tcpFlags isReply, ls = before ++ [⟨now, .event tcpFlags isReply⟩] →
    tcpFsmRow (leaseRun hz opened before).tcpState (tcpFlagsToEvent tcpFlags isReply) ≠ none →
      now + tcpStateTimeout (leaseRun hz opened ls).tcpState * hz
        ≤ (leaseRun hz opened ls).expireSlot + natExpireCoalesceSec * hz
  /-- An event that leaves `established` shortens the lease at once. -/
  leaves : ∀ before l, ls = before ++ [l] →
    (leaseRun hz opened before).tcpState = .established →
    (leaseRun hz opened ls).tcpState ≠ .established →
      (leaseRun hz opened ls).expireSlot ≤ l.now + tcpTimeoutFinWait * hz

theorem leaseRun_snoc (hz opened : Nat) (ls : List LeaseLabel) (l : LeaseLabel) :
    leaseRun hz opened (ls ++ [l]) = leaseStep hz (leaseRun hz opened ls) l := by
  simp [leaseRun]

theorem lastNow_snoc (opened : Nat) (ls : List LeaseLabel) (l : LeaseLabel) :
    lastNow opened (ls ++ [l]) = l.now := by
  simp [lastNow]

/--
**The lease of an entry.**  Along every run whose clock does not go back, the deadline lies no later
than the last packet and the longer of the idle timeout and that of the state, so that leaving
`established` cuts the lease to two minutes at the most; and each row that fires leaves the timeout
of its state, less a second.
-/
theorem leaseKept_run (hz opened : Nat) (ls : List LeaseLabel) (hclock : ClockRuns opened ls) :
    LeaseKept hz opened ls := by
  have hupper : LeaseBound hz (lastNow opened ls) (leaseRun hz opened ls) :=
    leaseBound_foldl hz ls hclock (leaseBound_fresh hz opened)
  refine ⟨hupper, ?_, ?_⟩
  · intro before now tcpFlags isReply hls hrow
    rw [hls, leaseRun_snoc]
    exact fsm_lease_ge hz now _ tcpFlags isReply hrow
  · intro before l hls _ hleft
    have hspan := leaseSpan_le_finWait hz hleft
    have hlast : lastNow opened ls = l.now := by
      rw [hls]
      exact lastNow_snoc opened before l
    unfold LeaseBound at hupper
    omega

/-- A connection that is opened, used, and closed by the LAN. -/
theorem leaseKept_run_close : LeaseKept 1000 0
    [⟨0, .event rteTcpSynFlag false⟩, ⟨40, .refresh⟩,
     ⟨40, .event (rteTcpSynFlag ||| rteTcpAckFlag) true⟩, ⟨90, .event rteTcpAckFlag false⟩,
     ⟨5000, .refresh⟩, ⟨5000, .event rteTcpAckFlag true⟩, ⟨9000, .event rteTcpFinFlag false⟩] := by
  apply leaseKept_run
  simp [ClockRuns]

/-! ### The entry of a mapping

A mapping's deadline and its connection are one entry: the translator refreshes the one, and the
machine is run on both.
-/

end FastRG
