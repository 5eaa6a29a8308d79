/-
Collection reaches every slot.

A round is as many consecutive calls of the scan as there are chunks in the pool.  Whatever
the cursor is and however the calls of several lcores interleave, they look at each slot
exactly once, and `natGc_round` and `ipv6FirewallGc_round` say what that does to mappings and
sessions.  For the firewall nothing is assumed.  For the translator it is that no look meets
a stale slot whose two keys are now the keys of two mappings: such a look deletes the reverse
key of a mapping that is not due and queues its slot, and once the slot is reclaimed it is free,
so that the calls that come to it look at nothing and the forward key stays.
-/
import FastRG.Proofs.FirewallGcRound
import FastRG.Proofs.NatGcRound
import FastRG.Proofs.NatSearch

namespace FastRG

/-! ### A call, taken apart and whole -/

/-- The steps of a call, with nothing between them, are `nat_gc_scan_by_ccb`. -/
theorem natGcScan_whole (crc : BitVec 32 → BitVec 32 → BitVec 32) (hz now : Nat)
    (grace : NatGrace) (ccb : NatCcb) :
    (natGcScan crc hz).whole now grace ccb
      = (natGcScanByCcb now ccb natGcScanChunk grace).2 := by
  rw [natGcScanByCcb_eq]
  simp only [CursorScan.whole, natGcScan]

/-- And those of the firewall's `ipv6_firewall_gc_scan_by_ccb`. -/
theorem ipv6FirewallGcScan_whole (hz now m : Nat) (ccb : Ipv6FirewallCcb) :
    (ipv6FirewallGcScan hz).whole now m ccb
      = (ipv6FirewallGcScanByCcb now ccb ipv6FirewallGcScanChunk m).2 := by
  rw [ipv6FirewallGcScanByCcb_eq]
  simp only [CursorScan.whole, ipv6FirewallGcScan]

/-- A tick is a call on each table of the subscriber whose turn it is. -/
theorem fwFlowGcIdleTickByCcb_collects (crc : BitVec 32 → BitVec 32 → BitVec 32)
    (hz natNow fwNow : Nat) (grace : NatGrace) (m : Nat) (s : FlowGc) {nat : NatCcb}
    {fw : Ipv6FirewallCcb} (husers : s.userCount ≠ 0)
    (hccb : s.ccbs (s.fwFlowGcCcbCounter.toNat % s.userCount.toNat)
      = some ⟨some nat, some fw⟩) :
    (fwFlowGcIdleTickByCcb natNow fwNow grace m s).ccbs
        (s.fwFlowGcCcbCounter.toNat % s.userCount.toNat)
      = some ⟨some ((natGcScan crc hz).whole natNow grace nat),
          some ((ipv6FirewallGcScan hz).whole fwNow m fw)⟩ := by
  unfold fwFlowGcIdleTickByCcb
  rw [if_neg husers, natGcScan_whole, ipv6FirewallGcScan_whole]
  show Function.update s.ccbs _ _ _ = _
  rw [Function.update_self, hccb]
  rfl

/-! ### A pool with nothing to collect -/

section idle

variable {now : Nat} {s : NatCcb}

/-- No slot is filled, and none awaits reclaim. -/
structure NatIdle (s : NatCcb) : Prop where
  drained : s.natReverseHash.dq = []
  unfilled : ∀ i < maxNatEntries, (s.addrTable i).isFill ≠ .ready

theorem natIdle_init (ccb : NatCcb) : NatIdle (natTableInit ccb) where
  drained := rfl
  unfilled i hi := by
    show (if i < maxNatEntries then { ccb.addrTable i with isFill := .free }
      else ccb.addrTable i).isFill ≠ .ready
    rw [if_pos hi]
    exact nofun

theorem natGcIdx_lt (start : BitVec 32) (n : Nat) : natGcIdx start n < maxNatEntries :=
  Nat.mod_lt _ (by decide)

/-- A look at a slot that is not filled changes nothing. -/
theorem natGcVisit_unfilled {start : BitVec 32} {t : Nat × NatCcb} {m : Nat}
    (h : (t.2.addrTable (natGcIdx start m)).isFill ≠ .ready) :
    natGcVisit now start t m = t := by
  unfold natGcVisit
  dsimp only
  split
  · rfl
  · rfl

/-- A scan of such a pool moves the cursor, and that is all. -/
theorem NatIdle.gcScan (h : NatIdle s) (now : Nat) (maxSlots : BitVec 32) (grace : NatGrace) :
    (natGcScanByCcb now s maxSlots grace).2
      = natForwardDqReclaim grace.gcForward { s with natGcCounter := s.natGcCounter + maxSlots } := by
  have hvisits : ∀ (ms : List Nat) (t : Nat × NatCcb), t.2.addrTable = s.addrTable →
      ms.foldl (natGcVisit now s.natGcCounter) t = t := by
    intro ms
    induction ms with
    | nil => exact fun _ _ => rfl
    | cons m rest ih =>
        intro t ht
        have hskip : (t.2.addrTable (natGcIdx s.natGcCounter m)).isFill ≠ .ready := by
          rw [ht]
          exact h.unfilled _ (natGcIdx_lt _ m)
        rw [List.foldl_cons, natGcVisit_unfilled hskip]
        exact ih t ht
  unfold natGcScanByCcb
  dsimp only
  rw [hvisits _ (0, { s with natGcCounter := s.natGcCounter + maxSlots }) rfl]
  dsimp only
  rw [natReverseDqReclaim_idle (s := { s with
    natGcReclaimed := s.natGcReclaimed + 0, natGcCounter := s.natGcCounter + maxSlots })
    (Or.inr h.drained)]
  rfl

/-- As a step of the pool. -/
theorem natPoolStep_scan (crc : BitVec 32 → BitVec 32 → BitVec 32) (hz now : Nat) (s : NatCcb)
    (maxSlots : BitVec 32) (grace : NatGrace) :
    natPoolStep crc hz s (.op ⟨now, .gcScan maxSlots grace⟩)
      = (natGcScanByCcb now s maxSlots grace).2 := rfl

/-- A call of the scan, start to end. -/
def NatPoolOp.IsScan (o : NatPoolOp) : Prop :=
  ∃ now grace, o = .op ⟨now, .gcScan natGcScanChunk grace⟩

theorem NatIdle.scan {o : NatPoolOp} (h : NatIdle s) (ho : o.IsScan)
    (crc : BitVec 32 → BitVec 32 → BitVec 32) (hz : Nat) :
    NatIdle (natPoolStep crc hz s o) ∧
      ∀ f, (natPoolStep crc hz s o).natForwardHash.lookup f = s.natForwardHash.lookup f := by
  obtain ⟨now, grace, rfl⟩ := ho
  rw [natPoolStep_scan, h.gcScan]
  exact ⟨⟨h.drained, h.unfilled⟩, fun f => rfl⟩

end idle

/-! ### The round -/

/-- The translator's pool, fresh, with the cursor wherever it may be. -/
def natGcStart (ccb : NatCcb) (counter : BitVec 32) : ScanState NatCcb :=
  ⟨{ natTableInit ccb with natGcCounter := counter }, []⟩

/-- And the firewall's. -/
def ipv6FirewallGcStart (ccb : Ipv6FirewallCcb) (counter : BitVec 32) :
    ScanState Ipv6FirewallCcb :=
  ⟨{ ipv6FirewallTableInit ccb with gcCounter := counter }, []⟩

/--
**Collection reaches every session.**  In every run of the firewall's pool, from any value of the
cursor and however the calls of several lcores interleave with each other and with everything
else, a round of calls looks at each slot exactly once, unless everything is deleted meanwhile.
When the last of them has returned, no key leads to a slot whose deadline is not past the time the
round began at.
-/
theorem ipv6FirewallGc_reaches_every_slot {hz t : Nat} (hhz : 0 < hz) (ccb : Ipv6FirewallCcb)
    (counter : BitVec 32) {before ls : List (ScanAct Nat Ipv6FirewallLabel)}
    {s s' : ScanState Ipv6FirewallCcb}
    (hbefore : Run (ipv6FirewallGcScan hz).step (fun _ _ => True)
      (ipv6FirewallGcStart ccb counter) before s)
    (hrun : Run (ipv6FirewallGcScan hz).step (fun _ a => FwGcSince t a) s ls s')
    (hround : (ipv6FirewallGcScan hz).Round s s') :
    ((∀ l, ScanAct.op l ∈ ls → l.op ≠ .delAll) → (ipv6FirewallGcScan hz).LooksOnce s s') ∧
      ∀ i, s'.pool.expireAt i ≤ t → ∀ k, s'.pool.hash.lookup k ≠ some i := by
  have hsound : FwSound s.pool := by
    refine hbefore.inv (fun s => FwSound s.pool) ?_ ((FwSound.init ccb).setCounter counter)
    exact fun s a hs _ => ipv6FirewallGcStep_sound hhz s a hs
  exact ⟨ipv6FirewallGc_looksOnce hhz hsound hrun hround,
    fun i hold => ipv6FirewallGc_round hhz hsound hrun hround hold⟩

/-- The calls of one round of the firewall's, none interrupted, from a cursor about to wrap. -/
def ipv6FirewallGcLabels : List Ipv6FirewallLabel :=
  List.replicate 128 ⟨5, .gcScan ipv6FirewallGcScanChunk 0⟩

theorem ipv6FirewallGcLabels_eq {l : Ipv6FirewallLabel} (hl : l ∈ ipv6FirewallGcLabels) :
    l = ⟨5, .gcScan ipv6FirewallGcScanChunk 0⟩ := List.eq_of_mem_replicate hl

theorem ipv6FirewallGcScan_op (hz now : Nat) (p : Ipv6FirewallCcb) (maxSlots : BitVec 32)
    (m : Nat) : (ipv6FirewallGcScan hz).op p ⟨now, .gcScan maxSlots m⟩
      = (ipv6FirewallGcScanByCcb now p maxSlots m).2 := rfl

theorem ipv6FirewallGcLabels_enough (hz : Nat) :
    (ipv6FirewallGcScan hz).size / (ipv6FirewallGcScan hz).chunk.toNat
      ≤ ipv6FirewallGcLabels.length := by
  show ipv6FirewallMaxEntries / ipv6FirewallGcScanChunk.toNat ≤ _
  unfold ipv6FirewallGcLabels
  rw [List.length_replicate]
  decide

theorem ipv6FirewallGcScan_own {hz : Nat} {l : Ipv6FirewallLabel}
    (hl : l ∈ ipv6FirewallGcLabels) (p : Ipv6FirewallCcb) :
    (ipv6FirewallGcScan hz).cursor ((ipv6FirewallGcScan hz).op p l)
      = (ipv6FirewallGcScan hz).cursor p + (ipv6FirewallGcScan hz).chunk := by
  have hcall : (ipv6FirewallGcScan hz).op p l = (ipv6FirewallGcScan hz).whole 5 0 p := by
    rw [ipv6FirewallGcScan_whole, ipv6FirewallGcLabels_eq hl, ipv6FirewallGcScan_op]
  rw [hcall]
  exact (ipv6FirewallGcScan_fetches hz).whole 5 0 p

theorem ipv6FirewallGc_wraps : (ipv6FirewallGcScan 2000000000).LooksOnce
    (ipv6FirewallGcStart ipv6FirewallBlank 4294967295)
    ((ipv6FirewallGcLabels.map ScanAct.op).foldl (ipv6FirewallGcScan 2000000000).step
      (ipv6FirewallGcStart ipv6FirewallBlank 4294967295)) := by
  refine (ipv6FirewallGc_reaches_every_slot (t := 5) (by decide) ipv6FirewallBlank 4294967295 .nil
    (.of_labels _ _ ?_) (CursorScan.round_of_own (fun o ho p => ipv6FirewallGcScan_own ho p)
      (ipv6FirewallGcLabels_enough _) rfl)).1 ?_
  · intro s a ha
    obtain ⟨l, hl, rfl⟩ := List.mem_map.mp ha
    rw [ipv6FirewallGcLabels_eq hl]
    exact ⟨Nat.le_refl 5, fun maxSlots m heq => (Ipv6FirewallOp.gcScan.inj heq).1.symm⟩
  · intro l ha hdel
    obtain ⟨l', hl, heq⟩ := List.mem_map.mp ha
    obtain rfl : l' = l := ScanAct.op.inj heq
    rw [ipv6FirewallGcLabels_eq hl] at hdel
    cases hdel

/--
**Collection reaches every mapping**, in the runs of the translator's pool in which no look meets a
stale slot with the keys of two mappings: from any value of the cursor and in any interleaving, a
round of calls looks at each slot exactly once, unless everything is deleted meanwhile, and then
neither table leads to a slot whose deadline is not past the time the round began at.
-/
theorem natGc_reaches_every_slot {crc : BitVec 32 → BitVec 32 → BitVec 32} {hz t : Nat}
    (hhz : 0 < hz) (ccb : NatCcb) (counter : BitVec 32)
    {before ls : List (ScanAct NatGrace NatPoolOp)} {s s' : ScanState NatCcb}
    (hbefore : Run (natGcScan crc hz).step NatGcApart (natGcStart ccb counter) before s)
    (hrun : Run (natGcScan crc hz).step (fun s a => NatGcApart s a ∧ NatGcSince t a) s ls s')
    (hround : (natGcScan crc hz).Round s s') :
    ((∀ l, ScanAct.op (.op l) ∈ ls → l.op ≠ .delAll) → (natGcScan crc hz).LooksOnce s s') ∧
      ∀ i, s'.pool.natExpireAt i ≤ t → (∀ f, s'.pool.natForwardHash.lookup f ≠ some i) ∧
        ∀ r, s'.pool.natReverseHash.lookup r ≠ some i := by
  have hinv : NatInv s.pool := by
    refine hbefore.inv (fun s => NatInv s.pool) ?_ ((NatInv.init ccb).setCounter counter)
    exact fun s a hs hguard => natGcStep_inv crc hhz s a hs hguard
  exact ⟨natGc_looksOnce hhz hinv hrun hround,
    fun i hold => natGc_round hhz hinv hrun hround hold⟩

/-- A round of the translator's, none interrupted. -/
def natGcOps : List NatPoolOp := List.replicate 512 (.op ⟨5, .gcScan natGcScanChunk ⟨0, 0, 0⟩⟩)

theorem natGcOps_isScan {o : NatPoolOp} (ho : o ∈ natGcOps) : o.IsScan :=
  ⟨5, ⟨0, 0, 0⟩, List.eq_of_mem_replicate ho⟩

theorem natGcScan_op (crc : BitVec 32 → BitVec 32 → BitVec 32) (hz now : Nat) (p : NatCcb)
    (maxSlots : BitVec 32) (grace : NatGrace) :
    (natGcScan crc hz).op p (.op ⟨now, .gcScan maxSlots grace⟩)
      = (natGcScanByCcb now p maxSlots grace).2 := rfl

theorem natGcOps_enough (crc : BitVec 32 → BitVec 32 → BitVec 32) (hz : Nat) :
    (natGcScan crc hz).size / (natGcScan crc hz).chunk.toNat ≤ natGcOps.length := by
  show maxNatEntries / natGcScanChunk.toNat ≤ _
  unfold natGcOps
  rw [List.length_replicate]
  decide

/-- A call, start to end, moves the cursor. -/
theorem NatPoolOp.IsScan.own {o : NatPoolOp} (ho : o.IsScan)
    (crc : BitVec 32 → BitVec 32 → BitVec 32) (hz : Nat) (p : NatCcb) :
    (natGcScan crc hz).cursor ((natGcScan crc hz).op p o)
      = (natGcScan crc hz).cursor p + (natGcScan crc hz).chunk := by
  obtain ⟨now, grace, rfl⟩ := ho
  have hcall : (natGcScan crc hz).op p (.op ⟨now, .gcScan natGcScanChunk grace⟩)
      = (natGcScan crc hz).whole now grace p := by
    rw [natGcScan_whole, natGcScan_op]
  rw [hcall]
  exact (natGcScan_fetches crc hz).whole now grace p

theorem natGc_wraps : (natGcScan rteHashCrc4byte 2000000000).LooksOnce
    (natGcStart natBlank 4294967295)
    ((natGcOps.map ScanAct.op).foldl (natGcScan rteHashCrc4byte 2000000000).step
      (natGcStart natBlank 4294967295)) := by
  refine (natGc_reaches_every_slot (t := 5) (by decide) natBlank 4294967295 .nil
    (.of_inv (fun s => NatIdle s.pool) _ ?_ ?_)
    (CursorScan.round_of_own (fun o ho p => (natGcOps_isScan ho).own _ _ p)
      (natGcOps_enough _ _) rfl)).1 ?_
  · intro a ha s hs
    obtain ⟨o, ho, rfl⟩ := List.mem_map.mp ha
    have hkeep : NatIdle ((natGcScan rteHashCrc4byte 2000000000).step s (.op o)).pool :=
      (hs.scan (natGcOps_isScan ho) rteHashCrc4byte 2000000000).1
    obtain rfl := List.eq_of_mem_replicate ho
    have hapart : ∀ l, NatStaleApart s.pool l := fun _ => .of_dq_nil hs.drained
    exact ⟨⟨hapart _, Nat.le_refl 5, fun maxSlots grace heq => (NatOp.gcScan.inj heq).1.symm⟩,
      hkeep⟩
  · exact ⟨(natIdle_init natBlank).drained, (natIdle_init natBlank).unfilled⟩
  · intro l ha hdel
    obtain ⟨o, ho, heq⟩ := List.mem_map.mp ha
    obtain rfl : o = .op l := ScanAct.op.inj heq
    obtain ⟨now, grace, hscan⟩ := natGcOps_isScan ho
    rw [NatPoolOp.op.inj hscan] at hdel
    cases hdel

end FastRG
