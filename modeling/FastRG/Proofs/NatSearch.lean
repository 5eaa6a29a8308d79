/-
Whether a search that fails had to.

An allocation that finds the ring empty collects one chunk of slots from the cursor and reclaims
what is past its grace period.  `natSlotAlloc_none_iff` says when that gives nothing back.  It can
give nothing back while most of the pool belongs to nobody: the chunk is a five-hundredth of it,
and a slot the chunk does free is of no use until its grace period is over.
-/
import FastRG.Proofs.NatWalk
import FastRG.Northbound

namespace FastRG

variable {hz now : Nat} {s t : NatCcb} {origin : NatOrigin} {flow : NatForwardKey}
  {chances : BitVec 16 → NatChance}

/-! ### When no slot is to be had -/

/-- A scan that looks at the slot drops a mapping: the slot is ready, its deadline has come, and the
key it stores is in the table. -/
def NatCollects (now : Nat) (s : NatCcb) (i : Nat) : Prop :=
  s.natExpireAt i ≠ 0 ∧ s.natExpireAt i ≤ now ∧ (s.addrTable i).isFill = .ready ∧
    s.natReverseHash.lookup (s.rkey i) ≠ none

/-- What a visit of the scan leaves alone, and what it does to the queue. -/
structure NatVisited (now : Nat) (i : Nat) (s t : NatCcb) : Prop where
  ring : t.natFreeRing = s.natFreeRing
  grows : s.natReverseHash.dq ≠ [] → t.natReverseHash.dq ≠ []
  collects : NatCollects now s i → t.natReverseHash.dq ≠ []
  keeps : ¬ NatCollects now s i → t.natReverseHash = s.natReverseHash ∧
    t.addrTable = s.addrTable ∧ t.natExpireAt = s.natExpireAt

theorem natEntryDelKeys_dq (s : NatCcb) (i : Nat) :
    (natEntryDelKeys s i).2.natReverseHash.dq
      = s.natReverseHash.dq ++ (s.natReverseHash.lookup (s.rkey i)).toList :=
  Rte.Hash.delKey_dq _ _

theorem natGcVisit_visited (now : Nat) (start : BitVec 32) (u : Nat × NatCcb) (n : Nat) :
    NatVisited now (natGcIdx start n) u.2 (natGcVisit now start u n).2 := by
  obtain ⟨reclaimed, s⟩ := u
  unfold natGcVisit
  dsimp only
  by_cases hlive : s.natExpireAt (natGcIdx start n) = 0 ∨ s.natExpireAt (natGcIdx start n) > now
  · rw [if_pos hlive]
    refine ⟨rfl, id, ?_, fun _ => ⟨rfl, rfl, rfl⟩⟩
    intro hcollects
    obtain ⟨harmed, hexp, -, -⟩ := hcollects
    rcases hlive with hzero | hlater
    · exact absurd hzero harmed
    · exact absurd hlater (Nat.not_lt.mpr hexp)
  · rw [if_neg hlive]
    by_cases hready : (s.addrTable (natGcIdx start n)).isFill ≠ .ready
    · rw [if_pos hready]
      refine ⟨rfl, id, ?_, fun _ => ⟨rfl, rfl, rfl⟩⟩
      intro hcollects
      exact absurd hcollects.2.2.1 hready
    · rw [if_neg hready]
      have hdq := natEntryDelKeys_dq s (natGcIdx start n)
      refine ⟨rfl, ?_, ?_, ?_⟩
      · intro hne
        show (natEntryDelKeys s (natGcIdx start n)).2.natReverseHash.dq ≠ []
        rw [hdq]
        exact List.append_ne_nil_of_left_ne_nil hne _
      · intro hcollects
        show (natEntryDelKeys s (natGcIdx start n)).2.natReverseHash.dq ≠ []
        rw [hdq]
        obtain ⟨j, hj⟩ := Option.ne_none_iff_exists'.mp hcollects.2.2.2
        rw [hj]
        exact List.append_ne_nil_of_right_ne_nil _ (List.cons_ne_nil j [])
      · intro hnot
        have hmissing : s.natReverseHash.lookup (s.rkey (natGcIdx start n)) = none := by
          by_contra hfound
          refine hnot ⟨fun hzero => hlive (Or.inl hzero), ?_, not_not.mp hready, hfound⟩
          exact Nat.le_of_not_lt fun hlater => hlive (Or.inr hlater)
        refine ⟨?_, rfl, rfl⟩
        show (s.natReverseHash.delKey (s.rkey (natGcIdx start n))).2 = s.natReverseHash
        rw [Rte.Hash.delKey_none hmissing]

/-- A scan leaves the queue empty exactly when it was, and nothing it looks at is collected. -/
theorem natGcVisits_dq (now : Nat) (start : BitVec 32) (ms : List Nat) (u : Nat × NatCcb) :
    let after := (ms.foldl (natGcVisit now start) u).2
    after.natFreeRing = u.2.natFreeRing ∧
      (after.natReverseHash.dq = [] ↔
        u.2.natReverseHash.dq = [] ∧ ∀ m ∈ ms, ¬ NatCollects now u.2 (natGcIdx start m)) := by
  induction ms generalizing u with
  | nil => exact ⟨rfl, fun h => ⟨h, fun _ hm => absurd hm List.not_mem_nil⟩, fun h => h.1⟩
  | cons m rest ih =>
      have hvisit := natGcVisit_visited now start u m
      obtain ⟨hring, hdq⟩ := ih (natGcVisit now start u m)
      refine ⟨hring.trans hvisit.ring, ?_⟩
      rw [List.foldl_cons, hdq]
      by_cases hcollects : NatCollects now u.2 (natGcIdx start m)
      · refine ⟨fun h => absurd h.1 (hvisit.collects hcollects), fun h => ?_⟩
        exact absurd hcollects (h.2 m List.mem_cons_self)
      · obtain ⟨hrev, htable, hexp⟩ := hvisit.keeps hcollects
        have hsame : ∀ i, NatCollects now (natGcVisit now start u m).2 i ↔ NatCollects now u.2 i := by
          intro i
          unfold NatCollects NatCcb.rkey
          rw [hrev, htable, hexp]
        rw [hrev]
        refine ⟨fun h => ⟨h.1, ?_⟩, fun h => ⟨h.1, ?_⟩⟩
        · intro m' hm'
          rcases List.mem_cons.mp hm' with rfl | hrest
          · exact hcollects
          · exact fun hc => h.2 m' hrest ((hsame _).mpr hc)
        · intro m' hm' hc
          exact h.2 m' (List.mem_cons_of_mem _ hm') ((hsame _).mp hc)

theorem natReverseDqReclaim_idle {m : Nat} (h : m = 0 ∨ s.natReverseHash.dq = []) :
    natReverseDqReclaim m s = s := by
  cases m with
  | zero => rfl
  | succ m =>
      have hdq : s.natReverseHash.dq = [] := h.resolve_left (Nat.succ_ne_zero m)
      have hpop : natReversePop s = none := by
        unfold natReversePop Rte.Hash.popDq
        rw [hdq]
      unfold natReverseDqReclaim
      rw [Rte.dqReclaim, hpop]

/-- Reclaiming takes nothing off the ring. -/
theorem natReverseDqReclaim_nonempty (m : Nat) (h : s.natFreeRing.items ≠ []) :
    (natReverseDqReclaim m s).natFreeRing.items ≠ [] := by
  refine Rte.dqReclaim_inv (fun t : NatCcb => t.natFreeRing.items ≠ []) ?_ m s h
  intro t j t' ht hpop
  obtain ⟨rest, -, rfl⟩ := natReversePop_eq_some.mp hpop
  show (t.natFreeRing.enqueue j).items ≠ []
  unfold Rte.Ring.enqueue
  split
  · exact List.append_ne_nil_of_left_ne_nil ht _
  · exact ht

/-- A reclaim that reclaims leaves the ring with something on it. -/
theorem natReverseDqReclaim_fills {m : Nat} (hcap : 0 < s.natFreeRing.cap) (hm : m ≠ 0)
    (hdq : s.natReverseHash.dq ≠ []) : (natReverseDqReclaim m s).natFreeRing.items ≠ [] := by
  obtain ⟨m, rfl⟩ := Nat.exists_eq_succ_of_ne_zero hm
  obtain ⟨i, rest, hqueue⟩ := List.exists_cons_of_ne_nil hdq
  have hpop : natReversePop s = some (i, { s with
      natReverseHash := { s.natReverseHash with dq := rest } }) :=
    natReversePop_eq_some.mpr ⟨rest, hqueue, rfl⟩
  unfold natReverseDqReclaim
  rw [Rte.dqReclaim, hpop]
  exact natReverseDqReclaim_nonempty m (Rte.Ring.enqueue_ne_nil hcap i)

/-- The ring is empty, and an emergency collection brings nothing back: no slot is past its grace
period, or none is queued and the chunk from the cursor has nothing to collect. -/
def NatNoneBack (now : Nat) (s : NatCcb) (grace : NatGrace) : Prop :=
  s.natFreeRing.items = [] ∧
    ((grace.gcReverse = 0 ∧ grace.allocReverse = 0) ∨
      (s.natReverseHash.dq = [] ∧
        ∀ n < natGcScanChunk.toNat, ¬ NatCollects now s (natGcIdx s.natGcCounter n)))

/-- Reclaiming twice, from a ring that is empty. -/
theorem natReclaimTwice_empty (hcap : 0 < s.natFreeRing.cap) (hring : s.natFreeRing.items = [])
    (m m' k : Nat) :
    (natReverseDqReclaim m' (natForwardDqReclaim k (natReverseDqReclaim m s))).natFreeRing.items = []
      ↔ (m = 0 ∧ m' = 0) ∨ s.natReverseHash.dq = [] := by
  by_cases hdq : s.natReverseHash.dq = []
  · refine ⟨fun _ => Or.inr hdq, fun _ => ?_⟩
    have hidle : natReverseDqReclaim m s = s := natReverseDqReclaim_idle (Or.inr hdq)
    have hidle' : natReverseDqReclaim m' (natForwardDqReclaim k s) = natForwardDqReclaim k s :=
      natReverseDqReclaim_idle (Or.inr hdq)
    rw [hidle, hidle']
    exact hring
  · by_cases hm : m = 0
    · have hidle : natReverseDqReclaim m s = s := natReverseDqReclaim_idle (Or.inl hm)
      rw [hidle]
      by_cases hm' : m' = 0
      · refine ⟨fun _ => Or.inl ⟨hm, hm'⟩, fun _ => ?_⟩
        have hidle' : natReverseDqReclaim m' (natForwardDqReclaim k s) = natForwardDqReclaim k s :=
          natReverseDqReclaim_idle (Or.inl hm')
        rw [hidle']
        exact hring
      · refine ⟨fun h => ?_, fun h => ?_⟩
        · exact absurd h (natReverseDqReclaim_fills (s := natForwardDqReclaim k s) hcap hm' hdq)
        · rcases h with h | h
          · exact absurd h.2 hm'
          · exact absurd h hdq
    · have hfills := natReverseDqReclaim_fills hcap hm hdq
      refine ⟨fun h => ?_, fun h => ?_⟩
      · exact absurd h (natReverseDqReclaim_nonempty m'
          (s := natForwardDqReclaim k (natReverseDqReclaim m s)) hfills)
      · rcases h with h | h
        · exact absurd h.1 hm
        · exact absurd h hdq

/-- What a collection of a chunk and a reclaim bring back to an empty ring. -/
theorem natEmergency_empty (now : Nat) (hcap : 0 < s.natFreeRing.cap) (hring : s.natFreeRing.items = [])
    (chunk : BitVec 32) (grace : NatGrace) :
    (natReverseDqReclaim grace.allocReverse (natGcScanByCcb now s chunk grace).2).natFreeRing.items
      = [] ↔
      (grace.gcReverse = 0 ∧ grace.allocReverse = 0) ∨
        (s.natReverseHash.dq = [] ∧
          ∀ n < chunk.toNat, ¬ NatCollects now s (natGcIdx s.natGcCounter n)) := by
  unfold natGcScanByCcb
  dsimp only
  have hscan := natGcVisits_dq now s.natGcCounter (List.range chunk.toNat)
    (0, { s with natGcCounter := s.natGcCounter + chunk })
  generalize (List.range chunk.toNat).foldl (natGcVisit now s.natGcCounter)
    (0, { s with natGcCounter := s.natGcCounter + chunk }) = u at hscan ⊢
  obtain ⟨reclaimed, scanned⟩ := u
  obtain ⟨hsame, hqueue⟩ := hscan
  have hcap' : 0 < scanned.natFreeRing.cap := by
    rw [hsame]
    exact hcap
  have hring' : scanned.natFreeRing.items = [] := by
    rw [hsame]
    exact hring
  have htwice := natReclaimTwice_empty
    (s := { scanned with natGcReclaimed := scanned.natGcReclaimed + reclaimed }) hcap' hring'
    grace.gcReverse grace.allocReverse grace.gcForward
  refine htwice.trans (or_congr_right (hqueue.trans (and_congr_right fun _ => ?_)))
  exact ⟨fun h n hn => h n (List.mem_range.mpr hn), fun h n hn => h n (List.mem_range.mp hn)⟩

/-- **When an allocation fails.** -/
theorem natSlotAlloc_none_iff (hcap : 0 < s.natFreeRing.cap) (grace : NatGrace) :
    (natSlotAlloc now s grace).1 = none ↔ NatNoneBack now s grace := by
  unfold natSlotAlloc NatNoneBack
  cases hdeq : s.natFreeRing.dequeue with
  | some found =>
      obtain ⟨rest, hitems, -⟩ := Rte.Ring.dequeue_eq_some.mp hdeq
      refine ⟨fun h => absurd h (Option.some_ne_none _), fun h => ?_⟩
      rw [hitems] at h
      exact absurd h.1 (List.cons_ne_nil _ _)
  | none =>
      have hring : s.natFreeRing.items = [] := Rte.Ring.dequeue_eq_none.mp hdeq
      have hempty := natEmergency_empty now hcap hring natGcScanChunk grace
      dsimp only
      cases hback : (natReverseDqReclaim grace.allocReverse
          (natGcScanByCcb now s natGcScanChunk grace).2).natFreeRing.dequeue with
      | none => exact ⟨fun _ => ⟨hring, hempty.mp (Rte.Ring.dequeue_eq_none.mp hback)⟩, fun _ => rfl⟩
      | some found =>
          refine ⟨fun h => absurd h (Option.some_ne_none _), fun h => ?_⟩
          have hnil := Rte.Ring.dequeue_eq_none.mpr (hempty.mpr h.2)
          rw [hback] at hnil
          exact absurd hnil (Option.some_ne_none _)

/-! ### Runs in which the rules change -/

/-- A change of the forwarding rules. -/
inductive PortFwdChange
  | add (eport : BitVec 16) (dip : BitVec 32) (iport : BitVec 16)
  | remove (eport : BitVec 16)

/-- What happens to the translator, rule changes included. -/
inductive NatInput
  | packet (l : NatPacket)
  | rule (change : PortFwdChange)

def natRuleStep (ccb : NatCcb) : PortFwdChange → NatCcb
  | .add eport dip iport => { ccb with portFwdTable := Node.portFwdAdd ccb.portFwdTable eport dip iport }
  | .remove eport => { ccb with portFwdTable := (Node.portFwdRemove ccb.portFwdTable eport).2 }

def natInputStep (crc : BitVec 32 → BitVec 32 → BitVec 32) (hz : Nat) (ccb : NatCcb) :
    NatInput → NatCcb
  | .packet l => natPacketStep crc hz ccb l
  | .rule change => natRuleStep ccb change

/-- Every run from a fresh table. -/
abbrev NatRun (crc : BitVec 32 → BitVec 32 → BitVec 32) (hz : Nat) (ccb : NatCcb)
    (ls : List NatInput) (s : NatCcb) : Prop :=
  Run (natInputStep crc hz) (fun _ _ => True) (natTableInit ccb) ls s

theorem NatFinds.keyed {l : NatPacket} (h : NatKeyed s) (hfinds : NatFinds l s t) : NatKeyed t := by
  refine ⟨hfinds.conserved, ?_⟩
  intro r i hr
  rcases hfinds.found r i hr with ⟨hold, hmapping⟩ | ⟨srcMac, ip, hdr, chances, port, -, hnew, hkey⟩
  · have hsame : t.rkey i = s.rkey i := by
      show (t.addrTable i).mapping.reverseKey = (s.addrTable i).mapping.reverseKey
      rw [hmapping]
    exact hsame.trans (h.stored r i hold)
  · show (t.addrTable i).mapping.reverseKey = r
    rw [hnew, hkey]
    rfl

theorem natKeyed_rule (h : NatKeyed s) (change : PortFwdChange) : NatKeyed (natRuleStep s change) := by
  cases change with
  | add eport dip iport => exact ⟨h.conserved, h.stored⟩
  | remove eport => exact ⟨h.conserved, h.stored⟩

theorem natKeyed_run (hhz : 0 < hz) {crc : BitVec 32 → BitVec 32 → BitVec 32} {ccb : NatCcb}
    {ls : List NatInput} (hrun : NatRun crc hz ccb ls s) : NatKeyed s := by
  refine hrun.inv NatKeyed ?_ ⟨natTableInit_conserved ccb, ?_⟩
  · intro s l h _
    cases l with
    | packet l => exact (natPacketStep_finds hhz crc h.conserved l).keyed h
    | rule change => exact natKeyed_rule h change
  · intro r i hr
    rw [natTableInit_reverseHash, Rte.Hash.lookup_empty] at hr
    cases hr

/-! ### Whether a search that fails had to -/

/-- Every slot of the pool belongs to a live mapping. -/
def NatPoolLive (now : Nat) (s : NatCcb) : Prop :=
  ∀ i < maxNatEntries, ∃ r, s.natReverseHash.lookup r = some i ∧ natEntryIsExpired now s i = false

/-- At the first port that was not passed over there was a slot, but no room for the keys. -/
def NatAddFailed (now : Nat) (s : NatCcb) (flow : NatForwardKey) (chances : BitVec 16 → NatChance)
    (ps : List (BitVec 16)) : Prop :=
  ∃ p, natFirstPort now s flow ps = some p ∧
    (natSlotAlloc now (natEvicted s flow p) (chances p).grace).1 ≠ none ∧ (chances p).room = false

/-- At the first port that is not passed over, the ring is empty and nothing comes back, although
some slot belongs to no live mapping. -/
def NatStarved (now : Nat) (s : NatCcb) (flow : NatForwardKey) (chances : BitVec 16 → NatChance)
    (ps : List (BitVec 16)) : Prop :=
  ∃ p, natFirstPort now s flow ps = some p ∧ natOwn s flow p = false ∧
    NatNoneBack now (natEvicted s flow p) (chances p).grace ∧ ¬ NatPoolLive now s

/-- What is asked of a search for a new flow's port. -/
structure NatSearch (crc : BitVec 32 → BitVec 32 → BitVec 32) (hz now : Nat) (s : NatCcb)
    (origin : NatOrigin) (flow : NatForwardKey) (chances : BitVec 16 → NatChance) : Prop where
  /-- However long it were let run, the walk would end where it does. -/
  terminates : ∀ more, natWalkPorts hz now origin flow
      (computeInitialNatPort crc flow.srcIp flow.srcPort) chances (natPortRange + more) s
      (computeInitialNatPort crc flow.srcIp flow.srcPort)
    = natLearn crc hz now s origin flow chances
  /-- It tries the ports in one order, which has each of them once. -/
  once : natLearn crc hz now s origin flow chances
      = natTryPorts hz now origin flow chances
          (natPortOrder (computeInitialNatPort crc flow.srcIp flow.srcPort)) s ∧
    (natPortOrder (computeInitialNatPort crc flow.srcIp flow.srcPort)).Nodup ∧
    ∀ p, p ∈ natPortOrder (computeInitialNatPort crc flow.srcIp flow.srcPort) ↔
      sysMaxPort ≤ portHost p
  port : (natLearn crc hz now s origin flow chances).natPort = 0 ∨
    (sysMaxPort ≤ portHost (natLearn crc hz now s origin flow chances).natPort ∧
      ¬ NatForwarded s (natLearn crc hz now s origin flow chances).natPort)
  complete : (natLearn crc hz now s origin flow chances).natPort = 0 →
    (∀ p, sysMaxPort ≤ portHost p → ¬ NatForwarded s p → NatHeld now s flow p) ∨
      NatAddFailed now s flow chances
        (natPortOrder (computeInitialNatPort crc flow.srcIp flow.srcPort)) ∨
      NatPoolLive now s

theorem natLearn_walk (crc : BitVec 32 → BitVec 32 → BitVec 32) (hz now : Nat) (origin : NatOrigin)
    (chances : BitVec 16 → NatChance) (hnew : s.natForwardHash.lookup flow = none) :
    natLearn crc hz now s origin flow chances
      = natWalkPorts hz now origin flow (computeInitialNatPort crc flow.srcIp flow.srcPort) chances
          natPortRange s (computeInitialNatPort crc flow.srcIp flow.srcPort) := by
  unfold natLearn natLearningPortReuse
  dsimp only
  rw [hnew]

theorem natLearn_new (crc : BitVec 32 → BitVec 32 → BitVec 32) (hz now : Nat) (origin : NatOrigin)
    (chances : BitVec 16 → NatChance) (hnew : s.natForwardHash.lookup flow = none) :
    natLearn crc hz now s origin flow chances
      = natTryPorts hz now origin flow chances
          (natPortOrder (computeInitialNatPort crc flow.srcIp flow.srcPort)) s := by
  have hstart := portHost_computeInitialNatPort crc flow.srcIp flow.srcPort
  have hleft : portsLeft (computeInitialNatPort crc flow.srcIp flow.srcPort)
      (computeInitialNatPort crc flow.srcIp flow.srcPort) = natPortRange := by
    unfold portsLeft
    rw [if_neg (Nat.lt_irrefl _)]
    omega
  rw [natLearn_walk crc hz now origin chances hnew]
  exact natWalkPorts_eq_tryPorts hstart (natPortRange - 1) s _ hstart hleft

/-- A port that is passed over is forwarded, or held by a live mapping. -/
theorem forwarded_or_held_of_passes {p : BitVec 16} (h : natPasses now s flow p = true) :
    NatForwarded s p ∨ NatHeld now s flow p := by
  unfold natPasses at h
  rcases Bool.or_eq_true_iff.mp h with hfwd | hheld
  · exact Or.inl hfwd
  · refine Or.inr ?_
    cases hr : s.natReverseHash.lookup (flow.reverse p) with
    | none =>
        rw [hr] at hheld
        cases hheld
    | some i =>
        rw [hr] at hheld
        have halive := (Bool.and_eq_true_iff.mp hheld).2
        exact ⟨i, hr, by simpa using halive⟩

/-- A port that is neither passed over nor the flow's own is not held. -/
theorem not_held_of_not_passes {p : BitVec 16} (hpass : natPasses now s flow p = false)
    (hown : natOwn s flow p = false) : ¬ NatHeld now s flow p := by
  intro hheld
  obtain ⟨i, hr, halive⟩ := hheld
  have hpart := (Bool.or_eq_false_iff.mp hpass).2
  rw [hr] at hpart
  dsimp only at hpart
  rw [hown, halive] at hpart
  cases hpart

/--
**When the search for a port is complete.**  In every state that a run of packets, upkeep and rule
changes reaches, and for every flow without a mapping: the search always ends, tries every port at
most once, and gives out none that is reserved or forwarded; and it fails only for want of a port,
of room in the tables or of a slot exactly when it is not starved.
-/
theorem natSearch_iff (crc : BitVec 32 → BitVec 32 → BitVec 32) (hz : Nat) (hhz : 0 < hz)
    (ccb : NatCcb) (ls : List NatInput) (s : NatCcb) (hrun : NatRun crc hz ccb ls s) (now : Nat)
    (origin : NatOrigin) (flow : NatForwardKey) (chances : BitVec 16 → NatChance)
    (hnew : s.natForwardHash.lookup flow = none) :
    NatSearch crc hz now s origin flow chances ↔
      ¬ NatStarved now s flow chances
        (natPortOrder (computeInitialNatPort crc flow.srcIp flow.srcPort)) := by
  have hkeyed : NatKeyed s := natKeyed_run hhz hrun
  have hstart := portHost_computeInitialNatPort crc flow.srcIp flow.srcPort
  have hlearn := natLearn_new crc hz now origin chances hnew
  have hmem : ∀ p, p ∈ natPortOrder (computeInitialNatPort crc flow.srcIp flow.srcPort) ↔
      sysMaxPort ≤ portHost p := fun p => mem_natPortOrder_iff hstart
  have hcap := hkeyed.conserved.cap_pos
  have hevicted : ∀ p, 0 < (natEvicted s flow p).natFreeRing.cap := by
    intro p
    unfold natEvicted
    split
    · exact hcap
    · exact hcap
  refine ⟨?_, ?_⟩
  · intro hsearch hstarved
    obtain ⟨p, hfirst, hown, hnone, hlive⟩ := hstarved
    have halloc := (natSlotAlloc_none_iff (hevicted p) (chances p).grace).mpr hnone
    have hzero : (natLearn crc hz now s origin flow chances).natPort = 0 := by
      rw [hlearn]
      exact natTryPorts_no_slot hkeyed hnew _ hfirst hown halloc
    have hpass : natPasses now s flow p = false := by simpa using List.find?_some hfirst
    rcases hsearch.complete hzero with hheld | ⟨q, hq, hslot, -⟩ | hpool
    · refine not_held_of_not_passes hpass hown (hheld p ?_ (not_forwarded_of_not_passes hpass))
      exact (hmem p).mp (List.mem_of_find?_eq_some hfirst)
    · obtain rfl : p = q := Option.some.inj (hfirst.symm.trans hq)
      exact hslot halloc
    · exact hlive hpool
  · intro hfed
    refine ⟨?_, ⟨hlearn, natPortOrder_nodup hstart, hmem⟩, ?_, ?_⟩
    · intro more
      rw [natLearn_walk crc hz now origin chances hnew]
      exact natWalkPorts_fuel crc origin flow chances more s
    · have hscan : NatMayScan s.natGcCounter natGcScanChunk.toNat s := ⟨hcap, fun _ => ⟨rfl, rfl⟩⟩
      rw [hlearn]
      rcases natTryPorts_port (natPortOrder (computeInitialNatPort crc flow.srcIp flow.srcPort))
        hscan hnew with hzero | ⟨htried, hfwd⟩
      · exact Or.inl hzero
      · exact Or.inr ⟨(hmem _).mp htried, hfwd⟩
    · intro hzero
      rw [hlearn] at hzero
      have hfirst := natTryPorts_first hkeyed hnew _ (fun p hp => (hmem p).mp hp) hzero
      cases hport : natFirstPort now s flow
          (natPortOrder (computeInitialNatPort crc flow.srcIp flow.srcPort)) with
      | none =>
          refine Or.inl ?_
          intro p hp hfwd
          have hpass : natPasses now s flow p = true := by
            simpa using List.find?_eq_none.mp hport p ((hmem p).mpr hp)
          exact (forwarded_or_held_of_passes hpass).resolve_left hfwd
      | some p =>
          rw [hport] at hfirst
          obtain ⟨hown, hwhy⟩ := hfirst
          by_cases halloc : (natSlotAlloc now (natEvicted s flow p) (chances p).grace).1 = none
          · refine Or.inr (Or.inr ?_)
            by_contra hlive
            have hnone := (natSlotAlloc_none_iff (hevicted p) (chances p).grace).mp halloc
            exact hfed ⟨p, hport, hown, hnone, hlive⟩
          · exact Or.inr (Or.inl ⟨p, hport, halloc, hwhy.resolve_left halloc⟩)

theorem natStarved_init (ps : List (BitVec 16)) :
    ¬ NatStarved now (natTableInit natBlank) flow chances ps := by
  intro hstarved
  obtain ⟨p, -, -, hnone, -⟩ := hstarved
  have hring : (natTableInit natBlank).natFreeRing.items = [] := hnone.1
  rw [natTableInit_eq] at hring
  exact absurd hring (List.cons_ne_nil _ _)

/-- The first flow of a fresh table. -/
theorem natSearch_iff_init : NatSearch rteHashCrc4byte 2000000000 0 (natTableInit natBlank)
    ⟨0x020000000001, ipprotoUdp⟩ ⟨0x0601a8c0, 0x22d8b85d, 0xb09c, 0xbb01⟩
    fun _ => ⟨⟨0, 0, 0⟩, true, true⟩ :=
  (natSearch_iff rteHashCrc4byte 2000000000 (by decide) natBlank [] _ .nil 0 _ _ _ rfl).mpr
    (natStarved_init _)

/-! ### A pool of expired mappings

As many flows as the pool has slots, each to a host of its own.  Once they have all expired, the
next flow finds the ring empty; its collection queues a chunk of slots, and none of them is past
its grace period yet.
-/

/-- The flow to the host of this number. -/
def numberedFlow (k : Nat) : NatForwardKey := ⟨0x0601a8c0, BitVec.ofNat 32 k, 0xb09c, 0xbb01⟩

/-- Room in the tables, and nothing past its grace period. -/
def roomNoGrace : NatChance := ⟨⟨0, 0, 0⟩, true, true⟩

/-- Its first datagram. -/
def numberedPacket (k : Nat) : NatInput :=
  .packet ⟨0, .lan 0x020000000001 ⟨0x45, 28, 0x0601a8c0, BitVec.ofNat 32 k⟩ (.udp 0xb09c 0xbb01)
    fun _ => roomNoGrace⟩

/-- The first `k` slots are taken, by flows to hosts below `k`, and no port is forwarded. -/
structure NatFilled (hz k : Nat) (s : NatCcb) : Prop where
  ring : s.natFreeRing.items = List.range' k (maxNatEntries - k)
  forward : ∀ f i, s.natForwardHash.lookup f = some i → f.dstIp.toNat < k
  reverse : ∀ r i, s.natReverseHash.lookup r = some i → r.dstIp.toNat < k
  expire : 0 < k → s.natExpireAt 0 = natExpiryCycles hz 0
  rules : ∀ n, (s.portFwdTable n).isActive = false

namespace NatFilled

variable {k : Nat}

theorem init (hz : Nat) : NatFilled hz 0 (natTableInit natBlank) := by
  refine ⟨?_, ?_, ?_, fun h => absurd h (Nat.lt_irrefl 0), fun _ => rfl⟩
  · rw [natTableInit_ring, Nat.sub_zero, ← List.range_eq_range']
  · intro f i hf
    rw [natTableInit_forwardHash, Rte.Hash.lookup_empty] at hf
    cases hf
  · intro r i hr
    rw [natTableInit_reverseHash, Rte.Hash.lookup_empty] at hr
    cases hr

theorem dstIp_toNat (hk : k ≤ maxNatEntries) : (numberedFlow k).dstIp.toNat = k := by
  have hle : k ≤ 262144 := hk
  show (BitVec.ofNat 32 k).toNat = k
  rw [BitVec.toNat_ofNat]
  omega

/-- Neither table has the next flow. -/
theorem fresh (h : NatFilled hz k s) (hk : k ≤ maxNatEntries) (p : BitVec 16) :
    s.natForwardHash.lookup (numberedFlow k) = none ∧
      s.natReverseHash.lookup ((numberedFlow k).reverse p) = none := by
  refine ⟨?_, ?_⟩
  · by_contra hfound
    obtain ⟨i, hi⟩ := Option.ne_none_iff_exists'.mp hfound
    have hlt := h.forward _ i hi
    rw [dstIp_toNat hk] at hlt
    exact Nat.lt_irrefl k hlt
  · by_contra hfound
    obtain ⟨i, hi⟩ := Option.ne_none_iff_exists'.mp hfound
    have hlt := h.reverse _ i hi
    have hdst : ((numberedFlow k).reverse p).dstIp.toNat = k := dstIp_toNat hk
    rw [hdst] at hlt
    exact Nat.lt_irrefl k hlt

/-- So its first port is as free as can be. -/
theorem free (h : NatFilled hz k s) (hk : k ≤ maxNatEntries) (now : Nat) (p : BitVec 16) :
    natPasses now s (numberedFlow k) p = false ∧ natOwn s (numberedFlow k) p = false ∧
      natEvicted s (numberedFlow k) p = s := by
  have hnone := (h.fresh hk p).2
  refine ⟨?_, ?_, ?_⟩
  · unfold natPasses
    rw [hnone, h.rules, Bool.false_or]
  · unfold natOwn
    rw [hnone]
  · unfold natEvicted
    rw [hnone]

end NatFilled

theorem natPortOrder_eq_cons (p : BitVec 16) :
    natPortOrder p = p :: natPortsFrom (natPortRange - 1) (nextNatPort p) := by
  have hsucc : natPortRange = (natPortRange - 1) + 1 := by decide
  unfold natPortOrder
  rw [hsucc, natPortsFrom]
  rfl

/-- Learning a flow that nothing stands in the way of: it takes the first slot of the ring. -/
theorem natLearn_first (crc : BitVec 32 → BitVec 32 → BitVec 32) {i : Nat} {rest : List Nat}
    (hkeyed : NatKeyed s) (hnew : s.natForwardHash.lookup flow = none)
    (hitems : s.natFreeRing.items = i :: rest) {p : BitVec 16}
    (hp : p = computeInitialNatPort crc flow.srcIp flow.srcPort)
    (hpass : natPasses now s flow p = false) (hown : natOwn s flow p = false)
    (hevicted : natEvicted s flow p = s) :
    natLearn crc hz now s origin flow (fun _ => roomNoGrace) =
      ⟨{ natFillEntry hz now { s with natFreeRing := { s.natFreeRing with items := rest } } i origin
          flow p with
          natReverseHash :=
            { s.natReverseHash with table := s.natReverseHash.table.insert (flow.reverse p) i }
          natForwardHash :=
            { s.natForwardHash with table := s.natForwardHash.table.insert flow i } }, p, some i⟩ := by
  have halloc : natSlotAlloc now s roomNoGrace.grace =
      (some i, { s with natFreeRing := { s.natFreeRing with items := rest } }) := by
    unfold natSlotAlloc Rte.Ring.dequeue
    rw [hitems]
  rw [natLearn_new crc hz now origin _ hnew, ← hp, natPortOrder_eq_cons, natTryPorts,
    natTryPort_available hkeyed hnew roomNoGrace hpass hown, hevicted, halloc]
  rfl

/-- The next flow takes the next slot. -/
theorem NatFilled.step {k : Nat} (crc : BitVec 32 → BitVec 32 → BitVec 32) (h : NatFilled hz k s)
    (hkeyed : NatKeyed s) (hk : k < maxNatEntries) :
    NatFilled hz (k + 1) (natInputStep crc hz s (numberedPacket k)) := by
  have hle : k ≤ maxNatEntries := Nat.le_of_lt hk
  obtain ⟨room, hroom⟩ : ∃ room, maxNatEntries - k = room + 1 :=
    ⟨maxNatEntries - k - 1, by omega⟩
  have hitems : s.natFreeRing.items = k :: List.range' (k + 1) room := by
    rw [h.ring, hroom, List.range'_succ]
  obtain ⟨hpass, hown, hevicted⟩ := h.free hle 0
    (computeInitialNatPort crc (numberedFlow k).srcIp (numberedFlow k).srcPort)
  have hstep : natInputStep crc hz s (numberedPacket k) =
      (natLearn crc hz 0 s ⟨0x020000000001, ipprotoUdp⟩ (numberedFlow k) fun _ => roomNoGrace).ccb :=
    rfl
  rw [hstep, natLearn_first crc hkeyed (h.fresh hle 0).1 hitems rfl hpass hown hevicted]
  have hdst := dstIp_toNat hle
  refine ⟨?_, ?_, ?_, ?_, h.rules⟩
  · show List.range' (k + 1) room = List.range' (k + 1) (maxNatEntries - (k + 1))
    have hless : maxNatEntries - (k + 1) = room := by omega
    rw [hless]
  · intro f i hf
    have hadd : s.natForwardHash.addKeyData (numberedFlow k) k true = some
        { s.natForwardHash with table := s.natForwardHash.table.insert (numberedFlow k) k } := rfl
    rw [Rte.Hash.lookup_addKeyData hadd] at hf
    by_cases hsame : f = numberedFlow k
    · rw [hsame, hdst]
      exact Nat.lt_succ_self k
    · rw [if_neg hsame] at hf
      exact Nat.lt_succ_of_lt (h.forward f i hf)
  · intro r i hr
    generalize computeInitialNatPort crc (numberedFlow k).srcIp (numberedFlow k).srcPort = p at hr
    have hadd : s.natReverseHash.addKeyData ((numberedFlow k).reverse p) k true = some
        { s.natReverseHash with
          table := s.natReverseHash.table.insert ((numberedFlow k).reverse p) k } := rfl
    rw [Rte.Hash.lookup_addKeyData hadd] at hr
    by_cases hsame : r = (numberedFlow k).reverse p
    · have hkey : r.dstIp.toNat = k := by
        rw [hsame]
        exact hdst
      rw [hkey]
      exact Nat.lt_succ_self k
    · rw [if_neg hsame] at hr
      exact Nat.lt_succ_of_lt (h.reverse r i hr)
  · intro _
    show Function.update s.natExpireAt k (natExpiryCycles hz 0) 0 = natExpiryCycles hz 0
    by_cases hzero : k = 0
    · rw [hzero, Function.update_self]
    · rw [Function.update_of_ne (Ne.symm hzero)]
      exact h.expire (Nat.pos_of_ne_zero hzero)

/-- As many flows as there are slots. -/
theorem natFilled_run (hhz : 0 < hz) (crc : BitVec 32 → BitVec 32 → BitVec 32) (k : Nat)
    (hk : k ≤ maxNatEntries) :
    ∃ s, NatRun crc hz natBlank ((List.range k).map numberedPacket) s ∧ NatFilled hz k s := by
  induction k with
  | zero => exact ⟨_, .nil, NatFilled.init hz⟩
  | succ k ih =>
      obtain ⟨s, hrun, hfilled⟩ := ih (Nat.le_of_succ_le hk)
      refine ⟨_, ?_, hfilled.step crc (natKeyed_run hhz hrun) hk⟩
      rw [List.range_succ, List.map_append]
      exact hrun.snoc (numberedPacket k) trivial

/-- The flow after them, once they have all expired, is given nothing. -/
theorem NatFilled.starved {crc : BitVec 32 → BitVec 32 → BitVec 32}
    (h : NatFilled hz maxNatEntries s) (hkeyed : NatKeyed s) :
    ¬ NatSearch crc hz (natExpiryCycles hz 0 + 1) s ⟨0x020000000001, ipprotoUdp⟩
      (numberedFlow maxNatEntries) fun _ => roomNoGrace := by
  intro hsearch
  obtain ⟨hnew, -⟩ := h.fresh (Nat.le_refl maxNatEntries) 0
  have hcomplete := hsearch.complete
  have hstart := portHost_computeInitialNatPort crc (numberedFlow maxNatEntries).srcIp
    (numberedFlow maxNatEntries).srcPort
  rw [natLearn_new crc hz _ _ _ hnew] at hcomplete
  generalize computeInitialNatPort crc (numberedFlow maxNatEntries).srcIp
    (numberedFlow maxNatEntries).srcPort = p at hstart hcomplete
  obtain ⟨hpass, hown, hevicted⟩ :=
    h.free (Nat.le_refl maxNatEntries) (natExpiryCycles hz 0 + 1) p
  have hfirst : natFirstPort (natExpiryCycles hz 0 + 1) s (numberedFlow maxNatEntries)
      (natPortOrder p) = some p := by
    unfold natFirstPort
    rw [natPortOrder_eq_cons, List.find?_cons, hpass]
    rfl
  have halloc : (natSlotAlloc (natExpiryCycles hz 0 + 1)
      (natEvicted s (numberedFlow maxNatEntries) p) roomNoGrace.grace).1 = none := by
    rw [hevicted]
    refine (natSlotAlloc_none_iff hkeyed.conserved.cap_pos _).mpr ⟨?_, Or.inl ⟨rfl, rfl⟩⟩
    rw [h.ring, Nat.sub_self]
    rfl
  rcases hcomplete (natTryPorts_no_slot hkeyed hnew _ hfirst hown halloc) with
    hheld | ⟨q, hq, hslot, -⟩ | hlive
  · exact not_held_of_not_passes hpass hown (hheld p hstart (not_forwarded_of_not_passes hpass))
  · obtain rfl : p = q := Option.some.inj (hfirst.symm.trans hq)
    exact hslot halloc
  · obtain ⟨r, -, halive⟩ := hlive 0 (by decide)
    unfold natEntryIsExpired at halive
    rw [h.expire (by decide)] at halive
    exact of_decide_eq_false halive (Nat.lt_succ_self _)

theorem search_starved : ¬ ∀ ls s, NatRun rteHashCrc4byte 2000000000 natBlank ls s →
    ∀ now origin flow chances, s.natForwardHash.lookup flow = none →
      NatSearch rteHashCrc4byte 2000000000 now s origin flow chances := by
  intro hall
  have hhz : 0 < 2000000000 := by decide
  obtain ⟨s, hrun, h⟩ := natFilled_run hhz rteHashCrc4byte maxNatEntries (Nat.le_refl _)
  obtain ⟨hnew, -⟩ := h.fresh (Nat.le_refl maxNatEntries) 0
  exact h.starved (natKeyed_run hhz hrun) (hall _ s hrun _ _ _ _ hnew)

end FastRG
