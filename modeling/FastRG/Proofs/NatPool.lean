/-
No slot of the translator's pool is lost or handed out twice.

The free ring, the reverse table and its defer queue share the slots between them.
Each move takes a slot from one of the three to another, so the whole is conserved
along any run, with no condition on it: not even the stale deletions of the scan can
lose a slot, because whatever key they delete, its value goes to the defer queue.
-/
import FastRG.Proofs.NatMoves
import FastRG.Lib.Run

namespace FastRG

open Rte (SlotPool)

/-- The free ring and the table that owns the slots. -/
def NatCcb.pool (s : NatCcb) : SlotPool NatReverseKey := ⟨s.natFreeRing, s.natReverseHash⟩

/-- Every slot is in exactly one place, and no enqueue has failed. -/
def NatConserved (s : NatCcb) : Prop := SlotPool.Conserved maxNatEntries s.pool []

variable {hz now n : Nat} {start : BitVec 32} {s s' : NatCcb}

theorem NatConserved.cap_pos (h : NatConserved s) : 0 < s.natFreeRing.cap := by
  rw [show s.natFreeRing.cap = maxNatEntries from Rte.SlotPool.Conserved.cap h]
  decide

/-! ### The table as it is created -/

theorem natTableInit_ring (ccb : NatCcb) :
    (natTableInit ccb).natFreeRing = ⟨maxNatEntries, List.range maxNatEntries, 0⟩ := by
  unfold natTableInit natResetCounters natTableEnqueueAllEntriesToRing natTableInitEntries
  generalize maxNatEntries = size
  exact Rte.Ring.fill_eq size

/-- The fresh table with the first slots of its ring laid out, to run the model with. -/
theorem natTableInit_eq (ccb : NatCcb) : natTableInit ccb =
    { natTableInit ccb with natFreeRing := ⟨262144, 0 :: 1 :: List.range' 2 262142, 0⟩ } := by
  have hrange : ∀ size, List.range (size + 2) = 0 :: 1 :: List.range' 2 size := by
    intro size
    rw [List.range_eq_range', List.range'_succ, List.range'_succ]
  have hring : (natTableInit ccb).natFreeRing = ⟨262144, 0 :: 1 :: List.range' 2 262142, 0⟩ := by
    rw [natTableInit_ring, ← hrange]
    rfl
  rw [← hring]

theorem natTableInit_reverseHash (ccb : NatCcb) :
    (natTableInit ccb).natReverseHash = Rte.Hash.empty := rfl

theorem natTableInit_forwardHash (ccb : NatCcb) :
    (natTableInit ccb).natForwardHash = Rte.Hash.empty := rfl

theorem natTableInit_conserved (ccb : NatCcb) : NatConserved (natTableInit ccb) := by
  unfold NatConserved NatCcb.pool
  rw [natTableInit_ring]
  exact Rte.SlotPool.conserved_fresh maxNatEntries

/-! ### One move -/

theorem natEntryDelKeys_conserved (h : NatConserved s) (i : Nat) :
    NatConserved (natEntryDelKeys s i).2 :=
  h.unlink _

theorem NatMove.conserved (hmove : NatMove now start n s s') (h : NatConserved s) :
    NatConserved s' := by
  cases hmove with
  | count => exact h
  | evict _ _ => exact natEntryDelKeys_conserved h _
  | collect _ => exact natEntryDelKeys_conserved h _
  | @reclaim s₁ i hpop =>
      obtain ⟨rest, hdq, rfl⟩ := natReversePop_eq_some.mp hpop
      have hpop' : s.pool.hash.popDq = some (i, { s.natReverseHash with dq := rest }) := by
        show s.natReverseHash.popDq = _
        unfold Rte.Hash.popDq
        rw [hdq]
      exact (Rte.SlotPool.Conserved.pop h hpop').giveBack
  | giveBack hdeq _ => exact (Rte.SlotPool.Conserved.take h hdeq).giveBack

theorem NatMoves.conserved (hmoves : NatMoves now start n s s') (h : NatConserved s) :
    NatConserved s' := by
  induction hmoves with
  | refl => exact h
  | tail _ hmove ih => exact hmove.conserved ih

/-! ### Whole operations -/

theorem NatEnding.conserved {flow : NatForwardKey} {learned : NatLearned}
    (hend : NatEnding hz now flow s learned) (h : NatConserved s) : NatConserved learned.ccb := by
  cases hend with
  | known _ => exact h
  | same _ _ => exact h
  | failed => exact h
  | unpublished hr hdeq hadd =>
      exact ((Rte.SlotPool.Conserved.take h hdeq).publish hr hadd).unlink _
  | published _ hr hdeq hradd _ =>
      exact (Rte.SlotPool.Conserved.take h hdeq).publish hr hradd

theorem natReverseLookup_conserved (h : NatConserved s) (natPort : BitVec 16)
    (remoteIp : BitVec 32) (remotePort : BitVec 16) :
    NatConserved (natReverseLookup hz now s natPort remoteIp remotePort).2 := by
  unfold natReverseLookup
  split
  · exact h
  · split
    · exact natEntryDelKeys_conserved h _
    · exact h

theorem natDelAllVisits_conserved (is : List Nat) (h : NatConserved s) :
    NatConserved (is.foldl natDelAllVisit s) := by
  induction is generalizing s with
  | nil => exact h
  | cons i rest ih =>
      refine ih ?_
      unfold natDelAllVisit
      split
      · exact h
      · split
        · exact natEntryDelKeys_conserved h i
        · exact h

theorem natResetCounters_conserved (h : NatConserved s) : NatConserved (natResetCounters s) := h

theorem natTableDelAll_conserved (h : NatConserved s) :
    NatConserved (natTableDelAllEntriesFromHash s) :=
  natResetCounters_conserved (natDelAllVisits_conserved (List.range maxNatEntries) h)

/-- Every operation conserves the slots. -/
theorem natStep_conserved (crc : BitVec 32 → BitVec 32 → BitVec 32) (l : NatLabel)
    (h : NatConserved s) : NatConserved (natStep crc hz s l) := by
  obtain ⟨now, op⟩ := l
  cases op with
  | learn origin flow chances =>
      obtain ⟨s₁, hmoves, hend⟩ := natLearn_moves crc hz now h.cap_pos origin flow chances
      exact hend.conserved (hmoves.conserved h)
  | reverseLookup natPort remoteIp remotePort =>
      exact natReverseLookup_conserved h natPort remoteIp remotePort
  | gcScan maxSlots grace => exact (natGcScan_moves now s maxSlots grace).conserved h
  | delAll => exact natTableDelAll_conserved h
  | reclaimReverse m =>
      have hmoves : NatMoves now 0 0 s (natReverseDqReclaim m s) := natReverseDqReclaim_moves m s
      exact hmoves.conserved h
  | reclaimForward m => exact h

/-- Along any run from a fresh table, the slots are conserved. -/
theorem natRun_conserved {crc : BitVec 32 → BitVec 32 → BitVec 32}
    {guard : NatCcb → NatLabel → Prop} {ls : List NatLabel} (ccb : NatCcb)
    (hrun : Run (natStep crc hz) guard (natTableInit ccb) ls s) : NatConserved s :=
  hrun.inv NatConserved (fun _ l h _ => natStep_conserved crc l h) (natTableInit_conserved ccb)

end FastRG
