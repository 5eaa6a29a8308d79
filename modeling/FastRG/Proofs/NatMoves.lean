/-
What an operation of the translator can do.

Every operation is a sequence of a few moves: counters change, an expired mapping
that a lookup found is dropped, the scan drops a slot it hit, a deferred slot is
reclaimed, an allocated slot is given back unused.  A learning call then ends in one
of five ways.  `natLearn_moves` and `natGcScan_moves` say so once, with what the code
had checked before each move, and nothing after this file unfolds an operation.

The scan is the delicate move.  It drops a slot because of what the slot stores, not
because a table led to it, so a move records the scan's start and length: which slots
it can hit is a question about the state the operation begins in.
-/
import FastRG.Nat
import Mathlib.Logic.Relation

namespace FastRG

/-- The forward key slot `i` stores. -/
def NatCcb.fkey (s : NatCcb) (i : Nat) : NatForwardKey := (s.addrTable i).forwardKey

/-- The reverse key slot `i` stores. -/
def NatCcb.rkey (s : NatCcb) (i : Nat) : NatReverseKey := (s.addrTable i).reverseKey

/-- The reverse key of a flow translated to a port. -/
def NatForwardKey.reverse (flow : NatForwardKey) (natPort : BitVec 16) : NatReverseKey :=
  ⟨flow.dstIp, natPort, flow.dstPort⟩

/-- A scan of `n` slots from `start` looks at slot `i` and finds it ready and expired. -/
structure NatHit (now : Nat) (start : BitVec 32) (n : Nat) (s : NatCcb) (i : Nat) : Prop where
  inRange : ∃ m, m < n ∧ natGcIdx start m = i
  armed : s.natExpireAt i ≠ 0
  expired : s.natExpireAt i ≤ now
  ready : (s.addrTable i).isFill = .ready

/-- The moves an operation makes before it ends. -/
inductive NatMove (now : Nat) (start : BitVec 32) (n : Nat) : NatCcb → NatCcb → Prop
  | count (s : NatCcb) (enospc reclaimed : Nat) (counter : BitVec 32) (dq : List Nat) :
      NatMove now start n s
        { s with
          natEnospc := enospc
          natGcReclaimed := reclaimed
          natGcCounter := counter
          natForwardHash := { s.natForwardHash with dq := dq } }
  | evict {s : NatCcb} {k : NatReverseKey} {i : Nat} (hk : s.natReverseHash.lookup k = some i)
      (hexp : s.natExpireAt i < now) : NatMove now start n s (natEntryDelKeys s i).2
  | collect {s : NatCcb} {i : Nat} (hit : NatHit now start n s i) :
      NatMove now start n s (natEntryDelKeys s i).2
  | reclaim {s s₁ : NatCcb} {i : Nat} (hpop : natReversePop s = some (i, s₁)) :
      NatMove now start n s (natReverseHashFreeCb s₁ i)
  | giveBack {s : NatCcb} {i : Nat} {ring : Rte.Ring} {e : AddrTable} {deadline : Nat}
      (hdeq : s.natFreeRing.dequeue = some (i, ring)) (he : e.isFill = .free) :
      NatMove now start n s
        { s with
          addrTable := Function.update s.addrTable i e
          natExpireAt := Function.update s.natExpireAt i deadline
          natFreeRing := ring.enqueue i }

/-- Any number of moves. -/
abbrev NatMoves (now : Nat) (start : BitVec 32) (n : Nat) : NatCcb → NatCcb → Prop :=
  Relation.ReflTransGen (NatMove now start n)

/-- The ways a learning call for a flow can end. -/
inductive NatEnding (hz now : Nat) (flow : NatForwardKey) (s : NatCcb) : NatLearned → Prop
  | known {i : Nat} (hf : s.natForwardHash.lookup flow = some i) :
      NatEnding hz now flow s (natReuse hz now s i (s.addrTable i).natPort)
  | same {i : Nat} {natPort : BitVec 16}
      (hr : s.natReverseHash.lookup (flow.reverse natPort) = some i)
      (hsame : natEntrySameFlow (s.addrTable i) natPort flow = true) :
      NatEnding hz now flow s (natReuse hz now s i natPort)
  | failed : NatEnding hz now flow s (natFail s)
  | unpublished {i : Nat} {natPort : BitVec 16} {ring : Rte.Ring} {origin : NatOrigin}
      {rev : Rte.Hash NatReverseKey Nat} {room : Bool}
      (hr : s.natReverseHash.lookup (flow.reverse natPort) = none)
      (hdeq : s.natFreeRing.dequeue = some (i, ring))
      (hadd : s.natReverseHash.addKeyData (flow.reverse natPort) i room = some rev) :
      NatEnding hz now flow s (natFail
        { natFillEntry hz now { s with natFreeRing := ring } i origin flow natPort with
          natReverseHash := (rev.delKey (flow.reverse natPort)).2 })
  | published {i : Nat} {natPort : BitVec 16} {ring : Rte.Ring} {origin : NatOrigin}
      {rev : Rte.Hash NatReverseKey Nat} {fwd : Rte.Hash NatForwardKey Nat} {room room' : Bool}
      (hf : s.natForwardHash.lookup flow = none)
      (hr : s.natReverseHash.lookup (flow.reverse natPort) = none)
      (hdeq : s.natFreeRing.dequeue = some (i, ring))
      (hradd : s.natReverseHash.addKeyData (flow.reverse natPort) i room = some rev)
      (hfadd : s.natForwardHash.addKeyData flow i room' = some fwd) :
      NatEnding hz now flow s
        ⟨{ natFillEntry hz now { s with natFreeRing := ring } i origin flow natPort with
            natReverseHash := rev
            natForwardHash := fwd }, natPort, some i⟩

variable {hz now n : Nat} {start : BitVec 32} {s s' : NatCcb}

/-! ### A key that is not there does not come back -/

/-- A popped slot leaves the defer queue of an otherwise unchanged table. -/
theorem natReversePop_eq_some {s₁ : NatCcb} {i : Nat} :
    natReversePop s = some (i, s₁) ↔ ∃ rest, s.natReverseHash.dq = i :: rest ∧
      s₁ = { s with natReverseHash := { s.natReverseHash with dq := rest } } := by
  unfold natReversePop Rte.Hash.popDq
  cases hdq : s.natReverseHash.dq with
  | nil => simp
  | cons j rest =>
      refine ⟨?_, ?_⟩
      · intro h
        obtain ⟨rfl, rfl⟩ := Prod.mk.inj (Option.some.inj h)
        exact ⟨rest, rfl, rfl⟩
      · intro hex
        obtain ⟨rest', hcons, rfl⟩ := hex
        obtain ⟨rfl, rfl⟩ := List.cons.inj hcons
        rfl

theorem NatMove.forward_none {k : NatForwardKey} (h : NatMove now start n s s')
    (hk : s.natForwardHash.lookup k = none) : s'.natForwardHash.lookup k = none := by
  have hdel : ∀ i, (natEntryDelKeys s i).2.natForwardHash.lookup k = none := by
    intro i
    show (s.natForwardHash.delKey _).2.lookup k = none
    rw [Rte.Hash.lookup_delKey, hk, ite_self]
  cases h with
  | count => exact hk
  | evict _ _ => exact hdel _
  | collect _ => exact hdel _
  | giveBack _ _ => exact hk
  | reclaim hpop =>
      obtain ⟨rest, -, rfl⟩ := natReversePop_eq_some.mp hpop
      exact hk

theorem NatMove.reverse_none {k : NatReverseKey} (h : NatMove now start n s s')
    (hk : s.natReverseHash.lookup k = none) : s'.natReverseHash.lookup k = none := by
  have hdel : ∀ i, (natEntryDelKeys s i).2.natReverseHash.lookup k = none := by
    intro i
    show (s.natReverseHash.delKey _).2.lookup k = none
    rw [Rte.Hash.lookup_delKey, hk, ite_self]
  cases h with
  | count => exact hk
  | evict _ _ => exact hdel _
  | collect _ => exact hdel _
  | giveBack _ _ => exact hk
  | reclaim hpop =>
      obtain ⟨rest, -, rfl⟩ := natReversePop_eq_some.mp hpop
      exact hk

/-- The ring is never rebuilt. -/
theorem NatMove.cap (h : NatMove now start n s s') : s'.natFreeRing.cap = s.natFreeRing.cap := by
  cases h with
  | count => rfl
  | evict _ _ => rfl
  | collect _ => rfl
  | giveBack hdeq _ =>
      obtain ⟨rest, -, rfl⟩ := Rte.Ring.dequeue_eq_some.mp hdeq
      exact Rte.Ring.enqueue_cap _ _
  | reclaim hpop =>
      obtain ⟨rest, -, rfl⟩ := natReversePop_eq_some.mp hpop
      exact Rte.Ring.enqueue_cap _ _

theorem NatMoves.cap (h : NatMoves now start n s s') :
    s'.natFreeRing.cap = s.natFreeRing.cap := by
  induction h with
  | refl => rfl
  | tail _ hmove ih => rw [hmove.cap, ih]

theorem NatMoves.forward_none {k : NatForwardKey} (h : NatMoves now start n s s')
    (hk : s.natForwardHash.lookup k = none) : s'.natForwardHash.lookup k = none := by
  induction h with
  | refl => exact hk
  | tail _ hmove ih => exact hmove.forward_none ih

theorem NatMoves.reverse_none {k : NatReverseKey} (h : NatMoves now start n s s')
    (hk : s.natReverseHash.lookup k = none) : s'.natReverseHash.lookup k = none := by
  induction h with
  | refl => exact hk
  | tail _ hmove ih => exact hmove.reverse_none ih

/-! ### Reclaiming and collecting -/

theorem natReverseDqReclaim_moves (m : Nat) (s : NatCcb) :
    NatMoves now start n s (natReverseDqReclaim m s) :=
  Rte.dqReclaim_inv (NatMoves now start n s)
    (fun _ _ _ hs hpop => hs.tail (.reclaim hpop)) m s .refl

theorem natForwardDqReclaim_moves (m : Nat) (s : NatCcb) :
    NatMoves now start n s (natForwardDqReclaim m s) :=
  .single (.count s s.natEnospc s.natGcReclaimed s.natGcCounter (s.natForwardHash.dq.drop m))

theorem natGcVisit_moves {m : Nat} (hm : m < n) (t : Nat × NatCcb) :
    NatMoves now start n t.2 (natGcVisit now start t m).2 := by
  obtain ⟨reclaimed, s⟩ := t
  unfold natGcVisit
  dsimp only
  split
  · exact .refl
  · rename_i hlive
    split
    · exact .refl
    · rename_i hready
      refine .single (.collect ⟨⟨m, hm, rfl⟩, ?_, ?_, ?_⟩)
      · exact fun h => hlive (Or.inl h)
      · exact Nat.le_of_not_lt fun h => hlive (Or.inr h)
      · exact not_not.mp hready

theorem natGcVisits_moves (now : Nat) (start : BitVec 32) {ms : List Nat} (hms : ∀ m ∈ ms, m < n)
    (t : Nat × NatCcb) :
    NatMoves now start n t.2 (ms.foldl (natGcVisit now start) t).2 := by
  induction ms generalizing t with
  | nil => exact .refl
  | cons m rest ih =>
      have hrest : ∀ m ∈ rest, m < n := fun m' h => hms m' (List.mem_cons_of_mem _ h)
      exact (natGcVisit_moves (hms m List.mem_cons_self) t).trans (ih hrest _)

/-- A collection moves the cursor, drops what its scan hits, and reclaims. -/
theorem natGcScan_moves (now : Nat) (s : NatCcb) (maxSlots : BitVec 32) (grace : NatGrace) :
    NatMoves now s.natGcCounter maxSlots.toNat s (natGcScanByCcb now s maxSlots grace).2 := by
  have hcursor : NatMoves now s.natGcCounter maxSlots.toNat s
      { s with natGcCounter := s.natGcCounter + maxSlots } :=
    .single (.count s s.natEnospc s.natGcReclaimed _ s.natForwardHash.dq)
  have hrange : ∀ m ∈ List.range maxSlots.toNat, m < maxSlots.toNat :=
    fun m h => List.mem_range.mp h
  have hvisits := natGcVisits_moves now s.natGcCounter hrange
    (0, { s with natGcCounter := s.natGcCounter + maxSlots })
  unfold natGcScanByCcb
  dsimp only at hvisits ⊢
  generalize (List.range maxSlots.toNat).foldl (natGcVisit now s.natGcCounter)
    (0, { s with natGcCounter := s.natGcCounter + maxSlots }) = t at hvisits ⊢
  have hcount : NatMoves now s.natGcCounter maxSlots.toNat t.2
      { t.2 with natGcReclaimed := t.2.natGcReclaimed + t.1 } :=
    .single (.count t.2 t.2.natEnospc _ t.2.natGcCounter t.2.natForwardHash.dq)
  exact ((hcursor.trans hvisits).trans hcount).trans
    ((natReverseDqReclaim_moves grace.gcReverse _).trans
      (natForwardDqReclaim_moves grace.gcForward _))

/-! ### Learning -/

/-- How far a learning call that begins in `s` can scan. -/
def natLearnScans (s : NatCcb) (flow : NatForwardKey) : Nat :=
  if s.natForwardHash.lookup flow = none ∧ s.natFreeRing.items = [] then natGcScanChunk.toNat
  else 0

/-- If an allocation has to scan now, it scans what the call began with. -/
structure NatMayScan (start : BitVec 32) (n : Nat) (s : NatCcb) : Prop where
  cap : 0 < s.natFreeRing.cap
  scan : s.natFreeRing.items = [] → s.natGcCounter = start ∧ n = natGcScanChunk.toNat

/-- What an attempt at a port amounts to. -/
def NatAttempted (hz now : Nat) (start : BitVec 32) (n : Nat) (flow : NatForwardKey) (s : NatCcb) :
    NatAttempt → Prop
  | .done learned => ∃ s₁, NatMoves now start n s s₁ ∧ NatEnding hz now flow s₁ learned
  | .nextNatPort s₁ => NatMoves now start n s s₁ ∧ NatMayScan start n s₁

theorem NatAttempted.after {flow : NatForwardKey} {attempt : NatAttempt}
    (h : NatAttempted hz now start n flow s' attempt) (hmove : NatMove now start n s s') :
    NatAttempted hz now start n flow s attempt := by
  cases attempt with
  | done learned =>
      obtain ⟨s₁, hmoves, hend⟩ := h
      exact ⟨s₁, hmoves.head hmove, hend⟩
  | nextNatPort s₁ => exact ⟨h.1.head hmove, h.2⟩

/-- An allocation collects, if it must, and then takes what the ring has. -/
theorem natSlotAlloc_moves (now : Nat) (hscan : NatMayScan start n s) (grace : NatGrace) :
    ∃ s₁, NatMoves now start n s s₁ ∧
      natSlotAlloc now s grace = match s₁.natFreeRing.dequeue with
        | some (idx, ring) => (some idx, { s₁ with natFreeRing := ring })
        | none => (none, s₁) := by
  unfold natSlotAlloc
  cases hdeq : s.natFreeRing.dequeue with
  | some t =>
      refine ⟨s, .refl, ?_⟩
      rw [hdeq]
  | none =>
      obtain ⟨rfl, rfl⟩ := hscan.scan (Rte.Ring.dequeue_eq_none.mp hdeq)
      refine ⟨_, (natGcScan_moves now s natGcScanChunk grace).trans
        (natReverseDqReclaim_moves grace.allocReverse _), rfl⟩

/-- A slot taken, filled in and given back. -/
theorem natGiveBack_move (hz now : Nat) (start : BitVec 32) (n : Nat) {i : Nat} {ring : Rte.Ring}
    (origin : NatOrigin) (flow : NatForwardKey) (natPort : BitVec 16)
    (hdeq : s.natFreeRing.dequeue = some (i, ring)) :
    NatMove now start n s
      (natGiveBack
        (natFillEntry hz now { s with natFreeRing := ring } i origin flow natPort) i) := by
  have hmove : NatMove now start n s
      { s with
        addrTable := Function.update s.addrTable i
          { natNewEntry origin flow natPort with isFill := .free }
        natExpireAt := Function.update s.natExpireAt i (natExpiryCycles hz now)
        natFreeRing := ring.enqueue i } := .giveBack hdeq rfl
  unfold natGiveBack natFillEntry natExpireSet
  simpa only [Function.update_self, Function.update_idem] using hmove

/-- The locked part: both tables looked up again, then a slot, then the two keys. -/
theorem natInsert_attempted (hz now : Nat) (hscan : NatMayScan start n s) (origin : NatOrigin)
    (flow : NatForwardKey) (natPort : BitVec 16) (chance : NatChance) :
    NatAttempted hz now start n flow s (natInsert hz now s origin flow natPort chance) := by
  unfold natInsert
  dsimp only
  split
  · exact ⟨s, .refl, .known ‹_›⟩
  · rename_i hf
    split
    · split
      · exact ⟨s, .refl, .same ‹_› ‹_›⟩
      · exact ⟨.refl, hscan⟩
    · rename_i hr
      obtain ⟨s₁, hmoves, halloc⟩ := natSlotAlloc_moves now hscan chance.grace
      rw [halloc]
      have hf₁ : s₁.natForwardHash.lookup flow = none := hmoves.forward_none hf
      have hr₁ : s₁.natReverseHash.lookup (flow.reverse natPort) = none := hmoves.reverse_none hr
      cases hdeq : s₁.natFreeRing.dequeue with
      | none => exact ⟨s₁, hmoves, .failed⟩
      | some t =>
          obtain ⟨idx, ring⟩ := t
          dsimp only
          split
          · -- The reverse table is full: the slot goes back, and the next port is tried.
            have hback := natGiveBack_move hz now start n origin flow natPort hdeq
            have hcap : 0 < s₁.natFreeRing.cap := hmoves.cap.symm ▸ hscan.cap
            refine ⟨hmoves.tail hback, hback.cap.symm ▸ hcap, ?_⟩
            intro hnil
            obtain ⟨rest, -, rfl⟩ := Rte.Ring.dequeue_eq_some.mp hdeq
            have hring : 0 < ({ s₁.natFreeRing with items := rest } : Rte.Ring).cap := hcap
            exact absurd hnil (Rte.Ring.enqueue_ne_nil hring idx)
          · rename_i rev hradd
            split
            · exact ⟨s₁, hmoves, .unpublished hr₁ hdeq hradd⟩
            · exact ⟨s₁, hmoves, .published hf₁ hr₁ hdeq hradd ‹_›⟩

/-- One turn of the loop, which may first drop an expired mapping that holds the port. -/
theorem natTryPort_attempted (hz now : Nat) (hscan : NatMayScan start n s) (origin : NatOrigin)
    (flow : NatForwardKey) (natPort : BitVec 16) (chance : NatChance) :
    NatAttempted hz now start n flow s (natTryPort hz now s origin flow natPort chance) := by
  unfold natTryPort
  dsimp only
  split
  · exact ⟨.refl, hscan⟩
  · split
    · exact natInsert_attempted hz now hscan origin flow natPort chance
    · rename_i i hr
      split
      · exact ⟨s, .refl, .same hr ‹_›⟩
      · split
        · exact ⟨.refl, hscan⟩
        · rename_i hexp
          have hevict : NatMove now start n s (natEntryDelKeys s i).2 :=
            .evict hr (by simpa [natEntryIsExpired] using hexp)
          have hscan' : NatMayScan start n (natEntryDelKeys s i).2 := ⟨hscan.cap, hscan.scan⟩
          have hrest := natInsert_attempted hz now hscan' origin flow natPort chance
          exact hrest.after hevict

/-- The walk over the ports ends, one way or another. -/
theorem natWalkPorts_moves (hz now : Nat) (origin : NatOrigin) (flow : NatForwardKey)
    (startNatPort : BitVec 16) (chances : BitVec 16 → NatChance) (fuel : Nat)
    (hscan : NatMayScan start n s) (natPort : BitVec 16) :
    ∃ s₁, NatMoves now start n s s₁ ∧ NatEnding hz now flow s₁
      (natWalkPorts hz now origin flow startNatPort chances fuel s natPort) := by
  induction fuel generalizing s natPort with
  | zero => exact ⟨s, .refl, .failed⟩
  | succ fuel ih =>
      have hattempt := natTryPort_attempted hz now hscan origin flow natPort (chances natPort)
      rw [natWalkPorts]
      cases htry : natTryPort hz now s origin flow natPort (chances natPort) with
      | done learned =>
          rw [htry] at hattempt
          exact hattempt
      | nextNatPort s₁ =>
          rw [htry] at hattempt
          obtain ⟨hmoves, hscan₁⟩ := hattempt
          dsimp only
          split
          · exact ⟨s₁, hmoves, .failed⟩
          · obtain ⟨s₂, hmoves', hend⟩ := ih hscan₁ (nextNatPort natPort)
            exact ⟨s₂, hmoves.trans hmoves', hend⟩

/-- **What learning does.**  Some moves, scanning only if the ring was empty, and an ending. -/
theorem natLearn_moves (crc : BitVec 32 → BitVec 32 → BitVec 32) (hz now : Nat)
    (hcap : 0 < s.natFreeRing.cap) (origin : NatOrigin) (flow : NatForwardKey)
    (chances : BitVec 16 → NatChance) :
    ∃ s₁, NatMoves now s.natGcCounter (natLearnScans s flow) s s₁ ∧
      NatEnding hz now flow s₁ (natLearn crc hz now s origin flow chances) := by
  unfold natLearn natLearningPortReuse
  dsimp only
  split
  · exact ⟨s, .refl, .known ‹_›⟩
  · rename_i hf
    refine natWalkPorts_moves hz now origin flow _ chances natPortRange ⟨hcap, ?_⟩ _
    intro hnil
    exact ⟨rfl, if_pos ⟨hf, hnil⟩⟩

/-! ### The walk visits every port and stops

Ports are counted in host order, from `sysMaxPort` to the last one and around again.
-/

/-- A port as the number it stands for. -/
def portHost (natPort : BitVec 16) : Nat := (swap16 natPort).toNat

/-- How many steps a walk at `natPort` is away from the port it started from. -/
def portsLeft (startNatPort natPort : BitVec 16) : Nat :=
  if portHost natPort < portHost startNatPort then portHost startNatPort - portHost natPort
  else portHost startNatPort + natPortRange - portHost natPort

theorem portHost_lt (natPort : BitVec 16) : portHost natPort < totalSockPort :=
  (swap16 natPort).isLt

theorem portHost_nextNatPort (natPort : BitVec 16) :
    portHost (nextNatPort natPort)
      = if portHost natPort + 1 ≥ totalSockPort then sysMaxPort else portHost natPort + 1 := by
  have hlt := portHost_lt natPort
  unfold nextNatPort
  show (swap16 (swap16 _)).toNat = _
  rw [swap16_swap16, BitVec.toNat_ofNat]
  refine Nat.mod_eq_of_lt ?_
  show (if portHost natPort + 1 ≥ totalSockPort then sysMaxPort else portHost natPort + 1) < _
  unfold totalSockPort sysMaxPort at *
  split <;> omega

theorem portHost_computeInitialNatPort (crc : BitVec 32 → BitVec 32 → BitVec 32)
    (srcIp : BitVec 32) (srcPort : BitVec 16) :
    sysMaxPort ≤ portHost (computeInitialNatPort crc srcIp srcPort) := by
  unfold computeInitialNatPort portHost
  dsimp only
  generalize (crc (srcPort.setWidth 32) (crc srcIp 0)).setWidth 16 = hash
  have hmod : hash.toNat % natPortRange < natPortRange := Nat.mod_lt _ (by decide)
  rw [swap16_swap16, BitVec.toNat_ofNat]
  unfold natPortRange totalSockPort sysMaxPort at *
  omega

theorem portsLeft_nextNatPort {startNatPort natPort : BitVec 16}
    (hstart : sysMaxPort ≤ portHost startNatPort) (hport : sysMaxPort ≤ portHost natPort)
    (hne : nextNatPort natPort ≠ startNatPort) :
    portsLeft startNatPort natPort = portsLeft startNatPort (nextNatPort natPort) + 1 := by
  have hhost : portHost (nextNatPort natPort) ≠ portHost startNatPort := by
    intro heq
    exact hne (swap16_inj.mp (BitVec.eq_of_toNat_eq heq))
  have hnext := portHost_nextNatPort natPort
  have h1 := portHost_lt natPort
  have h2 := portHost_lt startNatPort
  unfold portsLeft
  unfold natPortRange totalSockPort sysMaxPort at *
  split at hnext <;> split <;> split <;> omega

/-- One more unit of fuel than there are ports left changes nothing. -/
theorem natWalkPorts_succ {origin : NatOrigin} {flow : NatForwardKey} {startNatPort : BitVec 16}
    {chances : BitVec 16 → NatChance} (hstart : sysMaxPort ≤ portHost startNatPort) :
    ∀ (fuel : Nat) (s : NatCcb) (natPort : BitVec 16), sysMaxPort ≤ portHost natPort →
      portsLeft startNatPort natPort ≤ fuel →
      natWalkPorts hz now origin flow startNatPort chances (fuel + 1) s natPort
        = natWalkPorts hz now origin flow startNatPort chances fuel s natPort := by
  intro fuel
  induction fuel with
  | zero =>
      intro s natPort _ hleft
      have h1 := portHost_lt natPort
      unfold portsLeft at hleft
      unfold natPortRange totalSockPort sysMaxPort at *
      split at hleft <;> omega
  | succ fuel ih =>
      intro s natPort hport hleft
      rw [natWalkPorts, natWalkPorts]
      split
      · rfl
      · dsimp only
        split
        · rfl
        · rename_i hne
          have hstep := portsLeft_nextNatPort hstart hport hne
          refine ih _ _ ?_ (by omega)
          rw [portHost_nextNatPort]
          split <;> omega

/-- The bound on the walk is never what ends it. -/
theorem natWalkPorts_fuel (crc : BitVec 32 → BitVec 32 → BitVec 32) (origin : NatOrigin)
    (flow : NatForwardKey) (chances : BitVec 16 → NatChance) (more : Nat) (s : NatCcb) :
    let startNatPort := computeInitialNatPort crc flow.srcIp flow.srcPort
    natWalkPorts hz now origin flow startNatPort chances (natPortRange + more) s startNatPort
      = natWalkPorts hz now origin flow startNatPort chances natPortRange s startNatPort := by
  intro startNatPort
  have hstart : sysMaxPort ≤ portHost startNatPort :=
    portHost_computeInitialNatPort crc flow.srcIp flow.srcPort
  induction more with
  | zero => rfl
  | succ more ih =>
      rw [← ih]
      refine natWalkPorts_succ hstart (natPortRange + more) s startNatPort hstart ?_
      unfold portsLeft
      split <;> omega

end FastRG
