/-
A round of collection reaches every mapping.

`NatOutlives d i` says that a key leads to slot `i` only if the slot's deadline is past `d`.
Nothing that is done to the pool takes it away again: a deletion only unlinks, a refresh and
a segment only move a deadline out, and a new mapping's lies ahead of the clock.  A look at a
slot brings it about, since a linked slot is ready and armed, and an expired one is unlinked.

That last step rests on `NatInv`, and so on the condition that keeps it: no look deletes the
keys of a stale slot that are now the keys of two different mappings.
-/
import FastRG.GcRound
import FastRG.Proofs.NatAgreement
import FastRG.Proofs.TcpLease

namespace FastRG

variable {hz now n d t₀ i : Nat} {start : BitVec 32} {s s' s₀ : NatCcb}

/-! ### What stays fresh -/

/-- A key leads to slot `i` only if the slot's deadline is past `d`. -/
def NatOutlives (d i : Nat) (s : NatCcb) : Prop := i ∈ s.natReverseHash.values → d < s.natExpireAt i

namespace NatOutlives

theorem delKeys (h : NatOutlives d i s) (j : Nat) : NatOutlives d i (natEntryDelKeys s j).2 :=
  fun hi => h (NatInv.mem_values_delKeys hi)

/-- Only an unlinked slot is touched. -/
theorem elsewhere {j : Nat} (h : NatOutlives d i s) (helse : NatElsewhere j s s') :
    NatOutlives d i s' := by
  intro hi
  have hold := helse.mem_values hi
  rw [helse.expire i (helse.ne_of_value hold)]
  exact h hold

/-- One deadline is moved, and not brought back to `d`. -/
theorem update {j x : Nat} {e : AddrTable} (h : NatOutlives d i s)
    (hx : d < s.natExpireAt j → d < x) :
    NatOutlives d i { s with
      addrTable := Function.update s.addrTable j e
      natExpireAt := Function.update s.natExpireAt j x } := by
  intro hi
  show d < Function.update s.natExpireAt j x i
  by_cases hij : i = j
  · subst hij
    rw [Function.update_self]
    exact hx (h hi)
  · rw [Function.update_of_ne hij]
    exact h hi

theorem refresh (h : NatOutlives d i s) (hz now j : Nat) :
    NatOutlives d i (natEntryRefresh hz now s j) := by
  have hle := le_natExpireRefresh hz (s.natExpireAt j) (natExpiryCycles hz now)
  have hmoved := h.update (e := s.addrTable j) fun hd => Nat.lt_of_lt_of_le hd hle
  rw [Function.update_eq_self] at hmoved
  exact hmoved

end NatOutlives

theorem NatMove.fresh (hmove : NatMove now start n s s') (hs : NatConserved s)
    (h : NatOutlives d i s) : NatOutlives d i s' := by
  cases hmove with
  | count => exact h
  | evict _ _ => exact h.delKeys _
  | collect _ => exact h.delKeys _
  | reclaim hpop => exact h.elsewhere (natElsewhere_reclaim hs hpop)
  | giveBack hdeq he => exact h.elsewhere (natElsewhere_giveBack _ hs hdeq he)

theorem NatMoves.fresh (hmoves : NatMoves now start n s s') (hs : NatConserved s)
    (h : NatOutlives d i s) : NatOutlives d i s' := by
  have hboth : NatConserved s' ∧ NatOutlives d i s' := by
    induction hmoves with
    | refl => exact ⟨hs, h⟩
    | tail _ hmove ih => exact ⟨hmove.conserved ih.1, hmove.fresh ih.1 ih.2⟩
  exact hboth.2

theorem NatEnding.fresh {flow : NatForwardKey} {learned : NatLearned} (hhz : 0 < hz)
    (hd : d ≤ now) (hend : NatEnding hz now flow s learned) (hs : NatConserved s)
    (h : NatOutlives d i s) : NatOutlives d i learned.ccb := by
  cases hend with
  | known _ => exact h.refresh hz now _
  | same _ _ => exact h.refresh hz now _
  | failed => exact h
  | @unpublished j natPort ring origin rev room hr hdeq hadd =>
      have hrev : ∀ k,
          (rev.delKey (flow.reverse natPort)).2.lookup k = s.natReverseHash.lookup k := by
        intro k
        rw [Rte.Hash.lookup_delKey, Rte.Hash.lookup_addKeyData hadd]
        by_cases hk : k = flow.reverse natPort
        · rw [if_pos hk, hk, hr]
        · rw [if_neg hk, if_neg hk]
      have helse := natElsewhere_fill hz now origin flow natPort hs hdeq hrev
      have hfresh := h.elsewhere helse
      exact fun hi => hfresh hi
  | @published j natPort ring origin rev fwd room room' hf hr hdeq hradd hfadd =>
      have helse := natElsewhere_fill hz now origin flow natPort hs hdeq (fun _ => rfl)
      intro hi
      have hvalues : rev.values = j :: s.natReverseHash.values :=
        Rte.Hash.values_addKeyData hr hradd
      rcases List.mem_cons.mp (hvalues ▸ hi : i ∈ j :: s.natReverseHash.values) with rfl | hi
      · show d < Function.update s.natExpireAt i _ i
        rw [Function.update_self]
        unfold natExpireSet natExpiryCycles natEntryTimeoutSec
        omega
      · have hold := h hi
        rw [← helse.expire i (helse.ne_of_value hi)] at hold
        exact hold

theorem natDelAllVisits_fresh (is : List Nat) (h : NatOutlives d i s) :
    NatOutlives d i (is.foldl natDelAllVisit s) := by
  induction is generalizing s with
  | nil => exact h
  | cons j rest ih =>
      refine ih ?_
      unfold natDelAllVisit
      split
      · exact h
      · split
        · exact h.delKeys j
        · exact h

theorem natResetCounters_fresh (h : NatOutlives d i s) : NatOutlives d i (natResetCounters s) := h

theorem natTableDelAll_fresh (h : NatOutlives d i s) :
    NatOutlives d i (natTableDelAllEntriesFromHash s) :=
  natResetCounters_fresh (natDelAllVisits_fresh (List.range maxNatEntries) h)

theorem natReverseLookup_fresh (h : NatOutlives d i s) (natPort : BitVec 16)
    (remoteIp : BitVec 32) (remotePort : BitVec 16) :
    NatOutlives d i (natReverseLookup hz now s natPort remoteIp remotePort).2 := by
  unfold natReverseLookup
  split
  · exact h
  · split
    · exact h.delKeys _
    · exact h.refresh hz now _

theorem natStep_fresh (crc : BitVec 32 → BitVec 32 → BitVec 32) (hhz : 0 < hz) (l : NatLabel)
    (hd : d ≤ l.now) (hs : NatConserved s) (h : NatOutlives d i s) :
    NatOutlives d i (natStep crc hz s l) := by
  obtain ⟨now, op⟩ := l
  cases op with
  | learn origin flow chances =>
      obtain ⟨s₁, hmoves, hend⟩ := natLearn_moves crc hz now hs.cap_pos origin flow chances
      exact hend.fresh hhz hd (hmoves.conserved hs) (hmoves.fresh hs h)
  | reverseLookup natPort remoteIp remotePort =>
      exact natReverseLookup_fresh h natPort remoteIp remotePort
  | gcScan maxSlots grace => exact (natGcScan_moves now s maxSlots grace).fresh hs h
  | delAll => exact natTableDelAll_fresh h
  | reclaimReverse m =>
      have hmoves : NatMoves now 0 0 s (natReverseDqReclaim m s) := natReverseDqReclaim_moves m s
      exact hmoves.fresh hs h
  | reclaimForward m => exact h

theorem natTrack_fresh {j : Nat} (hhz : 0 < hz) (hd : d ≤ now) (tcp : TcpHdr)
    (payloadLen : BitVec 16) (isReply : Bool) (h : NatOutlives d i s) :
    NatOutlives d i (natTrack hz now s j tcp payloadLen isReply) := by
  unfold natTrack natSetConntrack
  refine h.update fun hold => ?_
  cases isReply with
  | false => exact lt_tcpConntrackLan hhz hd hold tcp payloadLen
  | true => exact lt_tcpConntrackWan hhz hd hold tcp payloadLen

/-- Tracking changes neither a key nor whether a slot is filled. -/
theorem natTrack_inv {j : Nat} (hhz : 0 < hz) (tcp : TcpHdr) (payloadLen : BitVec 16)
    (isReply : Bool) (h : NatInv s) : NatInv (natTrack hz now s j tcp payloadLen isReply) := by
  have hentry : ∀ k, ((natTrack hz now s j tcp payloadLen isReply).addrTable k).isFill
        = (s.addrTable k).isFill ∧
      (natTrack hz now s j tcp payloadLen isReply).fkey k = s.fkey k ∧
      (natTrack hz now s j tcp payloadLen isReply).rkey k = s.rkey k := by
    intro k
    unfold natTrack natSetConntrack NatCcb.fkey NatCcb.rkey
    by_cases hk : k = j
    · subst hk
      simp only [Function.update_self, AddrTable.forwardKey, AddrTable.reverseKey, and_self]
    · simp only [Function.update_of_ne hk, and_self]
  refine ⟨h.conserved, ?_, ?_, ?_⟩
  · intro k hk
    rw [(hentry k).1]
    exact h.free k hk
  · intro k hk
    obtain ⟨hready, harmed⟩ := h.linked k hk
    refine ⟨(hentry k).1.trans hready, ?_⟩
    have hfresh : NatOutlives 0 k s := fun _ => Nat.pos_of_ne_zero harmed
    exact Nat.ne_of_gt (natTrack_fresh hhz (Nat.zero_le now) tcp payloadLen isReply hfresh hk)
  · exact h.paired.congr fun k _ => (hentry k).2

/-! ### A look at a slot -/

/-- Whatever the look finds, a key leads to the slot only if its deadline is past `t₀`. -/
theorem natGcVisit_fresh (ht : t₀ ≤ now) (h : NatInv s) (reclaimed m : Nat) :
    NatOutlives t₀ (natGcIdx start m) (natGcVisit now start (reclaimed, s) m).2 := by
  generalize hidx : natGcIdx start m = idx
  unfold natGcVisit
  dsimp only
  rw [hidx]
  split
  · rename_i hskip
    intro hi
    have harmed := (h.linked idx hi).2
    show t₀ < s.natExpireAt idx
    omega
  · split
    · rename_i hfree
      intro hi
      exact absurd (h.linked idx hi).1 hfree
    · -- linked or not, it is not any more: its stored key is the one that led to it
      intro hi
      obtain ⟨r, hr⟩ := Rte.Hash.exists_lookup_of_mem_values hi
      obtain ⟨hne, hr⟩ := Rte.Hash.lookup_of_delKey hr
      exact absurd (h.paired.ofRev r idx hr).1 hne

/-- A look is a scan of one slot. -/
theorem natGcVisit_move (now : Nat) (start : BitVec 32) (t : Nat × NatCcb) (m : Nat) :
    NatMoves now (start + BitVec.ofNat 32 m) 1 t.2 (natGcVisit now start t m).2 := by
  have hsame : natGcVisit now start t m = natGcVisit now (start + BitVec.ofNat 32 m) t 0 := by
    have hidx : natGcIdx start m = natGcIdx (start + BitVec.ofNat 32 m) 0 := by
      unfold natGcIdx
      rw [show BitVec.ofNat 32 0 = 0#32 from rfl, BitVec.add_zero]
    unfold natGcVisit
    rw [hidx]
  rw [hsame]
  exact natGcVisit_moves Nat.one_pos t

/-- The first `k` looks of an uninterrupted scan. -/
theorem natGcVisits_fresh (ht : t₀ ≤ now) (k : Nat) (hk : k ≤ n) (reclaimed : Nat)
    (h : NatScannable (fun _ => True) now start n s) :
    NatScannable (fun _ => True) now start n
        ((List.range k).foldl (natGcVisit now start) (reclaimed, s)).2 ∧
      ∀ m < k, NatOutlives t₀ (natGcIdx start m)
        ((List.range k).foldl (natGcVisit now start) (reclaimed, s)).2 := by
  induction k with
  | zero =>
      refine ⟨h, ?_⟩
      intro m hm
      exact absurd hm (Nat.not_lt_zero m)
  | succ k ih =>
      obtain ⟨hscan, hfresh⟩ := ih (by omega)
      rw [List.range_succ, List.foldl_append]
      generalize (List.range k).foldl (natGcVisit now start) (reclaimed, s) = t at hscan hfresh ⊢
      have hmoves : NatMoves now start n t.2 (natGcVisit now start t k).2 :=
        natGcVisit_moves (by omega) t
      refine ⟨hmoves.scannable (fun _ _ => trivial) hscan, ?_⟩
      intro m hm
      rcases Nat.lt_succ_iff_lt_or_eq.mp hm with hlt | rfl
      · exact hmoves.fresh hscan.inv.conserved (hfresh m hlt)
      · exact natGcVisit_fresh ht hscan.inv t.1 m

theorem natGcFinish_moves (now : Nat) (start : BitVec 32) (n : Nat) (grace : NatGrace)
    (t : Nat × NatCcb) : NatMoves now start n t.2 (natGcFinish grace t) := by
  have hcount : NatMoves now start n t.2
      { t.2 with natGcReclaimed := t.2.natGcReclaimed + t.1 } :=
    .single (.count t.2 t.2.natEnospc _ t.2.natGcCounter t.2.natForwardHash.dq)
  exact hcount.trans ((natReverseDqReclaim_moves grace.gcReverse _).trans
    (natForwardDqReclaim_moves grace.gcForward _))

theorem natGcScanByCcb_eq (now : Nat) (s : NatCcb) (maxSlots : BitVec 32) (grace : NatGrace) :
    (natGcScanByCcb now s maxSlots grace).2 = natGcFinish grace
      ((List.range maxSlots.toNat).foldl (natGcVisit now s.natGcCounter)
        (0, { s with natGcCounter := s.natGcCounter + maxSlots })) := rfl

/-- A whole scan leaves fresh whatever it looked at. -/
theorem natGcScanByCcb_fresh {maxSlots : BitVec 32} (ht : t₀ ≤ now) (grace : NatGrace)
    (h : NatScannable (fun _ => True) now s.natGcCounter maxSlots.toNat s) {m : Nat}
    (hm : m < maxSlots.toNat) :
    NatOutlives t₀ (natGcIdx s.natGcCounter m) (natGcScanByCcb now s maxSlots grace).2 := by
  have hcursor : NatMoves now s.natGcCounter maxSlots.toNat s
      { s with natGcCounter := s.natGcCounter + maxSlots } :=
    .single (.count s s.natEnospc s.natGcReclaimed _ s.natForwardHash.dq)
  obtain ⟨hscan, hfresh⟩ := natGcVisits_fresh ht maxSlots.toNat (Nat.le_refl _) 0
    (hcursor.scannable (fun _ _ => trivial) h)
  rw [natGcScanByCcb_eq]
  exact (natGcFinish_moves now s.natGcCounter maxSlots.toNat grace _).fresh hscan.inv.conserved
    (hfresh m hm)

/-! ### The call an allocation makes

Learning scans at most once, when an allocation finds the ring empty: after that the ring is
empty only if the call is over.
-/

/-- One scan is made on the way from `s₀` to `s`, with moves before it and after it. -/
structure NatCollected (now : Nat) (start : BitVec 32) (n : Nat) (s₀ s : NatCcb) : Prop where
  slots : n = natGcScanChunk.toNat
  scan : ∃ s₁ grace, s₁.natGcCounter = start ∧ NatMoves now start n s₀ s₁ ∧
    NatMoves now start n (natGcScanByCcb now s₁ natGcScanChunk grace).2 s

/-- The cursor is where it was, or one scan has moved it on. -/
def NatCursor (now : Nat) (start : BitVec 32) (n : Nat) (s₀ s : NatCcb) : Prop :=
  (s.natGcCounter = start ∧ NatMoves now start n s₀ s) ∨
    (s.natGcCounter = start + natGcScanChunk ∧ NatCollected now start n s₀ s)

theorem NatCursor.tail (h : NatCursor now start n s₀ s) (hmove : NatMove now start n s s')
    (hcursor : s'.natGcCounter = s.natGcCounter) : NatCursor now start n s₀ s' := by
  rcases h with ⟨hsame, hmoves⟩ | ⟨hmoved, hslots, s₁, grace, hs₁, hbefore, hafter⟩
  · exact Or.inl ⟨hcursor.trans hsame, hmoves.tail hmove⟩
  · exact Or.inr ⟨hcursor.trans hmoved, hslots, s₁, grace, hs₁, hbefore, hafter.tail hmove⟩

theorem natReverseDqReclaim_counter (m : Nat) (s : NatCcb) :
    (natReverseDqReclaim m s).natGcCounter = s.natGcCounter := by
  refine Rte.dqReclaim_inv (fun t => t.natGcCounter = s.natGcCounter) ?_ m s rfl
  intro t i t' ht hpop
  obtain ⟨rest, -, rfl⟩ := natReversePop_eq_some.mp hpop
  exact ht

theorem natGcVisit_counter (now : Nat) (start : BitVec 32) (t : Nat × NatCcb) (m : Nat) :
    (natGcVisit now start t m).2.natGcCounter = t.2.natGcCounter := by
  unfold natGcVisit
  dsimp only
  split
  · rfl
  · split
    · rfl
    · rfl

theorem natGcScanByCcb_counter (now : Nat) (s : NatCcb) (maxSlots : BitVec 32)
    (grace : NatGrace) :
    (natGcScanByCcb now s maxSlots grace).2.natGcCounter = s.natGcCounter + maxSlots := by
  have hvisits : ∀ (ms : List Nat) (t : Nat × NatCcb),
      (ms.foldl (natGcVisit now s.natGcCounter) t).2.natGcCounter = t.2.natGcCounter := by
    intro ms
    induction ms with
    | nil => exact fun _ => rfl
    | cons m rest ih => exact fun t => (ih _).trans (natGcVisit_counter now _ t m)
  show (natReverseDqReclaim grace.gcReverse _).natGcCounter = _
  rw [natReverseDqReclaim_counter]
  exact hvisits _ _

theorem natGcScanChunk_ne (x : BitVec 32) : x + natGcScanChunk ≠ x := by
  intro heq
  exact absurd (BitVec.add_right_eq_self.mp heq) (by decide)

/-- An allocation collects, if it must and the call has not yet, and takes what the ring has. -/
theorem natSlotAlloc_cursor (hcur : NatCursor now start n s₀ s) (hscan : NatMayScan start n s)
    (grace : NatGrace) :
    ∃ s₁, NatMoves now start n s s₁ ∧ NatCursor now start n s₀ s₁ ∧
      natSlotAlloc now s grace = match s₁.natFreeRing.dequeue with
        | some (idx, ring) => (some idx, { s₁ with natFreeRing := ring })
        | none => (none, s₁) := by
  unfold natSlotAlloc
  cases hdeq : s.natFreeRing.dequeue with
  | some t =>
      refine ⟨s, .refl, hcur, ?_⟩
      rw [hdeq]
  | none =>
      obtain ⟨rfl, rfl⟩ := hscan.scan (Rte.Ring.dequeue_eq_none.mp hdeq)
      have hreclaim : NatMoves now s.natGcCounter natGcScanChunk.toNat
          (natGcScanByCcb now s natGcScanChunk grace).2
          (natReverseDqReclaim grace.allocReverse
            (natGcScanByCcb now s natGcScanChunk grace).2) :=
        natReverseDqReclaim_moves grace.allocReverse _
      refine ⟨_, (natGcScan_moves now s natGcScanChunk grace).trans hreclaim, ?_, rfl⟩
      rcases hcur with ⟨-, hmoves⟩ | ⟨hmoved, -⟩
      · refine Or.inr ⟨?_, rfl, s, grace, rfl, hmoves, hreclaim⟩
        rw [natReverseDqReclaim_counter, natGcScanByCcb_counter]
      · exact absurd hmoved.symm (natGcScanChunk_ne _)

/-- What an attempt at a port has done with the cursor. -/
def NatAttemptedOnce (hz now : Nat) (start : BitVec 32) (n : Nat) (flow : NatForwardKey)
    (s₀ : NatCcb) : NatAttempt → Prop
  | .done learned => ∃ s₁, NatCursor now start n s₀ s₁ ∧
      learned.ccb.natGcCounter = s₁.natGcCounter ∧ NatEnding hz now flow s₁ learned
  | .nextNatPort s₁ => NatCursor now start n s₀ s₁ ∧ NatMayScan start n s₁

theorem natInsert_once (hz : Nat) (hcur : NatCursor now start n s₀ s)
    (hscan : NatMayScan start n s) (origin : NatOrigin) (flow : NatForwardKey)
    (natPort : BitVec 16) (chance : NatChance) :
    NatAttemptedOnce hz now start n flow s₀
      (natInsert hz now s origin flow natPort chance) := by
  unfold natInsert
  dsimp only
  split
  · exact ⟨s, hcur, rfl, .known ‹_›⟩
  · rename_i hf
    split
    · split
      · exact ⟨s, hcur, rfl, .same ‹_› ‹_›⟩
      · exact ⟨hcur, hscan⟩
    · rename_i hr
      obtain ⟨s₁, hmoves, hcur₁, halloc⟩ := natSlotAlloc_cursor hcur hscan chance.grace
      rw [halloc]
      have hf₁ : s₁.natForwardHash.lookup flow = none := hmoves.forward_none hf
      have hr₁ : s₁.natReverseHash.lookup (flow.reverse natPort) = none := hmoves.reverse_none hr
      cases hdeq : s₁.natFreeRing.dequeue with
      | none => exact ⟨s₁, hcur₁, rfl, .failed⟩
      | some t =>
          obtain ⟨idx, ring⟩ := t
          dsimp only
          split
          · -- The slot goes back, and so the ring is not empty at the next port.
            have hback := natGiveBack_move hz now start n origin flow natPort hdeq
            have hcap : 0 < s₁.natFreeRing.cap := hmoves.cap.symm ▸ hscan.cap
            refine ⟨hcur₁.tail hback rfl, hback.cap.symm ▸ hcap, ?_⟩
            intro hnil
            obtain ⟨rest, -, rfl⟩ := Rte.Ring.dequeue_eq_some.mp hdeq
            have hring : 0 < ({ s₁.natFreeRing with items := rest } : Rte.Ring).cap := hcap
            exact absurd hnil (Rte.Ring.enqueue_ne_nil hring idx)
          · rename_i rev hradd
            split
            · exact ⟨s₁, hcur₁, rfl, .unpublished hr₁ hdeq hradd⟩
            · exact ⟨s₁, hcur₁, rfl, .published hf₁ hr₁ hdeq hradd ‹_›⟩

theorem natTryPort_once (hz : Nat) (hcur : NatCursor now start n s₀ s)
    (hscan : NatMayScan start n s) (origin : NatOrigin) (flow : NatForwardKey)
    (natPort : BitVec 16) (chance : NatChance) :
    NatAttemptedOnce hz now start n flow s₀
      (natTryPort hz now s origin flow natPort chance) := by
  unfold natTryPort
  dsimp only
  split
  · exact ⟨hcur, hscan⟩
  · split
    · exact natInsert_once hz hcur hscan origin flow natPort chance
    · rename_i i hr
      split
      · exact ⟨s, hcur, rfl, .same hr ‹_›⟩
      · split
        · exact ⟨hcur, hscan⟩
        · rename_i hexp
          have hevict : NatMove now start n s (natEntryDelKeys s i).2 :=
            .evict hr (by simpa [natEntryIsExpired] using hexp)
          exact natInsert_once hz (hcur.tail hevict rfl) ⟨hscan.cap, hscan.scan⟩ origin flow
            natPort chance

theorem natWalkPorts_once (hz : Nat) (origin : NatOrigin) (flow : NatForwardKey)
    (startNatPort : BitVec 16) (chances : BitVec 16 → NatChance) (fuel : Nat)
    (hcur : NatCursor now start n s₀ s) (hscan : NatMayScan start n s) (natPort : BitVec 16) :
    NatAttemptedOnce hz now start n flow s₀
      (.done (natWalkPorts hz now origin flow startNatPort chances fuel s natPort)) := by
  induction fuel generalizing s natPort with
  | zero => exact ⟨s, hcur, rfl, .failed⟩
  | succ fuel ih =>
      have hattempt := natTryPort_once hz hcur hscan origin flow natPort (chances natPort)
      rw [natWalkPorts]
      cases htry : natTryPort hz now s origin flow natPort (chances natPort) with
      | done learned =>
          rw [htry] at hattempt
          exact hattempt
      | nextNatPort s₁ =>
          rw [htry] at hattempt
          obtain ⟨hcur₁, hscan₁⟩ := hattempt
          dsimp only
          split
          · exact ⟨s₁, hcur₁, rfl, .failed⟩
          · exact ih hcur₁ hscan₁ (nextNatPort natPort)

/-- **Learning scans at most once**, and then from where the cursor was. -/
theorem natLearn_once (crc : BitVec 32 → BitVec 32 → BitVec 32) (hz now : Nat)
    (hcap : 0 < s.natFreeRing.cap) (origin : NatOrigin) (flow : NatForwardKey)
    (chances : BitVec 16 → NatChance) :
    NatAttemptedOnce hz now s.natGcCounter (natLearnScans s flow) flow s
      (.done (natLearn crc hz now s origin flow chances)) := by
  unfold natLearn natLearningPortReuse
  dsimp only
  split
  · exact ⟨s, Or.inl ⟨rfl, .refl⟩, rfl, .known ‹_›⟩
  · rename_i hf
    refine natWalkPorts_once hz origin flow _ chances natPortRange (Or.inl ⟨rfl, .refl⟩)
      ⟨hcap, ?_⟩ _
    intro hnil
    exact ⟨rfl, if_pos ⟨hf, hnil⟩⟩

theorem NatCollected.conserved (hcol : NatCollected now start n s₀ s) (h : NatConserved s₀) :
    NatConserved s := by
  obtain ⟨-, s₁, grace, -, hbefore, hafter⟩ := hcol
  exact hafter.conserved ((natGcScan_moves now s₁ natGcScanChunk grace).conserved
    (hbefore.conserved h))

/-- What the scan of an allocation looked at is fresh when learning is over. -/
theorem NatCollected.fresh (hcol : NatCollected now start n s₀ s) (ht : t₀ ≤ now)
    (h : NatScannable (fun _ => True) now start n s₀) {m : Nat}
    (hm : m < natGcScanChunk.toNat) : NatOutlives t₀ (natGcIdx start m) s := by
  obtain ⟨rfl, s₁, grace, rfl, hbefore, hafter⟩ := hcol
  have hscan := hbefore.scannable (fun _ _ => trivial) h
  exact hafter.fresh ((natGcScan_moves now s₁ natGcScanChunk grace).conserved hscan.inv.conserved)
    (natGcScanByCcb_fresh ht grace hscan hm)

/-! ### The round -/

theorem natReverseLookup_counter (hz now : Nat) (s : NatCcb) (natPort : BitVec 16)
    (remoteIp : BitVec 32) (remotePort : BitVec 16) :
    (natReverseLookup hz now s natPort remoteIp remotePort).2.natGcCounter = s.natGcCounter := by
  unfold natReverseLookup
  split
  · rfl
  · split
    · rfl
    · rfl

/-- What a step does to the cursor, the set-back of a full deletion apart. -/
theorem natStep_counter (crc : BitVec 32 → BitVec 32 → BitVec 32) (hz : Nat)
    (hs : NatConserved s) (l : NatLabel) (hall : l.op ≠ .delAll)
    (hchunk : ∀ maxSlots grace, l.op = .gcScan maxSlots grace → maxSlots = natGcScanChunk) :
    (natStep crc hz s l).natGcCounter = s.natGcCounter ∨
      (natStep crc hz s l).natGcCounter = s.natGcCounter + natGcScanChunk := by
  obtain ⟨now, op⟩ := l
  cases op with
  | learn origin flow chances =>
      obtain ⟨s₁, hcur, hend, -⟩ := natLearn_once crc hz now hs.cap_pos origin flow chances
      rcases hcur with ⟨hsame, -⟩ | ⟨hmoved, -⟩
      · exact Or.inl (hend.trans hsame)
      · exact Or.inr (hend.trans hmoved)
  | reverseLookup natPort remoteIp remotePort =>
      exact Or.inl (natReverseLookup_counter hz now s natPort remoteIp remotePort)
  | gcScan maxSlots grace =>
      refine Or.inr ?_
      show (natGcScanByCcb now s maxSlots grace).2.natGcCounter = _
      rw [natGcScanByCcb_counter, hchunk maxSlots grace rfl]
  | delAll => exact absurd rfl hall
  | reclaimReverse m => exact Or.inl (natReverseDqReclaim_counter m s)
  | reclaimForward m => exact Or.inl rfl

/-- A full deletion unlinks everything. -/
theorem NatSwept.fresh (hswept : NatSwept s s' maxNatEntries) (h : NatInv s) (d i : Nat) :
    NatOutlives d i s' := by
  intro hi
  obtain ⟨r, hr⟩ := Rte.Hash.exists_lookup_of_mem_values hi
  obtain ⟨hs, hle⟩ := hswept.reverse r i hr
  have hlt : i < maxNatEntries := h.conserved.value_lt (Rte.Hash.mem_values_of_lookup hs)
  omega

theorem natDelAll_fresh (h : NatInv s) (d i : Nat) :
    NatOutlives d i (natTableDelAllEntriesFromHash s) :=
  natResetCounters_fresh ((natDelAllVisits_swept h maxNatEntries).fresh h d i)

/-- Moving the cursor changes nothing that the invariant speaks of. -/
theorem NatInv.setCounter (h : NatInv s) (counter : BitVec 32) :
    NatInv { s with natGcCounter := counter } :=
  ⟨h.conserved, h.free, h.linked, h.paired⟩

/-- No look deletes, with the keys of a stale slot, those of two different mappings. -/
def NatGcApart (s : ScanState NatCcb) : ScanAct NatGrace NatPoolOp → Prop
  | .turn c => ∀ call, s.calls[c]? = some call → call.turn < natGcScanChunk.toNat →
      NatSafeScan (fun _ => True) call.now (call.start + BitVec.ofNat 32 call.turn) 1 s.pool
  | .op (.op l) => NatStaleApart s.pool l
  | _ => True

/-- Every scan is of a chunk of slots. -/
def NatPoolOp.InChunks : NatPoolOp → Prop
  | .op l => ∀ maxSlots grace, l.op = .gcScan maxSlots grace → maxSlots = natGcScanChunk
  | .track _ _ _ _ _ => True

/-- The clock reads `t₀` or more, and every scan is of a chunk of slots. -/
def NatGcSince (t₀ : Nat) : ScanAct NatGrace NatPoolOp → Prop
  | .fetch now => t₀ ≤ now
  | .op o => t₀ ≤ o.now ∧ o.InChunks
  | _ => True

theorem natGcScan_fits (crc : BitVec 32 → BitVec 32 → BitVec 32) (hz : Nat) :
    (natGcScan crc hz).Fits := by
  refine ⟨?_, ?_, ?_⟩
  · show 0 < natGcScanChunk.toNat
    decide
  · show natGcScanChunk.toNat ∣ maxNatEntries
    decide
  · show maxNatEntries ∣ 4294967296
    decide

theorem natGcScan_fetches (crc : BitVec 32 → BitVec 32 → BitVec 32) (hz : Nat) :
    (natGcScan crc hz).Fetches where
  fetch _ := rfl
  visit := natGcVisit_counter
  finish grace _ := natReverseDqReclaim_counter grace.gcReverse _

/-- A scan of no slots is safe. -/
theorem NatSafeScan.zero {may : Nat → Prop} : NatSafeScan may now start 0 s := by
  intro j hit
  obtain ⟨m, hm, -⟩ := hit.inRange
  exact absurd hm (Nat.not_lt_zero m)

/-- One step of the interleaving keeps the invariant. -/
theorem natGcStep_inv (crc : BitVec 32 → BitVec 32 → BitVec 32) (hhz : 0 < hz)
    (s : ScanState NatCcb) (a : ScanAct NatGrace NatPoolOp) (h : NatInv s.pool)
    (hguard : NatGcApart s a) : NatInv ((natGcScan crc hz).step s a).pool := by
  refine CursorScan.step_pool a h (h.setCounter _) ?_ ?_ ?_
  · intro c call ha hc hturn
    subst ha
    have hscan : NatScannable (fun _ => True) call.now
        (call.start + BitVec.ofNat 32 call.turn) 1 s.pool := ⟨h, hguard call hc hturn⟩
    exact ((natGcVisit_move call.now call.start (call.count, s.pool) call.turn).scannable
      (fun _ _ => trivial) hscan).inv
  · intro grace count
    exact ((natGcFinish_moves 0 0 0 grace (count, s.pool)).scannable
      (fun _ _ => trivial) ⟨h, .zero⟩).inv
  · intro o ha
    subst ha
    cases o with
    | op l => exact natStep_inv (fun _ _ _ => trivial) crc hhz l h hguard
    | track now j tcp payloadLen isReply => exact natTrack_inv hhz tcp payloadLen isReply h

/-- And it leaves fresh what is fresh. -/
theorem natGcStep_fresh (crc : BitVec 32 → BitVec 32 → BitVec 32) (hhz : 0 < hz)
    (s : ScanState NatCcb) (a : ScanAct NatGrace NatPoolOp) (hs : NatConserved s.pool)
    (hsince : NatGcSince d a) (h : NatOutlives d i s.pool) :
    NatOutlives d i ((natGcScan crc hz).step s a).pool := by
  have hset : ∀ counter, NatOutlives d i { s.pool with natGcCounter := counter } := fun _ => h
  refine CursorScan.step_pool a h (hset _) ?_ ?_ ?_
  · intro c call _ _ _
    exact (natGcVisit_move call.now call.start (call.count, s.pool) call.turn).fresh hs h
  · intro grace count
    exact (natGcFinish_moves 0 0 0 grace (count, s.pool)).fresh hs h
  · intro o ha
    subst ha
    cases o with
    | op l => exact natStep_fresh crc hhz l hsince.1 hs h
    | track now j tcp payloadLen isReply => exact natTrack_fresh hhz hsince.1 tcp payloadLen isReply h

/-- A call that an operation makes of its own looks at a chunk of slots. -/
theorem natPoolStep_own {crc : BitVec 32 → BitVec 32 → BitVec 32} {o : NatPoolOp}
    (hhz : 0 < hz) (h : NatInv s) (hapart : ∀ l, o = .op l → NatStaleApart s l)
    (hsince : NatGcSince t₀ (.op o))
    (hmoved : (natPoolStep crc hz s o).natGcCounter = s.natGcCounter + natGcScanChunk) {m : Nat}
    (hm : m < natGcScanChunk.toNat) :
    NatOutlives t₀ (natGcIdx s.natGcCounter m) (natPoolStep crc hz s o) := by
  obtain ⟨ht, hchunk⟩ := hsince
  cases o with
  | track now j tcp payloadLen isReply => exact absurd hmoved.symm (natGcScanChunk_ne _)
  | op l =>
      obtain ⟨now, op⟩ := l
      have hscan : NatScannable (fun _ => True) now s.natGcCounter (natScans s op) s :=
        ⟨h, hapart _ rfl⟩
      cases op with
      | learn origin flow chances =>
          obtain ⟨s₁, hcur, hcounter, hend⟩ :=
            natLearn_once crc hz now h.conserved.cap_pos origin flow chances
          rcases hcur with ⟨hsame, -⟩ | ⟨-, hcol⟩
          · exact absurd (hmoved.symm.trans (hcounter.trans hsame)) (natGcScanChunk_ne _)
          · exact hend.fresh hhz ht (hcol.conserved h.conserved) (hcol.fresh ht hscan hm)
      | reverseLookup natPort remoteIp remotePort =>
          have hsame := natReverseLookup_counter hz now s natPort remoteIp remotePort
          exact absurd (hmoved.symm.trans hsame) (natGcScanChunk_ne _)
      | gcScan maxSlots grace =>
          have hm' : m < maxSlots.toNat := by
            rw [hchunk maxSlots grace rfl]
            exact hm
          exact natGcScanByCcb_fresh ht grace hscan hm'
      | delAll => exact natDelAll_fresh h t₀ _
      | reclaimReverse r =>
          have hsame := natReverseDqReclaim_counter r s
          exact absurd (hmoved.symm.trans hsame) (natGcScanChunk_ne _)
      | reclaimForward r => exact absurd hmoved.symm (natGcScanChunk_ne _)

theorem natGcScan_settles (crc : BitVec 32 → BitVec 32 → BitVec 32) (hhz : 0 < hz) (t₀ : Nat) :
    (natGcScan crc hz).Settles NatInv (NatOutlives t₀) t₀
      (fun s a => NatGcApart s a ∧ NatGcSince t₀ a) where
  inv s a h hguard := natGcStep_inv crc hhz s a h hguard.1
  keep s a i h hguard hfresh := natGcStep_fresh crc hhz s a h.conserved hguard.2 hfresh
  fetch s now hguard := hguard.2
  visit s c call h _ _ _ hnow := natGcVisit_fresh hnow h call.count call.turn
  time s o hguard := hguard.2.1
  own s o h hguard hmoved m hm :=
    natPoolStep_own hhz h (fun l ho => by subst ho; exact hguard.1) hguard.2 hmoved hm
  reset s o h hguard := by
    cases o with
    | track now j tcp payloadLen isReply => exact Or.inl (Or.inl rfl)
    | op l =>
        obtain ⟨-, -, hchunk⟩ := hguard
        by_cases hall : l.op = .delAll
        · obtain ⟨now, op⟩ := l
          obtain rfl : op = .delAll := hall
          exact Or.inr fun i _ => natDelAll_fresh h t₀ i
        · exact Or.inl (natStep_counter crc hz h.conserved l hall hchunk)

/--
**A round of collection reaches every mapping.**  Once a pool's worth of calls have returned,
neither table leads to a slot whose deadline is not past the time the round began at.
-/
theorem natGc_round {crc : BitVec 32 → BitVec 32 → BitVec 32} (hhz : 0 < hz)
    {ls : List (ScanAct NatGrace NatPoolOp)} {s s' : ScanState NatCcb} (h : NatInv s.pool)
    (hrun : Run (natGcScan crc hz).step (fun s a => NatGcApart s a ∧ NatGcSince t₀ a) s ls s')
    (hround : (natGcScan crc hz).Round s s') (hold : s'.pool.natExpireAt i ≤ t₀) :
    (∀ f, s'.pool.natForwardHash.lookup f ≠ some i) ∧
      ∀ r, s'.pool.natReverseHash.lookup r ≠ some i := by
  have hsettles := natGcScan_settles crc hhz t₀
  have hinv : NatInv s'.pool :=
    hrun.inv (fun s => NatInv s.pool) (fun s a hs hguard => hsettles.inv s a hs hguard) h
  have hunlinked : i ∉ s'.pool.natReverseHash.values := by
    intro hi
    have hlt : i < maxNatEntries := hinv.conserved.value_lt hi
    have hfresh : NatOutlives t₀ i s'.pool := hsettles.round (natGcScan_fits crc hz)
      (natGcScan_fetches crc hz) h hrun hround hlt
    exact absurd (hfresh hi) (Nat.not_lt.mpr hold)
  exact ⟨fun f hf => hunlinked (hinv.paired.mem_values hf),
    fun r hr => hunlinked (Rte.Hash.mem_values_of_lookup hr)⟩

/-- The calls of the round look at each slot once, if no full deletion sets the cursor back. -/
theorem natGc_looksOnce {crc : BitVec 32 → BitVec 32 → BitVec 32} (hhz : 0 < hz)
    {ls : List (ScanAct NatGrace NatPoolOp)} {s s' : ScanState NatCcb} (h : NatInv s.pool)
    (hrun : Run (natGcScan crc hz).step (fun s a => NatGcApart s a ∧ NatGcSince t₀ a) s ls s')
    (hround : (natGcScan crc hz).Round s s')
    (hall : ∀ l, ScanAct.op (.op l) ∈ ls → l.op ≠ .delAll) :
    (natGcScan crc hz).LooksOnce s s' := by
  have hsettles := natGcScan_settles crc hhz t₀
  have hrun' := hrun.and_labels (Q := fun a => ∀ l, a = .op (.op l) → l.op ≠ .delAll)
    fun a ha l heq => hall l (heq ▸ ha)
  have hfits := natGcScan_fits crc hz
  refine (CursorScan.Consecutive.run hfits (natGcScan_fetches crc hz)
    (fun s a hs hguard => hsettles.inv s a hs hguard.1) ?_ h hrun').looksOnce hfits hround.begun
  intro s o hs hguard
  obtain ⟨⟨-, -, hchunk⟩, hkeep⟩ := hguard
  cases o with
  | track now j tcp payloadLen isReply => exact Or.inl rfl
  | op l => exact natStep_counter crc hz hs.conserved l (hkeep l rfl) hchunk

end FastRG
