/-
A live flow keeps its translation.

Once learning has given a flow a port, the flow is found in one slot from both sides.
As long as the slot's deadline is ahead of the clock, the two keys that lead to it are
out of reach: an eviction asks for an expired mapping, and the scan for an expired slot.
Only a stale slot can do harm, by storing the keys of the flow's own past, so the guard
also asks that what a stale slot's keys lead to has expired.

From there the rest follows.  A packet from the remote end is led to the flow's slot,
the flow learns its own port again, and nobody else can: two flows with one port towards
one destination would be two slots under one reverse key.
-/
import FastRG.Proofs.NatAgreement

namespace FastRG

/-! ### What stability is -/

/-- No stale slot a step may scan names the keys of a mapping that has not expired. -/
def NatStaleExpired : NatCcb → NatLabel → Prop := NatGuard fun now d => d ≤ now

/-- At time `t`, `flow` is translated to `natPort`, and to nobody else. -/
structure NatTranslates (crc : BitVec 32 → BitVec 32 → BitVec 32) (hz t : Nat)
    (guard : NatCcb → NatLabel → Prop) (s : NatCcb) (flow : NatForwardKey) (natPort : BitVec 16) :
    Prop where
  inbound : ∃ i s', natReverseLookup hz t s natPort flow.dstIp flow.dstPort = (some i, s') ∧
    (s'.addrTable i).srcIp = flow.srcIp ∧ (s'.addrTable i).srcPort = flow.srcPort
  outbound : ∀ origin chances, (natLearn crc hz t s origin flow chances).natPort = natPort
  exclusive : ∀ origin flow' chances, flow' ≠ flow → flow'.dstIp = flow.dstIp →
    flow'.dstPort = flow.dstPort → guard s ⟨t, .learn origin flow' chances⟩ →
    (natLearn crc hz t s origin flow' chances).natPort ≠ natPort

/-- A step that does not delete everything, made before slot `i` expires. -/
def NatBefore (guard : NatCcb → NatLabel → Prop) (i : Nat) (s : NatCcb) (l : NatLabel) : Prop :=
  guard s l ∧ l.op ≠ .delAll ∧ l.now < s.natExpireAt i

/--
Whenever a flow has been given a port, it keeps it for as long as the deadline of its
slot is ahead of the clock, whatever else happens under the guard.
-/
def NatStable (crc : BitVec 32 → BitVec 32 → BitVec 32) (hz : Nat)
    (guard : NatCcb → NatLabel → Prop) (ccb : NatCcb) : Prop :=
  ∀ ls₀ s₀ now origin flow chances,
    Run (natStep crc hz) guard (natTableInit ccb) ls₀ s₀ →
    guard s₀ ⟨now, .learn origin flow chances⟩ →
    (natLearn crc hz now s₀ origin flow chances).natPort ≠ 0 →
    ∃ i, (natLearn crc hz now s₀ origin flow chances).outEntry = some i ∧
      ∀ ls₁ s₁, Run (natStep crc hz) (NatBefore guard i)
          (natLearn crc hz now s₀ origin flow chances).ccb ls₁ s₁ →
        ∀ t, (ls₀.map NatLabel.now ++ now :: ls₁.map NatLabel.now ++ [t]).Pairwise (· ≤ ·) →
          t < s₁.natExpireAt i →
          NatTranslates crc hz t guard s₁ flow
            (natLearn crc hz now s₀ origin flow chances).natPort

/-! ### The two keys of a live flow -/

/-- The flow and the port both lead to slot `i`. -/
structure NatLinked (flow : NatForwardKey) (natPort : BitVec 16) (i : Nat) (s : NatCcb) : Prop where
  forward : s.natForwardHash.lookup flow = some i
  reverse : s.natReverseHash.lookup (flow.reverse natPort) = some i

variable {hz now n i j : Nat} {start : BitVec 32} {s s' t : NatCcb} {flow flow' : NatForwardKey}
  {natPort : BitVec 16}

namespace NatLinked

theorem mem_values (h : NatLinked flow natPort i s) : i ∈ s.natReverseHash.values :=
  Rte.Hash.mem_values_of_lookup h.reverse

/-- Dropping a slot whose keys lead only to what has expired. -/
theorem delKeys (h : NatLinked flow natPort i s) (hlive : now < s.natExpireAt i)
    (hsafe : NatSafe (fun d => d ≤ now) s j) :
    NatLinked flow natPort i (natEntryDelKeys s j).2 := by
  refine ⟨?_, ?_⟩
  · show (s.natForwardHash.delKey (s.fkey j)).2.lookup flow = some i
    rw [Rte.Hash.lookup_delKey_ne]
    · exact h.forward
    · intro heq
      subst heq
      have hle := hsafe.may i (hsafe.same.symm.trans h.forward)
      omega
  · show (s.natReverseHash.delKey (s.rkey j)).2.lookup (flow.reverse natPort) = some i
    rw [Rte.Hash.lookup_delKey_ne]
    · exact h.reverse
    · intro heq
      have hle := hsafe.may i (heq ▸ h.reverse)
      omega

theorem elsewhere (h : NatLinked flow natPort i s) (helse : NatElsewhere j s t) :
    NatLinked flow natPort i t ∧ t.natExpireAt i = s.natExpireAt i :=
  ⟨⟨(helse.forward _).trans h.forward, (helse.reverse _).trans h.reverse⟩,
    helse.expire i (helse.ne_of_value h.mem_values)⟩

end NatLinked

/-- A linked slot, ahead of the clock. -/
def NatLive (flow : NatForwardKey) (natPort : BitVec 16) (i now : Nat) (s : NatCcb) : Prop :=
  NatLinked flow natPort i s ∧ now < s.natExpireAt i

theorem NatLive.elsewhere (h : NatLive flow natPort i now s) (helse : NatElsewhere j s t) :
    NatLive flow natPort i now t := by
  obtain ⟨hlinked, hexp⟩ := h.1.elsewhere helse
  exact ⟨hlinked, hexp ▸ h.2⟩

theorem NatLive.delKeys (h : NatLive flow natPort i now s)
    (hsafe : NatSafe (fun d => d ≤ now) s j) :
    NatLive flow natPort i now (natEntryDelKeys s j).2 :=
  ⟨h.1.delKeys h.2 hsafe, h.2⟩

theorem NatLive.refresh (h : NatLive flow natPort i now s) (hz now' j : Nat) :
    NatLive flow natPort i now (natEntryRefresh hz now' s j) := by
  refine ⟨⟨h.1.forward, h.1.reverse⟩, ?_⟩
  show now < Function.update s.natExpireAt j _ i
  by_cases hij : i = j
  · subst hij
    rw [Function.update_self]
    exact Nat.lt_of_lt_of_le h.2 (le_natExpireRefresh ..)
  · rw [Function.update_of_ne hij]
    exact h.2

/-! ### Moves and endings keep a live flow -/

theorem NatMove.live (hmove : NatMove now start n s s')
    (hscan : NatScannable (fun d => d ≤ now) now start n s)
    (h : NatLive flow natPort i now s) : NatLive flow natPort i now s' := by
  cases hmove with
  | count => exact ⟨⟨h.1.forward, h.1.reverse⟩, h.2⟩
  | evict hk hexp => exact h.delKeys (hscan.safe_evict (fun _ hd => hd) hk hexp)
  | collect hit => exact h.delKeys (hscan.inv.safe_of_hit hscan.scan (fun _ hd => hd) hit)
  | reclaim hpop => exact h.elsewhere (natElsewhere_reclaim hscan.inv.conserved hpop)
  | giveBack hdeq he =>
      exact h.elsewhere (natElsewhere_giveBack _ hscan.inv.conserved hdeq he)

theorem NatMoves.live (hmoves : NatMoves now start n s s')
    (hscan : NatScannable (fun d => d ≤ now) now start n s)
    (h : NatLive flow natPort i now s) : NatLive flow natPort i now s' := by
  induction hmoves with
  | refl => exact h
  | tail hmoves hmove ih => exact hmove.live (NatMoves.scannable hmoves (fun _ hd => hd) hscan) ih

theorem NatEnding.live {learned : NatLearned} (hend : NatEnding hz now flow' s learned)
    (hinv : NatInv s) (h : NatLive flow natPort i now s) :
    NatLive flow natPort i now learned.ccb := by
  cases hend with
  | known _ => exact h.refresh hz now _
  | same _ _ => exact h.refresh hz now _
  | failed => exact ⟨⟨h.1.forward, h.1.reverse⟩, h.2⟩
  | @unpublished j natPort' ring origin rev room hr hdeq hadd =>
      have helse := natElsewhere_fill hz now origin flow' natPort' hinv.conserved hdeq
        (fun _ => rfl)
      obtain ⟨hlinked, hlive⟩ := h.elsewhere helse
      refine ⟨⟨hlinked.forward, ?_⟩, hlive⟩
      show (rev.delKey _).2.lookup _ = some i
      have hne : flow.reverse natPort ≠ flow'.reverse natPort' := by
        intro heq
        simp [← heq, h.1.reverse] at hr
      rw [Rte.Hash.lookup_delKey_ne _ hne, Rte.Hash.lookup_addKeyData hadd, if_neg hne]
      exact h.1.reverse
  | @published j natPort' ring origin rev fwd room room' hf hr hdeq hradd hfadd =>
      have helse := natElsewhere_fill hz now origin flow' natPort' hinv.conserved hdeq
        (fun _ => rfl)
      obtain ⟨hlinked, hlive⟩ := h.elsewhere helse
      refine ⟨⟨?_, ?_⟩, hlive⟩
      · show fwd.lookup flow = some i
        have hne : flow ≠ flow' := by
          intro heq
          subst heq
          simp [h.1.forward] at hf
        rw [Rte.Hash.lookup_addKeyData hfadd, if_neg hne]
        exact h.1.forward
      · show rev.lookup _ = some i
        have hne : flow.reverse natPort ≠ flow'.reverse natPort' := by
          intro heq
          simp [← heq, h.1.reverse] at hr
        rw [Rte.Hash.lookup_addKeyData hradd, if_neg hne]
        exact h.1.reverse

theorem natReverseLookup_live (hinv : NatInv s) (h : NatLive flow natPort i now s)
    (port : BitVec 16) (remoteIp : BitVec 32) (remotePort : BitVec 16) :
    NatLive flow natPort i now (natReverseLookup hz now s port remoteIp remotePort).2 := by
  unfold natReverseLookup
  split
  · exact h
  · rename_i j hr
    split
    · rename_i hexp
      have hle : s.natExpireAt j ≤ now := by
        simp only [natEntryIsExpired, gt_iff_lt, decide_eq_true_eq] at hexp
        omega
      exact h.delKeys (hinv.safe_of_linked (Rte.Hash.mem_values_of_lookup hr) hle)
    · exact h.refresh hz now j

/-- A step before the deadline keeps the flow linked. -/
theorem natStep_live (crc : BitVec 32 → BitVec 32 → BitVec 32) (l : NatLabel) (hinv : NatInv s)
    (hguard : NatBefore NatStaleExpired i s l) (h : NatLinked flow natPort i s) :
    NatLive flow natPort i l.now (natStep crc hz s l) := by
  obtain ⟨hsafe, hdel, hlive⟩ := hguard
  obtain ⟨now, op⟩ := l
  have hscan : NatScannable (fun d => d ≤ now) now s.natGcCounter (natScans s op) s := ⟨hinv, hsafe⟩
  have h : NatLive flow natPort i now s := ⟨h, hlive⟩
  cases op with
  | learn origin flow' chances =>
      obtain ⟨s₁, hmoves, hend⟩ := natLearn_moves crc hz now hinv.conserved.cap_pos origin
        flow' chances
      exact hend.live (hmoves.scannable (fun _ hd => hd) hscan).inv (hmoves.live hscan h)
  | reverseLookup port remoteIp remotePort =>
      exact natReverseLookup_live hinv h port remoteIp remotePort
  | gcScan maxSlots grace => exact (natGcScan_moves now s maxSlots grace).live hscan h
  | delAll => exact absurd rfl hdel
  | reclaimReverse m => exact (natReverseDqReclaim_moves m s).live hscan h
  | reclaimForward m => exact (natForwardDqReclaim_moves m s).live hscan h

/-! ### What learning returns -/

/-- The flow a matching entry stores is the flow. -/
theorem forwardKey_of_sameFlow {e : AddrTable} (h : natEntrySameFlow e natPort flow = true) :
    e.forwardKey = flow ∧ e.natPort = natPort := by
  unfold natEntrySameFlow at h
  simp only [Bool.and_eq_true, decide_eq_true_eq] at h
  obtain ⟨⟨⟨⟨hport, hsrcIp⟩, hsrcPort⟩, hdstIp⟩, hdstPort⟩ := h
  refine ⟨?_, hport⟩
  unfold AddrTable.forwardKey
  rw [hsrcIp, hsrcPort, hdstIp, hdstPort]

/-- The reverse key of a linked slot, written with the flow. -/
theorem rkey_eq_reverse (h : s.fkey i = flow) :
    s.rkey i = flow.reverse (s.addrTable i).natPort := by
  subst h
  rfl

/-- A port other than zero comes with the slot that both keys lead to. -/
theorem NatEnding.linked {learned : NatLearned} (hend : NatEnding hz now flow s learned)
    (hinv : NatInv s) (hport : learned.natPort ≠ 0) :
    ∃ i, learned.outEntry = some i ∧ NatLinked flow learned.natPort i learned.ccb := by
  cases hend with
  | @known i hf =>
      obtain ⟨hkey, hr⟩ := hinv.paired.ofFwd flow i hf
      rw [rkey_eq_reverse hkey.symm] at hr
      exact ⟨i, rfl, hf, hr⟩
  | @same i port hr hsame =>
      obtain ⟨hkey, -⟩ := forwardKey_of_sameFlow hsame
      have hf := (hinv.paired.ofRev _ _ hr).2
      rw [show s.fkey i = flow from hkey] at hf
      exact ⟨i, rfl, hf, hr⟩
  | failed => exact absurd rfl hport
  | unpublished _ _ _ => exact absurd rfl hport
  | @published i port ring origin rev fwd room room' hf hr hdeq hradd hfadd =>
      refine ⟨i, rfl, ?_, ?_⟩
      · show fwd.lookup flow = some i
        rw [Rte.Hash.lookup_addKeyData hfadd, if_pos rfl]
      · show rev.lookup _ = some i
        rw [Rte.Hash.lookup_addKeyData hradd, if_pos rfl]

/-! ### Stability -/

theorem NatLive.translates (crc : BitVec 32 → BitVec 32 → BitVec 32) {t : Nat} (hhz : 0 < hz)
    (hnonzero : natPort ≠ 0) (hinv : NatInv s) (h : NatLive flow natPort i t s) :
    NatTranslates crc hz t NatStaleExpired s flow natPort := by
  obtain ⟨hkey, -⟩ := hinv.paired.ofFwd flow i h.1.forward
  have hport : (s.addrTable i).natPort = natPort := by
    have hr := (hinv.paired.ofRev _ _ h.1.reverse).1
    exact (congrArg NatReverseKey.natPort hr).symm
  constructor
  · -- Not expired, so the lookup answers with the slot and refreshes it.
    have hlookup : s.natReverseHash.lookup ⟨flow.dstIp, natPort, flow.dstPort⟩ = some i :=
      h.1.reverse
    have hexp : natEntryIsExpired t s i = false := by
      simp only [natEntryIsExpired, gt_iff_lt, decide_eq_false_iff_not]
      have := h.2
      omega
    refine ⟨i, natEntryRefresh hz t s i, ?_, ?_, ?_⟩
    · simp only [natReverseLookup, hlookup, hexp, Bool.false_eq_true, if_false]
    · exact (congrArg NatForwardKey.srcIp hkey).symm
    · exact (congrArg NatForwardKey.srcPort hkey).symm
  · intro origin chances
    have hlookup : s.natForwardHash.lookup ⟨flow.srcIp, flow.dstIp, flow.srcPort, flow.dstPort⟩
        = some i := h.1.forward
    simp only [natLearn, natLearningPortReuse, hlookup, natReuse, hport]
  · -- Both flows would be linked under one reverse key.
    intro origin flow' chances hne hip hdst hguard heq
    obtain ⟨s₁, hmoves, hend⟩ := natLearn_moves crc hz t hinv.conserved.cap_pos origin
      flow' chances
    have hscan : NatScannable (fun d => d ≤ t) t s.natGcCounter (natLearnScans s flow') s :=
      ⟨hinv, hguard⟩
    have hscan₁ := hmoves.scannable (fun _ hd => hd) hscan
    have hinv' := hend.inv hhz hscan₁.inv
    obtain ⟨hlinked, -⟩ := hend.live hscan₁.inv (hmoves.live hscan h)
    obtain ⟨j, -, hlinked'⟩ := hend.linked hscan₁.inv (heq.symm ▸ hnonzero)
    rw [heq] at hlinked'
    have hrev : flow'.reverse natPort = flow.reverse natPort := by
      unfold NatForwardKey.reverse
      rw [hip, hdst]
    have hji : j = i := by
      have hr := hlinked'.reverse
      rw [hrev, hlinked.reverse] at hr
      exact (Option.some.inj hr).symm
    subst hji
    rw [(hinv'.paired.ofFwd _ _ hlinked.forward).1] at hne
    exact hne (hinv'.paired.ofFwd _ _ hlinked'.forward).1

/--
**A live flow keeps its translation.**  In every run from a fresh table in which no step
may scan a stale slot that names the keys of a mapping still alive, a flow that has been
given a port keeps it, alone, for as long as its deadline is ahead of the clock.
-/
theorem natStable_of_guard (crc : BitVec 32 → BitVec 32 → BitVec 32) (hz : Nat) (hhz : 0 < hz)
    (ccb : NatCcb) : NatStable crc hz NatStaleExpired ccb := by
  intro ls₀ s₀ now origin flow chances hrun hguard hport
  have hmay : ∀ now d : Nat, d ≤ now → d ≤ now := fun _ _ hd => hd
  have hinv₀ : NatInv s₀ := natRun_inv hmay hhz ccb hrun
  obtain ⟨s', hmoves, hend⟩ := natLearn_moves crc hz now hinv₀.conserved.cap_pos origin
    flow chances
  have hscan : NatScannable (fun d => d ≤ now) now s₀.natGcCounter (natLearnScans s₀ flow) s₀ :=
    ⟨hinv₀, hguard⟩
  have hinv' := (hmoves.scannable (fun _ hd => hd) hscan).inv
  generalize natLearn crc hz now s₀ origin flow chances = learned at hend hport ⊢
  obtain ⟨i, hout, hlinked⟩ := hend.linked hinv' hport
  refine ⟨i, hout, ?_⟩
  intro ls₁ s₁ hrun₁ t _ ht
  -- Between the learning and `t`, the invariant and the two keys are kept step by step.
  have hkept : NatInv s₁ ∧ NatLinked flow learned.natPort i s₁ := by
    refine hrun₁.inv (fun s => NatInv s ∧ NatLinked flow learned.natPort i s) ?_
      ⟨hend.inv hhz hinv', hlinked⟩
    intro s l ⟨hinv, hl⟩ hbefore
    exact ⟨natStep_inv hmay crc hhz l hinv hbefore.1, (natStep_live crc l hinv hbefore hl).1⟩
  exact NatLive.translates crc hhz hport hkept.1 ⟨hkept.2, ht⟩

set_option maxRecDepth 8000 in
/-- The first flow of a fresh table is translated a thousand cycles later. -/
theorem natStable_first_flow :
    NatTranslates rteHashCrc4byte 2000000000 1000 NatStaleExpired
      (natLearn rteHashCrc4byte 2000000000 0 (natTableInit natBlank) ⟨0x020000000001, 17⟩ natFlowA
        fun _ => ⟨⟨0, 0, 0⟩, true, true⟩).ccb natFlowA 0x4704 := by
  obtain ⟨i, hout, hstable⟩ := natStable_of_guard rteHashCrc4byte 2000000000 (by decide)
    natBlank [] _ 0 ⟨0x020000000001, 17⟩ natFlowA (fun _ => ⟨⟨0, 0, 0⟩, true, true⟩) .nil
    (.of_dq_nil rfl) (by rw [natTableInit_eq]; decide)
  have hstable := hstable [] _ .nil 1000 (by decide)
  rw [natTableInit_eq] at hout hstable ⊢
  obtain rfl : i = 0 := Option.some.inj (hout.symm.trans (by decide))
  have htranslates := hstable (by decide)
  rwa [show (_ : NatLearned).natPort = 0x4704 by decide] at htranslates

set_option maxRecDepth 8000 in
/--
A flow that expired and was unlinked comes back and is given a new slot under its old
keys.  The next collection comes across the old slot, which still awaits reclaim, and
deletes them; the flow's deadline is ten seconds ahead, and nothing leads to it.
-/
theorem natStable_broken :
    ¬ NatStable rteHashCrc4byte 2000000000 (fun _ _ => True) natBlank := by
  intro h
  obtain ⟨i, hout, hstable⟩ := h
    [⟨0, .learnUdp natFlowA⟩, ⟨30000000000, .reverseLookup 0x4704 0x22d8b85d 0xbb01⟩] _
    30000000000 ⟨0x020000000001, 17⟩ natFlowA (fun _ => ⟨⟨0, 0, 0⟩, true, true⟩)
    (.of_labels _ _ fun _ _ _ => trivial) trivial (by rw [natTableInit_eq]; decide)
  rw [natTableInit_eq] at hout hstable
  obtain rfl : i = 1 := Option.some.inj (hout.symm.trans (by decide))
  have hcollected := hstable [⟨30000000000, .gcScan 512 ⟨0, 0, 0⟩⟩] _
    (.single _ ⟨trivial, nofun, by decide⟩) 30000000000 (by decide) (by decide)
  obtain ⟨j, s', hlookup, -⟩ := hcollected.inbound
  have hfound := (congrArg (fun r => r.1.isSome) hlookup).trans Option.isSome_some
  exact absurd hfound (by decide)

end FastRG
