/-
The two tables and the pool agree, as long as no stale slot is scanned.

A slot whose keys were deleted keeps everything it stored until it is reclaimed: it
is still marked ready, and its deadline is still the old one.  A scan that comes
across it deletes its two keys again.  Mostly they are gone and nothing happens; but a
newer flow may have taken one of them, and then that flow loses one key and keeps the
other.  `natAgrees_broken` is such a run.

The condition that rules it out is about the state an operation begins in: whenever it
may scan a slot that awaits reclaim, the two keys stored there lead to the same place.
Under it, `NatInv` is an invariant of every operation, and agreement follows.
-/
import FastRG.Proofs.NatPool
import FastRG.Lib.TwoIndex

namespace FastRG

/-! ### What agreement is -/

/-- The forward table, the reverse table and the pool agree. -/
structure NatAgrees (s : NatCcb) : Prop where
  both : ∀ i, (∃ f, s.natForwardHash.lookup f = some i) ↔
    ∃ r, s.natReverseHash.lookup r = some i
  forward : ∀ f i, s.natForwardHash.lookup f = some i → (s.addrTable i).forwardKey = f
  reverse : ∀ r i, s.natReverseHash.lookup r = some i → (s.addrTable i).reverseKey = r
  ready : ∀ r i, s.natReverseHash.lookup r = some i → (s.addrTable i).isFill = .ready
  away : ∀ r i, s.natReverseHash.lookup r = some i →
    i ∉ s.natFreeRing.items ∧ i ∉ s.natReverseHash.dq

/-! ### When a scan is safe -/

/-- How many slots an operation that begins in `s` may scan. -/
def natScans (s : NatCcb) : NatOp → Nat
  | .learn _ flow _ => natLearnScans s flow
  | .gcScan maxSlots _ => maxSlots.toNat
  | _ => 0

/--
The two keys slot `i` stores lead to the same slot, or both to none, and `may` allows
the deadline of the slot they lead to.
-/
structure NatSafe (may : Nat → Prop) (s : NatCcb) (i : Nat) : Prop where
  same : s.natForwardHash.lookup (s.fkey i) = s.natReverseHash.lookup (s.rkey i)
  may : ∀ a, s.natReverseHash.lookup (s.rkey i) = some a → may (s.natExpireAt a)

/-- Every slot that awaits reclaim and that a scan would hit is safe to delete. -/
def NatSafeScan (may : Nat → Prop) (now : Nat) (start : BitVec 32) (n : Nat) (s : NatCcb) : Prop :=
  ∀ i, NatHit now start n s i → i ∈ s.natReverseHash.dq → NatSafe may s i

/-- The condition on a step: what it may scan is safe. -/
def NatGuard (may : Nat → Nat → Prop) (s : NatCcb) (l : NatLabel) : Prop :=
  NatSafeScan (may l.now) l.now s.natGcCounter (natScans s l.op) s

/-- No stale slot a step may scan names keys of two different mappings. -/
def NatStaleApart : NatCcb → NatLabel → Prop := NatGuard fun _ _ => True

/-- With nothing awaiting reclaim, every step is safe. -/
theorem NatGuard.of_dq_nil {may : Nat → Nat → Prop} {s : NatCcb} {l : NatLabel}
    (h : s.natReverseHash.dq = []) : NatGuard may s l := by
  intro i _ hi
  simp [h] at hi

/-! ### The invariant -/

/-- What every state of a guarded run satisfies. -/
structure NatInv (s : NatCcb) : Prop where
  conserved : NatConserved s
  free : ∀ i ∈ s.natFreeRing.items, (s.addrTable i).isFill = .free
  linked : ∀ i ∈ s.natReverseHash.values,
    (s.addrTable i).isFill = .ready ∧ s.natExpireAt i ≠ 0
  paired : Rte.Paired s.natForwardHash s.natReverseHash s.fkey s.rkey

variable {hz now n : Nat} {start : BitVec 32} {s s' : NatCcb} {may : Nat → Prop} {i : Nat}

namespace NatInv

theorem agrees (h : NatInv s) : NatAgrees s where
  both i := by
    refine ⟨?_, ?_⟩
    · intro hex
      obtain ⟨f, hf⟩ := hex
      exact ⟨_, (h.paired.ofFwd f i hf).2⟩
    · intro hex
      obtain ⟨r, hr⟩ := hex
      exact ⟨_, (h.paired.ofRev r i hr).2⟩
  forward f i hf := (h.paired.ofFwd f i hf).1.symm
  reverse r i hr := (h.paired.ofRev r i hr).1.symm
  ready r i hr := (h.linked i (Rte.Hash.mem_values_of_lookup hr)).1
  away r i hr := by
    have hmem : i ∈ s.natReverseHash.values := Rte.Hash.mem_values_of_lookup hr
    exact ⟨h.conserved.value_not_free hmem, h.conserved.value_not_dq hmem⟩

theorem init (ccb : NatCcb) : NatInv (natTableInit ccb) where
  conserved := natTableInit_conserved ccb
  free i hi := by
    have hlt : i < maxNatEntries := (natTableInit_conserved ccb).free_lt hi
    show (if i < maxNatEntries then { ccb.addrTable i with isFill := .free }
      else ccb.addrTable i).isFill = .free
    rw [if_pos hlt]
  linked i hi := by
    rw [natTableInit_reverseHash] at hi
    simp at hi
  paired := by
    rw [natTableInit_reverseHash, natTableInit_forwardHash]
    exact .of_none Rte.Hash.lookup_empty Rte.Hash.lookup_empty

/-- The values left by a deletion were there before it. -/
theorem mem_values_delKeys {j : Nat} (h : j ∈ (natEntryDelKeys s i).2.natReverseHash.values) :
    j ∈ s.natReverseHash.values := by
  obtain ⟨k, hk⟩ := Rte.Hash.exists_lookup_of_mem_values h
  exact Rte.Hash.mem_values_of_lookup (Rte.Hash.lookup_of_delKey hk).2

/-- Deleting the keys of a slot that is safe to delete. -/
theorem delKeys (h : NatInv s) (hsafe : NatSafe may s i) : NatInv (natEntryDelKeys s i).2 where
  conserved := natEntryDelKeys_conserved h.conserved i
  free := h.free
  linked j hj := h.linked j (mem_values_delKeys hj)
  paired := h.paired.erase hsafe.same

/-- The slot a lookup leads to is safe to delete. -/
theorem safe_of_linked (h : NatInv s) (hi : i ∈ s.natReverseHash.values)
    (hmay : may (s.natExpireAt i)) : NatSafe may s i := by
  obtain ⟨r, hr⟩ := Rte.Hash.exists_lookup_of_mem_values hi
  obtain ⟨hf, hrev⟩ := h.paired.same_of_linked hr
  refine ⟨hf.trans hrev.symm, ?_⟩
  intro a ha
  rw [hrev] at ha
  obtain rfl := Option.some.inj ha
  exact hmay

/-- A slot the scan hits is linked, or awaits reclaim: it is not free. -/
theorem safe_of_hit (h : NatInv s) (hscan : NatSafeScan may now start n s)
    (hmay : ∀ d, d ≤ now → may d) (hit : NatHit now start n s i) : NatSafe may s i := by
  have hlt : i < maxNatEntries := by
    obtain ⟨m, -, rfl⟩ := hit.inRange
    exact Nat.mod_lt _ (by decide)
  rcases h.conserved.cases_of_lt hlt with hfree | hvalue | hdq
  · have hready := hit.ready
    simp [h.free i hfree] at hready
  · exact h.safe_of_linked hvalue (hmay _ hit.expired)
  · exact hscan i hit hdq

end NatInv

/-! ### A move that touches one unlinked slot -/

/-- `t` is `s` but for slot `i`, which no key leads to. -/
structure NatElsewhere (i : Nat) (s t : NatCcb) : Prop where
  unlinked : i ∉ s.natReverseHash.values
  table : ∀ j, j ≠ i → t.addrTable j = s.addrTable j
  expire : ∀ j, j ≠ i → t.natExpireAt j = s.natExpireAt j
  forward : ∀ k, t.natForwardHash.lookup k = s.natForwardHash.lookup k
  reverse : ∀ k, t.natReverseHash.lookup k = s.natReverseHash.lookup k
  ring : ∀ j ∈ t.natFreeRing.items, j ≠ i → j ∈ s.natFreeRing.items
  free : i ∈ t.natFreeRing.items → (t.addrTable i).isFill = .free

namespace NatElsewhere

variable {t : NatCcb}

theorem ne_of_lookup (h : NatElsewhere i s t) {k : NatReverseKey} {a : Nat}
    (hk : s.natReverseHash.lookup k = some a) : a ≠ i := by
  intro heq
  subst heq
  exact h.unlinked (Rte.Hash.mem_values_of_lookup hk)

theorem ne_of_value (h : NatElsewhere i s t) {a : Nat} (ha : a ∈ s.natReverseHash.values) :
    a ≠ i := by
  intro heq
  subst heq
  exact h.unlinked ha

theorem mem_values (h : NatElsewhere i s t) {a : Nat} (ha : a ∈ t.natReverseHash.values) :
    a ∈ s.natReverseHash.values := by
  obtain ⟨k, hk⟩ := Rte.Hash.exists_lookup_of_mem_values ha
  rw [h.reverse] at hk
  exact Rte.Hash.mem_values_of_lookup hk

theorem free_entry (h : NatElsewhere i s t) (hs : NatInv s) {j : Nat}
    (hj : j ∈ t.natFreeRing.items) : (t.addrTable j).isFill = .free := by
  by_cases hji : j = i
  · subst hji
    exact h.free hj
  · rw [h.table j hji]
    exact hs.free j (h.ring j hj hji)

theorem linked_entry (h : NatElsewhere i s t) (hs : NatInv s) {j : Nat}
    (hj : j ∈ s.natReverseHash.values) :
    (t.addrTable j).isFill = .ready ∧ t.natExpireAt j ≠ 0 := by
  rw [h.table j (h.ne_of_value hj), h.expire j (h.ne_of_value hj)]
  exact hs.linked j hj

theorem paired (h : NatElsewhere i s t) (hs : NatInv s) :
    Rte.Paired t.natForwardHash t.natReverseHash t.fkey t.rkey := by
  have hlookup : Rte.Paired t.natForwardHash t.natReverseHash s.fkey s.rkey :=
    hs.paired.of_lookup h.forward h.reverse
  refine hlookup.congr ?_
  intro j hj
  have hji := h.ne_of_value (h.mem_values hj)
  simp only [NatCcb.fkey, NatCcb.rkey, h.table j hji, and_self]

theorem inv (h : NatElsewhere i s t) (hs : NatInv s) (ht : NatConserved t) : NatInv t :=
  ⟨ht, fun _ hj => h.free_entry hs hj, fun _ hj => h.linked_entry hs (h.mem_values hj),
    h.paired hs⟩

theorem safe (h : NatElsewhere i s t) {j : Nat} (hji : j ≠ i) (hsafe : NatSafe may s j) :
    NatSafe may t j := by
  have hfkey : t.fkey j = s.fkey j := by simp only [NatCcb.fkey, h.table j hji]
  have hrkey : t.rkey j = s.rkey j := by simp only [NatCcb.rkey, h.table j hji]
  refine ⟨?_, ?_⟩
  · rw [hfkey, hrkey, h.forward, h.reverse]
    exact hsafe.same
  · intro a ha
    rw [hrkey, h.reverse] at ha
    rw [h.expire a (h.ne_of_lookup ha)]
    exact hsafe.may a ha

theorem safeScan (h : NatElsewhere i s t)
    (hdq : ∀ j ∈ t.natReverseHash.dq, j ≠ i ∧ j ∈ s.natReverseHash.dq)
    (hscan : NatSafeScan may now start n s) : NatSafeScan may now start n t := by
  intro j hit hj
  obtain ⟨hji, hj⟩ := hdq j hj
  obtain ⟨hrange, harmed, hexpired, hready⟩ := hit
  rw [h.expire j hji] at harmed hexpired
  rw [h.table j hji] at hready
  exact h.safe hji (hscan j ⟨hrange, harmed, hexpired, hready⟩ hj)

end NatElsewhere

/-- A slot the callback reclaims awaited it, so no key led to it. -/
theorem natElsewhere_reclaim {s₁ : NatCcb} (h : NatConserved s)
    (hpop : natReversePop s = some (i, s₁)) :
    NatElsewhere i s (natReverseHashFreeCb s₁ i) := by
  obtain ⟨rest, hdq, rfl⟩ := natReversePop_eq_some.mp hpop
  constructor
  · intro hvalue
    exact h.value_not_dq hvalue (by simp [NatCcb.pool, hdq])
  · intro j hji
    exact Function.update_of_ne hji _ _
  · intro j hji
    exact Function.update_of_ne hji _ _
  · intro k
    rfl
  · intro k
    rfl
  · intro j hj hji
    exact (Rte.Ring.mem_of_mem_enqueue hj).resolve_left hji
  · intro _
    show (Function.update s.addrTable i { s.addrTable i with isFill := .free } i).isFill = .free
    rw [Function.update_self]

/-- A slot that was free, so that no key led to it, and is again. -/
theorem natElsewhere_giveBack {ring : Rte.Ring} {e : AddrTable} (deadline : Nat)
    (h : NatConserved s) (hdeq : s.natFreeRing.dequeue = some (i, ring)) (he : e.isFill = .free) :
    NatElsewhere i s { s with
      addrTable := Function.update s.addrTable i e
      natExpireAt := Function.update s.natExpireAt i deadline
      natFreeRing := ring.enqueue i } := by
  obtain ⟨rest, hitems, rfl⟩ := Rte.Ring.dequeue_eq_some.mp hdeq
  constructor
  · intro hvalue
    exact h.value_not_free hvalue (by simp [NatCcb.pool, hitems])
  · intro j hji
    exact Function.update_of_ne hji _ _
  · intro j hji
    exact Function.update_of_ne hji _ _
  · intro k
    rfl
  · intro k
    rfl
  · intro j hj hji
    have hmem : j ∈ rest := (Rte.Ring.mem_of_mem_enqueue hj).resolve_left hji
    rw [hitems]
    exact List.mem_cons_of_mem _ hmem
  · intro _
    show (Function.update s.addrTable i e i).isFill = .free
    rw [Function.update_self, he]

/-! ### One move keeps the invariant -/

/-- What is deferred after a deletion was deferred before, or is the slot that was found. -/
theorem mem_dq_delKeys {j : Nat} (h : j ∈ (natEntryDelKeys s i).2.natReverseHash.dq) :
    j ∈ s.natReverseHash.dq ∨ s.natReverseHash.lookup (s.rkey i) = some j := by
  have hdq : (natEntryDelKeys s i).2.natReverseHash.dq
      = s.natReverseHash.dq ++ (s.natReverseHash.lookup (s.rkey i)).toList :=
    Rte.Hash.delKey_dq _ _
  rw [hdq, List.mem_append] at h
  exact h.imp_right fun hj => by simpa using hj

/-- A safe deletion does not make another scan unsafe. -/
theorem NatSafeScan.delKeys (hscan : NatSafeScan may now start n s) (h : NatInv s)
    (hsafe : NatSafe may s i) : NatSafeScan may now start n (natEntryDelKeys s i).2 := by
  intro j hit hj
  rcases mem_dq_delKeys hj with hj | hj
  · have hsafe' := hscan j ⟨hit.inRange, hit.armed, hit.expired, hit.ready⟩ hj
    refine ⟨h.paired.same_erase hsafe.same hsafe'.same, ?_⟩
    intro a ha
    exact hsafe'.may a (Rte.Hash.lookup_of_delKey ha).2
  · -- The slot just unlinked: its own keys are the ones that were deleted.
    have hr : s.rkey i = s.rkey j := (h.paired.ofRev _ _ hj).1
    have hf : s.fkey i = s.fkey j := (h.paired.ofFwd _ _ (hsafe.same.trans hj)).1
    have hrev : (natEntryDelKeys s i).2.natReverseHash.lookup (s.rkey j) = none := by
      rw [← hr]
      exact Rte.Hash.lookup_delKey_self _ _
    have hfwd : (natEntryDelKeys s i).2.natForwardHash.lookup (s.fkey j) = none := by
      rw [← hf]
      exact Rte.Hash.lookup_delKey_self _ _
    refine ⟨hfwd.trans hrev.symm, ?_⟩
    intro a ha
    have hnone := hrev.symm.trans ha
    simp at hnone

/-- A state in which everything the scan may come across is safe. -/
structure NatScannable (may : Nat → Prop) (now : Nat) (start : BitVec 32) (n : Nat) (s : NatCcb) :
    Prop where
  inv : NatInv s
  scan : NatSafeScan may now start n s

theorem NatScannable.delKeys (h : NatScannable may now start n s) (hsafe : NatSafe may s i) :
    NatScannable may now start n (natEntryDelKeys s i).2 :=
  ⟨h.inv.delKeys hsafe, h.scan.delKeys h.inv hsafe⟩

/-- The slot a move drops is safe to drop. -/
theorem NatScannable.safe_evict (h : NatScannable may now start n s)
    (hmay : ∀ d, d ≤ now → may d) {k : NatReverseKey} (hk : s.natReverseHash.lookup k = some i)
    (hexp : s.natExpireAt i < now) : NatSafe may s i :=
  h.inv.safe_of_linked (Rte.Hash.mem_values_of_lookup hk) (hmay _ (Nat.le_of_lt hexp))

theorem NatMove.scannable (hmove : NatMove now start n s s') (hmay : ∀ d, d ≤ now → may d)
    (h : NatScannable may now start n s) : NatScannable may now start n s' := by
  have hcons : NatConserved s' := hmove.conserved h.inv.conserved
  cases hmove with
  | count =>
      refine ⟨⟨hcons, h.inv.free, h.inv.linked, ?_⟩, ?_⟩
      · exact h.inv.paired.of_lookup (fun _ => rfl) (fun _ => rfl)
      · intro j hit hj
        obtain ⟨hsame, hmay'⟩ := h.scan j ⟨hit.inRange, hit.armed, hit.expired, hit.ready⟩ hj
        exact ⟨hsame, hmay'⟩
  | evict hk hexp => exact h.delKeys (h.safe_evict hmay hk hexp)
  | collect hit => exact h.delKeys (h.inv.safe_of_hit h.scan hmay hit)
  | @reclaim s₁ i hpop =>
      have helse := natElsewhere_reclaim h.inv.conserved hpop
      refine ⟨helse.inv h.inv hcons, helse.safeScan ?_ h.scan⟩
      intro j hj
      obtain ⟨rest, hdq, rfl⟩ := natReversePop_eq_some.mp hpop
      have hnodup : (i :: rest).Nodup := hdq ▸ h.inv.conserved.dq_nodup
      rw [hdq]
      refine ⟨?_, List.mem_cons_of_mem i hj⟩
      intro heq
      subst heq
      exact (List.nodup_cons.mp hnodup).1 hj
  | @giveBack i ring e deadline hdeq he =>
      have helse := natElsewhere_giveBack deadline h.inv.conserved hdeq he
      refine ⟨helse.inv h.inv hcons, helse.safeScan (fun j hj => ⟨?_, hj⟩) h.scan⟩
      obtain ⟨rest, hitems, -⟩ := Rte.Ring.dequeue_eq_some.mp hdeq
      intro heq
      subst heq
      exact h.inv.conserved.dq_not_free hj (by simp [NatCcb.pool, hitems])

theorem NatMoves.scannable (hmoves : NatMoves now start n s s') (hmay : ∀ d, d ≤ now → may d)
    (h : NatScannable may now start n s) : NatScannable may now start n s' := by
  induction hmoves with
  | refl => exact h
  | tail _ hmove ih => exact hmove.scannable hmay ih

/-! ### An ending keeps the invariant -/

theorem natEntryRefresh_inv (h : NatInv s) (hz now i : Nat) :
    NatInv (natEntryRefresh hz now s i) where
  conserved := h.conserved
  free := h.free
  linked j hj := by
    refine ⟨(h.linked j hj).1, ?_⟩
    have hne := (h.linked j hj).2
    show Function.update s.natExpireAt i _ j ≠ 0
    by_cases hji : j = i
    · subst hji
      have hle := le_natExpireRefresh hz (s.natExpireAt j) (natExpiryCycles hz now)
      rw [Function.update_self]
      omega
    · rw [Function.update_of_ne hji]
      exact hne
  paired := h.paired

/-- A slot taken off the ring and filled in is unlinked, and off the ring. -/
theorem natElsewhere_fill {ring : Rte.Ring} {rev : Rte.Hash NatReverseKey Nat} (hz now : Nat)
    (origin : NatOrigin) (flow : NatForwardKey) (natPort : BitVec 16) (h : NatConserved s)
    (hdeq : s.natFreeRing.dequeue = some (i, ring))
    (hrev : ∀ k, rev.lookup k = s.natReverseHash.lookup k) :
    NatElsewhere i s
      { natFillEntry hz now { s with natFreeRing := ring } i origin flow natPort with
        natReverseHash := rev } := by
  obtain ⟨rest, hitems, rfl⟩ := Rte.Ring.dequeue_eq_some.mp hdeq
  have hi : i ∈ s.natFreeRing.items := by simp [hitems]
  constructor
  · intro hvalue
    exact h.value_not_free hvalue hi
  · intro j hji
    exact Function.update_of_ne hji _ _
  · intro j hji
    exact Function.update_of_ne hji _ _
  · intro k
    rfl
  · exact hrev
  · intro j hj _
    rw [hitems]
    exact List.mem_cons_of_mem _ hj
  · intro hfree
    have hnodup : (i :: rest).Nodup := hitems ▸ h.ring_nodup
    exact absurd hfree (List.nodup_cons.mp hnodup).1

theorem NatEnding.inv {flow : NatForwardKey} {learned : NatLearned} (hhz : 0 < hz)
    (hend : NatEnding hz now flow s learned) (h : NatInv s) : NatInv learned.ccb := by
  have hcons : NatConserved learned.ccb := hend.conserved h.conserved
  cases hend with
  | known _ => exact natEntryRefresh_inv h hz now _
  | same _ _ => exact natEntryRefresh_inv h hz now _
  | failed => exact ⟨hcons, h.free, h.linked, h.paired⟩
  | @unpublished i natPort ring origin rev room hr hdeq hadd =>
      have hrev : ∀ k,
          (rev.delKey (flow.reverse natPort)).2.lookup k = s.natReverseHash.lookup k := by
        intro k
        rw [Rte.Hash.lookup_delKey, Rte.Hash.lookup_addKeyData hadd]
        by_cases hk : k = flow.reverse natPort
        · rw [if_pos hk, hk, hr]
        · rw [if_neg hk, if_neg hk]
      have helse := natElsewhere_fill hz now origin flow natPort h.conserved hdeq hrev
      obtain ⟨-, hfree, hlinked, hpaired⟩ := helse.inv h hcons
      exact ⟨hcons, hfree, hlinked, hpaired⟩
  | @published i natPort ring origin rev fwd room room' hf hr hdeq hradd hfadd =>
      have helse := natElsewhere_fill hz now origin flow natPort h.conserved hdeq (fun _ => rfl)
      refine ⟨hcons, fun j hj => helse.free_entry h hj, ?_, ?_⟩
      · intro j hj
        have hvalues : rev.values = i :: s.natReverseHash.values :=
          Rte.Hash.values_addKeyData hr hradd
        rcases List.mem_cons.mp (hvalues ▸ hj : j ∈ i :: s.natReverseHash.values) with rfl | hj
        · show (Function.update s.addrTable j _ j).isFill = .ready ∧
            Function.update s.natExpireAt j _ j ≠ 0
          rw [Function.update_self, Function.update_self]
          refine ⟨rfl, ?_⟩
          unfold natExpireSet natExpiryCycles natEntryTimeoutSec
          omega
        · exact helse.linked_entry h hj
      · refine (helse.paired h).insert hfadd hradd hf hr ?_ ?_
        · show (Function.update s.addrTable i _ i).forwardKey = flow
          rw [Function.update_self]
          rfl
        · show (Function.update s.addrTable i _ i).reverseKey = flow.reverse natPort
          rw [Function.update_self]
          rfl

/-! ### Deleting everything

Every linked slot is visited with its own keys, so that nothing is left, whatever the
stale slots deleted on the way.
-/

/-- After the slots below `m` have been visited, no key leads to any of them. -/
structure NatSwept (s t : NatCcb) (m : Nat) : Prop where
  table : t.addrTable = s.addrTable
  expire : t.natExpireAt = s.natExpireAt
  ring : t.natFreeRing = s.natFreeRing
  forward : ∀ k i, t.natForwardHash.lookup k = some i →
    s.natForwardHash.lookup k = some i ∧ m ≤ i
  reverse : ∀ k i, t.natReverseHash.lookup k = some i →
    s.natReverseHash.lookup k = some i ∧ m ≤ i

/-- A visit either deletes the slot's own keys, or the slot was not linked to begin with. -/
theorem natDelAllVisit_cases {t : NatCcb} {m : Nat} (h : NatInv s) (ht : NatSwept s t m) :
    natDelAllVisit t m = (natEntryDelKeys t m).2 ∨
      (natDelAllVisit t m = t ∧ m ∉ s.natReverseHash.values) := by
  unfold natDelAllVisit
  split
  · rename_i hzero
    refine Or.inr ⟨rfl, fun hmem => (h.linked m hmem).2 ?_⟩
    rw [← ht.expire]
    exact hzero
  · split
    · exact Or.inl rfl
    · rename_i hfree
      refine Or.inr ⟨rfl, fun hmem => hfree ?_⟩
      rw [ht.table]
      exact (h.linked m hmem).1

theorem natDelAllVisit_swept {t : NatCcb} {m : Nat} (h : NatInv s) (ht : NatSwept s t m) :
    NatSwept s (natDelAllVisit t m) (m + 1) := by
  have hfkey : t.fkey m = s.fkey m := by simp only [NatCcb.fkey, ht.table]
  have hrkey : t.rkey m = s.rkey m := by simp only [NatCcb.rkey, ht.table]
  rcases natDelAllVisit_cases h ht with hdel | ⟨hkeep, hunlinked⟩
  · rw [hdel]
    refine ⟨ht.table, ht.expire, ht.ring, ?_, ?_⟩
    · intro k i hk
      obtain ⟨hne, hk⟩ := Rte.Hash.lookup_of_delKey hk
      obtain ⟨hs, hle⟩ := ht.forward k i hk
      refine ⟨hs, Nat.lt_of_le_of_ne hle ?_⟩
      intro heq
      subst heq
      exact hne (((h.paired.ofFwd k m hs).1).trans hfkey.symm)
    · intro k i hk
      obtain ⟨hne, hk⟩ := Rte.Hash.lookup_of_delKey hk
      obtain ⟨hs, hle⟩ := ht.reverse k i hk
      refine ⟨hs, Nat.lt_of_le_of_ne hle ?_⟩
      intro heq
      subst heq
      exact hne (((h.paired.ofRev k m hs).1).trans hrkey.symm)
  · rw [hkeep]
    refine ⟨ht.table, ht.expire, ht.ring, ?_, ?_⟩
    · intro k i hk
      obtain ⟨hs, hle⟩ := ht.forward k i hk
      refine ⟨hs, Nat.lt_of_le_of_ne hle ?_⟩
      intro heq
      subst heq
      exact hunlinked (h.paired.mem_values hs)
    · intro k i hk
      obtain ⟨hs, hle⟩ := ht.reverse k i hk
      refine ⟨hs, Nat.lt_of_le_of_ne hle ?_⟩
      intro heq
      subst heq
      exact hunlinked (Rte.Hash.mem_values_of_lookup hs)

theorem natDelAllVisits_swept (h : NatInv s) (m : Nat) :
    NatSwept s ((List.range m).foldl natDelAllVisit s) m := by
  induction m with
  | zero =>
      refine ⟨rfl, rfl, rfl, ?_, ?_⟩
      · intro k i hk
        exact ⟨hk, Nat.zero_le i⟩
      · intro k i hk
        exact ⟨hk, Nat.zero_le i⟩
  | succ m ih =>
      rw [List.range_succ, List.foldl_append]
      exact natDelAllVisit_swept h ih

/-- With every slot visited, both tables are empty. -/
theorem NatSwept.inv {t : NatCcb} (ht : NatSwept s t maxNatEntries) (h : NatInv s)
    (hcons : NatConserved t) : NatInv t := by
  have hrev : ∀ k, t.natReverseHash.lookup k = none := by
    intro k
    refine Option.eq_none_iff_forall_ne_some.mpr ?_
    intro i hk
    have hlt : i < maxNatEntries := hcons.value_lt (Rte.Hash.mem_values_of_lookup hk)
    have hle := (ht.reverse k i hk).2
    omega
  have hfwd : ∀ k, t.natForwardHash.lookup k = none := by
    intro k
    refine Option.eq_none_iff_forall_ne_some.mpr ?_
    intro i hk
    obtain ⟨hs, hle⟩ := ht.forward k i hk
    have hlt : i < maxNatEntries := h.conserved.value_lt (h.paired.mem_values hs)
    omega
  refine ⟨hcons, ?_, ?_, .of_none hfwd hrev⟩
  · intro i hi
    rw [ht.table]
    rw [ht.ring] at hi
    exact h.free i hi
  · intro i hi
    obtain ⟨k, hk⟩ := Rte.Hash.exists_lookup_of_mem_values hi
    simp [hrev] at hk

theorem natResetCounters_inv (h : NatInv s) : NatInv (natResetCounters s) :=
  ⟨h.conserved, h.free, h.linked, h.paired⟩

theorem natTableDelAll_inv (h : NatInv s) : NatInv (natTableDelAllEntriesFromHash s) :=
  natResetCounters_inv ((natDelAllVisits_swept h maxNatEntries).inv h
    (natDelAllVisits_conserved (List.range maxNatEntries) h.conserved))

/-! ### Every operation keeps the invariant -/

theorem natReverseLookup_inv (h : NatInv s) (natPort : BitVec 16) (remoteIp : BitVec 32)
    (remotePort : BitVec 16) :
    NatInv (natReverseLookup hz now s natPort remoteIp remotePort).2 := by
  unfold natReverseLookup
  split
  · exact h
  · rename_i i hr
    split
    · have hsafe : NatSafe (fun _ => True) s i :=
        h.safe_of_linked (Rte.Hash.mem_values_of_lookup hr) trivial
      exact h.delKeys hsafe
    · exact natEntryRefresh_inv h hz now i

theorem natStep_inv {may : Nat → Nat → Prop} (hmay : ∀ now d, d ≤ now → may now d)
    (crc : BitVec 32 → BitVec 32 → BitVec 32) (hhz : 0 < hz) (l : NatLabel) (h : NatInv s)
    (hguard : NatGuard may s l) : NatInv (natStep crc hz s l) := by
  obtain ⟨now, op⟩ := l
  have hscan : NatScannable (may now) now s.natGcCounter (natScans s op) s := ⟨h, hguard⟩
  cases op with
  | learn origin flow chances =>
      obtain ⟨s₁, hmoves, hend⟩ := natLearn_moves crc hz now h.conserved.cap_pos origin flow chances
      exact hend.inv hhz (hmoves.scannable (hmay now) hscan).inv
  | reverseLookup natPort remoteIp remotePort =>
      exact natReverseLookup_inv h natPort remoteIp remotePort
  | gcScan maxSlots grace =>
      exact ((natGcScan_moves now s maxSlots grace).scannable (hmay now) hscan).inv
  | delAll => exact natTableDelAll_inv h
  | reclaimReverse m =>
      exact ((natReverseDqReclaim_moves m s).scannable (hmay now) hscan).inv
  | reclaimForward m =>
      exact ((natForwardDqReclaim_moves m s).scannable (hmay now) hscan).inv

/-- The invariant along a guarded run. -/
theorem natRun_inv {may : Nat → Nat → Prop} (hmay : ∀ now d, d ≤ now → may now d)
    {crc : BitVec 32 → BitVec 32 → BitVec 32} (hhz : 0 < hz) {ls : List NatLabel} (ccb : NatCcb)
    (hrun : Run (natStep crc hz) (NatGuard may) (natTableInit ccb) ls s) : NatInv s :=
  hrun.inv NatInv (fun _ l h hguard => natStep_inv hmay crc hhz l h hguard) (NatInv.init ccb)

/--
**The tables and the pool agree.**  In every run from a fresh table, in whatever order
the operations come, in which no step may scan a slot that awaits reclaim and whose two
keys lead to different places, the two tables and the pool agree in every state.
-/
theorem natAgrees_of_run {crc : BitVec 32 → BitVec 32 → BitVec 32} (hhz : 0 < hz)
    {ls : List NatLabel} (ccb : NatCcb)
    (hrun : Run (natStep crc hz) NatStaleApart (natTableInit ccb) ls s) : NatAgrees s :=
  (natRun_inv (fun _ _ _ => trivial) hhz ccb hrun).agrees

/-- A flow from 192.168.1.6, and one from 192.168.1.8 whose first port to try is the same. -/
def natFlowA : NatForwardKey := ⟨0x0601a8c0, 0x22d8b85d, 0xb09c, 0xbb01⟩
def natFlowB : NatForwardKey := ⟨0x0801a8c0, 0x22d8b85d, 0x5c9c, 0xbb01⟩

/-- A flow is learned, and a collection finds it expired: nothing is stale yet. -/
theorem natAgrees_learn_collect :
    NatAgrees (natStep rteHashCrc4byte 2000000000
      (natStep rteHashCrc4byte 2000000000 (natTableInit natBlank) ⟨0, .learnUdp natFlowA⟩)
      ⟨30000000000, .gcScan 512 ⟨0, 0, 0⟩⟩) := by
  have hlearn : Run (natStep rteHashCrc4byte 2000000000) NatStaleApart (natTableInit natBlank)
      [⟨0, .learnUdp natFlowA⟩] (natStep rteHashCrc4byte 2000000000 (natTableInit natBlank)
        ⟨0, .learnUdp natFlowA⟩) :=
    .single _ (.of_dq_nil rfl)
  refine natAgrees_of_run (by decide) natBlank (hlearn.snoc _ (.of_dq_nil ?_))
  rw [natTableInit_eq]
  decide

set_option maxRecDepth 8000 in
/--
A flow expires, a late packet unlinks it, and a second flow takes its port towards the
same destination.  The next collection comes across the first flow's slot, which still
awaits reclaim, and deletes the second flow's reverse key.
-/
theorem natAgrees_broken :
    ¬ ∀ ls s, ls.Pairwise (fun a b : NatLabel => a.now ≤ b.now) →
      Run (natStep rteHashCrc4byte 2000000000) (fun _ _ => True) (natTableInit natBlank) ls s →
      NatAgrees s := by
  intro h
  have hagrees := h
    [⟨0, .learnUdp natFlowA⟩, ⟨30000000000, .reverseLookup 0x4704 0x22d8b85d 0xbb01⟩,
      ⟨30000000000, .learnUdp natFlowB⟩, ⟨30000000000, .gcScan 512 ⟨0, 0, 0⟩⟩] _
    (by decide) (.of_labels _ _ fun _ _ _ => trivial)
  rw [natTableInit_eq] at hagrees
  obtain ⟨r, hr⟩ := (hagrees.both 1).mp ⟨natFlowB, by decide⟩
  exact absurd (Rte.Hash.mem_values_of_lookup hr) (by decide)

end FastRG
