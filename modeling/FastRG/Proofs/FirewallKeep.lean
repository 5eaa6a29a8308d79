/-
A live session is lost only to an eviction, as long as nothing stale is deleted again.

A slot whose key was deleted keeps that key, its deadline and its stamp until it is
reclaimed.  A scan or an eviction that comes across it deletes the key it stores, and if
the same flow has been opened again in the meantime, that is the key of a live session.
`session_lost` is such a run.

The condition that rules it out is about the state a step begins in: no slot that awaits
reclaim, and that the step would scan or evict, stores the key of a session still alive.
Then a session that is unlinked before its deadline was the one with the oldest stamp,
and it was unlinked because there was no free slot even after a collection.
-/
import FastRG.Proofs.FirewallDeny

namespace FastRG

variable {hz now n : Nat} {start : BitVec 32} {s s' t : Ipv6FirewallCcb} {k : Ipv6FirewallKey}
  {i j : Nat}

/-! ### When a step deletes nothing stale -/

/-- A scan of `n` slots that begins at `start` deletes the key of slot `j`. -/
structure FwHit (now : Nat) (start : BitVec 32) (n : Nat) (s : Ipv6FirewallCcb) (j : Nat) :
    Prop where
  inRange : ∃ m < n, ipv6FirewallGcIdx start m = j
  armed : s.expireAt j ≠ 0
  expired : s.expireAt j ≤ now
  ready : (s.table j).isFill = .ready

/-- Slot `j` awaits reclaim, and the key it stores leads to a session that is alive. -/
def FwStale (now : Nat) (s : Ipv6FirewallCcb) (j : Nat) : Prop :=
  j ∈ s.hash.dq ∧ ∃ i, s.hash.lookup (s.table j).key = some i ∧ now < s.expireAt i

/-- Learning the packet opens a session, or tries to. -/
structure Ipv6Packet.Opens (pkt : Ipv6Packet) (s : Ipv6FirewallCcb) : Prop where
  tcp : pkt.proto = ipprotoTcp → tcpHdrLen ≤ pkt.payloadLen
  udp : pkt.proto = ipprotoUdp → udpHdrLen ≤ pkt.payloadLen
  fresh : ∃ key, pkt.key false = some key ∧ s.hash.lookup key = none

/-- The condition on a step: neither its scan nor its eviction comes across a stale slot. -/
structure FwNoStale (s : Ipv6FirewallCcb) (l : Ipv6FirewallLabel) : Prop where
  scan : ∀ maxSlots m, l.op = .gcScan maxSlots m →
    ∀ j, FwHit l.now s.gcCounter maxSlots.toNat s j → ¬ FwStale l.now s j
  alloc : ∀ pkt chance, l.op = .learn pkt chance → pkt.Opens s → s.freeRing.items = [] →
    ∀ j, FwHit l.now s.gcCounter ipv6FirewallGcScanChunk.toNat s j → ¬ FwStale l.now s j
  victim : ∀ pkt chance, l.op = .learn pkt chance → pkt.Opens s → s.freeRing.items = [] →
    chance.gcReclaim = 0 → ¬ FwStale l.now s (ipv6FirewallLruVictim s.lastUsed)

/-! ### What a scan leaves -/

/-- A scan touches the table of sessions only, and there the keys of the slots it hits. -/
structure FwScanned (hit : Nat → Prop) (s t : Ipv6FirewallCcb) : Prop where
  table : t.table = s.table
  expireAt : t.expireAt = s.expireAt
  lastUsed : t.lastUsed = s.lastUsed
  ring : t.freeRing = s.freeRing
  kept : ∀ k i, s.hash.lookup k = some i → (∀ j, hit j → (s.table j).key ≠ k) →
    t.hash.lookup k = some i
  deferred : ∀ j ∈ s.hash.dq, j ∈ t.hash.dq

theorem ipv6FirewallGcVisit_scanned {reclaimed m : Nat} (hm : m < n)
    (h : FwScanned (FwHit now start n s) s t) :
    FwScanned (FwHit now start n s) s (ipv6FirewallGcVisit now start (reclaimed, t) m).2 := by
  unfold ipv6FirewallGcVisit
  dsimp only
  by_cases hskip : t.expireAt (ipv6FirewallGcIdx start m) = 0 ∨
      t.expireAt (ipv6FirewallGcIdx start m) > now
  · rw [if_pos hskip]
    exact h
  · rw [if_neg hskip]
    by_cases hready : (t.table (ipv6FirewallGcIdx start m)).isFill = .ready
    · rw [if_neg (not_not_intro hready)]
      rw [h.expireAt, not_or, Nat.not_lt] at hskip
      rw [h.table] at hready ⊢
      have hit : FwHit now start n s (ipv6FirewallGcIdx start m) :=
        ⟨⟨m, hm, rfl⟩, hskip.1, hskip.2, hready⟩
      refine ⟨h.table, h.expireAt, h.lastUsed, h.ring, ?_, ?_⟩
      · intro k i hk hne
        show (t.hash.delKey _).2.lookup k = some i
        rw [Rte.Hash.lookup_delKey_ne _ (hne _ hit).symm]
        exact h.kept k i hk hne
      · intro j hj
        show j ∈ (t.hash.delKey _).2.dq
        rw [Rte.Hash.delKey_dq]
        exact List.mem_append_left _ (h.deferred j hj)
    · rw [if_pos hready]
      exact h

theorem ipv6FirewallGcVisits_scanned (m : Nat) (hm : m ≤ n) (reclaimed : Nat)
    (hs : FwScanned (FwHit now start n s) s t) :
    FwScanned (FwHit now start n s) s
      ((List.range m).foldl (ipv6FirewallGcVisit now start) (reclaimed, t)).2 := by
  induction m with
  | zero => exact hs
  | succ m ih =>
      rw [List.range_succ, List.foldl_append]
      exact ipv6FirewallGcVisit_scanned hm (ih (by omega))

/-- A collection is a scan, and then a reclaim. -/
theorem ipv6FirewallGcScan_scanned (now : Nat) (s : Ipv6FirewallCcb) (maxSlots : BitVec 32)
    (m : Nat) : ∃ t, FwScanned (FwHit now s.gcCounter maxSlots.toNat s) s t ∧
      (ipv6FirewallGcScanByCcb now s maxSlots m).2 = ipv6FirewallDqReclaim m t := by
  have hstart : FwScanned (FwHit now s.gcCounter maxSlots.toNat s) s
      { s with gcCounter := s.gcCounter + maxSlots } :=
    ⟨rfl, rfl, rfl, rfl, fun _ _ hk _ => hk, fun _ hj => hj⟩
  have hvisits := ipv6FirewallGcVisits_scanned maxSlots.toNat (Nat.le_refl _) 0 hstart
  unfold ipv6FirewallGcScanByCcb
  dsimp only
  generalize (List.range maxSlots.toNat).foldl (ipv6FirewallGcVisit now s.gcCounter)
    (0, { s with gcCounter := s.gcCounter + maxSlots }) = r at hvisits ⊢
  refine ⟨{ r.2 with gcReclaimed := r.2.gcReclaimed + r.1 }, ?_, rfl⟩
  exact ⟨hvisits.table, hvisits.expireAt, hvisits.lastUsed, hvisits.ring, hvisits.kept,
    hvisits.deferred⟩

/-- Unless it is stale, a slot that is hit does not store the key of a live session. -/
theorem FwInv.key_ne_of_hit (h : FwInv s) (hk : s.hash.lookup k = some i)
    (hlive : now < s.expireAt i) (hit : FwHit now start n s j) (hstale : ¬ FwStale now s j) :
    (s.table j).key ≠ k := by
  intro heq
  subst heq
  have hlt : j < ipv6FirewallMaxEntries := by
    obtain ⟨m, -, rfl⟩ := hit.inRange
    exact Nat.mod_lt _ (by decide)
  rcases h.conserved.cases_of_lt hlt with hfree | hvalue | hdq
  · have hready := hit.ready
    simp [h.free j hfree] at hready
  · -- linked, so the key it stores is its own, and its deadline has passed
    obtain ⟨k', hk'⟩ := Rte.Hash.exists_lookup_of_mem_values hvalue
    rw [(h.linked k' j hk').1] at hk
    have hij : j = i := Option.some.inj (hk'.symm.trans hk)
    have hexpired := hit.expired
    rw [hij] at hexpired
    omega
  · exact hstale ⟨hdq, i, hk, hlive⟩

/-! ### Reclaiming -/

theorem ipv6FirewallDqReclaim_lookup (m : Nat) (s : Ipv6FirewallCcb) (k : Ipv6FirewallKey) :
    (ipv6FirewallDqReclaim m s).hash.lookup k = s.hash.lookup k := by
  refine Rte.dqReclaim_inv (fun t => t.hash.lookup k = s.hash.lookup k) ?_ m s rfl
  intro t i t' ht hpop
  obtain ⟨rest, -, rfl⟩ := ipv6FirewallPop_eq_some.mp hpop
  exact ht

theorem ipv6FirewallPop_eq_none (h : ipv6FirewallPop s = none) : s.hash.dq = [] := by
  unfold ipv6FirewallPop Rte.Hash.popDq at h
  cases hdq : s.hash.dq with
  | nil => rfl
  | cons i rest =>
      simp [hdq] at h

/-- A reclaim takes nothing off the ring. -/
theorem ipv6FirewallDqReclaim_ring_ne_nil (m : Nat) (hcap : 0 < s.freeRing.cap)
    (hring : s.freeRing.items ≠ []) : (ipv6FirewallDqReclaim m s).freeRing.items ≠ [] := by
  let I : Ipv6FirewallCcb → Prop := fun t => 0 < t.freeRing.cap ∧ t.freeRing.items ≠ []
  refine (Rte.dqReclaim_inv I ?_ m s ⟨hcap, hring⟩).2
  intro t i t' ht hpop
  obtain ⟨rest, -, rfl⟩ := ipv6FirewallPop_eq_some.mp hpop
  refine ⟨?_, Rte.Ring.enqueue_ne_nil ht.1 i⟩
  show 0 < (t.freeRing.enqueue i).cap
  rw [Rte.Ring.enqueue_cap]
  exact ht.1

/-- A ring that is empty after a reclaim has been given nothing. -/
theorem ipv6FirewallDqReclaim_of_ring_nil {m : Nat} (hcap : 0 < s.freeRing.cap)
    (hring : (ipv6FirewallDqReclaim m s).freeRing.items = []) :
    ipv6FirewallDqReclaim m s = s ∧ (m = 0 ∨ s.hash.dq = []) := by
  cases m with
  | zero => exact ⟨rfl, Or.inl rfl⟩
  | succ m =>
      cases hpop : ipv6FirewallPop s with
      | none =>
          refine ⟨?_, Or.inr (ipv6FirewallPop_eq_none hpop)⟩
          rw [ipv6FirewallDqReclaim, Rte.dqReclaim, hpop]
      | some r =>
          obtain ⟨i, s₁⟩ := r
          obtain ⟨rest, -, rfl⟩ := ipv6FirewallPop_eq_some.mp hpop
          rw [ipv6FirewallDqReclaim, Rte.dqReclaim, hpop] at hring
          refine absurd hring (ipv6FirewallDqReclaim_ring_ne_nil m ?_
            (Rte.Ring.enqueue_ne_nil hcap i))
          show 0 < (s.freeRing.enqueue i).cap
          rw [Rte.Ring.enqueue_cap]
          exact hcap

/-! ### The oldest stamp -/

theorem ipv6FirewallLruSearch_spec (lastUsed : Nat → Nat) (n : Nat) :
    (∀ j < n, lastUsed j ≠ 0 → (ipv6FirewallLruSearch lastUsed n).1 ≤ lastUsed j) ∧
      ((ipv6FirewallLruSearch lastUsed n).2 = ipv6FirewallMaxEntries ∨
        (ipv6FirewallLruSearch lastUsed n).2 < n ∧
          lastUsed (ipv6FirewallLruSearch lastUsed n).2
            = (ipv6FirewallLruSearch lastUsed n).1) := by
  induction n with
  | zero => exact ⟨nofun, Or.inl rfl⟩
  | succ n ih =>
      obtain ⟨hle, hvictim⟩ := ih
      rw [ipv6FirewallLruSearch]
      generalize ipv6FirewallLruSearch lastUsed n = r at hle hvictim ⊢
      unfold ipv6FirewallLruVisit
      dsimp only
      split
      · rename_i hskip
        refine ⟨?_, hvictim.imp_right fun h => ⟨by omega, h.2⟩⟩
        intro j hj hne
        rcases Nat.lt_succ_iff_lt_or_eq.mp hj with hlt | rfl
        · exact hle j hlt hne
        · omega
      · rename_i htake
        refine ⟨?_, Or.inr ⟨Nat.lt_succ_self n, rfl⟩⟩
        intro j hj hne
        rcases Nat.lt_succ_iff_lt_or_eq.mp hj with hlt | rfl
        · have hold := hle j hlt hne
          dsimp only
          omega
        · exact Nat.le_refl _

/-- Among the slots that are stamped, the victim's stamp is the oldest. -/
theorem ipv6FirewallLruVictim_oldest {lastUsed : Nat → Nat}
    (hvictim : ipv6FirewallLruVictim lastUsed ≠ ipv6FirewallMaxEntries) :
    ipv6FirewallLruVictim lastUsed < ipv6FirewallMaxEntries ∧
      ∀ j < ipv6FirewallMaxEntries, lastUsed j ≠ 0 →
        lastUsed (ipv6FirewallLruVictim lastUsed) ≤ lastUsed j := by
  obtain ⟨hle, heq⟩ := ipv6FirewallLruSearch_spec lastUsed ipv6FirewallMaxEntries
  obtain ⟨hlt, hstamp⟩ := heq.resolve_left hvictim
  refine ⟨hlt, ?_⟩
  intro j hj hused
  unfold ipv6FirewallLruVictim
  rw [hstamp]
  exact hle j hj hused

/-- What an eviction unlinks is under the key its victim stores. -/
theorem ipv6FirewallEvictSlot_gone {victim : Nat} (hk : s.hash.lookup k = some i)
    (hgone : (ipv6FirewallEvictSlot s victim).2.hash.lookup k ≠ some i) :
    victim ≠ ipv6FirewallMaxEntries ∧ (s.table victim).isFill = .ready ∧
      (s.table victim).key = k := by
  unfold ipv6FirewallEvictSlot at hgone
  split at hgone
  · exact absurd hk hgone
  · rename_i hne
    split at hgone
    · exact absurd hk hgone
    · rename_i hready
      refine ⟨hne, not_not.mp hready, ?_⟩
      by_contra hkey
      refine hgone ?_
      have hdel : (ipv6FirewallDelKey s (s.table victim).key).2.hash.lookup k = some i := by
        show (s.hash.delKey _).2.lookup k = some i
        rw [Rte.Hash.lookup_delKey_ne _ (Ne.symm hkey)]
        exact hk
      split
      · rename_i t heq
        rw [heq] at hdel
        exact hdel
      · rename_i t heq
        rw [heq] at hdel
        exact hdel

/-! ### What an allocation costs -/

/-- The state in which an allocation that found the ring empty has made its collection. -/
def fwCollected (now : Nat) (s : Ipv6FirewallCcb) (chance : Ipv6FirewallChance) :
    Ipv6FirewallCcb :=
  (ipv6FirewallGcScanByCcb now s ipv6FirewallGcScanChunk chance.gcReclaim).2

/--
The session `k ↦ i` gave way to a new one: there was no free slot, nor after a collection,
and of all the sessions linked then it had the oldest stamp.
-/
structure FwEvicted (now : Nat) (s : Ipv6FirewallCcb) (chance : Ipv6FirewallChance)
    (k : Ipv6FirewallKey) (i : Nat) : Prop where
  empty : s.freeRing.items = []
  stillEmpty : (fwCollected now s chance).freeRing.items = []
  linked : (fwCollected now s chance).hash.lookup k = some i
  unlinked : (ipv6FirewallEvictLru (fwCollected now s chance)).2.hash.lookup k ≠ some i
  oldest : ∀ k' j, (fwCollected now s chance).hash.lookup k' = some j →
    (fwCollected now s chance).lastUsed i ≤ (fwCollected now s chance).lastUsed j

/-- A collection that hits nothing stale keeps every live session. -/
theorem FwInv.gcScan_kept {maxSlots : BitVec 32} {m : Nat} (h : FwInv s)
    (hk : s.hash.lookup k = some i) (hlive : now < s.expireAt i)
    (hscan : ∀ j, FwHit now s.gcCounter maxSlots.toNat s j → ¬ FwStale now s j) :
    (ipv6FirewallGcScanByCcb now s maxSlots m).2.hash.lookup k = some i := by
  obtain ⟨t, ht, heq⟩ := ipv6FirewallGcScan_scanned now s maxSlots m
  rw [heq, ipv6FirewallDqReclaim_lookup]
  exact ht.kept k i hk fun j hit => h.key_ne_of_hit hk hlive hit (hscan j hit)

/-- With no slot free after the collection, nothing but the table of sessions has changed. -/
theorem FwInv.collected {chance : Ipv6FirewallChance} (h : FwInv s)
    (hring : (fwCollected now s chance).freeRing.items = []) :
    FwScanned (FwHit now s.gcCounter ipv6FirewallGcScanChunk.toNat s) s
        (fwCollected now s chance) ∧
      (s.hash.dq ≠ [] → chance.gcReclaim = 0) := by
  obtain ⟨t, ht, heq⟩ :=
    ipv6FirewallGcScan_scanned now s ipv6FirewallGcScanChunk chance.gcReclaim
  have hcap : 0 < t.freeRing.cap := by
    rw [ht.ring, show s.freeRing.cap = ipv6FirewallMaxEntries from h.conserved.cap]
    decide
  unfold fwCollected at hring ⊢
  rw [heq] at hring ⊢
  obtain ⟨hsame, hnone⟩ := ipv6FirewallDqReclaim_of_ring_nil hcap hring
  rw [hsame]
  refine ⟨ht, fun hdq => hnone.resolve_right fun hnil => ?_⟩
  obtain ⟨j, hj⟩ := List.exists_mem_of_ne_nil _ hdq
  have hmem := ht.deferred j hj
  simp [hnil] at hmem

/-- Unless it is stale, the victim of an eviction that unlinks `k ↦ i` is `i`. -/
theorem FwInv.victim_eq {victim : Nat} (h : FwInv s) (hring : s.freeRing.items = [])
    (hk : s.hash.lookup k = some i) (hlive : now < s.expireAt i)
    (hlt : victim < ipv6FirewallMaxEntries) (hkey : (s.table victim).key = k)
    (hstale : s.hash.dq ≠ [] → ¬ FwStale now s victim) : victim = i := by
  rcases h.conserved.cases_of_lt hlt with hfree | hvalue | hdq
  · have hmem : victim ∈ s.freeRing.items := hfree
    simp [hring] at hmem
  · obtain ⟨k', hk'⟩ := Rte.Hash.exists_lookup_of_mem_values hvalue
    have hkk : k' = k := (h.linked k' victim hk').1.symm.trans hkey
    rw [← hkk] at hk
    exact Option.some.inj (hk'.symm.trans hk)
  · have hdq' : victim ∈ s.hash.dq := hdq
    exact absurd ⟨hdq', i, hkey ▸ hk, hlive⟩ (hstale (List.ne_nil_of_mem hdq'))

/-- If the collection keeps a link, an allocation unlinks it only by its eviction. -/
theorem ipv6FirewallSlotAlloc_gone {chance : Ipv6FirewallChance} (hk : s.hash.lookup k = some i)
    (hcollected : s.freeRing.items = [] → (fwCollected now s chance).hash.lookup k = some i)
    (hgone : (ipv6FirewallSlotAlloc now s chance).2.hash.lookup k ≠ some i) :
    s.freeRing.items = [] ∧ (fwCollected now s chance).freeRing.items = [] ∧
      (ipv6FirewallEvictLru (fwCollected now s chance)).2.hash.lookup k ≠ some i := by
  unfold fwCollected at hcollected ⊢
  unfold ipv6FirewallSlotAlloc at hgone
  generalize (ipv6FirewallGcScanByCcb now s ipv6FirewallGcScanChunk chance.gcReclaim).2 = c
    at hcollected hgone ⊢
  split at hgone
  · exact absurd hk hgone
  · rename_i hdeq
    have hempty : s.freeRing.items = [] := Rte.Ring.dequeue_eq_none.mp hdeq
    dsimp only at hgone
    split at hgone
    · exact absurd (hcollected hempty) hgone
    · rename_i hdeq'
      refine ⟨hempty, Rte.Ring.dequeue_eq_none.mp hdeq', fun hkept => hgone ?_⟩
      split
      · rename_i c' heq
        rw [heq] at hkept
        exact hkept
      · rename_i c' heq
        rw [heq] at hkept
        dsimp only at hkept ⊢
        rw [← ipv6FirewallDqReclaim_lookup chance.evictReclaim] at hkept
        split
        · exact hkept
        · exact hkept

/-- An allocation that comes across nothing stale unlinks no live session but by eviction. -/
theorem FwInv.slotAlloc {chance : Ipv6FirewallChance} (h : FwInv s)
    (hk : s.hash.lookup k = some i) (hlive : now < s.expireAt i)
    (hscan : s.freeRing.items = [] →
      ∀ j, FwHit now s.gcCounter ipv6FirewallGcScanChunk.toNat s j → ¬ FwStale now s j)
    (hvictim : s.freeRing.items = [] → chance.gcReclaim = 0 →
      ¬ FwStale now s (ipv6FirewallLruVictim s.lastUsed))
    (hgone : (ipv6FirewallSlotAlloc now s chance).2.hash.lookup k ≠ some i) :
    FwEvicted now s chance k i := by
  have hcollected : s.freeRing.items = [] →
      (fwCollected now s chance).hash.lookup k = some i := by
    intro hempty
    unfold fwCollected
    exact h.gcScan_kept hk hlive (hscan hempty)
  obtain ⟨hempty, hstill, hunlinked⟩ := ipv6FirewallSlotAlloc_gone hk hcollected hgone
  have hlinked := hcollected hempty
  obtain ⟨hscanned, hreclaim⟩ := h.collected hstill
  -- no slot was reclaimed, so the victim is the one the step began with
  have hslot := hunlinked
  unfold ipv6FirewallEvictLru at hslot
  obtain ⟨hne, -, hkey⟩ := ipv6FirewallEvictSlot_gone hlinked hslot
  rw [hscanned.table] at hkey
  rw [hscanned.lastUsed] at hne hkey
  obtain ⟨hlt, holdest⟩ := ipv6FirewallLruVictim_oldest hne
  have hi : ipv6FirewallLruVictim s.lastUsed = i :=
    h.victim_eq hempty hk hlive hlt hkey fun hdq => hvictim hempty (hreclaim hdq)
  refine ⟨hempty, hstill, hlinked, hunlinked, ?_⟩
  intro k' j hj
  have hj' : s.hash.lookup k' = some j := by
    unfold fwCollected at hj
    exact (ipv6FirewallGcScan_moves now s _ _).lookup hj
  rw [hscanned.lastUsed, ← hi]
  exact holdest j (h.conserved.value_lt (Rte.Hash.mem_values_of_lookup hj'))
    (h.linked k' j hj').2

/-! ### What the other steps keep -/

theorem ipv6FirewallLookupLive_kept (key : Ipv6FirewallKey) (hk : s.hash.lookup k = some i)
    (hlive : now ≤ s.expireAt i) :
    (ipv6FirewallLookupLive now s key).2.hash.lookup k = some i := by
  unfold ipv6FirewallLookupLive ipv6FirewallLookup
  split
  · exact hk
  · rename_i j hj
    split
    · rename_i hexp
      show (s.hash.delKey key).2.lookup k = some i
      have hne : k ≠ key := by
        intro heq
        subst heq
        obtain rfl := Option.some.inj (hj.symm.trans hk)
        unfold ipv6FirewallEntryIsExpired at hexp
        have := of_decide_eq_true hexp
        omega
      rw [Rte.Hash.lookup_delKey_ne _ hne]
      exact hk
    · exact hk

theorem ipv6FirewallInsert_kept {key : Ipv6FirewallKey} {chance : Ipv6FirewallChance}
    (hk : s.hash.lookup k = some i) (hkey : s.hash.lookup key = none)
    (halloc : (ipv6FirewallSlotAlloc now s chance).2.hash.lookup k = some i) :
    (ipv6FirewallInsert hz now s key chance).2.hash.lookup k = some i := by
  unfold ipv6FirewallInsert
  rw [hkey]
  dsimp only
  generalize ipv6FirewallSlotAlloc now s chance = r at halloc ⊢
  obtain ⟨idx, t⟩ := r
  cases idx with
  | none => exact halloc
  | some idx =>
      dsimp only
      split
      · exact halloc
      · rename_i hash hadd
        show hash.lookup k = some i
        have hne : k ≠ key := by
          intro heq
          subst heq
          simp [hkey] at hk
        rw [Rte.Hash.lookup_addKeyData hadd, if_neg hne]
        exact halloc

theorem ipv6FirewallOpen_kept {key : Ipv6FirewallKey} {chance : Ipv6FirewallChance}
    (hk : s.hash.lookup k = some i)
    (halloc : s.hash.lookup key = none →
      (ipv6FirewallSlotAlloc now s chance).2.hash.lookup k = some i) :
    (ipv6FirewallOpen hz now s key chance).2.hash.lookup k = some i := by
  unfold ipv6FirewallOpen ipv6FirewallLookup
  split
  · rename_i hkey
    exact ipv6FirewallInsert_kept hk hkey (halloc hkey)
  · exact hk

/-- Learning unlinks what its allocation unlinks, if it makes one. -/
theorem ipv6FirewallLearn_kept {pkt : Ipv6Packet} {chance : Ipv6FirewallChance}
    (hk : s.hash.lookup k = some i)
    (halloc : pkt.Opens s → (ipv6FirewallSlotAlloc now s chance).2.hash.lookup k = some i) :
    (ipv6FirewallLearn hz now chance s pkt.mem pkt.ip6).val.hash.lookup k = some i := by
  rcases ipv6FirewallLearn_cases hz now chance s pkt with hsame | ⟨key, hlearns, hlearn⟩
  · rw [hsame]
    exact hk
  · have hopen : (ipv6FirewallOpen hz now s key chance).2.hash.lookup k = some i := by
      refine ipv6FirewallOpen_kept hk ?_
      intro hnone
      exact halloc ⟨hlearns.tcp, hlearns.udp, key, hlearns.key, hnone⟩
    rcases hlearn with hlearn | ⟨idx, v, hlearn⟩
    · rw [hlearn]
      exact hopen
    · rw [hlearn]
      exact hopen

/-- A packet from the WAN unlinks no session whose deadline has not passed. -/
theorem FwLooked.kept (h : FwLooked now s s') (hk : s.hash.lookup k = some i)
    (hlive : now ≤ s.expireAt i) : s'.hash.lookup k = some i := by
  obtain ⟨ht, -, hhash⟩ := h
  rw [hhash]
  rcases ht with rfl | ⟨key, rfl⟩
  · exact hk
  · exact ipv6FirewallLookupLive_kept key hk hlive

/-! ### Sessions are not lost -/

/--
**A live session is lost only to an eviction.**  In every run from a fresh table whose
clock does not read zero, a step that comes across no stale slot unlinks a session whose
deadline is ahead of the clock only by evicting it for a new one, when the ring is empty
even after a collection; and then no session still linked has an older stamp.
-/
theorem sessions_kept {ls : List Ipv6FirewallLabel} (ccb : Ipv6FirewallCcb)
    (hrun : Run (ipv6FirewallStep hz) (fun _ l => 0 < l.now) (ipv6FirewallTableInit ccb) ls s)
    (l : Ipv6FirewallLabel) (hop : l.op ≠ .evictLru ∧ l.op ≠ .delAll) (hstale : FwNoStale s l)
    (hk : s.hash.lookup k = some i) (hlive : l.now < s.expireAt i) :
    (ipv6FirewallStep hz s l).hash.lookup k = some i ∨
      ∃ pkt chance, l.op = .learn pkt chance ∧ FwEvicted l.now s chance k i := by
  have hinv : FwInv s := ipv6FirewallRun_inv ccb hrun
  obtain ⟨now, op⟩ := l
  cases op with
  | learn pkt chance =>
      by_cases hkept : (ipv6FirewallStep hz s ⟨now, .learn pkt chance⟩).hash.lookup k = some i
      · exact Or.inl hkept
      · refine Or.inr ⟨pkt, chance, rfl, ?_⟩
        by_contra hevicted
        refine hkept (ipv6FirewallLearn_kept hk ?_)
        intro hopens
        by_contra hgone
        exact hevicted (hinv.slotAlloc hk hlive (hstale.alloc pkt chance rfl hopens)
          (hstale.victim pkt chance rfl hopens) hgone)
  | inbound pkt =>
      exact Or.inl ((ipv6FirewallInboundPass_looked hz now s pkt.mem pkt.ip6).kept hk
        (Nat.le_of_lt hlive))
  | gcScan maxSlots m =>
      exact Or.inl (hinv.gcScan_kept hk hlive (hstale.scan maxSlots m rfl))
  | evictLru => exact absurd rfl hop.1
  | delAll => exact absurd rfl hop.2
  | reclaim m => exact Or.inl ((ipv6FirewallDqReclaim_lookup m s k).trans hk)

/-- With nothing awaiting reclaim, nothing is stale. -/
theorem FwNoStale.of_dq_nil {l : Ipv6FirewallLabel} (h : s.hash.dq = []) : FwNoStale s l := by
  have hnone : ∀ j, ¬ FwStale l.now s j := by
    intro j hstale
    obtain ⟨hj, -⟩ := hstale
    simp [h] at hj
  exact ⟨fun _ _ _ j _ => hnone j, fun _ _ _ _ _ j _ => hnone j, fun _ _ _ _ _ _ => hnone _⟩

/-- The key of the query to the name server. -/
def dnsKey : Ipv6FirewallKey where
  lanAddr := [0x20, 0x01, 0x0d, 0xb8, 0, 0, 0, 0, 0, 0, 0, 0, 0, 0, 0, 0x0a]
  remoteAddr := [0x20, 0x01, 0x0d, 0xb8, 0, 1, 0, 0, 0, 0, 0, 0, 0, 0, 0, 0x53]
  lanPort := 0x50c3
  remotePort := 0x3500
  proto := ipprotoUdp

/-- A collection right after the query leaves its session alone. -/
theorem sessions_kept_dns :
    (ipv6FirewallStep 1000 (ipv6FirewallStep 1000 (ipv6FirewallTableInit ipv6FirewallBlank)
        ⟨5, .learn dnsQuery ⟨0, 0, true⟩⟩) ⟨6, .gcScan 512 0⟩).hash.lookup dnsKey = some 0 := by
  have hrun : Run (ipv6FirewallStep 1000) (fun _ l => 0 < l.now)
      (ipv6FirewallTableInit ipv6FirewallBlank) [⟨5, .learn dnsQuery ⟨0, 0, true⟩⟩]
      (ipv6FirewallStep 1000 (ipv6FirewallTableInit ipv6FirewallBlank)
        ⟨5, .learn dnsQuery ⟨0, 0, true⟩⟩) := .single _ (by decide)
  have hkept := sessions_kept (k := dnsKey) (i := 0) ipv6FirewallBlank hrun ⟨6, .gcScan 512 0⟩
    ⟨nofun, nofun⟩ (.of_dq_nil (by rw [ipv6FirewallTableInit_eq]; decide))
    (by rw [ipv6FirewallTableInit_eq]; decide)
    (by rw [ipv6FirewallTableInit_eq]; decide)
  rcases hkept with hkept | ⟨_, _, hop, -⟩
  · exact hkept
  · simp at hop

set_option maxRecDepth 8000 in
/--
A session expires, a late answer unlinks it, and the same query opens it again in another
slot.  The next collection comes across the first slot, which still awaits reclaim, and
deletes the key; the session's deadline is ten seconds ahead, and nothing leads to it.
-/
theorem session_lost :
    ¬ ∀ ls s l k i, (ls ++ [l]).Pairwise (fun a b : Ipv6FirewallLabel => a.now ≤ b.now) →
      Run (ipv6FirewallStep 1000) (fun _ l => 0 < l.now)
        (ipv6FirewallTableInit ipv6FirewallBlank) ls s →
      l.op ≠ .evictLru ∧ l.op ≠ .delAll → s.hash.lookup k = some i → l.now < s.expireAt i →
      (ipv6FirewallStep 1000 s l).hash.lookup k = some i ∨
        ∃ pkt chance, l.op = .learn pkt chance ∧ FwEvicted l.now s chance k i := by
  intro h
  have hkept := h
    [⟨5, .learn dnsQuery ⟨0, 0, true⟩⟩, ⟨20000, .inbound dnsAnswer⟩,
      ⟨20000, .learn dnsQuery ⟨0, 0, true⟩⟩] _ ⟨20001, .gcScan 512 0⟩ dnsKey 1
    (by decide) (.of_labels _ _ fun _ => by decide) ⟨nofun, nofun⟩
    (by rw [ipv6FirewallTableInit_eq]; decide)
    (by rw [ipv6FirewallTableInit_eq]; decide)
  rcases hkept with hkept | ⟨_, _, hop, -⟩
  · rw [ipv6FirewallTableInit_eq] at hkept
    exact absurd hkept (by decide)
  · simp at hop

end FastRG
