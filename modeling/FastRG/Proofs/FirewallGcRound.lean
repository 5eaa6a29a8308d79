/-
A round of collection reaches every session.

`FwPast d i` says that a key leads to slot `i` only if the slot stores that key, is ready,
and has a deadline past `d`.  With `d` zero it holds of every slot in every state, so that a
look at a slot never passes over a session by mistake; with `d` the time a round began at, a
look brings it about, and nothing takes it away again.  Nothing needs to be assumed of the
run: whatever stale slot a look comes across, the key it deletes was the whole of a session.

Every operation is quiet (`FwQuiet`): it keeps what is past, and leaves the cursor alone.  The
one exception is the collection of an allocation, which is a call of its own (`FwHeld`).
-/
import FastRG.GcRound
import FastRG.Proofs.FirewallPool
import FastRG.Proofs.TcpLease

namespace FastRG

variable {hz now d t₀ i j : Nat} {start : BitVec 32} {s s' t u : Ipv6FirewallCcb}
  {k : Ipv6FirewallKey}

/-! ### What a key leads to -/

/-- A key leads to slot `i` only if the slot stores it, ready, with a deadline past `d`. -/
def FwPast (d i : Nat) (s : Ipv6FirewallCcb) : Prop :=
  ∀ k, s.hash.lookup k = some i →
    (s.table i).key = k ∧ (s.table i).isFill = .ready ∧ d < s.expireAt i

namespace FwPast

theorem drop (h : FwPast d i s) (k' : Ipv6FirewallKey) :
    FwPast d i (ipv6FirewallDelKey s k').2 :=
  fun k hk => h k (Rte.Hash.lookup_of_delKey hk).2

/-- One slot is written, and stays past `d` if a key led to it. -/
theorem update {e : Ipv6FirewallEntry} {x : Nat} (h : FwPast d i s)
    (hlookup : ∀ k, t.hash.lookup k = some i → s.hash.lookup k = some i)
    (htable : t.table = Function.update s.table j e)
    (hexpire : t.expireAt = Function.update s.expireAt j x)
    (hj : ∀ k, s.hash.lookup k = some j → e.key = (s.table j).key ∧
      e.isFill = (s.table j).isFill ∧ (d < s.expireAt j → d < x)) : FwPast d i t := by
  intro k hk
  have hold := hlookup k hk
  obtain ⟨hkey, hready, hpast⟩ := h k hold
  rw [htable, hexpire]
  by_cases hij : i = j
  · subst hij
    obtain ⟨hekey, hefill, hx⟩ := hj k hold
    rw [Function.update_self, Function.update_self]
    exact ⟨hekey.trans hkey, hefill.trans hready, hx hpast⟩
  · rw [Function.update_of_ne hij, Function.update_of_ne hij]
    exact ⟨hkey, hready, hpast⟩

end FwPast

/-! ### Quiet moves -/

/-- Whatever is past some `d` stays so, and the cursor stays where it is. -/
structure FwQuiet (now : Nat) (s t : Ipv6FirewallCcb) : Prop where
  conserved : FwConserved t
  keep : ∀ d i, d ≤ now → FwPast d i s → FwPast d i t
  cursor : t.gcCounter = s.gcCounter

namespace FwQuiet

theorem refl (hs : FwConserved s) : FwQuiet now s s := ⟨hs, fun _ _ _ h => h, rfl⟩

theorem trans (h : FwQuiet now s t) (h' : FwQuiet now t u) : FwQuiet now s u :=
  ⟨h'.conserved, fun d i hd hpast => h'.keep d i hd (h.keep d i hd hpast),
    h'.cursor.trans h.cursor⟩

theorem drop (hs : FwConserved s) (k : Ipv6FirewallKey) :
    FwQuiet now s (ipv6FirewallDelKey s k).2 where
  conserved := hs.unlink k
  keep _ _ _ h := h.drop k
  cursor := rfl

theorem reclaim (m : Nat) (hs : FwConserved s) : FwQuiet now s (ipv6FirewallDqReclaim m s) := by
  refine Rte.dqReclaim_inv (FwQuiet now s) ?_ m s (.refl hs)
  intro t j t₁ ht hpop
  have hmove : FwMove now t (ipv6FirewallHashFreeCb t₁ j) := .reclaim hpop
  have hcons : FwConserved (ipv6FirewallHashFreeCb t₁ j) := hmove.conserved ht.conserved
  obtain ⟨rest, hdq, rfl⟩ := ipv6FirewallPop_eq_some.mp hpop
  refine ht.trans ⟨hcons, ?_, rfl⟩
  intro d i _ h
  refine h.update (fun k hk => hk) rfl rfl ?_
  intro k hk
  have hmem : j ∈ t.hash.dq := hdq ▸ List.mem_cons_self
  exact absurd hmem (ht.conserved.value_not_dq (Rte.Hash.mem_values_of_lookup hk))

/-- A slot taken and given back unused. -/
theorem giveBack {ring : Rte.Ring} (hz : Nat) (key : Ipv6FirewallKey) (hs : FwConserved s)
    (hdeq : s.freeRing.dequeue = some (j, ring)) :
    FwQuiet now s (ipv6FirewallFreeSlot
      (ipv6FirewallFillEntry hz now { s with freeRing := ring } j key) j) := by
  have hmove := ipv6FirewallGiveBack_move hz now key hdeq
  refine ⟨hmove.conserved hs, ?_, rfl⟩
  obtain ⟨rest, hitems, -⟩ := Rte.Ring.dequeue_eq_some.mp hdeq
  intro d i _ h
  refine h.update (fun k hk => hk) (j := j) (x := 0)
    (e := { ipv6FirewallNewEntry key with isFill := .free }) ?_ ?_ ?_
  · unfold ipv6FirewallFreeSlot ipv6FirewallFillEntry
    simp only [Function.update_self, Function.update_idem]
  · unfold ipv6FirewallFreeSlot ipv6FirewallFillEntry
    simp only [Function.update_idem]
  · intro k hk
    have hmem : j ∈ s.freeRing.items := hitems ▸ List.mem_cons_self
    exact absurd hmem (hs.value_not_free (Rte.Hash.mem_values_of_lookup hk))

theorem markUsed (hz now : Nat) (hs : FwConserved s) (j : Nat) :
    FwQuiet now s (ipv6FirewallMarkUsed hz now s j) where
  conserved := hs
  keep d i _ h := by
    refine h.update (fun k hk => hk) (Function.update_eq_self j s.table).symm rfl ?_
    intro k _
    refine ⟨rfl, rfl, fun hd => Nat.lt_of_lt_of_le hd (le_natExpireRefresh _ _ _)⟩
  cursor := rfl

/-- A session is tracked, and its deadline not brought back. -/
theorem track {v : TcpConntrackView} (hs : FwConserved s)
    (hv : ∀ d, d ≤ now → d < s.expireAt j → d < v.expireSlot) :
    FwQuiet now s (ipv6FirewallSetConntrack s j v) where
  conserved := hs
  keep d _ hd h := h.update (fun _ hk => hk) rfl rfl fun _ _ => ⟨rfl, rfl, hv d hd⟩
  cursor := rfl

/-- A new session's deadline is ahead of the clock. -/
theorem publish (hhz : 0 < hz) (hs : FwConserved s) (hpub : FwPublish hz now k s t) :
    FwQuiet now s t := by
  have hcons : FwConserved t := hpub.conserved hs
  cases hpub with
  | @intro j ring hash room hk hdeq hadd =>
      refine ⟨hcons, ?_, rfl⟩
      obtain ⟨rest, hitems, -⟩ := Rte.Ring.dequeue_eq_some.mp hdeq
      have hfree : j ∈ s.freeRing.items := hitems ▸ List.mem_cons_self
      intro d i hd h k' hk'
      replace hk' : hash.lookup k' = some i := hk'
      rw [Rte.Hash.lookup_addKeyData hadd] at hk'
      show (Function.update s.table j (ipv6FirewallNewEntry k) i).key = k' ∧
        (Function.update s.table j (ipv6FirewallNewEntry k) i).isFill = .ready ∧
        d < Function.update s.expireAt j _ i
      by_cases hkey : k' = k
      · rw [if_pos hkey] at hk'
        obtain rfl := Option.some.inj hk'
        rw [Function.update_self, Function.update_self]
        refine ⟨hkey.symm, rfl, ?_⟩
        unfold natExpireSet ipv6FirewallExpiryCycles ipv6FirewallEntryTimeoutSec
        omega
      · rw [if_neg hkey] at hk'
        have hij : i ≠ j := by
          intro heq
          subst heq
          exact hs.value_not_free (Rte.Hash.mem_values_of_lookup hk') hfree
        rw [Function.update_of_ne hij, Function.update_of_ne hij]
        exact h k' hk'

theorem noSpace (hs : FwConserved s) : FwQuiet now s (ipv6FirewallNoSpace s) :=
  ⟨hs, fun _ _ _ h => h, rfl⟩

theorem evictLru (hs : FwConserved s) : FwQuiet now s (ipv6FirewallEvictLru s).2 := by
  unfold ipv6FirewallEvictLru
  generalize ipv6FirewallLruVictim s.lastUsed = victim
  unfold ipv6FirewallEvictSlot
  split
  · exact .refl hs
  · split
    · exact .refl hs
    · have hdrop : FwQuiet now s (ipv6FirewallDelKey s (s.table victim).key).2 := .drop hs _
      split
      · rename_i r hdel
        rw [hdel] at hdrop
        exact hdrop
      · rename_i r hdel
        rw [hdel] at hdrop
        exact ⟨hdrop.conserved, hdrop.keep, hdrop.cursor⟩

theorem lookupLive (hs : FwConserved s) (key : Ipv6FirewallKey) :
    FwQuiet now s (ipv6FirewallLookupLive now s key).2 := by
  unfold ipv6FirewallLookupLive
  split
  · exact .refl hs
  · split
    · exact .drop hs key
    · exact .refl hs

theorem delAllVisits (is : List Nat) (hs : FwConserved s) :
    FwQuiet now s (is.foldl ipv6FirewallDelAllVisit s) := by
  induction is generalizing s with
  | nil => exact .refl hs
  | cons i rest ih =>
      have hvisit : FwQuiet now s (ipv6FirewallDelAllVisit s i) := by
        unfold ipv6FirewallDelAllVisit
        split
        · exact .refl hs
        · split
          · exact .drop hs _
          · exact .refl hs
      exact hvisit.trans (ih hvisit.conserved)

end FwQuiet

/-! ### A look at a slot -/

/-- No key leads to a slot that a look would pass over by mistake. -/
def FwArmed (s : Ipv6FirewallCcb) : Prop := ∀ i, FwPast 0 i s

theorem FwQuiet.armed (h : FwQuiet now s t) (hs : FwArmed s) : FwArmed t :=
  fun i => h.keep 0 i (Nat.zero_le now) (hs i)

theorem ipv6FirewallGcVisit_quiet (now : Nat) (start : BitVec 32) (r : Nat × Ipv6FirewallCcb)
    (n : Nat) (hs : FwConserved r.2) :
    FwQuiet now r.2 (ipv6FirewallGcVisit now start r n).2 := by
  obtain ⟨reclaimed, s⟩ := r
  unfold ipv6FirewallGcVisit
  dsimp only
  split
  · exact .refl hs
  · split
    · exact .refl hs
    · exact .drop hs _

/-- Nor does the clock matter to what a look keeps. -/
theorem ipv6FirewallGcVisit_keep (now : Nat) (start : BitVec 32) (r : Nat × Ipv6FirewallCcb)
    (n : Nat) (h : FwPast d i r.2) : FwPast d i (ipv6FirewallGcVisit now start r n).2 := by
  obtain ⟨reclaimed, s⟩ := r
  unfold ipv6FirewallGcVisit
  dsimp only
  split
  · exact h
  · split
    · exact h
    · exact h.drop _

/-- Whatever the look finds, a key leads to the slot only if its deadline is past `t₀`. -/
theorem ipv6FirewallGcVisit_past (ht : t₀ ≤ now) (h : FwArmed s) (reclaimed n : Nat) :
    FwPast t₀ (ipv6FirewallGcIdx start n)
      (ipv6FirewallGcVisit now start (reclaimed, s) n).2 := by
  generalize hidx : ipv6FirewallGcIdx start n = idx
  unfold ipv6FirewallGcVisit
  dsimp only
  rw [hidx]
  split
  · rename_i hskip
    intro k hk
    obtain ⟨hkey, hready, harmed⟩ := h idx k hk
    refine ⟨hkey, hready, ?_⟩
    show t₀ < s.expireAt idx
    omega
  · split
    · rename_i hfree
      intro k hk
      exact absurd (h idx k hk).2.1 hfree
    · -- the key that led to it is the one it stores
      intro k hk
      obtain ⟨hne, hk⟩ := Rte.Hash.lookup_of_delKey hk
      exact absurd (h idx k hk).1.symm hne

/-- The first `n` looks of an uninterrupted scan. -/
theorem ipv6FirewallGcVisits_past (now : Nat) (start : BitVec 32) (n reclaimed : Nat)
    (ht : t₀ ≤ now) (hs : FwConserved s) (h : FwArmed s) :
    FwQuiet now s ((List.range n).foldl (ipv6FirewallGcVisit now start) (reclaimed, s)).2 ∧
      ∀ m < n, FwPast t₀ (ipv6FirewallGcIdx start m)
        ((List.range n).foldl (ipv6FirewallGcVisit now start) (reclaimed, s)).2 := by
  induction n with
  | zero =>
      refine ⟨.refl hs, ?_⟩
      intro m hm
      exact absurd hm (Nat.not_lt_zero m)
  | succ n ih =>
      obtain ⟨hquiet, hpast⟩ := ih
      rw [List.range_succ, List.foldl_append]
      generalize (List.range n).foldl (ipv6FirewallGcVisit now start) (reclaimed, s) = r
        at hquiet hpast ⊢
      have hvisit := ipv6FirewallGcVisit_quiet now start r n hquiet.conserved
      refine ⟨hquiet.trans hvisit, ?_⟩
      intro m hm
      rcases Nat.lt_succ_iff_lt_or_eq.mp hm with hlt | rfl
      · exact hvisit.keep t₀ _ ht (hpast m hlt)
      · exact ipv6FirewallGcVisit_past ht (hquiet.armed h) r.1 m

theorem ipv6FirewallGcFinish_quiet (now m : Nat) (r : Nat × Ipv6FirewallCcb)
    (hs : FwConserved r.2) : FwQuiet now r.2 (ipv6FirewallGcFinish m r) := by
  have hcount : FwQuiet now r.2 { r.2 with gcReclaimed := r.2.gcReclaimed + r.1 } :=
    ⟨hs, fun _ _ _ h => h, rfl⟩
  exact hcount.trans (.reclaim m hs)

/-! ### The call an allocation makes -/

/-- The cursor is where it was, or a call of its own has looked at a chunk of slots. -/
structure FwHeld (now t₀ : Nat) (s t : Ipv6FirewallCcb) : Prop where
  conserved : FwConserved t
  keep : ∀ d i, d ≤ now → FwPast d i s → FwPast d i t
  cursor : t.gcCounter = s.gcCounter ∨
    (t.gcCounter = s.gcCounter + ipv6FirewallGcScanChunk ∧
      ∀ m < ipv6FirewallGcScanChunk.toNat, FwPast t₀ (ipv6FirewallGcIdx s.gcCounter m) t)

theorem FwQuiet.held (h : FwQuiet now s t) : FwHeld now t₀ s t :=
  ⟨h.conserved, h.keep, Or.inl h.cursor⟩

theorem FwHeld.tail (ht : t₀ ≤ now) (h : FwHeld now t₀ s t) (h' : FwQuiet now t u) :
    FwHeld now t₀ s u := by
  refine ⟨h'.conserved, fun d i hd hpast => h'.keep d i hd (h.keep d i hd hpast), ?_⟩
  rcases h.cursor with hsame | ⟨hmoved, hpast⟩
  · exact Or.inl (h'.cursor.trans hsame)
  · exact Or.inr ⟨h'.cursor.trans hmoved, fun m hm => h'.keep t₀ _ ht (hpast m hm)⟩

theorem ipv6FirewallGcScanByCcb_eq (now : Nat) (s : Ipv6FirewallCcb) (maxSlots : BitVec 32)
    (m : Nat) : (ipv6FirewallGcScanByCcb now s maxSlots m).2 = ipv6FirewallGcFinish m
      ((List.range maxSlots.toNat).foldl (ipv6FirewallGcVisit now s.gcCounter)
        (0, { s with gcCounter := s.gcCounter + maxSlots })) := rfl

/-- A whole scan. -/
structure FwScannedBy (now t₀ : Nat) (maxSlots : BitVec 32) (s t : Ipv6FirewallCcb) : Prop where
  conserved : FwConserved t
  keep : ∀ d i, d ≤ now → FwPast d i s → FwPast d i t
  cursor : t.gcCounter = s.gcCounter + maxSlots
  slots : ∀ m < maxSlots.toNat, FwPast t₀ (ipv6FirewallGcIdx s.gcCounter m) t

theorem ipv6FirewallGcScan_by (maxSlots : BitVec 32) (m : Nat) (ht : t₀ ≤ now)
    (hs : FwConserved s) (h : FwArmed s) :
    FwScannedBy now t₀ maxSlots s (ipv6FirewallGcScanByCcb now s maxSlots m).2 := by
  have hcursor : FwConserved { s with gcCounter := s.gcCounter + maxSlots } := hs
  obtain ⟨hquiet, hpast⟩ := ipv6FirewallGcVisits_past now s.gcCounter maxSlots.toNat 0 ht
    hcursor h
  rw [ipv6FirewallGcScanByCcb_eq]
  generalize (List.range maxSlots.toNat).foldl (ipv6FirewallGcVisit now s.gcCounter)
    (0, { s with gcCounter := s.gcCounter + maxSlots }) = r at hquiet hpast ⊢
  have hfinish := ipv6FirewallGcFinish_quiet now m r hquiet.conserved
  refine ⟨hfinish.conserved, fun d i hd hold => hfinish.keep d i hd (hquiet.keep d i hd hold),
    hfinish.cursor.trans hquiet.cursor, ?_⟩
  intro n hn
  exact hfinish.keep t₀ _ ht (hpast n hn)

/-- A whole scan of a chunk is a call. -/
theorem FwScannedBy.held (h : FwScannedBy now t₀ ipv6FirewallGcScanChunk s t) :
    FwHeld now t₀ s t :=
  ⟨h.conserved, h.keep, Or.inr ⟨h.cursor, h.slots⟩⟩

/-- An allocation collects, if it must, evicts, if it must, and takes what the ring has. -/
theorem ipv6FirewallSlotAlloc_held (chance : Ipv6FirewallChance) (ht : t₀ ≤ now)
    (hs : FwConserved s) (h : FwArmed s) :
    ∃ s₁, FwHeld now t₀ s s₁ ∧ FwMoves now s s₁ ∧
      (ipv6FirewallSlotAlloc now s chance = (none, s₁) ∨
        ∃ idx ring, s₁.freeRing.dequeue = some (idx, ring) ∧
          ipv6FirewallSlotAlloc now s chance = (some idx, { s₁ with freeRing := ring })) := by
  unfold ipv6FirewallSlotAlloc
  split
  · rename_i idx ring hdeq
    exact ⟨s, (FwQuiet.refl hs).held, .refl, Or.inr ⟨idx, ring, hdeq, rfl⟩⟩
  · have hgc := (ipv6FirewallGcScan_by ipv6FirewallGcScanChunk chance.gcReclaim ht hs h).held
    have hgcMoves := ipv6FirewallGcScan_moves now s ipv6FirewallGcScanChunk chance.gcReclaim
    dsimp only
    generalize (ipv6FirewallGcScanByCcb now s ipv6FirewallGcScanChunk chance.gcReclaim).2 = sg
      at hgc hgcMoves ⊢
    split
    · rename_i idx ring hdeq
      exact ⟨sg, hgc, hgcMoves, Or.inr ⟨idx, ring, hdeq, rfl⟩⟩
    · have hev : FwQuiet now sg (ipv6FirewallEvictLru sg).2 := .evictLru hgc.conserved
      have hevMoves := ipv6FirewallEvictLru_moves now sg
      split
      · rename_i t hevict
        rw [hevict] at hev hevMoves
        exact ⟨t, hgc.tail ht hev, hgcMoves.trans hevMoves, Or.inl rfl⟩
      · rename_i t hevict
        rw [hevict] at hev hevMoves
        have hall := (hgc.tail ht hev).tail ht (.reclaim chance.evictReclaim hev.conserved)
        have hallMoves := (hgcMoves.trans hevMoves).trans
          (ipv6FirewallDqReclaim_moves now chance.evictReclaim t)
        generalize ipv6FirewallDqReclaim chance.evictReclaim t = sr at hall hallMoves ⊢
        split
        · rename_i idx ring hdeq
          exact ⟨sr, hall, hallMoves, Or.inr ⟨idx, ring, hdeq, rfl⟩⟩
        · exact ⟨sr, hall, hallMoves, Or.inl rfl⟩

theorem ipv6FirewallInsert_held (hhz : 0 < hz) (key : Ipv6FirewallKey)
    (chance : Ipv6FirewallChance) (ht : t₀ ≤ now) (hs : FwConserved s) (h : FwArmed s) :
    FwHeld now t₀ s (ipv6FirewallInsert hz now s key chance).2 := by
  unfold ipv6FirewallInsert
  split
  · exact (FwQuiet.refl hs).held
  · rename_i hk
    obtain ⟨s₁, hheld, hmoves, halloc | ⟨idx, ring, hdeq, halloc⟩⟩ :=
      ipv6FirewallSlotAlloc_held chance ht hs h
    · rw [halloc]
      exact hheld.tail ht (.noSpace hheld.conserved)
    · rw [halloc]
      dsimp only
      split
      · have hback : FwQuiet now s₁ _ := .giveBack hz key hheld.conserved hdeq
        exact (hheld.tail ht hback).tail ht (.noSpace hback.conserved)
      · rename_i hash hadd
        have hpub : FwPublish hz now key s₁ _ := .intro (hmoves.lookup_none hk) hdeq hadd
        exact hheld.tail ht (.publish hhz hheld.conserved hpub)

theorem ipv6FirewallOpen_held (hhz : 0 < hz) (key : Ipv6FirewallKey)
    (chance : Ipv6FirewallChance) (ht : t₀ ≤ now) (hs : FwConserved s) (h : FwArmed s) :
    FwHeld now t₀ s (ipv6FirewallOpen hz now s key chance).2 := by
  unfold ipv6FirewallOpen
  split
  · exact ipv6FirewallInsert_held hhz key chance ht hs h
  · exact (FwQuiet.markUsed hz now hs _).held

/-- A LAN segment. -/
theorem FwQuiet.trackLan (hhz : 0 < hz) (hs : FwConserved s) (idx : Nat) (tcp : TcpHdr)
    (payloadLen : BitVec 16) : FwQuiet now s (ipv6FirewallSetConntrack s idx
      (tcpConntrackLan hz now (ipv6FirewallConntrackView s idx) tcp payloadLen)) :=
  .track hs fun _ hd hlt => lt_tcpConntrackLan hhz hd hlt tcp payloadLen

/-- A WAN segment. -/
theorem FwQuiet.trackWan (hhz : 0 < hz) (hs : FwConserved s) (idx : Nat) (tcp : TcpHdr)
    (payloadLen : BitVec 16) : FwQuiet now s (ipv6FirewallSetConntrack s idx
      (tcpConntrackWan hz now (ipv6FirewallConntrackView s idx) tcp payloadLen)) :=
  .track hs fun _ hd hlt => lt_tcpConntrackWan hhz hd hlt tcp payloadLen

theorem ipv6FirewallLearn_held (hhz : 0 < hz) (chance : Ipv6FirewallChance) (pkt : Ipv6Packet)
    (ht : t₀ ≤ now) (hs : FwConserved s) (h : FwArmed s) :
    FwHeld now t₀ s (ipv6FirewallLearn hz now chance s pkt.mem pkt.ip6).val := by
  unfold ipv6FirewallLearn
  simp only [Rd.val_bind]
  split
  · exact (FwQuiet.refl hs).held
  · split
    · exact (FwQuiet.refl hs).held
    · simp only [Rd.val_bind]
      split
      · exact (FwQuiet.refl hs).held
      · rename_i key _
        have hopen := ipv6FirewallOpen_held hhz key chance ht hs h
        generalize ipv6FirewallOpen hz now s key chance = r at hopen ⊢
        obtain ⟨idx, t⟩ := r
        cases idx with
        | none => exact hopen
        | some idx =>
            dsimp only
            split
            · exact hopen.tail ht (.trackLan hhz hopen.conserved idx _ _)
            · exact hopen

/-! ### Packets from the WAN -/

theorem ipv6FirewallIcmp6ErrorPass_quiet (now : Nat) (hs : FwConserved s)
    (mem : Nat → BitVec 8) (ip6 : Nat) (payloadLen : BitVec 16) :
    FwQuiet now s (ipv6FirewallIcmp6ErrorPass now s mem ip6 payloadLen).val.2 := by
  have hdrop : ∀ {t}, FwConserved t → FwQuiet now t (ipv6FirewallIcmp6Drop t).2 :=
    fun ht => ⟨ht, fun _ _ _ h => h, rfl⟩
  unfold ipv6FirewallIcmp6ErrorPass
  dsimp only
  split
  · exact hdrop hs
  · simp only [Rd.val_bind]
    split
    · exact hdrop hs
    · simp only [Rd.val_bind]
      split
      · exact hdrop hs
      · rename_i key _
        have hlive : FwQuiet now s (ipv6FirewallLookupLive now s key).2 := .lookupLive hs key
        generalize ipv6FirewallLookupLive now s key = r at hlive ⊢
        obtain ⟨found, t⟩ := r
        cases found with
        | none => exact hlive.trans (hdrop hlive.conserved)
        | some idx => exact ⟨hlive.conserved, hlive.keep, hlive.cursor⟩

theorem ipv6FirewallTcpInboundPass_quiet (hhz : 0 < hz) (hs : FwConserved s) (idx : Nat)
    (mem : Nat → BitVec 8) (ip6 : Nat) (payloadLen : BitVec 16) :
    FwQuiet now s (ipv6FirewallTcpInboundPass hz now s idx mem ip6 payloadLen).val.2 := by
  unfold ipv6FirewallTcpInboundPass
  split
  · exact .refl hs
  · simp only [Rd.val_bind]
    split
    · exact .trackWan hhz hs idx _ _
    · exact .refl hs

theorem ipv6FirewallInboundPass_quiet (hhz : 0 < hz) (hs : FwConserved s)
    (mem : Nat → BitVec 8) (ip6 : Nat) :
    FwQuiet now s (ipv6FirewallInboundPass hz now s mem ip6).val.2 := by
  unfold ipv6FirewallInboundPass
  simp only [Rd.val_bind]
  split
  · exact ipv6FirewallIcmp6ErrorPass_quiet now hs mem ip6 _
  · simp only [Rd.val_bind]
    split
    · exact .refl hs
    · rename_i key _
      have hlive : FwQuiet now s (ipv6FirewallLookupLive now s key).2 := .lookupLive hs key
      generalize ipv6FirewallLookupLive now s key = r at hlive ⊢
      obtain ⟨found, t⟩ := r
      cases found with
      | none => exact hlive
      | some idx =>
          have hused := hlive.trans (.markUsed hz now hlive.conserved idx)
          simp only [Rd.val_bind]
          split
          · exact hused
          · exact hused.trans (ipv6FirewallTcpInboundPass_quiet hhz hused.conserved idx mem ip6 _)

/-! ### The round -/

/-- The clock reads `t₀` or more, and every scan is of a chunk of slots. -/
def FwGcSince (t₀ : Nat) : ScanAct Nat Ipv6FirewallLabel → Prop
  | .fetch now => t₀ ≤ now
  | .op l => t₀ ≤ l.now ∧ ∀ maxSlots m, l.op = .gcScan maxSlots m →
      maxSlots = ipv6FirewallGcScanChunk
  | _ => True

theorem ipv6FirewallStep_held (hhz : 0 < hz) (l : Ipv6FirewallLabel) (hall : l.op ≠ .delAll)
    (ht : t₀ ≤ l.now)
    (hchunk : ∀ maxSlots m, l.op = .gcScan maxSlots m → maxSlots = ipv6FirewallGcScanChunk)
    (hs : FwConserved s) (h : FwArmed s) : FwHeld l.now t₀ s (ipv6FirewallStep hz s l) := by
  obtain ⟨now, op⟩ := l
  cases op with
  | learn pkt chance => exact ipv6FirewallLearn_held hhz chance pkt ht hs h
  | inbound pkt => exact (ipv6FirewallInboundPass_quiet hhz hs pkt.mem pkt.ip6).held
  | gcScan maxSlots m =>
      have hscan := ipv6FirewallGcScan_by maxSlots m ht hs h
      obtain rfl := hchunk maxSlots m rfl
      exact hscan.held
  | evictLru => exact (FwQuiet.evictLru hs).held
  | delAll => exact absurd rfl hall
  | reclaim m => exact (FwQuiet.reclaim m hs).held

/-! A full deletion unlinks everything, as every linked slot is ready and armed. -/

theorem ipv6FirewallDelAllVisit_past (h : FwArmed s) (d i : Nat) :
    FwPast d i (ipv6FirewallDelAllVisit s i) := by
  unfold ipv6FirewallDelAllVisit
  split
  · rename_i hzero
    intro k hk
    have harmed := (h i k hk).2.2
    omega
  · split
    · intro k hk
      obtain ⟨hne, hk⟩ := Rte.Hash.lookup_of_delKey hk
      exact absurd (h i k hk).1.symm hne
    · rename_i hfree
      intro k hk
      exact absurd (h i k hk).2.1 hfree

/-- Everything is past any `d`: nothing is linked. -/
theorem ipv6FirewallDelAllVisits_past (n : Nat) (hs : FwConserved s) (h : FwArmed s) (d : Nat) :
    ∀ i < n, FwPast d i ((List.range n).foldl ipv6FirewallDelAllVisit s) := by
  induction n with
  | zero => exact fun i hi => absurd hi (Nat.not_lt_zero i)
  | succ n ih =>
      have hquiet : FwQuiet d s ((List.range n).foldl ipv6FirewallDelAllVisit s) :=
        .delAllVisits _ hs
      rw [List.range_succ, List.foldl_append]
      have hvisit : FwQuiet d ((List.range n).foldl ipv6FirewallDelAllVisit s) _ :=
        .delAllVisits [n] hquiet.conserved
      intro i hi
      rcases Nat.lt_succ_iff_lt_or_eq.mp hi with hlt | rfl
      · exact hvisit.keep d i (Nat.le_refl d) (ih i hlt)
      · exact ipv6FirewallDelAllVisit_past (hquiet.armed h) d i

theorem FwPast.resetCounters (h : FwPast d i s) : FwPast d i (ipv6FirewallResetCounters s) := h

theorem FwConserved.resetCounters (hs : FwConserved s) :
    FwConserved (ipv6FirewallResetCounters s) := hs

theorem ipv6FirewallDelAll_past (hs : FwConserved s) (h : FwArmed s) (d : Nat) :
    ∀ i < ipv6FirewallMaxEntries, FwPast d i (ipv6FirewallTableDelAllEntriesFromHash s) :=
  fun i hi => (ipv6FirewallDelAllVisits_past ipv6FirewallMaxEntries hs h d i hi).resetCounters

/-- What holds in every state of every run. -/
structure FwSound (s : Ipv6FirewallCcb) : Prop where
  conserved : FwConserved s
  armed : FwArmed s

theorem FwSound.init (ccb : Ipv6FirewallCcb) : FwSound (ipv6FirewallTableInit ccb) where
  conserved := ipv6FirewallTableInit_conserved ccb
  armed i k hk := by
    simp [ipv6FirewallTableInit_hash] at hk

/-- Moving the cursor changes nothing of it. -/
theorem FwSound.setCounter (h : FwSound s) (counter : BitVec 32) :
    FwSound { s with gcCounter := counter } := ⟨h.conserved, h.armed⟩

/-- An operation of either kind: it keeps what is past. -/
theorem ipv6FirewallStep_keep (hhz : 0 < hz) (l : Ipv6FirewallLabel) (hs : FwSound s) :
    FwConserved (ipv6FirewallStep hz s l) ∧
      ∀ d i, d ≤ l.now → FwPast d i s → FwPast d i (ipv6FirewallStep hz s l) := by
  by_cases hscan : ∃ maxSlots m, l.op = .gcScan maxSlots m
  · obtain ⟨now, op⟩ := l
    obtain ⟨maxSlots, m, rfl⟩ := hscan
    have hscan := ipv6FirewallGcScan_by maxSlots m (Nat.zero_le now) hs.conserved hs.armed
    exact ⟨hscan.conserved, hscan.keep⟩
  · by_cases hall : l.op = .delAll
    · obtain ⟨now, op⟩ := l
      obtain rfl : op = .delAll := hall
      have hquiet : FwQuiet now s _ :=
        .delAllVisits (List.range ipv6FirewallMaxEntries) hs.conserved
      exact ⟨hquiet.conserved.resetCounters,
        fun d i hd hold => (hquiet.keep d i hd hold).resetCounters⟩
    · have hheld := ipv6FirewallStep_held hhz l hall (Nat.zero_le l.now)
        (fun maxSlots m hop => absurd ⟨maxSlots, m, hop⟩ hscan) hs.conserved hs.armed
      exact ⟨hheld.conserved, hheld.keep⟩

/-- One step of the interleaving, likewise. -/
theorem ipv6FirewallGcStep_keep (hhz : 0 < hz) (s : ScanState Ipv6FirewallCcb)
    (a : ScanAct Nat Ipv6FirewallLabel) (hs : FwSound s.pool) :
    FwConserved ((ipv6FirewallGcScan hz).step s a).pool ∧
      ∀ d i, (∀ l, a = .op l → d ≤ l.now) → FwPast d i s.pool →
        FwPast d i ((ipv6FirewallGcScan hz).step s a).pool := by
  have hset : ∀ counter d i, FwPast d i s.pool →
      FwPast d i { s.pool with gcCounter := counter } := fun _ _ _ h => h
  refine CursorScan.step_pool (P := fun t => FwConserved t ∧ ∀ d i,
    (∀ l, a = .op l → d ≤ l.now) → FwPast d i s.pool → FwPast d i t) a
    ⟨hs.conserved, fun _ _ _ h => h⟩ ⟨(hs.setCounter _).conserved, fun d i _ h => hset _ d i h⟩
    ?_ ?_ ?_
  · intro c call _ _ _
    exact ⟨(ipv6FirewallGcVisit_quiet call.now call.start (call.count, s.pool) call.turn
        hs.conserved).conserved,
      fun d i _ h => ipv6FirewallGcVisit_keep call.now call.start (call.count, s.pool) call.turn h⟩
  · intro m count
    exact ⟨(ipv6FirewallGcFinish_quiet 0 m (count, s.pool) hs.conserved).conserved,
      fun d i _ h => (ipv6FirewallGcFinish_quiet d m (count, s.pool) hs.conserved).keep d i
        (Nat.le_refl d) h⟩
  · intro l ha
    obtain ⟨hcons, hkeep⟩ := ipv6FirewallStep_keep hhz l hs
    exact ⟨hcons, fun d i hd h => hkeep d i (hd l ha) h⟩

theorem ipv6FirewallGcStep_sound (hhz : 0 < hz) (s : ScanState Ipv6FirewallCcb)
    (a : ScanAct Nat Ipv6FirewallLabel) (hs : FwSound s.pool) :
    FwSound ((ipv6FirewallGcScan hz).step s a).pool := by
  obtain ⟨hcons, hkeep⟩ := ipv6FirewallGcStep_keep hhz s a hs
  exact ⟨hcons, fun i => hkeep 0 i (fun l _ => Nat.zero_le l.now) (hs.armed i)⟩

theorem ipv6FirewallGcScan_fits (hz : Nat) : (ipv6FirewallGcScan hz).Fits := by
  refine ⟨?_, ?_, ?_⟩
  · show 0 < ipv6FirewallGcScanChunk.toNat
    decide
  · show ipv6FirewallGcScanChunk.toNat ∣ ipv6FirewallMaxEntries
    decide
  · show ipv6FirewallMaxEntries ∣ 4294967296
    decide

theorem ipv6FirewallGcVisit_counter (now : Nat) (start : BitVec 32)
    (r : Nat × Ipv6FirewallCcb) (n : Nat) :
    (ipv6FirewallGcVisit now start r n).2.gcCounter = r.2.gcCounter := by
  unfold ipv6FirewallGcVisit
  dsimp only
  split
  · rfl
  · split
    · rfl
    · rfl

theorem ipv6FirewallDqReclaim_counter (m : Nat) (s : Ipv6FirewallCcb) :
    (ipv6FirewallDqReclaim m s).gcCounter = s.gcCounter := by
  refine Rte.dqReclaim_inv (fun t => t.gcCounter = s.gcCounter) ?_ m s rfl
  intro t i t' ht hpop
  obtain ⟨rest, -, rfl⟩ := ipv6FirewallPop_eq_some.mp hpop
  exact ht

theorem ipv6FirewallGcScan_fetches (hz : Nat) : (ipv6FirewallGcScan hz).Fetches where
  fetch _ := rfl
  visit := ipv6FirewallGcVisit_counter
  finish m _ := ipv6FirewallDqReclaim_counter m _

theorem ipv6FirewallGcScanChunk_ne (x : BitVec 32) : x + ipv6FirewallGcScanChunk ≠ x := by
  intro heq
  exact absurd (BitVec.add_right_eq_self.mp heq) (by decide)

theorem ipv6FirewallGcScan_settles (hhz : 0 < hz) (t₀ : Nat) :
    (ipv6FirewallGcScan hz).Settles FwSound (FwPast t₀) t₀ (fun _ a => FwGcSince t₀ a) where
  inv s a h _ := ipv6FirewallGcStep_sound hhz s a h
  keep s a i h hguard hpast := by
    refine (ipv6FirewallGcStep_keep hhz s a h).2 t₀ i ?_ hpast
    intro l ha
    subst ha
    exact hguard.1
  fetch s now hguard := hguard
  visit s c call h _ _ _ hnow := ipv6FirewallGcVisit_past hnow h.armed call.count call.turn
  time s l hguard := hguard.1
  own s l h hguard hmoved m hm := by
    by_cases hall : l.op = .delAll
    · obtain ⟨now, op⟩ := l
      obtain rfl : op = .delAll := hall
      have hpos : 0 < ipv6FirewallMaxEntries := by decide
      exact ipv6FirewallDelAll_past h.conserved h.armed t₀ _ (Nat.mod_lt _ hpos)
    · have hheld := ipv6FirewallStep_held hhz l hall hguard.1 hguard.2 h.conserved h.armed
      rcases hheld.cursor with hsame | ⟨-, hslots⟩
      · exact absurd (hmoved.symm.trans hsame) (ipv6FirewallGcScanChunk_ne _)
      · exact hslots m hm
  reset s l h hguard := by
    by_cases hall : l.op = .delAll
    · obtain ⟨now, op⟩ := l
      obtain rfl : op = .delAll := hall
      exact Or.inr (ipv6FirewallDelAll_past h.conserved h.armed t₀)
    · have hheld := ipv6FirewallStep_held hhz l hall hguard.1 hguard.2 h.conserved h.armed
      exact Or.inl (hheld.cursor.imp_right fun hmoved => hmoved.1)

/--
**A round of collection reaches every session.**  Once a pool's worth of calls have returned,
the table does not lead to a slot whose deadline is not past the time the round began at.
-/
theorem ipv6FirewallGc_round (hhz : 0 < hz) {ls : List (ScanAct Nat Ipv6FirewallLabel)}
    {s s' : ScanState Ipv6FirewallCcb} (h : FwSound s.pool)
    (hrun : Run (ipv6FirewallGcScan hz).step (fun _ a => FwGcSince t₀ a) s ls s')
    (hround : (ipv6FirewallGcScan hz).Round s s') (hold : s'.pool.expireAt i ≤ t₀) :
    ∀ k, s'.pool.hash.lookup k ≠ some i := by
  have hsettles := ipv6FirewallGcScan_settles hhz t₀
  have hsound : FwSound s'.pool :=
    hrun.inv (fun s => FwSound s.pool) (fun s a hs hguard => hsettles.inv s a hs hguard) h
  intro k hk
  have hlt : i < ipv6FirewallMaxEntries :=
    hsound.conserved.value_lt (Rte.Hash.mem_values_of_lookup hk)
  have hpast : FwPast t₀ i s'.pool := hsettles.round (ipv6FirewallGcScan_fits hz)
    (ipv6FirewallGcScan_fetches hz) h hrun hround hlt
  exact absurd (hpast k hk).2.2 (Nat.not_lt.mpr hold)

/-- The calls of the round look at each slot once, if no full deletion sets the cursor back. -/
theorem ipv6FirewallGc_looksOnce (hhz : 0 < hz) {ls : List (ScanAct Nat Ipv6FirewallLabel)}
    {s s' : ScanState Ipv6FirewallCcb} (h : FwSound s.pool)
    (hrun : Run (ipv6FirewallGcScan hz).step (fun _ a => FwGcSince t₀ a) s ls s')
    (hround : (ipv6FirewallGcScan hz).Round s s')
    (hall : ∀ l, ScanAct.op l ∈ ls → l.op ≠ .delAll) :
    (ipv6FirewallGcScan hz).LooksOnce s s' := by
  have hrun' := hrun.and_labels (Q := fun a => ∀ l, a = .op l → l.op ≠ .delAll)
    fun a ha l heq => hall l (heq ▸ ha)
  have hfits := ipv6FirewallGcScan_fits hz
  refine (CursorScan.Consecutive.run hfits (ipv6FirewallGcScan_fetches hz)
    (fun s a hs _ => ipv6FirewallGcStep_sound hhz s a hs) ?_ h hrun').looksOnce hfits
    hround.begun
  intro s l hs hguard
  obtain ⟨⟨hnow, hchunk⟩, hkeep⟩ := hguard
  have hheld := ipv6FirewallStep_held hhz l (hkeep l rfl) hnow hchunk hs.conserved hs.armed
  exact hheld.cursor.imp_right fun hmoved => hmoved.1

end FastRG
