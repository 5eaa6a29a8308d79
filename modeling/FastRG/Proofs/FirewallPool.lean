/-
What an operation of the firewall can do, and that it loses no slot.

The pool is the translator's with one table in place of two, so an operation is again a
few moves: counters change, a key is deleted, a deferred slot is reclaimed, an unused
slot is given back, a session is touched.  Only learning publishes a slot, once, and
under the key of its packet.  With a single table nothing a scan or an eviction deletes
can leave half a session behind, so that `FwInv`, what the table says of a linked slot,
needs no condition on the run but that the clock does not read zero, which a stamp keeps
for a free slot.

`slots_conserved` is the conservation of both pools.
-/
import FastRG.Ipv6Firewall
import FastRG.Proofs.NatPool
import Mathlib.Logic.Relation

namespace FastRG

open Rte (SlotPool)

/-- The moves an operation makes. -/
inductive FwMove (now : Nat) : Ipv6FirewallCcb → Ipv6FirewallCcb → Prop
  | count (s : Ipv6FirewallCcb) (enospc reclaimed evicted passed dropped : Nat)
      (counter : BitVec 32) :
      FwMove now s
        { s with
          enospc := enospc
          gcReclaimed := reclaimed
          evicted := evicted
          icmp6ErrPassed := passed
          icmp6ErrDropped := dropped
          gcCounter := counter }
  | drop (s : Ipv6FirewallCcb) (k : Ipv6FirewallKey) : FwMove now s (ipv6FirewallDelKey s k).2
  | reclaim {s s₁ : Ipv6FirewallCcb} {i : Nat} (hpop : ipv6FirewallPop s = some (i, s₁)) :
      FwMove now s (ipv6FirewallHashFreeCb s₁ i)
  | giveBack {s : Ipv6FirewallCcb} {i : Nat} {ring : Rte.Ring} {e : Ipv6FirewallEntry} {d u : Nat}
      (hdeq : s.freeRing.dequeue = some (i, ring)) (he : e.isFill = .free) :
      FwMove now s
        { s with
          table := Function.update s.table i e
          expireAt := Function.update s.expireAt i d
          lastUsed := Function.update s.lastUsed i u
          freeRing := ring.enqueue i }
  | touch {s : Ipv6FirewallCcb} {i : Nat} {e : Ipv6FirewallEntry} {d u : Nat}
      (hkey : e.key = (s.table i).key) (hfill : e.isFill = (s.table i).isFill)
      (hu : 0 < now → s.lastUsed i ≠ 0 → u ≠ 0) :
      FwMove now s
        { s with
          table := Function.update s.table i e
          expireAt := Function.update s.expireAt i d
          lastUsed := Function.update s.lastUsed i u }

/-- Any number of moves. -/
abbrev FwMoves (now : Nat) : Ipv6FirewallCcb → Ipv6FirewallCcb → Prop :=
  Relation.ReflTransGen (FwMove now)

/-- A new session is published under a key that led nowhere. -/
inductive FwPublish (hz now : Nat) (key : Ipv6FirewallKey) (s : Ipv6FirewallCcb) :
    Ipv6FirewallCcb → Prop
  | intro {i : Nat} {ring : Rte.Ring} {hash : Rte.Hash Ipv6FirewallKey Nat} {room : Bool}
      (hk : s.hash.lookup key = none) (hdeq : s.freeRing.dequeue = some (i, ring))
      (hadd : s.hash.addKeyData key i room = some hash) :
      FwPublish hz now key s
        { ipv6FirewallFillEntry hz now { s with freeRing := ring } i key with hash := hash }

/-- Moves only, or moves with one publication between them. -/
inductive FwLearned (hz now : Nat) (key : Ipv6FirewallKey) (s t : Ipv6FirewallCcb) : Prop
  | kept (h : FwMoves now s t)
  | opened {s₁ s₂ : Ipv6FirewallCcb} (hk : s.hash.lookup key = none) (h₁ : FwMoves now s s₁)
      (hpub : FwPublish hz now key s₁ s₂) (h₂ : FwMoves now s₂ t)

variable {hz now : Nat} {s s' : Ipv6FirewallCcb} {k : Ipv6FirewallKey} {i : Nat}

/-! ### Each operation as moves -/

/-- A popped slot leaves the defer queue of an otherwise unchanged table. -/
theorem ipv6FirewallPop_eq_some {s₁ : Ipv6FirewallCcb} :
    ipv6FirewallPop s = some (i, s₁) ↔ ∃ rest, s.hash.dq = i :: rest ∧
      s₁ = { s with hash := { s.hash with dq := rest } } := by
  unfold ipv6FirewallPop Rte.Hash.popDq
  cases hdq : s.hash.dq with
  | nil => simp
  | cons j rest =>
      refine ⟨?_, ?_⟩
      · intro h
        obtain ⟨rfl, rfl⟩ := Prod.mk.inj (Option.some.inj h)
        exact ⟨rest, rfl, rfl⟩
      · intro hex
        obtain ⟨rest', hcons, rfl⟩ := hex
        obtain ⟨rfl, rfl⟩ := List.cons.inj hcons
        rfl

theorem ipv6FirewallDqReclaim_moves (now m : Nat) (s : Ipv6FirewallCcb) :
    FwMoves now s (ipv6FirewallDqReclaim m s) :=
  Rte.dqReclaim_inv (FwMoves now s) (fun _ _ _ hs hpop => hs.tail (.reclaim hpop)) m s .refl

theorem ipv6FirewallGcVisit_moves (start : BitVec 32) (t : Nat × Ipv6FirewallCcb) (n : Nat) :
    FwMoves now t.2 (ipv6FirewallGcVisit now start t n).2 := by
  obtain ⟨reclaimed, s⟩ := t
  unfold ipv6FirewallGcVisit
  dsimp only
  split
  · exact .refl
  · split
    · exact .refl
    · exact .single (.drop s _)

theorem ipv6FirewallGcVisits_moves (start : BitVec 32) (ns : List Nat)
    (t : Nat × Ipv6FirewallCcb) :
    FwMoves now t.2 (ns.foldl (ipv6FirewallGcVisit now start) t).2 := by
  induction ns generalizing t with
  | nil => exact .refl
  | cons n rest ih => exact (ipv6FirewallGcVisit_moves start t n).trans (ih _)

theorem ipv6FirewallGcScan_moves (now : Nat) (s : Ipv6FirewallCcb) (maxSlots : BitVec 32)
    (m : Nat) : FwMoves now s (ipv6FirewallGcScanByCcb now s maxSlots m).2 := by
  have hcursor : FwMoves now s { s with gcCounter := s.gcCounter + maxSlots } :=
    .single (.count s s.enospc s.gcReclaimed s.evicted s.icmp6ErrPassed s.icmp6ErrDropped _)
  have hvisits : FwMoves now _ _ := ipv6FirewallGcVisits_moves s.gcCounter
    (List.range maxSlots.toNat) (0, { s with gcCounter := s.gcCounter + maxSlots })
  unfold ipv6FirewallGcScanByCcb
  dsimp only at hvisits ⊢
  generalize (List.range maxSlots.toNat).foldl (ipv6FirewallGcVisit now s.gcCounter)
    (0, { s with gcCounter := s.gcCounter + maxSlots }) = t at hvisits ⊢
  have hcount : FwMoves now t.2 { t.2 with gcReclaimed := t.2.gcReclaimed + t.1 } :=
    .single (.count t.2 t.2.enospc _ t.2.evicted t.2.icmp6ErrPassed t.2.icmp6ErrDropped
      t.2.gcCounter)
  exact ((hcursor.trans hvisits).trans hcount).trans (ipv6FirewallDqReclaim_moves now m _)

theorem ipv6FirewallEvictSlot_moves (now : Nat) (s : Ipv6FirewallCcb) (victim : Nat) :
    FwMoves now s (ipv6FirewallEvictSlot s victim).2 := by
  unfold ipv6FirewallEvictSlot
  split
  · exact .refl
  · split
    · exact .refl
    · have hdrop : FwMove now s (ipv6FirewallDelKey s (s.table victim).key).2 := .drop s _
      split
      · rename_i t hdel
        rw [hdel] at hdrop
        exact .single hdrop
      · rename_i t hdel
        rw [hdel] at hdrop
        exact (Relation.ReflTransGen.single hdrop).tail
          (.count t t.enospc t.gcReclaimed _ t.icmp6ErrPassed t.icmp6ErrDropped t.gcCounter)

theorem ipv6FirewallEvictLru_moves (now : Nat) (s : Ipv6FirewallCcb) :
    FwMoves now s (ipv6FirewallEvictLru s).2 :=
  ipv6FirewallEvictSlot_moves now s _

/-- An allocation makes some moves, and then takes what the ring has. -/
theorem ipv6FirewallSlotAlloc_moves (now : Nat) (s : Ipv6FirewallCcb)
    (chance : Ipv6FirewallChance) :
    ∃ s₁, FwMoves now s s₁ ∧
      (ipv6FirewallSlotAlloc now s chance = (none, s₁) ∨
        ∃ idx ring, s₁.freeRing.dequeue = some (idx, ring) ∧
          ipv6FirewallSlotAlloc now s chance = (some idx, { s₁ with freeRing := ring })) := by
  unfold ipv6FirewallSlotAlloc
  split
  · rename_i idx ring hdeq
    exact ⟨s, .refl, Or.inr ⟨idx, ring, hdeq, rfl⟩⟩
  · have hgc := ipv6FirewallGcScan_moves now s ipv6FirewallGcScanChunk chance.gcReclaim
    dsimp only
    generalize (ipv6FirewallGcScanByCcb now s ipv6FirewallGcScanChunk chance.gcReclaim).2 = sg
      at hgc ⊢
    split
    · rename_i idx ring hdeq
      exact ⟨sg, hgc, Or.inr ⟨idx, ring, hdeq, rfl⟩⟩
    · have hev := ipv6FirewallEvictLru_moves now sg
      split
      · rename_i t hevict
        rw [hevict] at hev
        exact ⟨t, hgc.trans hev, Or.inl rfl⟩
      · rename_i t hevict
        rw [hevict] at hev
        have hall := (hgc.trans hev).trans (ipv6FirewallDqReclaim_moves now chance.evictReclaim t)
        generalize ipv6FirewallDqReclaim chance.evictReclaim t = sr at hall ⊢
        split
        · rename_i idx ring hdeq
          exact ⟨sr, hall, Or.inr ⟨idx, ring, hdeq, rfl⟩⟩
        · exact ⟨sr, hall, Or.inl rfl⟩

theorem FwMove.noSpace (now : Nat) (s : Ipv6FirewallCcb) :
    FwMove now s (ipv6FirewallNoSpace s) :=
  .count s _ s.gcReclaimed s.evicted s.icmp6ErrPassed s.icmp6ErrDropped s.gcCounter

theorem ipv6FirewallMarkUsed_move (hz now : Nat) (s : Ipv6FirewallCcb) (i : Nat) :
    FwMove now s (ipv6FirewallMarkUsed hz now s i) := by
  have hmove : FwMove now s
      { s with
        table := Function.update s.table i (s.table i)
        expireAt := Function.update s.expireAt i
          (natExpireRefresh hz (s.expireAt i) (now + ipv6FirewallEntryTimeoutSec * hz))
        lastUsed := Function.update s.lastUsed i
          (if now < s.lastUsed i ∨ now - s.lastUsed i > natExpireCoalesceSec * hz then now
            else s.lastUsed i) } := by
    refine .touch rfl rfl ?_
    intro hnow hlast
    split <;> omega
  rw [Function.update_eq_self] at hmove
  exact hmove

theorem ipv6FirewallSetConntrack_move (s : Ipv6FirewallCcb) (i : Nat) (v : TcpConntrackView) :
    FwMove now s (ipv6FirewallSetConntrack s i v) := by
  have hmove : FwMove now s
      { s with
        table := Function.update s.table i _
        expireAt := Function.update s.expireAt i v.expireSlot
        lastUsed := Function.update s.lastUsed i (s.lastUsed i) } :=
    .touch (e := { s.table i with
      tcpState := v.tcpState
      tcpFinFlags := v.tcpFinFlags
      maxSeqEndLan := v.maxSeqEndLan
      maxSeqEndWan := v.maxSeqEndWan
      maxAckLan := v.maxAckLan
      maxAckWan := v.maxAckWan
      maxWinLan := v.maxWinLan
      maxWinWan := v.maxWinWan }) rfl rfl fun _ hlast => hlast
  rw [Function.update_eq_self] at hmove
  exact hmove

/-- A slot taken, filled in and given back. -/
theorem ipv6FirewallGiveBack_move {ring : Rte.Ring} (hz now : Nat) (key : Ipv6FirewallKey)
    (hdeq : s.freeRing.dequeue = some (i, ring)) :
    FwMove now s (ipv6FirewallFreeSlot
      (ipv6FirewallFillEntry hz now { s with freeRing := ring } i key) i) := by
  have hmove : FwMove now s
      { s with
        table := Function.update s.table i { ipv6FirewallNewEntry key with isFill := .free }
        expireAt := Function.update s.expireAt i 0
        lastUsed := Function.update s.lastUsed i 0
        freeRing := ring.enqueue i } := .giveBack hdeq rfl
  unfold ipv6FirewallFreeSlot ipv6FirewallFillEntry
  simpa only [Function.update_self, Function.update_idem] using hmove

/-! ### A key that is not there does not come back by moves -/

theorem FwMove.lookup (h : FwMove now s s') (hk : s'.hash.lookup k = some i) :
    s.hash.lookup k = some i := by
  cases h with
  | count => exact hk
  | drop k' => exact (Rte.Hash.lookup_of_delKey hk).2
  | reclaim hpop =>
      obtain ⟨rest, -, rfl⟩ := ipv6FirewallPop_eq_some.mp hpop
      exact hk
  | giveBack _ _ => exact hk
  | touch _ _ _ => exact hk

theorem FwMoves.lookup (h : FwMoves now s s') (hk : s'.hash.lookup k = some i) :
    s.hash.lookup k = some i := by
  induction h with
  | refl => exact hk
  | tail _ hmove ih => exact ih (hmove.lookup hk)

theorem FwMoves.lookup_none (h : FwMoves now s s') (hk : s.hash.lookup k = none) :
    s'.hash.lookup k = none := by
  refine Option.eq_none_iff_forall_ne_some.mpr ?_
  intro i hi
  have hsome := h.lookup hi
  simp [hk] at hsome

/-! ### Learning and inbound packets -/

theorem ipv6FirewallInsert_learned (hz now : Nat) (s : Ipv6FirewallCcb) (key : Ipv6FirewallKey)
    (chance : Ipv6FirewallChance) :
    FwLearned hz now key s (ipv6FirewallInsert hz now s key chance).2 := by
  unfold ipv6FirewallInsert
  split
  · exact .kept .refl
  · rename_i hk
    obtain ⟨s₁, hmoves, halloc | ⟨idx, ring, hdeq, halloc⟩⟩ :=
      ipv6FirewallSlotAlloc_moves now s chance
    · rw [halloc]
      exact .kept (hmoves.tail (.noSpace now s₁))
    · rw [halloc]
      dsimp only
      split
      · exact .kept ((hmoves.tail (ipv6FirewallGiveBack_move hz now key hdeq)).tail
          (.noSpace now _))
      · rename_i hash hadd
        exact .opened hk hmoves (.intro (hmoves.lookup_none hk) hdeq hadd) .refl

theorem ipv6FirewallOpen_learned (hz now : Nat) (s : Ipv6FirewallCcb) (key : Ipv6FirewallKey)
    (chance : Ipv6FirewallChance) :
    FwLearned hz now key s (ipv6FirewallOpen hz now s key chance).2 := by
  unfold ipv6FirewallOpen
  split
  · exact ipv6FirewallInsert_learned hz now s key chance
  · exact .kept (.single (ipv6FirewallMarkUsed_move hz now s _))

theorem FwLearned.tail {t : Ipv6FirewallCcb} (h : FwLearned hz now k s s')
    (hmove : FwMove now s' t) : FwLearned hz now k s t := by
  cases h with
  | kept hmoves => exact .kept (hmoves.tail hmove)
  | opened hk h₁ hpub h₂ => exact .opened hk h₁ hpub (h₂.tail hmove)

/-- A packet whose session learning opens or renews. -/
structure Ipv6Packet.Learns (pkt : Ipv6Packet) (key : Ipv6FirewallKey) : Prop where
  tcp : pkt.proto = ipprotoTcp → tcpHdrLen ≤ pkt.payloadLen
  udp : pkt.proto = ipprotoUdp → udpHdrLen ≤ pkt.payloadLen
  key : pkt.key false = some key

/-- Learning opens or renews the session of its packet, and may then track the segment. -/
theorem ipv6FirewallLearn_cases (hz now : Nat) (chance : Ipv6FirewallChance)
    (s : Ipv6FirewallCcb) (pkt : Ipv6Packet) :
    (ipv6FirewallLearn hz now chance s pkt.mem pkt.ip6).val = s ∨
      ∃ key, pkt.Learns key ∧
        ((ipv6FirewallLearn hz now chance s pkt.mem pkt.ip6).val
            = (ipv6FirewallOpen hz now s key chance).2 ∨
          ∃ idx v, (ipv6FirewallLearn hz now chance s pkt.mem pkt.ip6).val
            = ipv6FirewallSetConntrack (ipv6FirewallOpen hz now s key chance).2 idx v) := by
  unfold ipv6FirewallLearn
  simp only [Rd.val_bind]
  split
  · exact Or.inl rfl
  · rename_i htcp
    split
    · exact Or.inl rfl
    · rename_i hudp
      simp only [Rd.val_bind]
      split
      · exact Or.inl rfl
      · rename_i key hkey
        have hlearns : pkt.Learns key :=
          ⟨fun hp => Nat.le_of_not_lt fun hlt => htcp ⟨hp, hlt⟩,
            fun hp => Nat.le_of_not_lt fun hlt => hudp ⟨hp, hlt⟩, hkey⟩
        refine Or.inr ⟨key, hlearns, ?_⟩
        generalize ipv6FirewallOpen hz now s key chance = r
        obtain ⟨idx, t⟩ := r
        cases idx with
        | none => exact Or.inl rfl
        | some idx =>
            dsimp only
            split
            · exact Or.inr ⟨idx, _, rfl⟩
            · exact Or.inl rfl

/-- **What learning does.**  It publishes at most the session of its packet's key. -/
theorem ipv6FirewallLearn_learned (hz now : Nat) (chance : Ipv6FirewallChance)
    (s : Ipv6FirewallCcb) (pkt : Ipv6Packet) :
    FwMoves now s (ipv6FirewallLearn hz now chance s pkt.mem pkt.ip6).val ∨
      ∃ key, pkt.key false = some key ∧
        FwLearned hz now key s (ipv6FirewallLearn hz now chance s pkt.mem pkt.ip6).val := by
  rcases ipv6FirewallLearn_cases hz now chance s pkt with hsame | ⟨key, hlearns, hopen | htrack⟩
  · rw [hsame]
    exact Or.inl .refl
  · rw [hopen]
    exact Or.inr ⟨key, hlearns.key, ipv6FirewallOpen_learned hz now s key chance⟩
  · obtain ⟨idx, v, htrack⟩ := htrack
    rw [htrack]
    exact Or.inr ⟨key, hlearns.key, (ipv6FirewallOpen_learned hz now s key chance).tail
      (ipv6FirewallSetConntrack_move _ idx v)⟩

theorem ipv6FirewallLookupLive_moves (now : Nat) (s : Ipv6FirewallCcb) (key : Ipv6FirewallKey) :
    FwMoves now s (ipv6FirewallLookupLive now s key).2 := by
  unfold ipv6FirewallLookupLive
  split
  · exact .refl
  · split
    · exact .single (.drop s key)
    · exact .refl

theorem ipv6FirewallIcmp6Drop_move (now : Nat) (s : Ipv6FirewallCcb) :
    FwMove now s (ipv6FirewallIcmp6Drop s).2 :=
  .count s s.enospc s.gcReclaimed s.evicted s.icmp6ErrPassed _ s.gcCounter

/-- A packet from the WAN makes at most one lookup, and then leaves the links alone. -/
inductive FwLooked (now : Nat) (s s' : Ipv6FirewallCcb) : Prop
  | intro {t : Ipv6FirewallCcb} (ht : t = s ∨ ∃ key, t = (ipv6FirewallLookupLive now s key).2)
      (hmoves : FwMoves now t s') (hhash : s'.hash = t.hash)

theorem FwLooked.moves (h : FwLooked now s s') : FwMoves now s s' := by
  obtain ⟨ht, hmoves, -⟩ := h
  rcases ht with rfl | ⟨key, rfl⟩
  · exact hmoves
  · exact (ipv6FirewallLookupLive_moves now s key).trans hmoves

theorem ipv6FirewallIcmp6ErrorPass_looked (now : Nat) (s : Ipv6FirewallCcb)
    (mem : Nat → BitVec 8) (ip6 : Nat) (payloadLen : BitVec 16) :
    FwLooked now s (ipv6FirewallIcmp6ErrorPass now s mem ip6 payloadLen).val.2 := by
  have hdrop : FwLooked now s (ipv6FirewallIcmp6Drop s).2 :=
    ⟨Or.inl rfl, .single (ipv6FirewallIcmp6Drop_move now s), rfl⟩
  unfold ipv6FirewallIcmp6ErrorPass
  dsimp only
  split
  · exact hdrop
  · simp only [Rd.val_bind]
    split
    · exact hdrop
    · simp only [Rd.val_bind]
      split
      · exact hdrop
      · rename_i key _
        have hlive : ∃ key', (ipv6FirewallLookupLive now s key).2
            = (ipv6FirewallLookupLive now s key').2 := ⟨key, rfl⟩
        generalize ipv6FirewallLookupLive now s key = r at hlive ⊢
        obtain ⟨found, t⟩ := r
        cases found with
        | none => exact ⟨Or.inr hlive, .single (ipv6FirewallIcmp6Drop_move now t), rfl⟩
        | some idx =>
            exact ⟨Or.inr hlive, .single (.count t t.enospc t.gcReclaimed t.evicted _
              t.icmp6ErrDropped t.gcCounter), rfl⟩

theorem ipv6FirewallTcpInboundPass_moves (hz now : Nat) (s : Ipv6FirewallCcb) (idx : Nat)
    (mem : Nat → BitVec 8) (ip6 : Nat) (payloadLen : BitVec 16) :
    FwMoves now s (ipv6FirewallTcpInboundPass hz now s idx mem ip6 payloadLen).val.2 ∧
      (ipv6FirewallTcpInboundPass hz now s idx mem ip6 payloadLen).val.2.hash = s.hash := by
  unfold ipv6FirewallTcpInboundPass
  split
  · exact ⟨.refl, rfl⟩
  · simp only [Rd.val_bind]
    split
    · exact ⟨.single (ipv6FirewallSetConntrack_move s idx _), rfl⟩
    · exact ⟨.refl, rfl⟩

theorem ipv6FirewallInboundPass_looked (hz now : Nat) (s : Ipv6FirewallCcb)
    (mem : Nat → BitVec 8) (ip6 : Nat) :
    FwLooked now s (ipv6FirewallInboundPass hz now s mem ip6).val.2 := by
  unfold ipv6FirewallInboundPass
  simp only [Rd.val_bind]
  split
  · exact ipv6FirewallIcmp6ErrorPass_looked now s mem ip6 _
  · simp only [Rd.val_bind]
    split
    · exact ⟨Or.inl rfl, .refl, rfl⟩
    · rename_i key _
      have hlive : ∃ key', (ipv6FirewallLookupLive now s key).2
          = (ipv6FirewallLookupLive now s key').2 := ⟨key, rfl⟩
      generalize ipv6FirewallLookupLive now s key = r at hlive ⊢
      obtain ⟨found, t⟩ := r
      cases found with
      | none => exact ⟨Or.inr hlive, .refl, rfl⟩
      | some idx =>
          have hused : FwMoves now t (ipv6FirewallMarkUsed hz now t idx) :=
            .single (ipv6FirewallMarkUsed_move hz now t idx)
          simp only [Rd.val_bind]
          split
          · exact ⟨Or.inr hlive, hused, rfl⟩
          · obtain ⟨hmoves, hhash⟩ := ipv6FirewallTcpInboundPass_moves hz now
              (ipv6FirewallMarkUsed hz now t idx) idx mem ip6 (ip6PayloadLen mem ip6).val
            exact ⟨Or.inr hlive, hused.trans hmoves, hhash⟩

theorem ipv6FirewallDelAllVisits_moves (now : Nat) (is : List Nat) (s : Ipv6FirewallCcb) :
    FwMoves now s (is.foldl ipv6FirewallDelAllVisit s) := by
  induction is generalizing s with
  | nil => exact .refl
  | cons i rest ih =>
      refine Relation.ReflTransGen.trans ?_ (ih (ipv6FirewallDelAllVisit s i))
      unfold ipv6FirewallDelAllVisit
      split
      · exact .refl
      · split
        · exact .single (.drop s _)
        · exact .refl

theorem FwMove.resetCounters (now : Nat) (s : Ipv6FirewallCcb) :
    FwMove now s (ipv6FirewallResetCounters s) :=
  .count s 0 0 0 0 0 0

theorem ipv6FirewallDelAll_moves (now : Nat) (s : Ipv6FirewallCcb) :
    FwMoves now s (ipv6FirewallTableDelAllEntriesFromHash s) :=
  (ipv6FirewallDelAllVisits_moves now (List.range ipv6FirewallMaxEntries) s).tail
    (.resetCounters now _)

/-- **What any operation does.**  Only learning makes a key lead somewhere. -/
theorem ipv6FirewallStep_learned (hz : Nat) (s : Ipv6FirewallCcb) (l : Ipv6FirewallLabel) :
    FwMoves l.now s (ipv6FirewallStep hz s l) ∨
      ∃ pkt chance key, l.op = .learn pkt chance ∧ pkt.key false = some key ∧
        FwLearned hz l.now key s (ipv6FirewallStep hz s l) := by
  obtain ⟨now, op⟩ := l
  cases op with
  | learn pkt chance =>
      rcases ipv6FirewallLearn_learned hz now chance s pkt with hmoves | ⟨key, hkey, hlearned⟩
      · exact Or.inl hmoves
      · exact Or.inr ⟨pkt, chance, key, rfl, hkey, hlearned⟩
  | inbound pkt => exact Or.inl (ipv6FirewallInboundPass_looked hz now s pkt.mem pkt.ip6).moves
  | gcScan maxSlots m => exact Or.inl (ipv6FirewallGcScan_moves now s maxSlots m)
  | evictLru => exact Or.inl (ipv6FirewallEvictLru_moves now s)
  | delAll => exact Or.inl (ipv6FirewallDelAll_moves now s)
  | reclaim m => exact Or.inl (ipv6FirewallDqReclaim_moves now m s)

/-! ### Conservation -/

/-- The free ring and the table that owns the slots. -/
def Ipv6FirewallCcb.pool (s : Ipv6FirewallCcb) : SlotPool Ipv6FirewallKey := ⟨s.freeRing, s.hash⟩

/-- Every slot is in exactly one place, and no enqueue has failed. -/
def FwConserved (s : Ipv6FirewallCcb) : Prop :=
  SlotPool.Conserved ipv6FirewallMaxEntries s.pool []

theorem ipv6FirewallTableInit_ring (ccb : Ipv6FirewallCcb) :
    (ipv6FirewallTableInit ccb).freeRing
      = ⟨ipv6FirewallMaxEntries, List.range ipv6FirewallMaxEntries, 0⟩ := by
  unfold ipv6FirewallTableInit ipv6FirewallResetCounters ipv6FirewallTableEnqueueAllEntriesToRing
    ipv6FirewallTableInitEntries
  generalize ipv6FirewallMaxEntries = size
  exact Rte.Ring.fill_eq size

/-- The ring with its first slots written out, so that short runs can be evaluated. -/
theorem ipv6FirewallTableInit_eq (ccb : Ipv6FirewallCcb) : ipv6FirewallTableInit ccb =
    { ipv6FirewallTableInit ccb with
      freeRing := ⟨65536, 0 :: 1 :: List.range' 2 65534, 0⟩ } := by
  have hrange : ∀ size, List.range (size + 2) = 0 :: 1 :: List.range' 2 size := by
    intro size
    rw [List.range_eq_range', List.range'_succ, List.range'_succ]
  have hring : (ipv6FirewallTableInit ccb).freeRing
      = ⟨65536, 0 :: 1 :: List.range' 2 65534, 0⟩ := by
    rw [ipv6FirewallTableInit_ring, ← hrange]
    rfl
  rw [← hring]

theorem ipv6FirewallTableInit_hash (ccb : Ipv6FirewallCcb) :
    (ipv6FirewallTableInit ccb).hash = Rte.Hash.empty := rfl

theorem ipv6FirewallTableInit_conserved (ccb : Ipv6FirewallCcb) :
    FwConserved (ipv6FirewallTableInit ccb) := by
  unfold FwConserved Ipv6FirewallCcb.pool
  rw [ipv6FirewallTableInit_ring]
  exact Rte.SlotPool.conserved_fresh ipv6FirewallMaxEntries

theorem FwMove.conserved (hmove : FwMove now s s') (h : FwConserved s) : FwConserved s' := by
  cases hmove with
  | count => exact h
  | drop k => exact h.unlink k
  | @reclaim s₁ i hpop =>
      obtain ⟨rest, hdq, rfl⟩ := ipv6FirewallPop_eq_some.mp hpop
      have hpop' : s.pool.hash.popDq = some (i, { s.hash with dq := rest }) := by
        show s.hash.popDq = _
        unfold Rte.Hash.popDq
        rw [hdq]
      exact (Rte.SlotPool.Conserved.pop h hpop').giveBack
  | giveBack hdeq _ => exact (Rte.SlotPool.Conserved.take h hdeq).giveBack
  | touch _ _ _ => exact h

theorem FwMoves.conserved (hmoves : FwMoves now s s') (h : FwConserved s) : FwConserved s' := by
  induction hmoves with
  | refl => exact h
  | tail _ hmove ih => exact hmove.conserved ih

theorem FwPublish.conserved (hpub : FwPublish hz now k s s') (h : FwConserved s) :
    FwConserved s' := by
  obtain ⟨hk, hdeq, hadd⟩ := hpub
  exact (Rte.SlotPool.Conserved.take h hdeq).publish hk hadd

theorem FwLearned.conserved (hlearned : FwLearned hz now k s s') (h : FwConserved s) :
    FwConserved s' := by
  cases hlearned with
  | kept hmoves => exact hmoves.conserved h
  | opened _ h₁ hpub h₂ => exact h₂.conserved (hpub.conserved (h₁.conserved h))

theorem ipv6FirewallStep_conserved (l : Ipv6FirewallLabel) (h : FwConserved s) :
    FwConserved (ipv6FirewallStep hz s l) := by
  rcases ipv6FirewallStep_learned hz s l with hmoves | ⟨_, _, _, _, _, hlearned⟩
  · exact hmoves.conserved h
  · exact hlearned.conserved h

/-- Along any run from a fresh table, the slots are conserved. -/
theorem ipv6FirewallRun_conserved {guard : Ipv6FirewallCcb → Ipv6FirewallLabel → Prop}
    {ls : List Ipv6FirewallLabel} (ccb : Ipv6FirewallCcb)
    (hrun : Run (ipv6FirewallStep hz) guard (ipv6FirewallTableInit ccb) ls s) : FwConserved s :=
  hrun.inv FwConserved (fun _ l h _ => ipv6FirewallStep_conserved l h)
    (ipv6FirewallTableInit_conserved ccb)

/-! ### What the table says of a slot -/

/-- What every state of a run satisfies, beside conservation. -/
structure FwInv (s : Ipv6FirewallCcb) : Prop where
  conserved : FwConserved s
  free : ∀ i ∈ s.freeRing.items, (s.table i).isFill = .free
  linked : ∀ k i, s.hash.lookup k = some i → (s.table i).key = k ∧ s.lastUsed i ≠ 0

namespace FwInv

theorem init (ccb : Ipv6FirewallCcb) : FwInv (ipv6FirewallTableInit ccb) where
  conserved := ipv6FirewallTableInit_conserved ccb
  free i hi := by
    have hlt : i < ipv6FirewallMaxEntries := (ipv6FirewallTableInit_conserved ccb).free_lt hi
    show (if i < ipv6FirewallMaxEntries then { ccb.table i with isFill := .free }
      else ccb.table i).isFill = .free
    rw [if_pos hlt]
  linked k i hk := by
    simp [ipv6FirewallTableInit_hash] at hk

theorem not_free (h : FwInv s) (hk : s.hash.lookup k = some i) : i ∉ s.freeRing.items :=
  h.conserved.value_not_free (Rte.Hash.mem_values_of_lookup hk)

theorem not_deferred (h : FwInv s) (hk : s.hash.lookup k = some i) : i ∉ s.hash.dq :=
  h.conserved.value_not_dq (Rte.Hash.mem_values_of_lookup hk)

/-- One slot is written, and every other is linked and free as before. -/
theorem of_slot {j : Nat} {e : Ipv6FirewallEntry} {u : Nat} (h : FwInv s) (hcons : FwConserved s')
    (htable : s'.table = Function.update s.table j e)
    (hused : s'.lastUsed = Function.update s.lastUsed j u)
    (hring : ∀ i ∈ s'.freeRing.items, i ≠ j → i ∈ s.freeRing.items)
    (hfree : j ∈ s'.freeRing.items → e.isFill = .free)
    (hlookup : ∀ k i, s'.hash.lookup k = some i → i ≠ j → s.hash.lookup k = some i)
    (hlinked : ∀ k, s'.hash.lookup k = some j → e.key = k ∧ u ≠ 0) : FwInv s' := by
  refine ⟨hcons, ?_, ?_⟩
  · intro i hi
    rw [htable]
    by_cases hij : i = j
    · subst hij
      rw [Function.update_self]
      exact hfree hi
    · rw [Function.update_of_ne hij]
      exact h.free i (hring i hi hij)
  · intro k i hk
    rw [htable, hused]
    by_cases hij : i = j
    · subst hij
      rw [Function.update_self, Function.update_self]
      exact hlinked k hk
    · rw [Function.update_of_ne hij, Function.update_of_ne hij]
      exact h.linked k i (hlookup k i hk hij)

end FwInv

theorem FwMove.inv (hmove : FwMove now s s') (hnow : 0 < now) (h : FwInv s) : FwInv s' := by
  have hcons : FwConserved s' := hmove.conserved h.conserved
  have hlookup : ∀ k i, s'.hash.lookup k = some i → s.hash.lookup k = some i :=
    fun _ _ hk => hmove.lookup hk
  cases hmove with
  | count => exact ⟨hcons, h.free, h.linked⟩
  | drop k' =>
      refine ⟨hcons, h.free, ?_⟩
      intro k i hk
      exact h.linked k i (hlookup k i hk)
  | @reclaim s₁ j hpop =>
      obtain ⟨rest, hdq, rfl⟩ := ipv6FirewallPop_eq_some.mp hpop
      refine h.of_slot hcons rfl rfl ?_ (fun _ => rfl) (fun k i hk _ => hlookup k i hk) ?_
      · intro i hi hij
        exact (Rte.Ring.mem_of_mem_enqueue hi).resolve_left hij
      · intro k hk
        exact absurd (hdq ▸ List.mem_cons_self) (h.not_deferred (hlookup k j hk))
  | @giveBack j ring e d u hdeq he =>
      obtain ⟨rest, hitems, rfl⟩ := Rte.Ring.dequeue_eq_some.mp hdeq
      refine h.of_slot hcons rfl rfl ?_ (fun _ => he) (fun k i hk _ => hlookup k i hk) ?_
      · intro i hi hij
        have hrest : i ∈ rest := (Rte.Ring.mem_of_mem_enqueue hi).resolve_left hij
        exact hitems ▸ List.mem_cons_of_mem j hrest
      · intro k hk
        exact absurd (hitems ▸ List.mem_cons_self) (h.not_free (hlookup k j hk))
  | @touch j e d u hkey hfill hu =>
      refine h.of_slot hcons rfl rfl (fun i hi _ => hi) ?_ (fun k i hk _ => hlookup k i hk) ?_
      · intro hj
        rw [hfill]
        exact h.free j hj
      · intro k hk
        obtain ⟨hstored, hused⟩ := h.linked k j (hlookup k j hk)
        exact ⟨hkey.trans hstored, hu hnow hused⟩

theorem FwMoves.inv (hmoves : FwMoves now s s') (hnow : 0 < now) (h : FwInv s) : FwInv s' := by
  induction hmoves with
  | refl => exact h
  | tail _ hmove ih => exact hmove.inv hnow ih

theorem FwPublish.inv (hpub : FwPublish hz now k s s') (hnow : 0 < now) (h : FwInv s) :
    FwInv s' := by
  have hcons : FwConserved s' := hpub.conserved h.conserved
  cases hpub with
  | @intro j ring hash room hk hdeq hadd =>
      obtain ⟨rest, hitems, rfl⟩ := Rte.Ring.dequeue_eq_some.mp hdeq
      have hlookup : ∀ k' i, hash.lookup k' = some i → k' ≠ k → s.hash.lookup k' = some i := by
        intro k' i hk' hne
        rw [Rte.Hash.lookup_addKeyData hadd, if_neg hne] at hk'
        exact hk'
      have hself : hash.lookup k = some j := by
        rw [Rte.Hash.lookup_addKeyData hadd, if_pos rfl]
      refine h.of_slot hcons rfl rfl ?_ ?_ ?_ ?_
      · intro i hi _
        exact hitems ▸ List.mem_cons_of_mem j hi
      · intro hj
        have hnodup : s.freeRing.items.Nodup := h.conserved.ring_nodup
        rw [hitems] at hnodup
        exact absurd hj (List.nodup_cons.mp hnodup).1
      · intro k' i hk' hij
        refine hlookup k' i hk' ?_
        intro heq
        subst heq
        exact hij (Option.some.inj (hk'.symm.trans hself))
      · intro k' hk'
        by_cases hne : k' = k
        · exact ⟨hne.symm, by omega⟩
        · exact absurd (hitems ▸ List.mem_cons_self) (h.not_free (hlookup k' j hk' hne))

theorem FwLearned.inv (hlearned : FwLearned hz now k s s') (hnow : 0 < now) (h : FwInv s) :
    FwInv s' := by
  cases hlearned with
  | kept hmoves => exact hmoves.inv hnow h
  | opened _ h₁ hpub h₂ => exact h₂.inv hnow (hpub.inv hnow (h₁.inv hnow h))

theorem ipv6FirewallStep_inv (l : Ipv6FirewallLabel) (hnow : 0 < l.now) (h : FwInv s) :
    FwInv (ipv6FirewallStep hz s l) := by
  rcases ipv6FirewallStep_learned hz s l with hmoves | ⟨_, _, _, _, _, hlearned⟩
  · exact hmoves.inv hnow h
  · exact hlearned.inv hnow h

/-- The invariant along any run whose clock does not read zero. -/
theorem ipv6FirewallRun_inv {ls : List Ipv6FirewallLabel} (ccb : Ipv6FirewallCcb)
    (hrun : Run (ipv6FirewallStep hz) (fun _ l => 0 < l.now) (ipv6FirewallTableInit ccb) ls s) :
    FwInv s :=
  hrun.inv FwInv (fun _ l h hnow => ipv6FirewallStep_inv l hnow h) (FwInv.init ccb)

/--
**No slot is lost or handed out twice.**  After any sequence of operations on either
pool, the free ring, the values of the table that owns the slots and its defer queue
together are every slot exactly once, and no enqueue to the ring has ever failed.
-/
theorem slots_conserved (crc : BitVec 32 → BitVec 32 → BitVec 32) (hz : Nat)
    (natCcb : NatCcb) (natOps : List NatLabel)
    (fwCcb : Ipv6FirewallCcb) (fwOps : List Ipv6FirewallLabel) :
    let nat := natOps.foldl (natStep crc hz) (natTableInit natCcb)
    let fw := fwOps.foldl (ipv6FirewallStep hz) (ipv6FirewallTableInit fwCcb)
    (nat.natFreeRing.items ++ (nat.natReverseHash.values ++ nat.natReverseHash.dq)).Perm
        (List.range maxNatEntries) ∧
      nat.natFreeRing.failed = 0 ∧
      (fw.freeRing.items ++ (fw.hash.values ++ fw.hash.dq)).Perm
        (List.range ipv6FirewallMaxEntries) ∧
      fw.freeRing.failed = 0 := by
  intro nat fw
  have hnat : NatConserved nat := natRun_conserved natCcb (.of_labels _ natOps fun _ _ _ => trivial)
  have hfw : FwConserved fw :=
    ipv6FirewallRun_conserved fwCcb (.of_labels _ fwOps fun _ _ _ => trivial)
  exact ⟨hnat.perm_range, hnat.failed, hfw.perm_range, hfw.failed⟩

end FastRG
