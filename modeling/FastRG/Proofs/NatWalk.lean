/-
What the search for a port tries, and when it gives up.

The walk is a fold over one list of ports, which has every port from `sysMaxPort` on exactly once.
A port that is forwarded, or held by a live mapping of another flow, is passed over and leaves the
state as it was; so everything is decided at the first port that is neither.  There the flow is
given a slot and its two keys, unless no slot is to be had or a table is full.

The one way a search can give up while there is room is the allocation.  A ring that is empty is
given a single collection, of a fixed number of slots, and whatever is then past its grace period.
-/
import FastRG.Proofs.NatProtocols

namespace FastRG

variable {hz now : Nat} {s : NatCcb} {origin : NatOrigin} {flow : NatForwardKey}
  {chances : BitVec 16 → NatChance}

/-! ### The order of the ports -/

/-- So many ports, in the order they are tried. -/
def natPortsFrom : Nat → BitVec 16 → List (BitVec 16)
  | 0, _ => []
  | n + 1, natPort => natPort :: natPortsFrom n (nextNatPort natPort)

/-- The ports a walk tries, in order, as long as it is sent on. -/
def natPortOrder (startNatPort : BitVec 16) : List (BitVec 16) :=
  natPortsFrom natPortRange startNatPort

/-- The place of a port among those that may be given out. -/
def portIdx (natPort : BitVec 16) : Nat := portHost natPort - sysMaxPort

theorem portHost_inj {p q : BitVec 16} (h : portHost p = portHost q) : p = q :=
  swap16_inj.mp (BitVec.eq_of_toNat_eq h)

theorem portHost_next_ge {natPort : BitVec 16} (h : sysMaxPort ≤ portHost natPort) :
    sysMaxPort ≤ portHost (nextNatPort natPort) := by
  rw [portHost_nextNatPort]
  split <;> omega

theorem portIdx_next {natPort : BitVec 16} (h : sysMaxPort ≤ portHost natPort) :
    portIdx (nextNatPort natPort) = (portIdx natPort + 1) % natPortRange := by
  have hlt := portHost_lt natPort
  unfold portIdx
  rw [portHost_nextNatPort]
  unfold natPortRange totalSockPort sysMaxPort at *
  split <;> omega

theorem mem_natPortsFrom_ge {n : Nat} {p q : BitVec 16} (hp : sysMaxPort ≤ portHost p)
    (hq : q ∈ natPortsFrom n p) : sysMaxPort ≤ portHost q := by
  induction n generalizing p with
  | zero => cases hq
  | succ n ih =>
      rcases List.mem_cons.mp hq with rfl | hrest
      · exact hp
      · exact ih (portHost_next_ge hp) hrest

/-- The places go up by one, and around. -/
theorem portIdx_natPortsFrom (n : Nat) {p : BitVec 16} (hp : sysMaxPort ≤ portHost p) :
    (natPortsFrom n p).map portIdx
      = (List.range n).map fun k => (portIdx p + k) % natPortRange := by
  induction n generalizing p with
  | zero => rfl
  | succ n ih =>
      have hlt : portIdx p < natPortRange := by
        have h := portHost_lt p
        unfold portIdx natPortRange totalSockPort sysMaxPort at *
        omega
      rw [natPortsFrom, List.map_cons, ih (portHost_next_ge hp), List.range_succ_eq_map,
        List.map_cons, List.map_map, portIdx_next hp]
      have hzero : (portIdx p + 0) % natPortRange = portIdx p := by
        rw [Nat.add_zero, Nat.mod_eq_of_lt hlt]
      refine congrArg₂ List.cons hzero.symm ?_
      apply List.map_congr_left
      intro k _
      show ((portIdx p + 1) % natPortRange + k) % natPortRange = (portIdx p + (k + 1)) % natPortRange
      rw [Nat.mod_add_mod, Nat.add_assoc, Nat.add_comm 1 k]

theorem natPortOrder_nodup {p : BitVec 16} (hp : sysMaxPort ≤ portHost p) :
    (natPortOrder p).Nodup := by
  apply List.Nodup.of_map portIdx
  unfold natPortOrder
  rw [portIdx_natPortsFrom natPortRange hp]
  refine List.Nodup.map_on ?_ List.nodup_range
  intro k hk k' hk' heq
  have hlt := List.mem_range.mp hk
  have hlt' := List.mem_range.mp hk'
  unfold natPortRange totalSockPort sysMaxPort at *
  omega

/-- Every port that may be given out is in the order. -/
theorem mem_natPortOrder_iff {p q : BitVec 16} (hp : sysMaxPort ≤ portHost p) :
    q ∈ natPortOrder p ↔ sysMaxPort ≤ portHost q := by
  refine ⟨mem_natPortsFrom_ge hp, ?_⟩
  intro hq
  have hplt := portHost_lt p
  have hqlt := portHost_lt q
  have hmem : portIdx q ∈ (natPortOrder p).map portIdx := by
    unfold natPortOrder
    rw [portIdx_natPortsFrom natPortRange hp]
    refine List.mem_map.mpr ⟨(portIdx q + natPortRange - portIdx p) % natPortRange, ?_, ?_⟩
    · exact List.mem_range.mpr (Nat.mod_lt _ (by decide))
    · unfold portIdx natPortRange totalSockPort sysMaxPort at *
      omega
  obtain ⟨r, hr, heq⟩ := List.mem_map.mp hmem
  have hrge := mem_natPortsFrom_ge hp hr
  have hsame : r = q := by
    apply portHost_inj
    unfold portIdx at heq
    omega
  exact hsame ▸ hr

/-! ### The walk -/

/-- Ports tried one after another, until an attempt ends the call. -/
def natTryPorts (hz now : Nat) (origin : NatOrigin) (flow : NatForwardKey)
    (chances : BitVec 16 → NatChance) : List (BitVec 16) → NatCcb → NatLearned
  | [], ccb => natFail ccb
  | natPort :: rest, ccb =>
      match natTryPort hz now ccb origin flow natPort (chances natPort) with
      | .done learned => learned
      | .nextNatPort ccb => natTryPorts hz now origin flow chances rest ccb

theorem natWalkPorts_eq_tryPorts {startNatPort : BitVec 16}
    (hstart : sysMaxPort ≤ portHost startNatPort) (n : Nat) :
    ∀ (s : NatCcb) (natPort : BitVec 16), sysMaxPort ≤ portHost natPort →
      portsLeft startNatPort natPort = n + 1 →
      natWalkPorts hz now origin flow startNatPort chances (n + 1) s natPort
        = natTryPorts hz now origin flow chances (natPortsFrom (n + 1) natPort) s := by
  induction n with
  | zero =>
      intro s natPort hport hleft
      have hnext : nextNatPort natPort = startNatPort := by
        by_contra hne
        have hstep := portsLeft_nextNatPort hstart hport hne
        have hpos : 0 < portsLeft startNatPort (nextNatPort natPort) := by
          have h1 := portHost_lt (nextNatPort natPort)
          unfold portsLeft
          unfold natPortRange totalSockPort sysMaxPort at *
          split <;> omega
        omega
      rw [natWalkPorts, natPortsFrom, natTryPorts]
      cases natTryPort hz now s origin flow natPort (chances natPort) with
      | done learned => rfl
      | nextNatPort t =>
          dsimp only
          rw [if_pos hnext]
          rfl
  | succ n ih =>
      intro s natPort hport hleft
      have hne : nextNatPort natPort ≠ startNatPort := by
        intro heq
        have hnext := portHost_nextNatPort natPort
        rw [heq] at hnext
        have h1 := portHost_lt natPort
        unfold portsLeft at hleft
        unfold natPortRange totalSockPort sysMaxPort at *
        split at hnext <;> split at hleft <;> omega
      have hstep := portsLeft_nextNatPort hstart hport hne
      rw [natWalkPorts, natPortsFrom, natTryPorts]
      cases natTryPort hz now s origin flow natPort (chances natPort) with
      | done learned => rfl
      | nextNatPort t =>
          dsimp only
          rw [if_neg hne]
          exact ih t _ (portHost_next_ge hport) (by omega)

/-! ### One port -/

/-- The port is forwarded. -/
def NatForwarded (s : NatCcb) (natPort : BitVec 16) : Prop :=
  (s.portFwdTable (portHost natPort)).isActive = true

/-- A live mapping holds the port towards the flow's destination. -/
def NatHeld (now : Nat) (s : NatCcb) (flow : NatForwardKey) (natPort : BitVec 16) : Prop :=
  ∃ i, s.natReverseHash.lookup (flow.reverse natPort) = some i ∧ natEntryIsExpired now s i = false

/-- The port is the flow's own already. -/
def natOwn (s : NatCcb) (flow : NatForwardKey) (natPort : BitVec 16) : Bool :=
  match s.natReverseHash.lookup (flow.reverse natPort) with
  | none => false
  | some i => s.fkey i = flow

/-- The walk passes the port over. -/
def natPasses (now : Nat) (s : NatCcb) (flow : NatForwardKey) (natPort : BitVec 16) : Bool :=
  (s.portFwdTable (portHost natPort)).isActive ||
    match s.natReverseHash.lookup (flow.reverse natPort) with
    | none => false
    | some i => !natOwn s flow natPort && !natEntryIsExpired now s i

/-- The table once an expired holder of the port has been dropped. -/
def natEvicted (s : NatCcb) (flow : NatForwardKey) (natPort : BitVec 16) : NatCcb :=
  match s.natReverseHash.lookup (flow.reverse natPort) with
  | none => s
  | some i => (natEntryDelKeys s i).2

/-- What is found is stored under the key that finds it. -/
structure NatKeyed (s : NatCcb) : Prop where
  conserved : NatConserved s
  stored : ∀ r i, s.natReverseHash.lookup r = some i → s.rkey i = r

theorem sameFlow_iff_fkey (h : NatKeyed s) {natPort : BitVec 16} {i : Nat}
    (hr : s.natReverseHash.lookup (flow.reverse natPort) = some i) :
    natEntrySameFlow (s.addrTable i) natPort flow = true ↔ s.fkey i = flow := by
  have hstored : (s.addrTable i).natPort = natPort :=
    congrArg NatReverseKey.natPort (h.stored _ i hr)
  unfold natEntrySameFlow NatCcb.fkey AddrTable.forwardKey
  obtain ⟨srcIp, dstIp, srcPort, dstPort⟩ := flow
  simp only [NatForwardKey.mk.injEq, Bool.and_eq_true, decide_eq_true_eq]
  refine ⟨?_, ?_⟩
  · intro hsame
    obtain ⟨⟨⟨⟨-, hsip⟩, hsport⟩, hdip⟩, hdport⟩ := hsame
    exact ⟨hsip, hdip, hsport, hdport⟩
  · intro hsame
    obtain ⟨hsip, hdip, hsport, hdport⟩ := hsame
    exact ⟨⟨⟨⟨hstored, hsip⟩, hsport⟩, hdip⟩, hdport⟩

/-- A port that is passed over changes nothing. -/
theorem natTryPort_passes (h : NatKeyed s) {natPort : BitVec 16} {chance : NatChance}
    (hpass : natPasses now s flow natPort = true) :
    natTryPort hz now s origin flow natPort chance = .nextNatPort s := by
  unfold natTryPort
  dsimp only
  by_cases hfwd : (s.portFwdTable (swap16 natPort).toNat).isActive = true
  · rw [if_pos hfwd]
  · rw [if_neg hfwd]
    unfold natPasses natOwn at hpass
    have hinactive : (s.portFwdTable (portHost natPort)).isActive = false :=
      Bool.eq_false_iff.mpr hfwd
    rw [hinactive, Bool.false_or] at hpass
    cases hr : s.natReverseHash.lookup (flow.reverse natPort) with
    | none =>
        rw [hr] at hpass
        cases hpass
    | some i =>
        rw [hr] at hpass
        dsimp only at hpass
        obtain ⟨hother, halive⟩ := Bool.and_eq_true_iff.mp hpass
        have hdiff : ¬ natEntrySameFlow (s.addrTable i) natPort flow = true := by
          rw [sameFlow_iff_fkey h hr]
          simpa using hother
        have hr' : s.natReverseHash.lookup ⟨flow.dstIp, natPort, flow.dstPort⟩ = some i := hr
        rw [hr']
        dsimp only
        rw [if_neg hdiff, if_pos halive]

theorem not_forwarded_of_not_passes {natPort : BitVec 16}
    (hpass : natPasses now s flow natPort = false) : ¬ NatForwarded s natPort :=
  Bool.eq_false_iff.mp (Bool.or_eq_false_iff.mp hpass).1

/-- A port of the flow's own is given out again. -/
theorem natTryPort_own (hz : Nat) (origin : NatOrigin) (chance : NatChance) (h : NatKeyed s)
    {natPort : BitVec 16} (hpass : natPasses now s flow natPort = false) (hown : natOwn s flow natPort = true) :
    ∃ learned, natTryPort hz now s origin flow natPort chance = .done learned ∧
      learned.natPort = natPort := by
  have hfwd : ¬ (s.portFwdTable (swap16 natPort).toNat).isActive = true :=
    not_forwarded_of_not_passes hpass
  unfold natTryPort
  dsimp only
  rw [if_neg hfwd]
  cases hr : s.natReverseHash.lookup (flow.reverse natPort) with
  | none =>
      unfold natOwn at hown
      rw [hr] at hown
      cases hown
  | some i =>
      unfold natOwn at hown
      rw [hr] at hown
      have hsame : natEntrySameFlow (s.addrTable i) natPort flow = true :=
        (sameFlow_iff_fkey h hr).mpr (of_decide_eq_true hown)
      have hr' : s.natReverseHash.lookup ⟨flow.dstIp, natPort, flow.dstPort⟩ = some i := hr
      rw [hr']
      dsimp only
      rw [if_pos hsame]
      exact ⟨_, rfl, rfl⟩

/-- The state an attempt leaves that has taken a slot and written to the tables. -/
def natInsertSlot (hz now : Nat) (origin : NatOrigin) (flow : NatForwardKey)
    (natPort : BitVec 16) (chance : NatChance) (idx : Nat) (t : NatCcb) : NatAttempt :=
  let ccb := natFillEntry hz now t idx origin flow natPort
  match ccb.natReverseHash.addKeyData (flow.reverse natPort) idx chance.reverseRoom with
  | none => .nextNatPort (natGiveBack ccb idx)
  | some rev =>
      match ccb.natForwardHash.addKeyData flow idx chance.forwardRoom with
      | none => .done (natFail { ccb with natReverseHash := (rev.delKey (flow.reverse natPort)).2 })
      | some fwd => .done ⟨{ ccb with natReverseHash := rev, natForwardHash := fwd }, natPort, some idx⟩

/-- At any other port the flow is given a slot, if there is one. -/
theorem natTryPort_available (h : NatKeyed s) (hnew : s.natForwardHash.lookup flow = none)
    {natPort : BitVec 16} (chance : NatChance) (hpass : natPasses now s flow natPort = false)
    (hown : natOwn s flow natPort = false) :
    natTryPort hz now s origin flow natPort chance =
      match natSlotAlloc now (natEvicted s flow natPort) chance.grace with
      | (none, t) => .done (natFail t)
      | (some idx, t) => natInsertSlot hz now origin flow natPort chance idx t := by
  have hfwd : ¬ (s.portFwdTable (swap16 natPort).toNat).isActive = true :=
    not_forwarded_of_not_passes hpass
  -- the locked part, once nothing stands under either key
  have hinsert : ∀ t : NatCcb, t.natForwardHash.lookup flow = none →
      t.natReverseHash.lookup (flow.reverse natPort) = none →
      natInsert hz now t origin flow natPort chance =
        match natSlotAlloc now t chance.grace with
        | (none, u) => .done (natFail u)
        | (some idx, u) => natInsertSlot hz now origin flow natPort chance idx u := by
    intro t hf hr
    have hr' : t.natReverseHash.lookup ⟨flow.dstIp, natPort, flow.dstPort⟩ = none := hr
    unfold natInsert
    dsimp only
    rw [hf, hr']
    rfl
  unfold natTryPort
  dsimp only
  rw [if_neg hfwd]
  unfold natEvicted
  cases hr : s.natReverseHash.lookup (flow.reverse natPort) with
  | none =>
      have hr' : s.natReverseHash.lookup ⟨flow.dstIp, natPort, flow.dstPort⟩ = none := hr
      rw [hr']
      exact hinsert s hnew hr
  | some i =>
      have hr' : s.natReverseHash.lookup ⟨flow.dstIp, natPort, flow.dstPort⟩ = some i := hr
      have hdiff : ¬ natEntrySameFlow (s.addrTable i) natPort flow = true := by
        rw [sameFlow_iff_fkey h hr]
        unfold natOwn at hown
        rw [hr] at hown
        exact of_decide_eq_false hown
      have hexp : ¬ (!natEntryIsExpired now s i) = true := by
        have hpart := (Bool.or_eq_false_iff.mp hpass).2
        rw [hr] at hpart
        dsimp only at hpart
        rw [hown, Bool.not_false, Bool.true_and] at hpart
        rw [hpart]
        exact Bool.false_ne_true
      rw [hr']
      dsimp only
      rw [if_neg hdiff, if_neg hexp]
      refine hinsert _ ?_ ?_
      · show (s.natForwardHash.delKey _).2.lookup flow = none
        rw [Rte.Hash.lookup_delKey, hnew, ite_self]
      · show (s.natReverseHash.delKey (s.rkey i)).2.lookup (flow.reverse natPort) = none
        rw [h.stored _ i hr, Rte.Hash.lookup_delKey_self]

/-- Whether the tables have room for both keys of a mapping. -/
def NatChance.room (chance : NatChance) : Bool := chance.reverseRoom && chance.forwardRoom

/-- With room for both keys the port is given out; without, the call fails or goes on. -/
theorem natInsertSlot_natPort (hz now : Nat) (origin : NatOrigin) (flow : NatForwardKey)
    (natPort : BitVec 16) (chance : NatChance) (idx : Nat) (t : NatCcb) :
    if chance.room then
      ∃ learned, natInsertSlot hz now origin flow natPort chance idx t = .done learned ∧
        learned.natPort = natPort
    else
      ∀ learned, natInsertSlot hz now origin flow natPort chance idx t = .done learned →
        learned.natPort = 0 := by
  unfold natInsertSlot NatChance.room Rte.Hash.addKeyData
  cases chance.reverseRoom with
  | false =>
      intro learned hdone
      cases hdone
  | true =>
      cases chance.forwardRoom with
      | false =>
          intro learned hdone
          obtain rfl := NatAttempt.done.inj hdone
          rfl
      | true => exact ⟨_, rfl, rfl⟩

/-! ### Which port is given out -/

theorem NatMove.portFwdTable {start : BitVec 32} {n : Nat} {t : NatCcb}
    (h : NatMove now start n s t) : t.portFwdTable = s.portFwdTable := by
  cases h with
  | count | evict _ _ | collect _ | giveBack _ _ => rfl
  | reclaim hpop =>
      obtain ⟨rest, -, rfl⟩ := natReversePop_eq_some.mp hpop
      rfl

theorem NatMoves.portFwdTable {start : BitVec 32} {n : Nat} {t : NatCcb}
    (h : NatMoves now start n s t) : t.portFwdTable = s.portFwdTable := by
  induction h with
  | refl => rfl
  | tail _ hmove ih => rw [hmove.portFwdTable, ih]

theorem natInsert_done_port {natPort : BitVec 16} {chance : NatChance} {learned : NatLearned}
    (hnew : s.natForwardHash.lookup flow = none)
    (hdone : natInsert hz now s origin flow natPort chance = .done learned) :
    learned.natPort = 0 ∨ learned.natPort = natPort := by
  unfold natInsert at hdone
  dsimp only at hdone
  rw [hnew] at hdone
  dsimp only at hdone
  split at hdone
  · split at hdone
    · obtain rfl := NatAttempt.done.inj hdone
      exact Or.inr rfl
    · cases hdone
  · split at hdone
    · obtain rfl := NatAttempt.done.inj hdone
      exact Or.inl rfl
    · split at hdone
      · cases hdone
      · split at hdone
        · obtain rfl := NatAttempt.done.inj hdone
          exact Or.inl rfl
        · obtain rfl := NatAttempt.done.inj hdone
          exact Or.inr rfl

theorem natTryPort_done_port {natPort : BitVec 16} {chance : NatChance} {learned : NatLearned}
    (hnew : s.natForwardHash.lookup flow = none)
    (hdone : natTryPort hz now s origin flow natPort chance = .done learned) :
    learned.natPort = 0 ∨ learned.natPort = natPort ∧ ¬ NatForwarded s natPort := by
  unfold natTryPort at hdone
  dsimp only at hdone
  split at hdone
  · cases hdone
  · rename_i hfwd
    have hport : ∀ {t : NatCcb}, t.natForwardHash.lookup flow = none →
        natInsert hz now t origin flow natPort chance = .done learned →
        learned.natPort = 0 ∨ learned.natPort = natPort ∧ ¬ NatForwarded s natPort := by
      intro t ht hins
      exact (natInsert_done_port ht hins).imp_right fun heq => ⟨heq, hfwd⟩
    split at hdone
    · exact hport hnew hdone
    · split at hdone
      · obtain rfl := NatAttempt.done.inj hdone
        exact Or.inr ⟨rfl, hfwd⟩
      · split at hdone
        · cases hdone
        · refine hport ?_ hdone
          show (s.natForwardHash.delKey _).2.lookup flow = none
          rw [Rte.Hash.lookup_delKey, hnew, ite_self]

/-- A new flow is given none of the ports that are forwarded, and none that was not tried. -/
theorem natTryPorts_port {start : BitVec 32} {n : Nat} (ps : List (BitVec 16)) :
    ∀ {s : NatCcb}, NatMayScan start n s → s.natForwardHash.lookup flow = none →
      let learned := natTryPorts hz now origin flow chances ps s
      learned.natPort = 0 ∨ learned.natPort ∈ ps ∧ ¬ NatForwarded s learned.natPort := by
  induction ps with
  | nil =>
      intro s _ _
      exact Or.inl rfl
  | cons p rest ih =>
      intro s hscan hnew
      have hattempt := natTryPort_attempted hz now hscan origin flow p (chances p)
      rw [natTryPorts]
      cases htry : natTryPort hz now s origin flow p (chances p) with
      | done learned =>
          rcases natTryPort_done_port hnew htry with hzero | ⟨hport, hfwd⟩
          · exact Or.inl hzero
          · refine Or.inr ?_
            rw [hport]
            exact ⟨List.mem_cons_self, hfwd⟩
      | nextNatPort t =>
          rw [htry] at hattempt
          obtain ⟨hmoves, hscan'⟩ := hattempt
          rcases ih hscan' (hmoves.forward_none hnew) with hzero | ⟨hmem, hfwd⟩
          · exact Or.inl hzero
          · refine Or.inr ⟨List.mem_cons_of_mem _ hmem, ?_⟩
            unfold NatForwarded at hfwd ⊢
            rw [← hmoves.portFwdTable]
            exact hfwd

/-- The first port that is not passed over. -/
def natFirstPort (now : Nat) (s : NatCcb) (flow : NatForwardKey) (ps : List (BitVec 16)) :
    Option (BitVec 16) :=
  ps.find? fun p => !natPasses now s flow p

/-- A port is a real one: port zero is how a failure is reported. -/
theorem ne_zero_of_ge {p : BitVec 16} (hp : sysMaxPort ≤ portHost p) : p ≠ 0 := by
  intro hzero
  rw [hzero] at hp
  exact absurd hp (by decide)

/-- What the first port decides: the flow's own is given out, and at any other the call fails
without a slot or without room, and succeeds with both. -/
theorem natTryPorts_first (h : NatKeyed s) (hnew : s.natForwardHash.lookup flow = none)
    (ps : List (BitVec 16)) (hps : ∀ p ∈ ps, sysMaxPort ≤ portHost p) :
    (natTryPorts hz now origin flow chances ps s).natPort = 0 →
      match natFirstPort now s flow ps with
      | none => True
      | some p => natOwn s flow p = false ∧
          ((natSlotAlloc now (natEvicted s flow p) (chances p).grace).1 = none ∨
            (chances p).room = false) := by
  induction ps with
  | nil =>
      intro _
      trivial
  | cons p rest ih =>
      intro hzero
      have hp : p ≠ 0 := ne_zero_of_ge (hps p List.mem_cons_self)
      unfold natFirstPort
      rw [List.find?_cons]
      cases hpass : natPasses now s flow p with
      | true =>
          rw [natTryPorts, natTryPort_passes h hpass] at hzero
          exact ih (fun q hq => hps q (List.mem_cons_of_mem _ hq)) hzero
      | false =>
          rw [natTryPorts] at hzero
          show natOwn s flow p = false ∧ _
          cases hown : natOwn s flow p with
          | true =>
              obtain ⟨learned, hdone, hport⟩ := natTryPort_own hz origin (chances p) h hpass hown
              rw [hdone] at hzero
              exact absurd (hport.symm.trans hzero) hp
          | false =>
              refine ⟨rfl, ?_⟩
              rw [natTryPort_available h hnew (chances p) hpass hown] at hzero
              cases halloc : natSlotAlloc now (natEvicted s flow p) (chances p).grace with
              | mk slot t =>
                  cases slot with
                  | none => exact Or.inl rfl
                  | some idx =>
                      rw [halloc] at hzero
                      have hslot := natInsertSlot_natPort hz now origin flow p (chances p) idx t
                      cases hroom : (chances p).room with
                      | false => exact Or.inr rfl
                      | true =>
                          rw [hroom, if_pos rfl] at hslot
                          obtain ⟨learned, hdone, hport⟩ := hslot
                          dsimp only at hzero
                          rw [hdone] at hzero
                          exact absurd (hport.symm.trans hzero) hp

/-- Where the first port finds no slot, the call fails. -/
theorem natTryPorts_no_slot (h : NatKeyed s) (hnew : s.natForwardHash.lookup flow = none)
    (ps : List (BitVec 16)) {p : BitVec 16} (hfirst : natFirstPort now s flow ps = some p)
    (hown : natOwn s flow p = false)
    (halloc : (natSlotAlloc now (natEvicted s flow p) (chances p).grace).1 = none) :
    (natTryPorts hz now origin flow chances ps s).natPort = 0 := by
  induction ps with
  | nil => cases hfirst
  | cons q rest ih =>
      unfold natFirstPort at hfirst
      rw [List.find?_cons] at hfirst
      rw [natTryPorts]
      cases hpass : natPasses now s flow q with
      | true =>
          rw [hpass] at hfirst
          rw [natTryPort_passes h hpass]
          exact ih hfirst
      | false =>
          rw [hpass] at hfirst
          obtain rfl : q = p := Option.some.inj hfirst
          rw [natTryPort_available h hnew (chances q) hpass hown]
          cases halloc' : natSlotAlloc now (natEvicted s flow q) (chances q).grace with
          | mk slot t =>
              rw [halloc'] at halloc
              obtain rfl : slot = none := halloc
              rfl

end FastRG
