/-
One lcore sends on each TX queue, and what is handed over is sent by the one whose queue it is.

The layout is the one that the comment in `dp.h` draws (`owner`).  The cards may bring the number of
data lcores down after the first port was set up, so what is needed of a start is that each port has
three queues more than there are data lcores in the end (`TxLayout.Fits`).
-/
import FastRG.TxQueues

namespace FastRG

/-! ### Start -/

/-- There are queues for all lcores, on both ports. -/
structure TxLayout.Fits (node : TxLayout) : Prop where
  data : node.numDataQueues ≤ maxDataQueues
  ports : ∀ port, node.numDataQueues.toNat + 3 ≤ (node.txQueueCount port).toNat

theorem fastrgCalcRssQueueCount_le (cpuCount : BitVec 32) :
    fastrgCalcRssQueueCount cpuCount ≤ maxDataQueues := by
  unfold fastrgCalcRssQueueCount
  split
  · decide
  · dsimp only
    split
    · exact BitVec.le_refl _
    · exact BitVec.not_lt.mp ‹_›

theorem toNat_getTxQueueCount {n : BitVec 16} (h : n ≤ maxDataQueues) :
    (getTxQueueCount n).toNat = n.toNat + 3 := by
  unfold maxDataQueues at h
  unfold getTxQueueCount
  bv_omega

/-- A port gets as many queues as it asks for, or the number of data lcores comes down. -/
theorem portInit_fits {lcoreCount : BitVec 32} {mode : DpMode} {max n n' rings : BitVec 16}
    (hn : n ≤ fastrgCalcRssQueueCount lcoreCount)
    (h : portInit lcoreCount mode max n = some (n', rings)) :
    n' ≤ n ∧ n'.toNat + 3 ≤ rings.toNat := by
  have hcalc := fastrgCalcRssQueueCount_le lcoreCount
  have hcount := toNat_getTxQueueCount (BitVec.le_trans hn hcalc)
  unfold portInit at h
  cases mode with
  | rss =>
      have hrings : fastrgCalcQueueCount lcoreCount - 1 = fastrgCalcRssQueueCount lcoreCount :=
        BitVec.add_sub_cancel _ _
      simp only [hrings] at h
      split at h
      · cases h
      cases h
      rw [toNat_getTxQueueCount hcalc]
      exact ⟨BitVec.le_refl _, Nat.add_le_add_right hn 3⟩
  | distributor =>
      simp only at h
      split at h
      · rename_i hfew
        split at h
        · cases h
        rename_i hfour
        cases h
        have hless : max - 3 ≤ n := by bv_omega
        rw [toNat_getTxQueueCount (BitVec.le_trans hless (BitVec.le_trans hn hcalc))]
        exact ⟨hless, Nat.le_refl _⟩
      · cases h
        rw [hcount]
        exact ⟨BitVec.le_refl _, Nat.le_refl _⟩

theorem initPort_fits {lcoreCount : BitVec 32} {mode : Port → DpMode} {max : Port → BitVec 16}
    {node : TxLayout} (h : initPort lcoreCount mode max = some node) : node.Fits := by
  obtain ⟨⟨n, lan⟩, hlan, h⟩ := Option.bind_eq_some_iff.mp h
  obtain ⟨⟨n', wan⟩, hwan, h⟩ := Option.bind_eq_some_iff.mp h
  cases h
  obtain ⟨hn, hfirst⟩ := portInit_fits (BitVec.le_refl _) hlan
  obtain ⟨hn', hsecond⟩ := portInit_fits hn hwan
  refine ⟨BitVec.le_trans hn' (BitVec.le_trans hn (fastrgCalcRssQueueCount_le lcoreCount)), ?_⟩
  intro port
  cases port with
  | lan => exact Nat.le_trans (Nat.add_le_add_right hn' 3) hfirst
  | wan => exact hsecond

/-! ### Owners -/

variable {n index queue : BitVec 16} {port : Port} {sender : FastrgTxSender}

/-- Queue 0 is the control thread's, `1..N` are the data lcores' that read the other port, `N + 1`
is the poller's of this port and `N + 2` the other's. -/
def owner (n : BitVec 16) (port : Port) (queue : BitVec 16) : FastrgTxSender × BitVec 16 :=
  if queue = 0 then (.ctrlThread, 0)
  else if queue ≤ n then (if port = .lan then .wanData else .lanData, queue - 1)
  else (if queue = n + 1 ↔ port = .lan then .lanCtrl else .wanCtrl, 0)

theorem data_queue (hi : index < n) : getTxQueueIdForSender .wanData index .lan n = index + 1 ∧
    getTxQueueIdForSender .lanData index .wan n = index + 1 := by
  refine ⟨if_neg ?_, if_neg ?_⟩
  · exact not_or.mpr ⟨BitVec.not_le.mpr hi, fun h => h rfl⟩
  · exact not_or.mpr ⟨BitVec.not_le.mpr hi, fun h => h rfl⟩

/-- The queues of the data lcores have rings. -/
theorem data_queue_ring (hn : n ≤ maxDataQueues) (hi : index < n) :
    0 < index + 1 ∧ index + 1 ≤ n := by
  unfold maxDataQueues at hn
  exact ⟨by bv_omega, by bv_omega⟩

/-- Those of the pollers lie behind. -/
theorem poller_queue (hn : n ≤ maxDataQueues) (port : Port) :
    owner n port (n + 1) = (if port = .lan then .lanCtrl else .wanCtrl, 0) ∧
      owner n port (n + 2) = (if port = .lan then .wanCtrl else .lanCtrl, 0) ∧
      (n + 1).toNat < n.toNat + 3 ∧ (n + 2).toNat < n.toNat + 3 := by
  unfold maxDataQueues at hn
  have hone : n + 1 ≠ 0 ∧ ¬ n + 1 ≤ n := ⟨by bv_omega, by bv_omega⟩
  have htwo : n + 2 ≠ 0 ∧ ¬ n + 2 ≤ n := ⟨by bv_omega, by bv_omega⟩
  unfold owner
  rw [if_neg hone.1, if_neg hone.2, if_neg htwo.1, if_neg htwo.2]
  refine ⟨?_, ?_, by bv_omega, by bv_omega⟩
  · simp only [true_iff]
  · cases port <;> simp

/-- Whoever gets a queue is its owner, and there is such a queue. -/
theorem getTxQueueIdForSender_owner (hn : n ≤ maxDataQueues)
    (hsome : getTxQueueIdForSender sender index port n ≠ fastrgTxQueueNone) :
    owner n port (getTxQueueIdForSender sender index port n) = (sender, index) ∧
      (getTxQueueIdForSender sender index port n).toNat < n.toNat + 3 := by
  obtain ⟨hone, htwo, h1, h2⟩ := poller_queue hn port
  have hdata (p : Port) (hi : ¬ n ≤ index) : owner n p (index + 1) =
      (if p = .lan then .wanData else .lanData, index) ∧ (index + 1).toNat < n.toNat + 3 := by
    obtain ⟨hpos, hle⟩ := data_queue_ring hn (BitVec.not_le.mp hi)
    have hle' : (index + 1).toNat ≤ n.toNat := hle
    unfold owner
    rw [if_neg fun h => absurd (h ▸ hpos) (by decide), if_pos hle, BitVec.add_sub_cancel]
    exact ⟨rfl, by omega⟩
  unfold getTxQueueIdForSender at hsome ⊢
  cases sender with
  | ctrlThread =>
      by_cases h0 : index = 0
      · subst h0
        exact ⟨rfl, Nat.succ_pos _⟩
      · exact absurd (if_neg h0) hsome
  | wanData =>
      by_cases hno : n ≤ index ∨ port ≠ .lan
      · exact absurd (if_pos hno) hsome
      obtain rfl := not_not.mp (not_or.mp hno).2
      simp only [if_neg hno]
      exact hdata .lan (not_or.mp hno).1
  | lanData =>
      by_cases hno : n ≤ index ∨ port ≠ .wan
      · exact absurd (if_pos hno) hsome
      obtain rfl := not_not.mp (not_or.mp hno).2
      simp only [if_neg hno]
      exact hdata .wan (not_or.mp hno).1
  | lanCtrl =>
      by_cases hno : index ≠ 0
      · exact absurd (if_pos hno) hsome
      obtain rfl := not_not.mp hno
      cases port with
      | lan => exact ⟨hone, h1⟩
      | wan => exact ⟨htwo, h2⟩
  | wanCtrl =>
      by_cases hno : index ≠ 0
      · exact absurd (if_pos hno) hsome
      obtain rfl := not_not.mp hno
      cases port with
      | lan => exact ⟨htwo, h2⟩
      | wan => exact ⟨hone, h1⟩

/-! ### Runs -/

variable {α : Type} {node : TxLayout} {s : TxState α}

/-- What holds of every queue in every state of every run. -/
structure TxQueue.Sound (n : BitVec 16) (q : Port × BitVec 16) (t : TxQueue α) : Prop where
  owned : ∀ b ∈ t.bursts, b.lcore = owner n q.1 q.2 ∧ q.2.toNat < n.toNat + 3
  kept : t.handed = t.bursts.flatMap TxBurst.others ++ t.ring

theorem step_sound (hn : node.numDataQueues ≤ maxDataQueues)
    (h : ∀ q, (s q).Sound node.numDataQueues q) (act : TxAct α) (hallow : node.Allowed act) :
    ∀ q, (node.step s act q).Sound node.numDataQueues q := by
  cases act with
  | handOver queue pkt =>
      unfold TxLayout.step sendPktToOtherLcore
      simp only
      split
      · exact h
      split
      · exact h
      refine (Function.forall_update_iff s _).mpr ⟨⟨(h _).owned, ?_⟩, fun q _ => h q⟩
      rw [(h _).kept, List.append_assoc]
  | burst lcore port own =>
      refine (Function.forall_update_iff s _).mpr ⟨⟨fun b hb => ?_, ?_⟩, fun q _ => h q⟩
      · rcases List.mem_append.mp hb with hb | hb
        · exact (h _).owned b hb
        obtain rfl := List.mem_singleton.mp hb
        obtain ⟨howner, hlt⟩ := getTxQueueIdForSender_owner hn hallow
        exact ⟨howner.symm, hlt⟩
      · rw [(h _).kept, List.flatMap_append, List.flatMap_singleton, List.append_assoc,
          List.take_append_drop]

/--
**One lcore sends on each TX queue.**  Whatever the cards have, if the ports come up, then in every
interleaving of the lcores all that is sent on a queue is sent by one lcore, and the queue exists.
What is handed over on a ring is sent by that lcore, once and in order, or is still there; and it
is refused only if the ring is full.
-/
theorem tx_queues_owned {lcoreCount : BitVec 32} {mode : Port → DpMode} {max : Port → BitVec 16}
    (hstart : initPort lcoreCount mode max = some node) {acts : List (TxAct α)}
    (hrun : Run node.step (fun _ act => node.Allowed act) .empty acts s) :
    (∀ q, ∃ lcore, ∀ b ∈ (s q).bursts, b.lcore = lcore ∧ q.2 < node.txQueueCount q.1) ∧
    (∀ q, (s q).handed = (s q).bursts.flatMap TxBurst.others ++ (s q).ring) ∧
    ∀ queue (pkt : α), node.HandedTo queue →
      ((sendPktToOtherLcore node .lan queue pkt s).1 = .success ↔
        (s (.lan, queue)).ring.length < txHandoffRingSize) ∧
      ∃ i < node.numDataQueues, node.txQueue (.wanData, i) .lan = queue := by
  have hfits := initPort_fits hstart
  have hsound : ∀ q, (s q).Sound node.numDataQueues q :=
    hrun.inv (fun s => ∀ q, (s q).Sound node.numDataQueues q)
      (fun _ act h => step_sound hfits.data h act)
      fun _ => ⟨fun _ hb => absurd hb List.not_mem_nil, rfl⟩
  refine ⟨fun q => ⟨owner node.numDataQueues q.1 q.2, fun b hb => ?_⟩,
    fun q => (hsound q).kept, fun queue pkt hto => ?_⟩
  · obtain ⟨howner, hlt⟩ := (hsound q).owned b hb
    exact ⟨howner, Nat.lt_of_lt_of_le hlt (hfits.ports q.1)⟩
  · obtain ⟨i, hi, hqueue⟩ := hto
    obtain ⟨hlan, hwan⟩ := data_queue hi
    have hring := data_queue_ring hfits.data hi
    obtain rfl : queue = i + 1 := hqueue.elim (fun h => h.trans hwan) fun h => h.trans hlan
    have hvalid : (i + 1).toNat < (node.txQueueCount .lan).toNat := by
      have hle : (i + 1).toNat ≤ node.numDataQueues.toNat := hring.2
      have hports := hfits.ports .lan
      omega
    refine ⟨?_, i, hi, hlan⟩
    unfold sendPktToOtherLcore
    simp only
    rw [if_neg (BitVec.not_le.mpr hvalid)]
    split
    · rename_i hfull
      exact iff_of_false (fun h => by cases h)
        (Nat.not_lt.mpr (hfull.resolve_left (not_not.mpr hring)))
    · rename_i hroom
      exact iff_of_true rfl (Nat.not_le.mp (not_or.mp hroom).2)

/-- The second card has four queues, which leaves one data lcore on each side. -/
def oneWorker : TxLayout := ⟨1, fun port => if port = .lan then 5 else 4⟩

/-- A reply crosses the ring and goes out with a batch. -/
def replyCrosses : List (TxAct Nat) := [.handOver 1 7, .burst (.wanData, 0) .lan [8, 9]]

theorem tx_queues_oneWorker :
    ∃ lcore, ∀ b ∈ (replyCrosses.foldl oneWorker.step .empty (.lan, 1)).bursts,
      b.lcore = lcore ∧ 1 < oneWorker.txQueueCount .lan := by
  have hstart : initPort 8 (fun _ => .distributor) (fun port => if port = .lan then 64 else 4) =
      some oneWorker := rfl
  have hallow : ∀ act ∈ replyCrosses, oneWorker.Allowed act := by
    intro act hact
    rcases List.mem_cons.mp hact with rfl | hact
    · exact ⟨0, by decide, .inl rfl⟩
    obtain rfl := List.mem_singleton.mp hact
    show oneWorker.txQueue (.wanData, 0) .lan ≠ fastrgTxQueueNone
    decide
  have hrun : Run oneWorker.step (fun _ act => oneWorker.Allowed act) .empty replyCrosses _ :=
    Run.of_labels _ _ fun _ => hallow
  exact (tx_queues_owned hstart hrun).1 (.lan, 1)

end FastRG
