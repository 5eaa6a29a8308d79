/-
The slots, the counters and the callbacks of a packet capture.

A slot that goes up or down moves the counter of its port and the sum of the counters by one, so
the counters are the numbers of the slots that are up.  When a port has been started something is
captured on it; when it has been stopped and nothing is, it has no callbacks.  That a port has its
callbacks while it is captured needs every registration to succeed, since nothing looks at what it
returns.
-/
import FastRG.Lib.FlagCount
import FastRG.PdumpCapture

namespace FastRG

variable {c c' : PdumpCtx} {p port : Port} {f : Option Nat} {lo hi ccb : Nat} {dev : PdumpDev}
  {lib : PdumpLib}

open FlagCount (count count_raise count_lower count_pos count_eq_zero)

/-! ### Counting -/

/-- The flags, the counters and the filters of the slots agree. -/
structure Counted (c : PdumpCtx) : Prop where
  active : ∀ p, c.activePerPort p = count (c.captureOn p) c.slots
  sum : c.anyActive = c.activePerPort .wan + c.activePerPort .lan
  inRange : ∀ p ccb, c.captureOn p ccb = true → ccb < c.slots
  filters : ∀ p ccb f, c.filter p ccb = some f → c.captureOn p ccb = true ∧ f ∈ c.filterList

/-- Only the slots of one port change. -/
structure SlotsOnly (port : Port) (c c' : PdumpCtx) : Prop where
  rest : c' = { c with
    captureOn := c'.captureOn
    filter := c'.filter
    activePerPort := c'.activePerPort
    anyActive := c'.anyActive }
  others : ∀ p, p ≠ port → c'.captureOn p = c.captureOn p ∧ c'.activePerPort p = c.activePerPort p

theorem SlotsOnly.refl (port : Port) (c : PdumpCtx) : SlotsOnly port c c :=
  ⟨rfl, fun _ _ => ⟨rfl, rfl⟩⟩

theorem SlotsOnly.trans {c'' : PdumpCtx} (h : SlotsOnly port c c') (h' : SlotsOnly port c' c'') :
    SlotsOnly port c c'' := by
  refine ⟨?_, fun p hp => ?_⟩
  · rw [h'.rest, h.rest]
  · exact ⟨(h'.others p hp).1.trans (h.others p hp).1, (h'.others p hp).2.trans (h.others p hp).2⟩

theorem active_nonneg (h : Counted c) (p : Port) : 0 ≤ c.activePerPort p := by
  rw [h.active]
  omega

/-- Nothing is captured on a port exactly when all its flags are down. -/
theorem active_eq_zero (h : Counted c) (p : Port) :
    c.activePerPort p = 0 ↔ ∀ ccb, c.captureOn p ccb = false := by
  rw [h.active, Int.natCast_eq_zero, count_eq_zero]
  refine ⟨fun hdown ccb => ?_, fun hdown ccb _ => hdown ccb⟩
  by_contra hup
  have hup' : c.captureOn p ccb = true := Bool.not_eq_false _ ▸ hup
  rw [hdown ccb (h.inRange p ccb hup')] at hup'
  exact absurd hup' (by decide)

theorem anyActive_eq_zero (h : Counted c) :
    c.anyActive = 0 ↔ ∀ p, c.activePerPort p = 0 := by
  have hwan := active_nonneg h .wan
  have hlan := active_nonneg h .lan
  rw [h.sum]
  refine ⟨fun hzero p => ?_, fun hzero => ?_⟩
  · cases p with
    | wan => omega
    | lan => omega
  · rw [hzero, hzero]
    rfl

/-! ### One slot -/

theorem pdumpStartCcb_on (hon : c.captureOn port ccb = true) :
    pdumpStartCcb port f c ccb = { c with
      filter := Function.update c.filter port (Function.update (c.filter port) ccb f) } := by
  unfold pdumpStartCcb
  exact if_pos hon

theorem pdumpStartCcb_off (hoff : c.captureOn port ccb = false) :
    pdumpStartCcb port f c ccb = { c with
      filter := Function.update c.filter port (Function.update (c.filter port) ccb f)
      captureOn := Function.update c.captureOn port (Function.update (c.captureOn port) ccb true)
      activePerPort := Function.update c.activePerPort port (c.activePerPort port + 1)
      anyActive := c.anyActive + 1 } := by
  unfold pdumpStartCcb
  exact if_neg (Bool.eq_false_iff.mp hoff)

theorem pdumpStopCcb_on (hon : c.captureOn port ccb = true) :
    pdumpStopCcb port c ccb = { c with
      captureOn := Function.update c.captureOn port (Function.update (c.captureOn port) ccb false)
      filter := Function.update c.filter port (Function.update (c.filter port) ccb none)
      activePerPort := Function.update c.activePerPort port (c.activePerPort port - 1)
      anyActive := c.anyActive - 1 } := by
  unfold pdumpStopCcb
  exact if_pos hon

theorem pdumpStopCcb_off (hoff : c.captureOn port ccb = false) :
    pdumpStopCcb port c ccb = c := by
  unfold pdumpStopCcb
  exact if_neg (Bool.eq_false_iff.mp hoff)

/-- One value of a table of two indices. -/
theorem update_update_apply {A : Type} (t : Port → Nat → A) (port : Port) (ccb : Nat) (a : A)
    (p : Port) (i : Nat) :
    Function.update t port (Function.update (t port) ccb a) p i =
      if p = port ∧ i = ccb then a else t p i := by
  by_cases hp : p = port
  · subst hp
    rw [Function.update_self]
    by_cases hi : i = ccb
    · subst hi
      rw [Function.update_self, if_pos ⟨rfl, rfl⟩]
    · rw [Function.update_of_ne hi, if_neg fun hand => hi hand.2]
  · rw [Function.update_of_ne hp, if_neg fun hand => hp hand.1]

/-- The sum follows a port that changes by one. -/
theorem sum_update (active : Port → Int) (port : Port) (d : Int) :
    Function.update active port (active port + d) .wan +
        Function.update active port (active port + d) .lan =
      active .wan + active .lan + d := by
  cases port with
  | wan =>
      rw [Function.update_self, Function.update_of_ne (show Port.lan ≠ .wan by decide)]
      omega
  | lan =>
      rw [Function.update_self, Function.update_of_ne (show Port.wan ≠ .lan by decide)]
      omega

/-- The flag of a slot goes up, and its filter is on the list. -/
theorem Counted.startCcb (h : Counted c) (port : Port) (hccb : ccb < c.slots)
    (hf : ∀ a ∈ f, a ∈ c.filterList) :
    Counted (pdumpStartCcb port f c ccb) ∧ SlotsOnly port c (pdumpStartCcb port f c ccb) ∧
      ∀ p i, (pdumpStartCcb port f c ccb).captureOn p i = true ↔
        c.captureOn p i = true ∨ p = port ∧ i = ccb := by
  have hfilter : ∀ p i a,
      Function.update c.filter port (Function.update (c.filter port) ccb f) p i = some a →
        (c.captureOn p i = true ∨ p = port ∧ i = ccb) ∧ a ∈ c.filterList := by
    intro p i a ha
    rw [update_update_apply] at ha
    by_cases hhere : p = port ∧ i = ccb
    · rw [if_pos hhere] at ha
      exact ⟨.inr hhere, hf a ha⟩
    · rw [if_neg hhere] at ha
      exact ⟨.inl (h.filters p i a ha).1, (h.filters p i a ha).2⟩
  by_cases hon : c.captureOn port ccb = true
  · rw [pdumpStartCcb_on hon]
    have hsame : ∀ p i, c.captureOn p i = true ↔ c.captureOn p i = true ∨ p = port ∧ i = ccb := by
      intro p i
      refine ⟨.inl, fun hor => ?_⟩
      rcases hor with hup | ⟨rfl, rfl⟩
      · exact hup
      · exact hon
    refine ⟨⟨h.active, h.sum, h.inRange, ?_⟩, ⟨rfl, fun _ _ => ⟨rfl, rfl⟩⟩, hsame⟩
    intro p i a ha
    exact ⟨(hsame p i).mpr (hfilter p i a ha).1, (hfilter p i a ha).2⟩
  · have hoff : c.captureOn port ccb = false := Bool.not_eq_true _ ▸ hon
    rw [pdumpStartCcb_off hoff]
    have hup : ∀ p i, Function.update c.captureOn port
        (Function.update (c.captureOn port) ccb true) p i = true ↔
          c.captureOn p i = true ∨ p = port ∧ i = ccb := by
      intro p i
      rw [update_update_apply]
      by_cases hhere : p = port ∧ i = ccb
      · rw [if_pos hhere]
        exact ⟨fun _ => .inr hhere, fun _ => rfl⟩
      · rw [if_neg hhere]
        exact ⟨.inl, fun hor => hor.resolve_right hhere⟩
    refine ⟨⟨?_, ?_, ?_, ?_⟩, ⟨rfl, ?_⟩, hup⟩
    · intro p
      by_cases hp : p = port
      · subst hp
        show Function.update c.activePerPort p (c.activePerPort p + 1) p =
          count (Function.update c.captureOn p (Function.update (c.captureOn p) ccb true) p) c.slots
        rw [Function.update_self, Function.update_self, count_raise hccb hoff, h.active]
        rfl
      · show Function.update c.activePerPort port (c.activePerPort port + 1) p =
          count (Function.update c.captureOn port
            (Function.update (c.captureOn port) ccb true) p) c.slots
        rw [Function.update_of_ne hp, Function.update_of_ne hp]
        exact h.active p
    · exact (congrArg (· + 1) h.sum).trans (sum_update c.activePerPort port 1).symm
    · intro p i hi
      rcases (hup p i).mp hi with hold | ⟨-, rfl⟩
      · exact h.inRange p i hold
      · exact hccb
    · intro p i a ha
      exact ⟨(hup p i).mpr (hfilter p i a ha).1, (hfilter p i a ha).2⟩
    · intro p hp
      exact ⟨Function.update_of_ne hp .., Function.update_of_ne hp ..⟩

/-- The flag of a slot goes down. -/
theorem Counted.stopCcb (h : Counted c) (port : Port) (ccb : Nat) :
    Counted (pdumpStopCcb port c ccb) ∧ SlotsOnly port c (pdumpStopCcb port c ccb) ∧
      ∀ p i, (pdumpStopCcb port c ccb).captureOn p i = true ↔
        c.captureOn p i = true ∧ ¬ (p = port ∧ i = ccb) := by
  by_cases hon : c.captureOn port ccb = true
  · rw [pdumpStopCcb_on hon]
    have hlower := count_lower (h.inRange port ccb hon) hon
    have hdown : ∀ p i, Function.update c.captureOn port
        (Function.update (c.captureOn port) ccb false) p i = true ↔
          c.captureOn p i = true ∧ ¬ (p = port ∧ i = ccb) := by
      intro p i
      rw [update_update_apply]
      by_cases hhere : p = port ∧ i = ccb
      · rw [if_pos hhere]
        exact ⟨fun hi => absurd hi (by decide), fun hand => absurd hhere hand.2⟩
      · rw [if_neg hhere]
        exact ⟨fun hi => ⟨hi, hhere⟩, fun hand => hand.1⟩
    refine ⟨⟨?_, ?_, ?_, ?_⟩, ⟨rfl, ?_⟩, hdown⟩
    · intro p
      by_cases hp : p = port
      · subst hp
        show Function.update c.activePerPort p (c.activePerPort p - 1) p =
          count (Function.update c.captureOn p
            (Function.update (c.captureOn p) ccb false) p) c.slots
        rw [Function.update_self, Function.update_self, h.active]
        omega
      · show Function.update c.activePerPort port (c.activePerPort port - 1) p =
          count (Function.update c.captureOn port
            (Function.update (c.captureOn port) ccb false) p) c.slots
        rw [Function.update_of_ne hp, Function.update_of_ne hp]
        exact h.active p
    · exact (congrArg (· + -1) h.sum).trans (sum_update c.activePerPort port (-1)).symm
    · intro p i hi
      exact h.inRange p i ((hdown p i).mp hi).1
    · intro p i a ha
      have ha' : (if p = port ∧ i = ccb then none else c.filter p i) = some a :=
        (update_update_apply c.filter port ccb none p i).symm.trans ha
      by_cases hhere : p = port ∧ i = ccb
      · rw [if_pos hhere] at ha'
        exact absurd ha' (by simp)
      · rw [if_neg hhere] at ha'
        exact ⟨(hdown p i).mpr ⟨(h.filters p i a ha').1, hhere⟩, (h.filters p i a ha').2⟩
    · intro p hp
      exact ⟨Function.update_of_ne hp .., Function.update_of_ne hp ..⟩
  · have hoff : c.captureOn port ccb = false := Bool.not_eq_true _ ▸ hon
    rw [pdumpStopCcb_off hoff]
    refine ⟨h, .refl port c, fun p i => ⟨fun hi => ⟨hi, ?_⟩, fun hand => hand.1⟩⟩
    intro hhere
    rw [hhere.1, hhere.2] at hi
    exact hon hi

/-! ### The slots of a port -/

/-- Every slot the loop goes over is up, and no other has changed. -/
theorem Counted.startCcbs (h : Counted c) (port : Port) (ids : List Nat)
    (hin : ∀ i ∈ ids, i < c.slots) (hf : ∀ a ∈ f, a ∈ c.filterList) :
    Counted (ids.foldl (pdumpStartCcb port f) c) ∧
      SlotsOnly port c (ids.foldl (pdumpStartCcb port f) c) ∧
      ∀ p i, (ids.foldl (pdumpStartCcb port f) c).captureOn p i = true ↔
        c.captureOn p i = true ∨ p = port ∧ i ∈ ids := by
  induction ids generalizing c with
  | nil =>
      refine ⟨h, .refl port c, fun p i => ⟨.inl, fun hor => ?_⟩⟩
      rcases hor with hup | ⟨-, hmem⟩
      · exact hup
      · exact absurd hmem List.not_mem_nil
  | cons ccb rest ih =>
      rw [List.foldl_cons]
      obtain ⟨h₁, hsame₁, hup₁⟩ := h.startCcb port (hin ccb List.mem_cons_self) hf
      have hslots : (pdumpStartCcb port f c ccb).slots = c.slots := by rw [hsame₁.rest]
      have hlist : (pdumpStartCcb port f c ccb).filterList = c.filterList := by
        rw [hsame₁.rest]
      obtain ⟨h₂, hsame₂, hup₂⟩ := ih h₁
        (fun i hi => by rw [hslots]; exact hin i (List.mem_cons_of_mem ccb hi))
        (fun a ha => by rw [hlist]; exact hf a ha)
      refine ⟨h₂, hsame₁.trans hsame₂, fun p i => ?_⟩
      rw [hup₂, hup₁, List.mem_cons, or_assoc, ← and_or_left]

/-- Every slot the loop goes over is down, and no other has changed. -/
theorem Counted.stopCcbs (h : Counted c) (port : Port) (ids : List Nat) :
    Counted (ids.foldl (pdumpStopCcb port) c) ∧
      SlotsOnly port c (ids.foldl (pdumpStopCcb port) c) ∧
      ∀ p i, (ids.foldl (pdumpStopCcb port) c).captureOn p i = true → c.captureOn p i = true := by
  induction ids generalizing c with
  | nil => exact ⟨h, .refl port c, fun _ _ hi => hi⟩
  | cons ccb rest ih =>
      rw [List.foldl_cons]
      obtain ⟨h₁, hsame₁, hup₁⟩ := h.stopCcb port ccb
      obtain ⟨h₂, hsame₂, hup₂⟩ := ih h₁
      exact ⟨h₂, hsame₁.trans hsame₂, fun p i hi => ((hup₁ p i).mp (hup₂ p i hi)).1⟩

/-- A port on which less is captured than before was not idle if it is not. -/
theorem active_ne_zero_of_le (h : Counted c) (h' : Counted c')
    (hle : ∀ p i, c.captureOn p i = true → c'.captureOn p i = true) (p : Port)
    (hne : c.activePerPort p ≠ 0) : c'.activePerPort p ≠ 0 := by
  intro hzero
  refine hne ((active_eq_zero h p).mpr fun i => ?_)
  have hdown := (active_eq_zero h' p).mp hzero i
  by_contra hup
  rw [hle p i (Bool.not_eq_false _ ▸ hup)] at hdown
  exact absurd hdown (by decide)

theorem mem_ccbRange {i : Nat} : i ∈ ccbRange lo hi ↔ lo ≤ i ∧ i ≤ hi := by
  unfold ccbRange
  rw [List.mem_range'_1]
  omega

/-! ### The callbacks of a port -/

/-- The callbacks of one side: those that are there are on a port that is not idle, on a queue the
port has. -/
def CbsRight (queues : Port → Nat) (active : Port → Int) (nb : Port → Nat)
    (cb : Port → Nat → Bool) : Prop :=
  ∀ p, nb p ≤ min (queues p) pdumpMaxQ ∧ ∀ q, cb p q = true → active p ≠ 0 ∧ q < nb p

/-- A port that is not idle has a callback on each of its queues. -/
def CbsThere (queues : Port → Nat) (active : Port → Int) (cb : Port → Nat → Bool) : Prop :=
  ∀ p, active p ≠ 0 → ∀ q < min (queues p) pdumpMaxQ, cb p q = true

section Side

variable {queues : Port → Nat} {active active' : Port → Int} {nb : Port → Nat}
  {cb : Port → Nat → Bool} {ok : Nat → Bool}

theorem CbsRight.active_mono (h : CbsRight queues active nb cb)
    (hmono : ∀ p, active p ≠ 0 → active' p ≠ 0) : CbsRight queues active' nb cb := by
  intro p
  refine ⟨(h p).1, fun q hq => ?_⟩
  exact ⟨hmono p ((h p).2 q hq).1, ((h p).2 q hq).2⟩

/-- The callbacks of a port are registered. -/
theorem CbsRight.register (h : CbsRight queues active nb cb) (hport : active port ≠ 0) :
    CbsRight queues active (Function.update nb port (min (queues port) pdumpMaxQ))
      (Function.update cb port fun q =>
        if q < min (queues port) pdumpMaxQ then ok q else cb port q) := by
  intro p
  by_cases hp : p = port
  · subst hp
    rw [Function.update_self, Function.update_self]
    refine ⟨Nat.le_refl _, fun q hq => ⟨hport, ?_⟩⟩
    by_contra hlt
    rw [if_neg hlt] at hq
    exact hlt (Nat.lt_of_lt_of_le ((h p).2 q hq).2 (h p).1)
  · rw [Function.update_of_ne hp, Function.update_of_ne hp]
    exact h p

/-- The callbacks of a port that is idle now are removed. -/
theorem CbsRight.unregister (h : CbsRight queues active nb cb)
    (hothers : ∀ p, p ≠ port → active' p = active p) :
    CbsRight queues active' nb
      (Function.update cb port fun q => if q < nb port then false else cb port q) := by
  intro p
  refine ⟨(h p).1, fun q hq => ?_⟩
  by_cases hp : p = port
  · subst hp
    rw [Function.update_self] at hq
    by_cases hlt : q < nb p
    · rw [if_pos hlt] at hq
      exact absurd hq (by decide)
    · rw [if_neg hlt] at hq
      exact absurd ((h p).2 q hq).2 hlt
  · rw [Function.update_of_ne hp] at hq
    rw [hothers p hp]
    exact (h p).2 q hq

/-- A port that was idle has all its callbacks. -/
theorem CbsThere.fill {cb' : Port → Nat → Bool} (h : CbsThere queues active cb) (port : Port)
    (hothers : ∀ p, p ≠ port → active' p = active p ∧ cb' p = cb p)
    (hport : ∀ q < min (queues port) pdumpMaxQ, cb' port q = true) :
    CbsThere queues active' cb' := by
  intro p hact q hq
  by_cases hp : p = port
  · subst hp
    exact hport q hq
  · rw [(hothers p hp).1] at hact
    rw [(hothers p hp).2]
    exact h p hact q hq

theorem CbsThere.active_mono (h : CbsThere queues active cb)
    (hmono : ∀ p, active' p ≠ 0 → active p ≠ 0) : CbsThere queues active' cb := by
  intro p hact
  exact h p (hmono p hact)

/-- Nothing is asked of a port that is idle now. -/
theorem CbsThere.unregister (h : CbsThere queues active cb)
    (hmono : ∀ p, active' p ≠ 0 → active p ≠ 0) (hport : active' port = 0) :
    CbsThere queues active'
      (Function.update cb port fun q => if q < nb port then false else cb port q) := by
  intro p hact q hq
  have hp : p ≠ port := fun hp => hact (hp ▸ hport)
  rw [Function.update_of_ne hp]
  exact h p (hmono p hact) q hq

end Side

/-- The callbacks that are there are on ports that are not idle. -/
structure Callbacks (dev : PdumpDev) (c : PdumpCtx) : Prop where
  rx : CbsRight dev.nbRxQueues c.activePerPort c.nbRxQ c.rxCb
  tx : CbsRight dev.nbTxQueues c.activePerPort c.nbTxQ c.txCb

/-- The ports that are not idle have their callbacks. -/
structure Registered (dev : PdumpDev) (c : PdumpCtx) : Prop where
  rx : CbsThere dev.nbRxQueues c.activePerPort c.rxCb
  tx : CbsThere dev.nbTxQueues c.activePerPort c.txCb

/-- Every registration on a port succeeds. -/
structure PdumpLib.Registers (dev : PdumpDev) (lib : PdumpLib) (port : Port) : Prop where
  rx : ∀ q < min (dev.nbRxQueues port) pdumpMaxQ,
    lib.devInfoOk port = true ∧ lib.addRxOk port q = true
  tx : ∀ q < min (dev.nbTxQueues port) pdumpMaxQ,
    lib.devInfoOk port = true ∧ lib.addTxOk port q = true

/-- Beside the slots, only callbacks change. -/
def SessionKept (c c' : PdumpCtx) : Prop :=
  c' = { c with
    captureOn := c'.captureOn
    filter := c'.filter
    activePerPort := c'.activePerPort
    anyActive := c'.anyActive
    rxCb := c'.rxCb
    txCb := c'.txCb
    nbRxQ := c'.nbRxQ
    nbTxQ := c'.nbTxQ }

theorem SessionKept.trans {c'' : PdumpCtx} (h : SessionKept c c') (h' : SessionKept c' c'') :
    SessionKept c c'' := by
  unfold SessionKept at h h' ⊢
  rw [h', h]

theorem SlotsOnly.sessionKept (h : SlotsOnly port c c') : SessionKept c c' := by
  unfold SessionKept
  rw [h.rest]

theorem pdumpRegisterPort_ok (hok : lib.devInfoOk port = true) :
    pdumpRegisterPort dev lib c port = { c with
      nbRxQ := Function.update c.nbRxQ port (min (dev.nbRxQueues port) pdumpMaxQ)
      nbTxQ := Function.update c.nbTxQ port (min (dev.nbTxQueues port) pdumpMaxQ)
      rxCb := Function.update c.rxCb port fun q =>
        if q < min (dev.nbRxQueues port) pdumpMaxQ then lib.addRxOk port q else c.rxCb port q
      txCb := Function.update c.txCb port fun q =>
        if q < min (dev.nbTxQueues port) pdumpMaxQ then lib.addTxOk port q
        else c.txCb port q } := by
  unfold pdumpRegisterPort
  rw [hok]
  rfl

theorem pdumpRegisterPort_error (hok : lib.devInfoOk port = false) :
    pdumpRegisterPort dev lib c port = c := by
  unfold pdumpRegisterPort
  rw [hok]
  rfl

/-- What a registration changes, whether it succeeds or not. -/
theorem pdumpRegisterPort_keeps (dev : PdumpDev) (lib : PdumpLib) (c : PdumpCtx) (port : Port) :
    pdumpRegisterPort dev lib c port = { c with
      rxCb := (pdumpRegisterPort dev lib c port).rxCb
      txCb := (pdumpRegisterPort dev lib c port).txCb
      nbRxQ := (pdumpRegisterPort dev lib c port).nbRxQ
      nbTxQ := (pdumpRegisterPort dev lib c port).nbTxQ } := by
  cases hok : lib.devInfoOk port with
  | true => rw [pdumpRegisterPort_ok hok]
  | false => rw [pdumpRegisterPort_error hok]

theorem Callbacks.register (h : Callbacks dev c) (lib : PdumpLib)
    (hport : c.activePerPort port ≠ 0) : Callbacks dev (pdumpRegisterPort dev lib c port) := by
  cases hok : lib.devInfoOk port with
  | true =>
      rw [pdumpRegisterPort_ok hok]
      exact ⟨h.rx.register hport, h.tx.register hport⟩
  | false =>
      rw [pdumpRegisterPort_error hok]
      exact h

theorem Registered.register (h : Registered dev c) (hreg : lib.Registers dev port)
    (hrx : c'.rxCb = c.rxCb) (htx : c'.txCb = c.txCb)
    (hothers : ∀ p, p ≠ port → c'.activePerPort p = c.activePerPort p) :
    Registered dev (pdumpRegisterPort dev lib c' port) := by
  cases hok : lib.devInfoOk port with
  | true =>
      rw [pdumpRegisterPort_ok hok]
      refine ⟨h.rx.fill port ?_ ?_, h.tx.fill port ?_ ?_⟩
      · intro p hp
        exact ⟨hothers p hp, by rw [← hrx]; exact Function.update_of_ne hp ..⟩
      · intro q hq
        show Function.update c'.rxCb port _ port q = true
        rw [Function.update_self, if_pos hq]
        exact (hreg.rx q hq).2
      · intro p hp
        exact ⟨hothers p hp, by rw [← htx]; exact Function.update_of_ne hp ..⟩
      · intro q hq
        show Function.update c'.txCb port _ port q = true
        rw [Function.update_self, if_pos hq]
        exact (hreg.tx q hq).2
  | false =>
      -- No queue to register on, or the device would have had to be asked.
      rw [pdumpRegisterPort_error hok]
      have hno : lib.devInfoOk port ≠ true := Bool.eq_false_iff.mp hok
      refine ⟨h.rx.fill port ?_ ?_, h.tx.fill port ?_ ?_⟩
      · intro p hp
        exact ⟨hothers p hp, by rw [hrx]⟩
      · intro q hq
        exact absurd (hreg.rx q hq).1 hno
      · intro p hp
        exact ⟨hothers p hp, by rw [htx]⟩
      · intro q hq
        exact absurd (hreg.tx q hq).1 hno

/-! ### Starting and stopping -/

/-- Slots have been turned on. -/
structure Started (dev : PdumpDev) (c c' : PdumpCtx) : Prop where
  counted : Counted c'
  callbacks : Callbacks dev c'
  kept : SessionKept c c'
  more : ∀ p, c.activePerPort p ≠ 0 → c'.activePerPort p ≠ 0

theorem Started.trans {c'' : PdumpCtx} (h : Started dev c c') (h' : Started dev c' c'') :
    Started dev c c'' :=
  ⟨h'.counted, h'.callbacks, h.kept.trans h'.kept, fun p hp => h'.more p (h.more p hp)⟩

/-- Slots have been turned off. -/
structure Stopped (dev : PdumpDev) (c c' : PdumpCtx) : Prop where
  counted : Counted c'
  callbacks : Callbacks dev c'
  kept : SessionKept c c'
  registered : Registered dev c → Registered dev c'

theorem Stopped.trans {c'' : PdumpCtx} (h : Stopped dev c c') (h' : Stopped dev c' c'') :
    Stopped dev c c'' :=
  ⟨h'.counted, h'.callbacks, h.kept.trans h'.kept, fun hreg => h'.registered (h.registered hreg)⟩

/-- A port is started: something is captured on it, and its callbacks are registered if it was
idle. -/
theorem pdumpStartPort_started (h : Counted c) (hcb : Callbacks dev c) (lib : PdumpLib)
    (hlo : lo ≤ hi) (hhi : hi < c.slots) (hf : ∀ a ∈ f, a ∈ c.filterList) (port : Port) :
    Started dev c (pdumpStartPort dev lib f lo hi c port) ∧
      (pdumpStartPort dev lib f lo hi c port).activePerPort port ≠ 0 ∧
      (Registered dev c → (c.activePerPort port = 0 → lib.Registers dev port) →
        Registered dev (pdumpStartPort dev lib f lo hi c port)) := by
  have hin : ∀ i ∈ ccbRange lo hi, i < c.slots := by
    intro i hi
    exact Nat.lt_of_le_of_lt (mem_ccbRange.mp hi).2 hhi
  obtain ⟨h₁, hsame, hup⟩ := h.startCcbs port (ccbRange lo hi) hin hf
  unfold pdumpStartPort
  simp only
  generalize (ccbRange lo hi).foldl (pdumpStartCcb port f) c = c₁ at h₁ hsame hup
  have hrx : c₁.rxCb = c.rxCb := by rw [hsame.rest]
  have htx : c₁.txCb = c.txCb := by rw [hsame.rest]
  have hnbRx : c₁.nbRxQ = c.nbRxQ := by rw [hsame.rest]
  have hnbTx : c₁.nbTxQ = c.nbTxQ := by rw [hsame.rest]
  have hothers : ∀ p, p ≠ port → c₁.activePerPort p = c.activePerPort p :=
    fun p hp => (hsame.others p hp).2
  have hmore : ∀ p, c.activePerPort p ≠ 0 → c₁.activePerPort p ≠ 0 :=
    active_ne_zero_of_le h h₁ fun p i hi => (hup p i).mpr (.inl hi)
  have hport : c₁.activePerPort port ≠ 0 := by
    intro hzero
    have hdown := (active_eq_zero h₁ port).mp hzero lo
    rw [(hup port lo).mpr (.inr ⟨rfl, mem_ccbRange.mpr ⟨Nat.le_refl lo, hlo⟩⟩)] at hdown
    exact absurd hdown (by decide)
  have hcb₁ : Callbacks dev c₁ := by
    refine ⟨?_, ?_⟩
    · rw [hrx, hnbRx]
      exact hcb.rx.active_mono hmore
    · rw [htx, hnbTx]
      exact hcb.tx.active_mono hmore
  by_cases hidle : c.activePerPort port = 0
  · have hpos : c₁.activePerPort port > 0 := by
      have := active_nonneg h₁ port
      omega
    rw [if_pos ⟨hidle, hpos⟩]
    have hkeeps := pdumpRegisterPort_keeps dev lib c₁ port
    have hcount : Counted (pdumpRegisterPort dev lib c₁ port) := by
      rw [hkeeps]
      exact ⟨h₁.active, h₁.sum, h₁.inRange, h₁.filters⟩
    have hactive : (pdumpRegisterPort dev lib c₁ port).activePerPort = c₁.activePerPort := by
      rw [hkeeps]
    refine ⟨⟨hcount, hcb₁.register lib hport, ?_, ?_⟩, ?_, ?_⟩
    · unfold SessionKept
      rw [hkeeps, hsame.rest]
    · rw [hactive]
      exact hmore
    · rw [hactive]
      exact hport
    · intro hreg hok
      exact hreg.register (hok hidle) hrx htx hothers
  · rw [if_neg fun hand => hidle hand.1]
    refine ⟨⟨h₁, hcb₁, hsame.sessionKept, hmore⟩, hport, fun hreg _ => ⟨?_, ?_⟩⟩
    · rw [hrx]
      refine hreg.rx.active_mono fun p hp => ?_
      by_cases hpp : p = port
      · rw [hpp]
        exact hidle
      · rw [← hothers p hpp]
        exact hp
    · rw [htx]
      refine hreg.tx.active_mono fun p hp => ?_
      by_cases hpp : p = port
      · rw [hpp]
        exact hidle
      · rw [← hothers p hpp]
        exact hp

/-- A port is stopped: when nothing is captured on it any more it has no callbacks. -/
theorem pdumpStopPort_stopped (h : Counted c) (hcb : Callbacks dev c) (lo hi : Nat) (port : Port) :
    Stopped dev c (pdumpStopPort lo hi c port) := by
  obtain ⟨h₁, hsame, hup⟩ := h.stopCcbs port (ccbRange lo hi)
  unfold pdumpStopPort
  simp only
  generalize (ccbRange lo hi).foldl (pdumpStopCcb port) c = c₁ at h₁ hsame hup
  have hrx : c₁.rxCb = c.rxCb := by rw [hsame.rest]
  have htx : c₁.txCb = c.txCb := by rw [hsame.rest]
  have hnbRx : c₁.nbRxQ = c.nbRxQ := by rw [hsame.rest]
  have hnbTx : c₁.nbTxQ = c.nbTxQ := by rw [hsame.rest]
  have hothers : ∀ p, p ≠ port → c₁.activePerPort p = c.activePerPort p :=
    fun p hp => (hsame.others p hp).2
  have hless : ∀ p, c₁.activePerPort p ≠ 0 → c.activePerPort p ≠ 0 :=
    active_ne_zero_of_le h₁ h hup
  by_cases hidle : c₁.activePerPort port = 0
  · rw [if_pos hidle]
    refine ⟨⟨h₁.active, h₁.sum, h₁.inRange, h₁.filters⟩, ⟨?_, ?_⟩, ?_, fun hreg => ⟨?_, ?_⟩⟩
    · show CbsRight dev.nbRxQueues c₁.activePerPort c₁.nbRxQ (Function.update c₁.rxCb port _)
      rw [hrx, hnbRx]
      exact hcb.rx.unregister hothers
    · show CbsRight dev.nbTxQueues c₁.activePerPort c₁.nbTxQ (Function.update c₁.txCb port _)
      rw [htx, hnbTx]
      exact hcb.tx.unregister hothers
    · unfold SessionKept pdumpUnregisterPort
      rw [hsame.rest]
    · show CbsThere dev.nbRxQueues c₁.activePerPort (Function.update c₁.rxCb port _)
      rw [hrx]
      exact hreg.rx.unregister hless hidle
    · show CbsThere dev.nbTxQueues c₁.activePerPort (Function.update c₁.txCb port _)
      rw [htx]
      exact hreg.tx.unregister hless hidle
  · rw [if_neg hidle]
    have hmore : ∀ p, c.activePerPort p ≠ 0 → c₁.activePerPort p ≠ 0 := by
      intro p hp
      by_cases hpp : p = port
      · rw [hpp]
        exact hidle
      · rw [hothers p hpp]
        exact hp
    refine ⟨h₁, ⟨?_, ?_⟩, hsame.sessionKept, fun hreg => ⟨?_, ?_⟩⟩
    · rw [hrx, hnbRx]
      exact hcb.rx.active_mono hmore
    · rw [htx, hnbTx]
      exact hcb.tx.active_mono hmore
    · rw [hrx]
      exact hreg.rx.active_mono hless
    · rw [htx]
      exact hreg.tx.active_mono hless

/-- The ports of a direction are started, the one after the other. -/
theorem startPorts_started (ports : List Port) (h : Counted c) (hcb : Callbacks dev c)
    (lib : PdumpLib) (hlo : lo ≤ hi) (hhi : hi < c.slots) (hf : ∀ a ∈ f, a ∈ c.filterList) :
    Started dev c (ports.foldl (pdumpStartPort dev lib f lo hi) c) ∧
      (∀ port ∈ ports,
        (ports.foldl (pdumpStartPort dev lib f lo hi) c).activePerPort port ≠ 0) ∧
      (Registered dev c → (∀ port ∈ ports, c.activePerPort port = 0 → lib.Registers dev port) →
        Registered dev (ports.foldl (pdumpStartPort dev lib f lo hi) c)) := by
  induction ports generalizing c with
  | nil =>
      refine ⟨⟨h, hcb, rfl, fun _ hp => hp⟩, fun port hmem => ?_, fun hreg _ => hreg⟩
      exact absurd hmem List.not_mem_nil
  | cons port rest ih =>
      rw [List.foldl_cons]
      obtain ⟨h₁, hport, hreg₁⟩ := pdumpStartPort_started h hcb lib hlo hhi hf port
      have hslots : (pdumpStartPort dev lib f lo hi c port).slots = c.slots := by rw [h₁.kept]
      have hlist : (pdumpStartPort dev lib f lo hi c port).filterList = c.filterList := by
        rw [h₁.kept]
      obtain ⟨h₂, hrest, hreg₂⟩ := ih h₁.counted h₁.callbacks (by rw [hslots]; exact hhi)
        (fun a ha => by rw [hlist]; exact hf a ha)
      refine ⟨h₁.trans h₂, ?_, ?_⟩
      · intro p hp
        rcases List.mem_cons.mp hp with rfl | hp
        · exact h₂.more p hport
        · exact hrest p hp
      · intro hreg hok
        refine hreg₂ (hreg₁ hreg (hok port List.mem_cons_self)) fun p hp hidle => ?_
        -- A port that is idle now was idle before.
        refine hok p (List.mem_cons_of_mem port hp) ?_
        by_contra hne
        exact h₁.more p hne hidle

theorem pdumpStopRange_stopped (h : Counted c) (hcb : Callbacks dev c) (dir lo hi : Nat) :
    Stopped dev c (pdumpStopRange dir lo hi c) := by
  unfold pdumpStopRange
  generalize pdumpDirPorts dir = ports
  induction ports generalizing c with
  | nil => exact ⟨h, hcb, rfl, fun hreg => hreg⟩
  | cons port rest ih =>
      rw [List.foldl_cons]
      have h₁ := pdumpStopPort_stopped h hcb lo hi port
      exact h₁.trans (ih h₁.counted h₁.callbacks)

end FastRG
