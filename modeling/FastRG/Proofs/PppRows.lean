/-
Running a row of the PPP automaton.

Most actions deliver no event: they are `plain`, and what a row of them does to the
control block can be read off the row.  The others stand at the head of their row, or, for
This-Layer-Up, at its end, so a call re-enters the automaton at most once from any place
in a row.  Following these calls gives `pppFsm_eq`: five calls deep is as deep as they go.
-/
import FastRG.PppFsm

namespace FastRG

variable {env : PppEnv} {F G : PppFsm} {tim : PppTimerId} {s t : PppCcb} {i j k : Nat}

/-! ### Plain actions -/

/-- The actions that deliver no event of their own. -/
def PppAction.plain : PppAction → Bool
  | .thisLayerStart | .thisLayerFinish | .thisLayerUp | .thisLayerDown | .createDownEvent
  | .createCloseToLowerLayer => false
  | _ => true

@[simp] theorem timerCounter_setTimerCounter (s : PppCcb) (cp : PppCp) (n : Nat) :
    (s.setTimerCounter cp n).timerCounter cp = n := by
  simp [PppCcb.timerCounter, PppCcb.setTimerCounter]

@[simp] theorem cpId_setTimerCounter (s : PppCcb) (cp : PppCp) (n : Nat) :
    (s.setTimerCounter cp n).cpId = s.cpId := rfl

@[simp] theorem cpId_setState (s : PppCcb) (cp : PppCp) (st : PppState) :
    (s.setState cp st).cpId = s.cpId := rfl

@[simp] theorem state_setState_self (s : PppCcb) (cp : PppCp) (st : PppState) :
    (s.setState cp st).state cp = st := by
  simp [PppCcb.state, PppCcb.setState]

theorem state_setState_ne (s : PppCcb) {cp cp' : PppCp} (st : PppState) (h : cp' ≠ cp) :
    (s.setState cp st).state cp' = s.state cp' := by
  simp [PppCcb.state, PppCcb.setState, PerCp.get_set_ne _ _ h]

@[simp] theorem state_setTimerCounter (s : PppCcb) (cp : PppCp) (n : Nat) (cp' : PppCp) :
    (s.setTimerCounter cp n).state cp' = s.state cp' := by
  cases cp <;> cases cp' <;> rfl

@[simp] theorem state_ipv6Down (s : PppCcb) (cp : PppCp) : s.ipv6Down.state cp = s.state cp := rfl

@[simp] theorem state_lcpDown (s : PppCcb) : s.lcpDown.state .lcp = s.state .lcp := rfl

/-- Sending a PADT ends the session, whatever the automaton is. -/
theorem sendPadtPkt_eq (F : PppFsm) (s : PppCcb) :
    sendPadtPkt F s = byeExit (byeStop { byeStop { s with
      phase := pppoePhase, pppoePhase := { s.pppoePhase with active := false } }
        with phase := endPhase }.resetStates) := by
  simp [sendPadtPkt, pppBye, byeStop, endPhase, pppoePhase, PppCcb.setPending, PppCcb.ipv6Down]

/-- A plain action does not depend on the automaton it is handed. -/
theorem runAction_plain {a : PppAction} (ha : a.plain) (hc : s.timerCounter s.cpId ≠ 0) :
    runAction env F tim s a = runAction env G tim s a := by
  cases a <;> simp [PppAction.plain] at ha <;>
    simp [runAction, sendConfigRequest, sendTerminateRequest, hc, sendPadtPkt_eq]

@[simp] theorem cpId_byeExit (s : PppCcb) : (byeExit s).cpId = s.cpId := rfl

@[simp] theorem cpId_byeStop (s : PppCcb) : (byeStop s).cpId = s.cpId := rfl

@[simp] theorem cpId_resetStates (s : PppCcb) : s.resetStates.cpId = s.cpId := rfl

@[simp] theorem cpId_initRestart (cb : PppCp → PppTimerCb) (tim : PppTimerId) (s : PppCcb) :
    (initRestart cb tim s).cpId = s.cpId := rfl

@[simp] theorem cpId_buildConfigRequest (s : PppCcb) : s.buildConfigRequest.cpId = s.cpId := rfl

/-- A plain action succeeds and leaves the current protocol alone. -/
theorem runAction_plain_cpId (env : PppEnv) (F : PppFsm) (tim : PppTimerId) {a : PppAction}
    (ha : a.plain) (hc : s.timerCounter s.cpId ≠ 0) :
    (runAction env F tim s a).1 = .success ∧ (runAction env F tim s a).2.cpId = s.cpId := by
  cases a <;> simp [PppAction.plain] at ha <;>
    simp [runAction, sendConfigRequest, sendTerminateRequest, hc, sendPadtPkt_eq]

/-! ### Rows -/

/-- The row of a state and an event. -/
def pppRow (cp : PppCp) (st : PppState) (ev : PppEvent) : Option PppRow :=
  (pppFsmTbl cp).find? fun r => r.state = st ∧ r.event = ev

theorem pppFindRow_of_row {cp : PppCp} {st : PppState} {ev : PppEvent} {r : PppRow}
    (h : pppRow cp st ev = some r) :
    ∃ i, pppFindRow cp st ev = some i ∧ (pppFsmTbl cp)[i]? = some r := by
  unfold pppRow at h
  rw [List.find?_eq_bind_findIdx?_getElem?] at h
  exact Option.bind_eq_some_iff.mp h

theorem pppFindRow_of_none {cp : PppCp} {st : PppState} {ev : PppEvent}
    (h : pppRow cp st ev = none) : pppFindRow cp st ev = none := by
  unfold pppRow at h
  unfold pppFindRow
  rw [List.find?_eq_none] at h
  rw [List.findIdx?_eq_none_iff]
  intro r hr
  simpa using h r hr

theorem pppRow_mem {cp : PppCp} {st : PppState} {ev : PppEvent} {r : PppRow}
    (h : pppRow cp st ev = some r) : r ∈ pppFsmTbl cp ∧ r.state = st ∧ r.event = ev := by
  refine ⟨List.mem_of_find?_eq_some h, ?_⟩
  have := List.find?_some h
  simpa using this

/-- The block a row's actions start from: the state already moved on. -/
def PppCcb.tick (s : PppCcb) : PppCcb := s.setTimerCounter s.cpId 10

@[simp] theorem cpId_tick (s : PppCcb) : s.tick.cpId = s.cpId := rfl

@[simp] theorem state_tick (s : PppCcb) (cp : PppCp) : s.tick.state cp = s.state cp :=
  state_setTimerCounter s s.cpId 10 cp

theorem timerCounter_tick (s : PppCcb) : s.tick.timerCounter s.tick.cpId ≠ 0 := by
  simp [PppCcb.tick]

theorem runHdl_none (h : pppHdl s.cpId i j = none) :
    runHdl env F tim i k j s = ⟨.success, s, []⟩ := by
  cases k with
  | zero => rfl
  | succ k => simp [runHdl, h]

/-- One turn of the loop. -/
theorem runHdl_action {a : PppAction} (h : pppHdl s.cpId i j = some a) :
    runHdl env F tim i (k + 1) j s =
      if (runAction env F tim s.tick a).1 = .error then
        ⟨.error, (runAction env F tim s.tick a).2, [(s.cpId, a)]⟩
      else
        { runHdl env F tim i k (j + 1) (runAction env F tim s.tick a).2 with
            ran := (s.cpId, a) :: (runHdl env F tim i k (j + 1) (runAction env F tim s.tick a).2).ran } := by
  simp only [runHdl, h]
  rfl

theorem runHdl_some {a : PppAction} {s' : PppCcb} (h : pppHdl s.cpId i j = some a)
    (ha : runAction env F tim s.tick a = (.success, s')) :
    runHdl env F tim i (k + 1) j s =
      { runHdl env F tim i k (j + 1) s' with
          ran := (s.cpId, a) :: (runHdl env F tim i k (j + 1) s').ran } := by
  rw [runHdl_action h, ha]
  rfl

/-- A run of plain actions, one after the other. -/
def runPlain (env : PppEnv) (F : PppFsm) (tim : PppTimerId) (l : List PppAction) (s : PppCcb) :
    PppCcb :=
  l.foldl (fun s a => (runAction env F tim s.tick a).2) s

/-- What is left of a row, when it is plain. -/
theorem runHdl_plain (env : PppEnv) (F : PppFsm) (tim : PppTimerId) (s : PppCcb) (i j k : Nat)
    {r : PppRow} (hr : (pppFsmTbl s.cpId)[i]? = some r)
    (hp : ∀ a ∈ r.hdl.drop j, a.plain) (hk : (r.hdl.drop j).length ≤ k) :
    runHdl env F tim i k j s = ⟨.success, runPlain env F tim (r.hdl.drop j) s,
      (r.hdl.drop j).map fun a => (s.cpId, a)⟩ := by
  induction k generalizing j s with
  | zero =>
      have hnil : r.hdl.drop j = [] := List.length_eq_zero_iff.mp (Nat.le_zero.mp hk)
      rw [hnil]
      rfl
  | succ k ih =>
      have hhdl : pppHdl s.cpId i j = r.hdl[j]? := by simp [pppHdl, hr]
      cases hj : r.hdl[j]? with
      | none =>
          have hnil : r.hdl.drop j = [] :=
            List.drop_eq_nil_of_le (List.getElem?_eq_none_iff.mp hj)
          rw [runHdl_none (by rw [hhdl, hj]), hnil]
          rfl
      | some a =>
          obtain ⟨hlt, hget⟩ := List.getElem?_eq_some_iff.mp hj
          have hdrop : r.hdl.drop j = a :: r.hdl.drop (j + 1) := by
            rw [List.drop_eq_getElem_cons hlt, hget]
          rw [hdrop] at hp hk ⊢
          have ha : a.plain := hp a List.mem_cons_self
          obtain ⟨hok, hcp⟩ := runAction_plain_cpId env F tim ha (timerCounter_tick s)
          have hrun : runAction env F tim s.tick a =
              (.success, (runAction env F tim s.tick a).2) := Prod.ext hok rfl
          rw [runHdl_some (by rw [hhdl, hj]) hrun,
            ih _ _ (by rw [hcp]; exact hr) (fun b hb => hp b (List.mem_cons_of_mem a hb))
              (Nat.le_of_succ_le_succ hk)]
          simp [runPlain, hcp]

theorem tbl_length (cp : PppCp) : (pppFsmTbl cp).length ≤ 129 := by
  cases cp <;> simp [pppFsmTbl, pppFsmTblLcp, pppFsmTblNcp]

set_option maxRecDepth 4000 in
/-- No row has more than ten actions, and only the first and a closing This-Layer-Up may
deliver an event. -/
theorem tbl_rows (cp : PppCp) : ∀ r ∈ pppFsmTbl cp,
    r.hdl.length ≤ 10 ∧ ∀ a ∈ r.hdl.tail, a.plain ∨ a = .thisLayerUp := by
  cases cp <;> decide

/-! ### How deep the calls go -/

/-- The events an action may deliver. -/
def PppAction.delivers : PppAction → List PppEvent
  | .thisLayerStart => [.eUp]
  | .thisLayerFinish => [.eDown]
  | .thisLayerUp => [.eOpen]
  | .thisLayerDown => [.eClose]
  | .createDownEvent => [.eDown]
  | .createCloseToLowerLayer => [.eClose]
  | _ => []

/-- Two automata that do the same on one event. -/
def Agree (F G : PppFsm) (ev : PppEvent) : Prop := ∀ tim s, F tim ev s = G tim ev s

/-- An action sees of the automaton only the events it delivers. -/
theorem runAction_congr {a : PppAction} (hc : s.timerCounter s.cpId ≠ 0)
    (h : ∀ ev ∈ a.delivers, Agree F G ev) :
    runAction env F tim s a = runAction env G tim s a := by
  by_cases hp : a.plain
  · exact runAction_plain hp hc
  cases a <;> simp [PppAction.plain] at hp <;> simp [PppAction.delivers, Agree] at h
  case thisLayerStart => simp [runAction, h]
  case thisLayerFinish =>
    by_cases h6 : s.cpId = .ipv6cp <;> simp [runAction, createCloseToLowerLayer, h6, h]
  case thisLayerUp => simp [runAction, thisLayerUp, lcpLayerUp, openNcps, h]
  case thisLayerDown => simp [runAction, thisLayerDown, h]
  case createDownEvent => simp [runAction, h]
  case createCloseToLowerLayer => simp [runAction, createCloseToLowerLayer, h]

/-- Two runs from one place of a row are the same if the action there is and the rest is. -/
theorem runHdl_congr_head
    (hact : ∀ a, pppHdl s.cpId i j = some a →
      runAction env F tim s.tick a = runAction env G tim s.tick a)
    (htail : ∀ k s, runHdl env F tim i k (j + 1) s = runHdl env G tim i k (j + 1) s) :
    runHdl env F tim i k j s = runHdl env G tim i k j s := by
  cases k with
  | zero => rfl
  | succ k =>
      cases ha : pppHdl s.cpId i j with
      | none => rw [runHdl_none ha, runHdl_none ha]
      | some a =>
          have hact' : runAction env F tim (s.setTimerCounter s.cpId 10) a =
              runAction env G tim (s.setTimerCounter s.cpId 10) a := hact a ha
          simp only [runHdl, ha, hact', htail]

/-- Past its first action, a row re-enters the automaton only through This-Layer-Up. -/
theorem runHdl_congr (h : ∀ cp r, (pppFsmTbl cp)[i]? = some r → .thisLayerUp ∈ r.hdl →
    Agree F G .eOpen) :
    runHdl env F tim i k (j + 1) s = runHdl env G tim i k (j + 1) s := by
  induction k generalizing j s with
  | zero => rfl
  | succ k ih =>
      cases ha : pppHdl s.cpId i (j + 1) with
      | none => rw [runHdl_none ha, runHdl_none ha]
      | some a =>
          obtain ⟨r, hr, hra⟩ : ∃ r, (pppFsmTbl s.cpId)[i]? = some r ∧ r.hdl[j + 1]? = some a :=
            Option.bind_eq_some_iff.mp ha
          have hmem : a ∈ r.hdl.tail := by
            rw [← List.drop_one]
            refine List.mem_of_getElem? (i := j) ?_
            rw [List.getElem?_drop, Nat.add_comm]
            exact hra
          have hact : runAction env F tim (s.setTimerCounter s.cpId 10) a =
              runAction env G tim (s.setTimerCounter s.cpId 10) a := by
            rcases ((tbl_rows s.cpId) r (List.mem_of_getElem? hr)).2 a hmem with hp | rfl
            · exact runAction_plain hp (timerCounter_tick s)
            · apply runAction_congr (timerCounter_tick s)
              intro ev hev
              rw [List.mem_singleton.mp hev]
              exact h s.cpId r hr (List.mem_of_mem_tail hmem)
          simp only [runHdl, ha, hact, ih]

/-- The events the automaton delivers to itself. -/
def PppEvent.feedback : PppEvent → Bool
  | .eUp | .eDown | .eOpen | .eClose => true
  | _ => false

/-- This-Layer-Up is in no row of such an event, nor in the row at the same place of the
other table. -/
theorem tbl_up : ∀ i < 129, ∀ cp ∈ [PppCp.lcp, .ipcp, .ipv6cp], ∀ cp' ∈ [PppCp.lcp, .ipcp, .ipv6cp],
    ((pppFsmTbl cp)[i]?.map PppRow.hdl).any (.thisLayerUp ∈ ·) →
      ((pppFsmTbl cp')[i]?.map PppRow.event).all (!·.feedback) := by
  decide

/-- One call sees of the automaton what its row delivers. -/
theorem pppFsmBody_congr {ev : PppEvent}
    (hhead : ∀ r, pppRow s.cpId (s.state s.cpId) ev = some r → ∀ a ∈ r.hdl.head?,
      runAction env F tim (s.setState s.cpId r.nextState).tick a =
        runAction env G tim (s.setState s.cpId r.nextState).tick a)
    (hopen : ev.feedback ∨ Agree F G .eOpen) :
    pppFsmBody env F tim ev s = pppFsmBody env G tim ev s := by
  unfold pppFsmBody pppFsmRun
  cases hrow : pppRow s.cpId (s.state s.cpId) ev with
  | none => rw [pppFindRow_of_none hrow]
  | some r =>
      obtain ⟨i, hi, hr⟩ := pppFindRow_of_row hrow
      have hev : r.event = ev := (pppRow_mem hrow).2.2
      have htail : ∀ cp r', (pppFsmTbl cp)[i]? = some r' → .thisLayerUp ∈ r'.hdl →
          Agree F G .eOpen := by
        intro cp r' hr' hup
        rcases hopen with hf | hopen
        · have hlt : i < 129 := by
            exact Nat.lt_of_lt_of_le (List.getElem?_eq_some_iff.mp hr).1 (tbl_length s.cpId)
          have := tbl_up i hlt cp (by cases cp <;> simp) s.cpId (by cases s.cpId <;> simp)
            (by simp [hr', hup])
          simp [hr, hev, hf] at this
        · exact hopen
      have hhdl : ∀ j, pppHdl (s.setState s.cpId r.nextState).cpId i j = r.hdl[j]? := by
        intro j
        simp [pppHdl, hr]
      simp only [hi, hr, Option.map_some, Option.getD_some]
      have hrun : runHdl env F tim i 10 0 (s.setState s.cpId r.nextState) =
          runHdl env G tim i 10 0 (s.setState s.cpId r.nextState) := by
        refine runHdl_congr_head ?_ fun k s => runHdl_congr htail
        intro a ha
        rw [hhdl] at ha
        exact hhead r hrow a (by rw [List.head?_eq_getElem?]; exact ha)
      rw [hrun]

set_option maxRecDepth 4000 in
/-- What the first action of a row delivers, by the event of the row. -/
theorem tbl_heads (cp : PppCp) : ∀ r ∈ pppFsmTbl cp, ∀ a ∈ r.hdl.head?,
    (r.event = .eUp → a.delivers = []) ∧
    (r.event = .eDown → ∀ e ∈ a.delivers, e = .eUp ∨ e = .eClose) ∧
    (r.event = .eOpen → ∀ e ∈ a.delivers, e = .eUp ∨ e = .eDown) ∧
    (∀ e ∈ a.delivers, e = .eUp ∨ e = .eDown ∨ e = .eOpen ∨ e = .eClose) := by
  cases cp <;> decide

set_option maxRecDepth 4000 in
/-- A Close re-enters the automaton only where nothing more happens. -/
theorem tbl_close (cp : PppCp) : ∀ r ∈ pppFsmTbl cp, r.event = .eClose → ∀ a ∈ r.hdl.head?,
    a.plain ∨ (a = .thisLayerFinish ∧ r.nextState = .sInit) ∨
      (a = .thisLayerDown ∧ r.nextState = .sClosing) := by
  cases cp <;> decide

/-- A row whose first action delivers only events the two automata agree on. -/
theorem pppFsmBody_agree {ev : PppEvent}
    (h : ∀ r, pppRow s.cpId (s.state s.cpId) ev = some r → ∀ a ∈ r.hdl.head?,
      ∀ e ∈ a.delivers, Agree F G e)
    (hopen : ev.feedback ∨ Agree F G .eOpen) :
    pppFsmBody env F tim ev s = pppFsmBody env G tim ev s :=
  pppFsmBody_congr (fun r hr a ha => runAction_congr (timerCounter_tick _) (h r hr a ha)) hopen

theorem agree_up (env : PppEnv) (F G : PppFsm) :
    Agree (pppFsmBody env F) (pppFsmBody env G) .eUp := by
  intro tim s
  refine pppFsmBody_agree ?_ (Or.inl rfl)
  intro r hr a ha e he
  obtain ⟨hmem, -, hev⟩ := pppRow_mem hr
  rw [((tbl_heads s.cpId) r hmem a ha).1 hev] at he
  simp at he

/-- In `S_INIT` and in `S_CLOSING` a Down and a Close run no action. -/
theorem pppFsmBody_init_down (h : s.state s.cpId = .sInit) :
    pppFsmBody env F tim .eDown s = (.success, s) := by
  have hrow : pppRow s.cpId .sInit .eDown = none := by cases s.cpId <;> rfl
  simp only [pppFsmBody, pppFsmRun, h, pppFindRow_of_none hrow]

theorem pppFsmBody_closing_close (h : s.state s.cpId = .sClosing) :
    pppFsmBody env F tim .eClose s = (.success, s.setState s.cpId .sClosing) := by
  obtain ⟨r, hrow, hnext, hhdl⟩ : ∃ r, pppRow s.cpId .sClosing .eClose = some r ∧
      r.nextState = .sClosing ∧ r.hdl = [] := by
    cases s.cpId <;> exact ⟨_, rfl, rfl, rfl⟩
  obtain ⟨i, hi, hr⟩ := pppFindRow_of_row hrow
  have hnone : pppHdl (s.setState s.cpId .sClosing).cpId i 0 = none := by
    simp [pppHdl, hr, hhdl]
  simp only [pppFsmBody, pppFsmRun, h, hi, hr, Option.map_some, Option.getD_some, hnext,
    runHdl_none hnone]

/-- So a layer that goes down in `S_CLOSING` does not depend on the automaton. -/
theorem thisLayerDown_closing (h : s.state s.cpId = .sClosing) :
    thisLayerDown (pppFsmBody env F) tim s = thisLayerDown (pppFsmBody env G) tim s := by
  have hclose : ∀ s' : PppCcb, s'.state s'.cpId = .sClosing →
      pppFsmBody env F tim .eClose s' = pppFsmBody env G tim .eClose s' := by
    intro s' hs'
    rw [pppFsmBody_closing_close hs', pppFsmBody_closing_close hs']
  unfold thisLayerDown
  cases hcp : s.cpId with
  | lcp =>
      have hlcp : s.lcpDown.cpId = .lcp := hcp
      simp only [hclose s.lcpDown (by rw [hlcp, state_lcpDown, ← hcp, h])]
  | ipcp => simp only [hclose s h]
  | ipv6cp => simp only [hclose s.ipv6Down h]

theorem agree_close (env : PppEnv) (F G : PppFsm) :
    Agree (pppFsmBody env (pppFsmBody env F)) (pppFsmBody env (pppFsmBody env G)) .eClose := by
  intro tim s
  refine pppFsmBody_congr ?_ (Or.inl rfl)
  intro r hr a ha
  obtain ⟨hmem, -, hev⟩ := pppRow_mem hr
  rcases (tbl_close s.cpId) r hmem hev a ha with hp | ⟨rfl, hnext⟩ | ⟨rfl, hnext⟩
  · exact runAction_plain hp (timerCounter_tick _)
  · by_cases h6 : s.cpId = .ipv6cp
    · simp [runAction, createCloseToLowerLayer, h6]
    · have hst : (s.setState s.cpId r.nextState).tick.state
          (s.setState s.cpId r.nextState).tick.cpId = .sInit := by
        simp [hnext]
      simp only [runAction, pppFsmBody_init_down hst]
      simp [h6]
  · have hst : (s.setState s.cpId r.nextState).tick.state
        (s.setState s.cpId r.nextState).tick.cpId = .sClosing := by
      simp [hnext]
    simp only [runAction, thisLayerDown_closing (G := G) hst]

theorem agree_down (env : PppEnv) (hup : Agree F G .eUp) (hclose : Agree F G .eClose) :
    Agree (pppFsmBody env F) (pppFsmBody env G) .eDown := by
  intro tim s
  refine pppFsmBody_agree ?_ (Or.inl rfl)
  intro r hr a ha e he
  obtain ⟨hmem, -, hev⟩ := pppRow_mem hr
  rcases ((tbl_heads s.cpId) r hmem a ha).2.1 hev e he with rfl | rfl
  · exact hup
  · exact hclose

theorem agree_open (env : PppEnv) (hup : Agree F G .eUp) (hdown : Agree F G .eDown) :
    Agree (pppFsmBody env F) (pppFsmBody env G) .eOpen := by
  intro tim s
  refine pppFsmBody_agree ?_ (Or.inl rfl)
  intro r hr a ha e he
  obtain ⟨hmem, -, hev⟩ := pppRow_mem hr
  rcases ((tbl_heads s.cpId) r hmem a ha).2.2.1 hev e he with rfl | rfl
  · exact hup
  · exact hdown

/-- **Five calls deep is as deep as the automaton goes.**  What stands for the sixth is
never called. -/
theorem pppFsmBody_depth (env : PppEnv) (F G : PppFsm) :
    (pppFsmBody env)^[5] F = (pppFsmBody env)^[5] G := by
  have hup : ∀ F G, Agree (pppFsmBody env F) (pppFsmBody env G) .eUp := agree_up env
  have hclose := agree_close env
  -- a Down needs three levels, an Open four
  have hdown : ∀ F G, Agree ((pppFsmBody env)^[3] F) ((pppFsmBody env)^[3] G) .eDown :=
    fun F G => agree_down env (hup _ _) (hclose F G)
  have hopen : ∀ F G, Agree ((pppFsmBody env)^[4] F) ((pppFsmBody env)^[4] G) .eOpen :=
    fun F G => agree_open env (hup _ _) (hdown F G)
  funext tim ev s
  show pppFsmBody env ((pppFsmBody env)^[4] F) tim ev s =
    pppFsmBody env ((pppFsmBody env)^[4] G) tim ev s
  refine pppFsmBody_agree ?_ (Or.inr (hopen F G))
  intro r hr a ha e he
  rcases ((tbl_heads s.cpId) r (pppRow_mem hr).1 a ha).2.2.2 e he with rfl | rfl | rfl | rfl
  · exact hup _ _
  · exact hdown (pppFsmBody env F) (pppFsmBody env G)
  · exact hopen F G
  · exact hclose _ _

/-- `PPP_FSM` is the automaton that re-enters itself. -/
theorem pppFsm_eq (env : PppEnv) : pppFsm env = pppFsmBody env (pppFsm env) := by
  unfold pppFsm
  rw [← Function.iterate_succ_apply' (pppFsmBody env) 5, Function.iterate_succ_apply]
  exact pppFsmBody_depth env _ _

end FastRG
