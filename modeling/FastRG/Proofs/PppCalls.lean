/-
A call of `PPP_FSM` is a move.

`pppFsm_move` says, for every event and every control block, what the call leaves and which
actions it ran.  It is proved in the order the automaton feeds back: an Up runs only
plain actions; a Close re-enters only where nothing more happens; a Down may start the layer
again or close the one below; an Open may do any of these.  Every other event is then a
row whose first action delivers one of the four.

The actions that run are those of the row, each under the protocol the event was for, with one
exception.  When IPCP is closing and its Terminate-Ack arrives, taking it down makes LCP
current, and the rest of the row is read from the LCP table, where there is none.
-/
import FastRG.Proofs.PppMoves

namespace FastRG

variable {env : PppEnv} {tim : PppTimerId} {s t u : PppCcb} {ev : PppEvent} {r : PppRow}
  {cp : PppCp} {st next : PppState} {a : PppAction} {l : List PppAction}

theorem setState_self (s : PppCcb) (h : s.state s.cpId = st) : s.setState s.cpId st = s := by
  rw [← h]
  cases hcp : s.cpId <;> rfl

/-- A row that both tables have. -/
theorem pppRow_all {x : Option PppRow} (hlcp : pppRow .lcp st ev = x)
    (hncp : pppRow .ipcp st ev = x) (cp : PppCp) : pppRow cp st ev = x := by
  cases cp
  · exact hlcp
  · exact hncp
  · exact hncp

/-! ### Calls -/

/-- The actions of the row of a state and an event. -/
def rowHdl (cp : PppCp) (st : PppState) (ev : PppEvent) : List PppAction :=
  ((pppRow cp st ev).map PppRow.hdl).getD []

/-- The actions a call runs. -/
def pppRan (cp : PppCp) (st : PppState) (ev : PppEvent) : List PppAction :=
  if cp = .ipcp ∧ st = .sClosing ∧ ev = .eRecvTerminateAck then (rowHdl cp st ev).take 1
  else rowHdl cp st ev

/-- The call leaves, up to `core`, the block `t`, and runs what it should. -/
structure Comes (env : PppEnv) (tim : PppTimerId) (ev : PppEvent) (s t : PppCcb) : Prop where
  core : (pppFsm env tim ev s).2.core = t.core
  ran : (pppFsmRun env (pppFsm env) tim ev s).ran =
    (pppRan s.cpId (s.state s.cpId) ev).map fun a => (s.cpId, a)

theorem pppFsm_run (env : PppEnv) (tim : PppTimerId) (ev : PppEvent) (s : PppCcb) :
    (pppFsm env tim ev s).2 = (pppFsmRun env (pppFsm env) tim ev s).ccb :=
  congrArg Prod.snd (congrFun (congrFun (congrFun (pppFsm_eq env) tim) ev) s)

theorem comes_none (h : pppRow s.cpId (s.state s.cpId) ev = none) : Comes env tim ev s s := by
  have hrun : pppFsmRun env (pppFsm env) tim ev s = ⟨.success, s, []⟩ := by
    simp only [pppFsmRun, pppFindRow_of_none h]
  have hhdl : rowHdl s.cpId (s.state s.cpId) ev = [] := by simp [rowHdl, h]
  refine ⟨?_, ?_⟩
  · rw [pppFsm_run, hrun]
  · rw [hrun]
    simp [pppRan, hhdl]

/-- The call runs its row. -/
theorem pppFsm_row (env : PppEnv) (tim : PppTimerId)
    (h : pppRow s.cpId (s.state s.cpId) ev = some r) :
    ∃ i, (pppFsmTbl s.cpId)[i]? = some r ∧
      pppFsmRun env (pppFsm env) tim ev s =
        runHdl env (pppFsm env) tim i 10 0 (s.setState s.cpId r.nextState) := by
  obtain ⟨i, hi, hr⟩ := pppFindRow_of_row h
  refine ⟨i, hr, ?_⟩
  simp only [pppFsmRun, hi, hr, Option.map_some, Option.getD_some]

theorem pppRan_row (hrow : pppRow cp st ev = some ⟨st, ev, next, l⟩)
    (hodd : ¬ (cp = .ipcp ∧ st = .sClosing ∧ ev = .eRecvTerminateAck)) : pppRan cp st ev = l := by
  simp [pppRan, hodd, rowHdl, hrow]

/-- A row of plain actions. -/
theorem comes_plain (hst : s.state s.cpId = st)
    (hrow : pppRow s.cpId st ev = some ⟨st, ev, next, l⟩) (hp : ∀ a ∈ l, a.plain)
    (hcore : (l.foldl (plainEffect tim) (s.setState s.cpId next)).core = t.core) :
    Comes env tim ev s t := by
  subst hst
  obtain ⟨i, hr, hrun⟩ := pppFsm_row env tim hrow
  have hplain := runHdl_plain env (pppFsm env) tim (s.setState s.cpId next) i 0 10 hr hp
    ((tbl_rows s.cpId) _ (pppRow_mem hrow).1).1
  have hodd : ¬ (s.cpId = .ipcp ∧ s.state s.cpId = .sClosing ∧ ev = .eRecvTerminateAck) := by
    intro ⟨hcp, hst, hev⟩
    rw [hcp] at hst
    rw [hcp, hst, hev] at hrow
    have hl : [.createDownEvent, .createUpEvent] = l :=
      congrArg PppRow.hdl (Option.some.inj hrow)
    simp [← hl, PppAction.plain] at hp
  rw [hplain] at hrun
  refine ⟨?_, ?_⟩
  · rw [pppFsm_run, hrun]
    exact (core_runPlain hp rfl).trans hcore
  · rw [hrun, pppRan_row hrow hodd]
    rfl

/-- A row whose first action delivers an event and leaves, up to `core`, the block `u`, still
under the protocol of the call. -/
theorem comes_head (hst : s.state s.cpId = st)
    (hrow : pppRow s.cpId st ev = some ⟨st, ev, next, a :: l⟩) (hp : ∀ a ∈ l, a.plain)
    (hodd : ¬ (s.cpId = .ipcp ∧ st = .sClosing ∧ ev = .eRecvTerminateAck))
    (hact : ∃ s', runAction env (pppFsm env) tim (s.setState s.cpId next).tick a =
      (.success, s') ∧ s'.core = u.core)
    (hkeep : u.cpId = s.cpId)
    (hcore : (l.foldl (plainEffect tim) u).core = t.core) : Comes env tim ev s t := by
  subst hst
  obtain ⟨s', hact, hu⟩ := hact
  obtain ⟨i, hr, hrun⟩ := pppFsm_row env tim hrow
  have hlen := ((tbl_rows s.cpId) _ (pppRow_mem hrow).1).1
  have hcp' : s'.cpId = s.cpId := (cpId_of_core hu).trans hkeep
  have hhead : pppHdl (s.setState s.cpId next).cpId i 0 = some a := by simp [pppHdl, hr]
  have hr' : (pppFsmTbl s'.cpId)[i]? = some ⟨s.state s.cpId, ev, next, a :: l⟩ := by
    rw [hcp']
    exact hr
  have htail := runHdl_plain env (pppFsm env) tim s' i 1 9 hr' hp (Nat.le_of_succ_le_succ hlen)
  rw [runHdl_some hhead hact, htail] at hrun
  refine ⟨?_, ?_⟩
  · rw [pppFsm_run, hrun]
    exact (core_runPlain hp hu).trans hcore
  · rw [hrun, pppRan_row hrow hodd]
    simp [hcp']

/-- A row that is over once its first action is: the table of the protocol that is current by
then has nothing at its second place. -/
theorem comes_only (hst : s.state s.cpId = st)
    (hrow : pppRow s.cpId st ev = some ⟨st, ev, next, a :: l⟩)
    (hover : ∀ i, (pppFsmTbl s.cpId)[i]? = some ⟨st, ev, next, a :: l⟩ →
      pppHdl t.cpId i 1 = none)
    (hran : pppRan s.cpId st ev = [a])
    (hact : ∃ s', runAction env (pppFsm env) tim (s.setState s.cpId next).tick a =
      (.success, s') ∧ s'.core = t.core) : Comes env tim ev s t := by
  subst hst
  obtain ⟨s', hact, hu⟩ := hact
  obtain ⟨i, hr, hrun⟩ := pppFsm_row env tim hrow
  have hhead : pppHdl (s.setState s.cpId next).cpId i 0 = some a := by simp [pppHdl, hr]
  have hnone : pppHdl s'.cpId i 1 = none := by
    rw [cpId_of_core hu]
    exact hover i hr
  rw [runHdl_some hhead hact, runHdl_none hnone] at hrun
  refine ⟨?_, ?_⟩
  · rw [pppFsm_run, hrun]
    exact hu
  · rw [hrun, hran]
    rfl

/-! ### The events the automaton delivers to itself -/

theorem comes_up (env : PppEnv) (tim : PppTimerId) (s : PppCcb) :
    Comes env tim .eUp s (s.upMove tim) := by
  unfold PppCcb.upMove
  cases hst : s.state s.cpId
  case sInit =>
    exact comes_plain hst (pppRow_all rfl rfl _) (by decide) rfl
  case sStarting =>
    exact comes_plain hst (pppRow_all rfl rfl _) (by decide) rfl
  case sClosed =>
    -- only LCP has a row for it, and that row does nothing
    by_cases hcp : s.cpId = .lcp
    · refine comes_plain hst (by rw [hcp]; rfl) (by decide) ?_
      rw [setState_self s hst]
      rfl
    · refine comes_none ?_
      rw [hst]
      cases h : s.cpId <;> first | rfl | exact absurd h hcp
  all_goals exact comes_none (by rw [hst]; exact pppRow_all rfl rfl _)

@[simp] theorem cpId_layerDown (s : PppCcb) : s.layerDown.cpId = s.cpId := by
  unfold PppCcb.layerDown
  split <;> rfl

@[simp] theorem state_layerDown (s : PppCcb) : s.layerDown.state s.cpId = s.state s.cpId := by
  unfold PppCcb.layerDown
  split
  case h_1 h => rw [h, state_lcpDown]
  case h_2 => rfl
  case h_3 => rfl

theorem layerDown_setState (s : PppCcb) (st : PppState) :
    (s.setState s.cpId st).layerDown = s.layerDown.setState s.cpId st := by
  unfold PppCcb.layerDown
  rw [cpId_setState]
  split
  case h_1 h => rw [h]; rfl
  case h_2 => rfl
  case h_3 => rfl

theorem layerDown_ipv6cp (h : s.cpId = .ipv6cp) : s.layerDown = s.ipv6Down := by
  unfold PppCcb.layerDown
  rw [h]

theorem layerDown_ipcp (h : s.cpId = .ipcp) : s.layerDown = s.shutGate := by
  unfold PppCcb.layerDown
  rw [h]

/-- The gate of IPCP plays no part in a Close. -/
theorem closeMove_shutGate (h : s.cpId = .ipcp) :
    (s.closeMove tim).shutGate = s.shutGate.closeMove tim := by
  have hst : s.shutGate.state s.shutGate.cpId = s.state s.cpId := rfl
  have hcp : s.shutGate.cpId = s.cpId := rfl
  unfold PppCcb.closeMove
  rw [hst, hcp]
  split
  case h_1 =>
    rw [h, if_neg (by decide), if_neg (by decide), if_neg (by decide), if_neg (by decide)]
    rfl
  case h_2 =>
    rw [h, if_neg (by decide), if_neg (by decide)]
    rfl
  case h_7 =>
    rw [layerDown_ipcp h, layerDown_ipcp (hcp.trans h)]
    rfl
  all_goals rfl

/-- This-Layer-Down: the layer goes down and closes itself. -/
theorem act_down (hclose : ∀ s' : PppCcb, s'.state s'.cpId = s.state s.cpId →
      Comes env tim .eClose s' (s'.closeMove tim)) :
    ∃ s', runAction env (pppFsm env) tim s.tick .thisLayerDown = (.success, s') ∧
      s'.core = (s.layerDown.closeMove tim).core := by
  refine ⟨_, rfl, ?_⟩
  have htick : s.tick.layerDown.core = s.layerDown.core := core_layerDown (core_tick s)
  have hdown := (hclose s.tick.layerDown (by rw [cpId_layerDown, state_layerDown]; simp)).core
  rw [← core_closeMove htick tim, ← hdown]
  unfold thisLayerDown
  cases hcp : s.tick.cpId with
  | lcp =>
      have hlayer : s.tick.layerDown = s.tick.lcpDown := by unfold PppCcb.layerDown; rw [hcp]
      rw [hlayer]
  | ipcp =>
      have hcomes := (hclose s.tick (by simp)).core
      rw [hdown, layerDown_ipcp hcp, ← closeMove_shutGate hcp]
      exact core_shutGate hcomes
  | ipv6cp =>
      rw [layerDown_ipv6cp hcp]

/-- This-Layer-Finished of IPV6CP parks it. -/
theorem act_finish_ipv6cp (h : s.cpId = .ipv6cp) :
    ∃ s', runAction env (pppFsm env) tim s.tick .thisLayerFinish = (.success, s') ∧
      s'.core = s.ipv6cpStop.core := by
  refine ⟨s.tick.ipv6cpStop, ?_, core_ipv6cpStop (core_tick s)⟩
  simp [runAction, createCloseToLowerLayer, h]

/-- This-Layer-Finished of the others is a Down. -/
theorem act_finish (h : s.cpId ≠ .ipv6cp) (hdown : Comes env tim .eDown s.tick u) :
    ∃ s', runAction env (pppFsm env) tim s.tick .thisLayerFinish = (.success, s') ∧
      s'.core = u.core := by
  refine ⟨(pppFsm env tim .eDown s.tick).2, ?_, hdown.core⟩
  simp [runAction, h]

/-- In `S_INIT` nothing is left to take down. -/
theorem act_finish_init (h : s.cpId ≠ .ipv6cp) (hst : s.state s.cpId = .sInit) :
    ∃ s', runAction env (pppFsm env) tim s.tick .thisLayerFinish = (.success, s') ∧
      s'.core = s.core := by
  have hdown : Comes env tim .eDown s.tick s.tick := by
    refine comes_none ?_
    rw [state_tick, cpId_tick, hst]
    cases s.cpId <;> rfl
  obtain ⟨s', hact, hcore⟩ := act_finish h hdown
  exact ⟨s', hact, hcore.trans (core_tick s)⟩

@[simp] theorem setState_setState (s : PppCcb) (cp : PppCp) (st st' : PppState) :
    (s.setState cp st).setState cp st' = s.setState cp st' := by
  cases cp <;> rfl

@[simp] theorem restart_setState (s : PppCcb) (st : PppState) (tim : PppTimerId) :
    (s.setState s.cpId st).restart tim = s.restart tim := by
  simp [PppCcb.restart]

@[simp] theorem ended_layerDown (s : PppCcb) : s.layerDown.ended = s.ended := by
  unfold PppCcb.layerDown
  split <;> rfl

@[simp] theorem ipv6cpStop_setState (s : PppCcb) (st : PppState) :
    (s.setState .ipv6cp st).ipv6cpStop = s.ipv6cpStop := rfl

theorem cp_eq_ipcp (h : cp ≠ .lcp) (h6 : cp ≠ .ipv6cp) : cp = .ipcp := by
  cases cp
  · exact absurd rfl h
  · rfl
  · exact absurd rfl h6

theorem closeMove_starting (h : s.state s.cpId = .sStarting) :
    s.closeMove tim = if s.cpId = .lcp then s.ended
      else if s.cpId = .ipv6cp then s.ipv6cpStop else s.setState s.cpId .sInit := by
  unfold PppCcb.closeMove
  rw [h]

/-- In `S_CLOSING` a Close does nothing. -/
theorem closeMove_closing (h : s.state s.cpId = .sClosing) : s.closeMove tim = s := by
  unfold PppCcb.closeMove
  rw [h]

theorem comes_closing_close (h : s.state s.cpId = .sClosing) :
    Comes env tim .eClose s (s.closeMove tim) := by
  refine comes_plain h (pppRow_all rfl rfl _) (by decide) ?_
  rw [setState_self s h, closeMove_closing h]
  rfl

theorem comes_close (env : PppEnv) (tim : PppTimerId) (s : PppCcb) :
    Comes env tim .eClose s (s.closeMove tim) := by
  cases hst : s.state s.cpId <;> simp only [PppCcb.closeMove, hst]
  case sStarting =>
    by_cases hlcp : s.cpId = .lcp
    · rw [if_pos hlcp]
      refine comes_head hst (by rw [hlcp]; rfl) (by decide) (by simp)
        (act_finish_init (by simp [hlcp]) (by simp)) rfl ?_
      simp [plainEffect]
    by_cases h6 : s.cpId = .ipv6cp
    · rw [if_neg hlcp, if_pos h6]
      refine comes_head hst (by rw [h6]; rfl) (by decide) (by simp)
        (act_finish_ipv6cp (by simp [h6])) rfl ?_
      rw [h6]
      rfl
    · rw [if_neg hlcp, if_neg h6]
      have hrow : pppRow s.cpId .sStarting .eClose =
          some ⟨.sStarting, .eClose, .sInit, [.thisLayerFinish]⟩ := by
        cases h : s.cpId <;> first | rfl | exact absurd h hlcp
      exact comes_head hst hrow (by decide) (by simp) (act_finish_init (by simp [h6]) (by simp))
        rfl rfl
  case sStopped =>
    by_cases hlcp : s.cpId = .lcp
    · rw [if_pos hlcp]
      refine comes_plain hst (by rw [hlcp]; rfl) (by decide) ?_
      simp [plainEffect]
    · rw [if_neg hlcp]
      have hrow : pppRow s.cpId .sStopped .eClose = some ⟨.sStopped, .eClose, .sClosed, []⟩ := by
        cases h : s.cpId <;> first | rfl | exact absurd h hlcp
      exact comes_plain hst hrow (by decide) rfl
  case sOpened =>
    have hdown : (s.setState s.cpId .sClosing).layerDown.closeMove tim =
        s.layerDown.setState s.cpId .sClosing := by
      rw [layerDown_setState, closeMove_closing (by simp)]
    refine comes_head hst (pppRow_all rfl rfl _) (by decide) (by simp)
      (act_down fun s' hs' => comes_closing_close (hs'.trans (by simp))) ?_ ?_
    · rw [hdown, cpId_setState, cpId_layerDown]
    · rw [hdown]
      simp [plainEffect, PppCcb.terminate]
  case sRequestSent => exact comes_plain hst (pppRow_all rfl rfl _) (by decide) rfl
  case sAckReceived => exact comes_plain hst (pppRow_all rfl rfl _) (by decide) rfl
  case sAckSent => exact comes_plain hst (pppRow_all rfl rfl _) (by decide) rfl
  case sStopping => exact comes_plain hst (pppRow_all rfl rfl _) (by decide) rfl
  case sInit =>
    refine comes_plain hst (pppRow_all rfl rfl _) (by decide) ?_
    rw [setState_self s hst]
    rfl
  case sClosed =>
    refine comes_plain hst (pppRow_all rfl rfl _) (by decide) ?_
    rw [setState_self s hst]
    rfl
  case sClosing =>
    refine comes_plain hst (pppRow_all rfl rfl _) (by decide) ?_
    rw [setState_self s hst]
    rfl

/-! ### Down and Open -/

theorem act_start (env : PppEnv) (tim : PppTimerId) (s : PppCcb) :
    ∃ s', runAction env (pppFsm env) tim s.tick .thisLayerStart = (.success, s') ∧
      s'.core = (s.upMove tim).core :=
  ⟨_, rfl, (comes_up env tim s.tick).core.trans (core_upMove (core_tick s) tim)⟩

theorem act_closeLower (env : PppEnv) (tim : PppTimerId) (s : PppCcb) :
    ∃ s', runAction env (pppFsm env) tim s.tick .createCloseToLowerLayer = (.success, s') ∧
      s'.core = (s.closeLower tim).core := by
  refine ⟨_, rfl, ?_⟩
  rw [← core_closeLower (core_tick s) tim]
  unfold createCloseToLowerLayer PppCcb.closeLower
  split
  · rfl
  · exact (comes_close env tim _).core

/-- Where IPCP hands over to LCP in the middle of a row, the LCP table has nothing at the
second place of the row with that number. -/
theorem tbl_second : ∀ i < 129, ∀ r ∈ pppFsmTblNcp[i]?, r.state ≠ .sStarting ∧
    (.thisLayerFinish ∈ r.hdl ∨ .createCloseToLowerLayer ∈ r.hdl ∨
      (r.state = .sClosing ∧ .createDownEvent ∈ r.hdl)) →
    pppHdl .lcp i 1 = none := by
  decide

/-- So the row is over. -/
theorem ipcp_row_over (hcp : s.cpId = .ipcp) (hcp' : t.cpId = .lcp)
    (hrow : r.state ≠ .sStarting ∧ (.thisLayerFinish ∈ r.hdl ∨
      .createCloseToLowerLayer ∈ r.hdl ∨ (r.state = .sClosing ∧ .createDownEvent ∈ r.hdl))) :
    ∀ i, (pppFsmTbl s.cpId)[i]? = some r → pppHdl t.cpId i 1 = none := by
  intro i hi
  rw [hcp] at hi
  rw [hcp']
  have hlt : i < 129 :=
    Nat.lt_of_lt_of_le (List.getElem?_eq_some_iff.mp hi).1 (tbl_length .ipcp)
  exact tbl_second i hlt r hi hrow

@[simp] theorem cpId_restart (s : PppCcb) (tim : PppTimerId) : (s.restart tim).cpId = s.cpId := rfl

@[simp] theorem cpId_terminate (s : PppCcb) (tim : PppTimerId) :
    (s.terminate tim).cpId = s.cpId := rfl

@[simp] theorem cpId_ended (s : PppCcb) : s.ended.cpId = s.cpId := rfl

@[simp] theorem cpId_ipv6cpStop (s : PppCcb) : s.ipv6cpStop.cpId = s.cpId := rfl

@[simp] theorem cpId_shutGate (s : PppCcb) : s.shutGate.cpId = s.cpId := rfl

/-- A Close leaves the current protocol alone. -/
@[simp] theorem cpId_closeMove (s : PppCcb) (tim : PppTimerId) :
    (s.closeMove tim).cpId = s.cpId := by
  unfold PppCcb.closeMove
  repeat' split
  all_goals simp

@[simp] theorem cpId_upMove (s : PppCcb) (tim : PppTimerId) : (s.upMove tim).cpId = s.cpId := by
  unfold PppCcb.upMove
  split <;> simp

@[simp] theorem cpId_dropMove (s : PppCcb) : s.dropMove.cpId = s.cpId := by
  unfold PppCcb.dropMove
  repeat' split
  all_goals simp

theorem comes_down (env : PppEnv) (tim : PppTimerId) (s : PppCcb) :
    Comes env tim .eDown s (s.downMove tim) := by
  cases hst : s.state s.cpId <;> simp only [PppCcb.downMove, hst]
  case sClosed =>
    unfold PppCcb.finishMove
    by_cases hlcp : s.cpId = .lcp
    · rw [if_pos hlcp]
      refine comes_plain hst (by rw [hlcp]; rfl) (by decide) ?_
      simp [plainEffect]
    rw [if_neg hlcp]
    have hrow : pppRow s.cpId .sClosed .eDown =
        some ⟨.sClosed, .eDown, .sInit, [.createCloseToLowerLayer]⟩ := by
      cases h : s.cpId <;> first | rfl | exact absurd h hlcp
    by_cases h6 : s.cpId = .ipv6cp
    · refine comes_head hst hrow (by decide) (by simp) (act_closeLower env tim _) ?_ rfl
      simp [PppCcb.closeLower, h6]
    · have hip : s.cpId = .ipcp := cp_eq_ipcp hlcp h6
      refine comes_only hst hrow (ipcp_row_over hip ?_ (by decide)) (by rw [hip]; rfl)
        (act_closeLower env tim _)
      simp [PppCcb.closeLower, hip]
  case sStopped =>
    refine comes_head hst (pppRow_all rfl rfl _) (by decide) (by simp) (act_start env tim _) ?_ ?_
    · simp
    · simp [PppCcb.upMove]
  case sOpened =>
    refine comes_head hst (pppRow_all rfl rfl _) (by decide) (by simp)
      (act_down fun s' _ => comes_close env tim s') (by simp) ?_
    rw [List.foldl_nil, layerDown_setState, closeMove_starting (by simp)]
    unfold PppCcb.dropMove
    rw [cpId_setState, cpId_layerDown]
    by_cases hlcp : s.cpId = .lcp
    · simp [hlcp]
    by_cases h6 : s.cpId = .ipv6cp
    · simp only [h6, layerDown_ipv6cp h6]
      rfl
    · have hip : s.cpId = .ipcp := cp_eq_ipcp hlcp h6
      simp only [hip, layerDown_ipcp hip]
      rfl
  case sClosing => exact comes_plain hst (pppRow_all rfl rfl _) (by decide) rfl
  case sStopping => exact comes_plain hst (pppRow_all rfl rfl _) (by decide) rfl
  case sRequestSent => exact comes_plain hst (pppRow_all rfl rfl _) (by decide) rfl
  case sAckReceived => exact comes_plain hst (pppRow_all rfl rfl _) (by decide) rfl
  case sAckSent => exact comes_plain hst (pppRow_all rfl rfl _) (by decide) rfl
  case sInit => exact comes_none (by rw [hst]; exact pppRow_all rfl rfl _)
  case sStarting => exact comes_none (by rw [hst]; exact pppRow_all rfl rfl _)

theorem act_createDown (env : PppEnv) (tim : PppTimerId) (s : PppCcb) :
    ∃ s', runAction env (pppFsm env) tim s.tick .createDownEvent = (.success, s') ∧
      s'.core = (s.downMove tim).core :=
  ⟨_, rfl, (comes_down env tim s.tick).core.trans (core_downMove (core_tick s) tim)⟩

/-- Taking down a layer that is not closed leaves the current protocol alone. -/
theorem cpId_downMove (h : s.state s.cpId ≠ .sClosed) : (s.downMove tim).cpId = s.cpId := by
  unfold PppCcb.downMove
  split
  case h_1 h' => exact absurd h' h
  all_goals simp

@[simp] theorem dropMove_setState (s : PppCcb) (st : PppState) :
    (s.setState s.cpId st).dropMove = s.dropMove := by
  unfold PppCcb.dropMove
  rw [cpId_setState]
  by_cases hlcp : s.cpId = .lcp
  · simp [hlcp]
  by_cases h6 : s.cpId = .ipv6cp
  · simp [h6]
  · simp [hlcp, h6]

theorem comes_open (env : PppEnv) (tim : PppTimerId) (s : PppCcb) :
    Comes env tim .eOpen s (s.openMove tim) := by
  cases hst : s.state s.cpId <;> simp only [PppCcb.openMove, hst]
  case sInit =>
    refine comes_head hst (pppRow_all rfl rfl _) (by decide) (by simp) (act_start env tim _)
      (by simp) ?_
    simp [PppCcb.upMove]
  case sStopped =>
    refine comes_head hst (pppRow_all rfl rfl _) (by decide) (by simp)
      (act_createDown env tim _) (cpId_downMove (by simp)) ?_
    simp [PppCcb.downMove, plainEffect]
  case sClosing =>
    refine comes_head hst (pppRow_all rfl rfl _) (by decide) (by simp)
      (act_createDown env tim _) (cpId_downMove (by simp)) ?_
    simp [PppCcb.downMove, plainEffect]
  case sStopping =>
    refine comes_head hst (pppRow_all rfl rfl _) (by decide) (by simp)
      (act_createDown env tim _) (cpId_downMove (by simp)) ?_
    simp [PppCcb.downMove, plainEffect]
  case sOpened =>
    refine comes_head hst (pppRow_all rfl rfl _) (by decide) (by simp)
      (act_createDown env tim _) (cpId_downMove (by simp)) ?_
    simp [PppCcb.downMove, plainEffect]
  case sClosed => exact comes_plain hst (pppRow_all rfl rfl _) (by decide) rfl
  all_goals
    refine comes_plain hst (pppRow_all rfl rfl _) (by decide) ?_
    rw [setState_self s hst]
    rfl

/-! ### Rows that take the layer down -/

@[simp] theorem finishMove_setState (s : PppCcb) (st : PppState) (tim : PppTimerId) :
    (s.setState s.cpId st).finishMove tim = s.finishMove tim := by
  simp [PppCcb.finishMove]

theorem finishMove_ipv6cp (h : s.cpId = .ipv6cp) : s.finishMove tim = s.ipv6cpStop := by
  simp [PppCcb.finishMove, PppCcb.closeLower, h]

theorem cpId_finishMove (h : s.cpId = .ipcp) : (s.finishMove tim).cpId = .lcp := by
  simp [PppCcb.finishMove, PppCcb.closeLower, h]

theorem downMove_closed (s : PppCcb) :
    (s.setState s.cpId .sClosed).downMove tim = s.finishMove tim := by
  simp [PppCcb.downMove]

theorem downMove_stopped (s : PppCcb) :
    (s.setState s.cpId .sStopped).downMove tim = s.restart tim := by
  simp [PppCcb.downMove]

theorem act_finish_down (env : PppEnv) (tim : PppTimerId) (h : s.cpId ≠ .ipv6cp) :
    ∃ s', runAction env (pppFsm env) tim s.tick .thisLayerFinish = (.success, s') ∧
      s'.core = (s.downMove tim).core := by
  obtain ⟨s', hact, hcore⟩ := act_finish h (comes_down env tim s.tick)
  exact ⟨s', hact, hcore.trans (core_downMove (core_tick s) tim)⟩

/-- A row that finishes in `S_CLOSED`. -/
theorem comes_finish (hst : s.state s.cpId = st) (hne : st ≠ .sStarting)
    (hrow : pppRow s.cpId st ev = some ⟨st, ev, .sClosed, [.thisLayerFinish]⟩)
    (hodd : ev ≠ .eRecvTerminateAck) : Comes env tim ev s (s.finishMove tim) := by
  have hodd' : ¬ (s.cpId = .ipcp ∧ st = .sClosing ∧ ev = .eRecvTerminateAck) :=
    fun h => hodd h.2.2
  by_cases h6 : s.cpId = .ipv6cp
  · refine comes_head hst hrow (by decide) hodd' (act_finish_ipv6cp (by simp [h6])) (by simp) ?_
    rw [finishMove_ipv6cp h6, h6]
    rfl
  have hcp : (s.setState s.cpId .sClosed).cpId ≠ .ipv6cp := h6
  have hact := act_finish_down env tim hcp
  rw [downMove_closed] at hact
  by_cases hlcp : s.cpId = .lcp
  · refine comes_head hst hrow (by decide) hodd' hact ?_ rfl
    simp [PppCcb.finishMove, hlcp]
  · have hip : s.cpId = .ipcp := cp_eq_ipcp hlcp h6
    exact comes_only hst hrow (ipcp_row_over hip (cpId_finishMove hip) ⟨hne, by simp⟩)
      (pppRan_row hrow hodd') hact

/-- A row that finishes in `S_STOPPED`. -/
theorem comes_giveUp (hst : s.state s.cpId = st)
    (hrow : pppRow s.cpId st ev = some ⟨st, ev, .sStopped, [.thisLayerFinish]⟩)
    (hodd : ev ≠ .eRecvTerminateAck) : Comes env tim ev s (s.giveUp tim) := by
  have hodd' : ¬ (s.cpId = .ipcp ∧ st = .sClosing ∧ ev = .eRecvTerminateAck) :=
    fun h => hodd h.2.2
  unfold PppCcb.giveUp
  by_cases h6 : s.cpId = .ipv6cp
  · refine comes_head hst hrow (by decide) hodd' (act_finish_ipv6cp (by simp [h6])) (by simp) ?_
    rw [if_pos h6, h6]
    rfl
  · have hcp : (s.setState s.cpId .sStopped).cpId ≠ .ipv6cp := h6
    have hact := act_finish_down env tim hcp
    rw [downMove_stopped] at hact
    rw [if_neg h6]
    exact comes_head hst hrow (by decide) hodd' hact rfl rfl

/-- A Terminate-Ack, which has rows of its own to take the layer down. -/
theorem comes_terminateAck (hst : s.state s.cpId = .sClosing) :
    Comes env tim .eRecvTerminateAck s (s.finishMove tim) := by
  have hrow : pppRow s.cpId .sClosing .eRecvTerminateAck = some
      ⟨.sClosing, .eRecvTerminateAck, .sClosed, [.createDownEvent, .createUpEvent]⟩ := by
    cases s.cpId <;> rfl
  have hact := act_createDown env tim (s.setState s.cpId .sClosed)
  rw [downMove_closed] at hact
  by_cases hip : s.cpId = .ipcp
  · exact comes_only hst hrow (ipcp_row_over hip (cpId_finishMove hip) (by decide))
      (by rw [hip]; rfl) hact
  · refine comes_head hst hrow (by decide) (fun h => hip h.1) hact ?_ rfl
    by_cases hlcp : s.cpId = .lcp
    · simp [PppCcb.finishMove, hlcp]
    · have h6 : s.cpId = .ipv6cp := by
        cases h : s.cpId <;> first | rfl | exact absurd h hlcp | exact absurd h hip
      simp [finishMove_ipv6cp h6]

theorem comes_terminateAck_stopping (hst : s.state s.cpId = .sStopping) :
    Comes env tim .eRecvTerminateAck s (s.restart tim) := by
  have hact := act_createDown env tim (s.setState s.cpId .sStopped)
  rw [downMove_stopped] at hact
  exact comes_head hst (pppRow_all rfl rfl _) (by decide) (by simp) hact rfl rfl

/-! ### Rows that leave `S_OPENED` -/

/-- Such a row ends in a termination, whatever state it names, as long as the rest of it
leaves the layer on its way out. -/
theorem comes_opened (hst : s.state s.cpId = .sOpened)
    (hrow : pppRow s.cpId .sOpened ev = some ⟨.sOpened, ev, next, .thisLayerDown :: l⟩)
    (hp : ∀ a ∈ l, a.plain)
    (hcore : (l.foldl (plainEffect tim)
      ((s.layerDown.setState s.cpId next).closeMove tim)).core = t.core) :
    Comes env tim ev s t := by
  refine comes_head hst hrow hp (by simp) (act_down fun s' _ => comes_close env tim s') (by simp) ?_
  rw [layerDown_setState]
  exact hcore

/-! ### Rows that bring the layer up -/

/-- No table has a third action in a row that brings a layer up. -/
theorem tbl_layerUp : ∀ i < 129, ∀ cp ∈ [PppCp.lcp, .ipcp, .ipv6cp],
    ∀ cp' ∈ [PppCp.lcp, .ipcp, .ipv6cp],
    ((pppFsmTbl cp)[i]?.map PppRow.hdl).any (.thisLayerUp ∈ ·) → pppHdl cp' i 2 = none := by
  decide

theorem core_openNcps (env : PppEnv) (h : s.core = t.core) :
    (openNcps env (pppFsm env) s).core = (t.openNcpsMove env).core := by
  have key : ∀ s : PppCcb, { s with cpId := .ipcp, phase := ipcpPhase }.core =
      { s.core with cpId := .ipcp, phase := ipcpPhase } := fun _ => rfl
  have key6 : ∀ s : PppCcb, { s.ipv6cpIidInit env with cpId := .ipv6cp }.core =
      { s.core.ipv6cpIidInit env with cpId := .ipv6cp }.core := by
    intro s
    unfold PppCcb.ipv6cpIidInit
    have hparams : s.core.params = s.params := rfl
    rw [hparams]
    split <;> rfl
  have hip : (pppFsm env .ppp .eOpen { s with cpId := .ipcp, phase := ipcpPhase }).2.core =
      (PppCcb.openMove .ppp { t with cpId := .ipcp, phase := ipcpPhase }).core := by
    rw [(comes_open env .ppp _).core]
    apply core_openMove
    rw [key, h, ← key]
  unfold openNcps PppCcb.openNcpsMove
  generalize (pppFsm env .ppp .eOpen { s with cpId := .ipcp, phase := ipcpPhase }).2 = s1 at hip
  generalize PppCcb.openMove .ppp { t with cpId := .ipcp, phase := ipcpPhase } = t1 at hip
  have hen : s1.core.ipv6Enabled = t1.core.ipv6Enabled := congrArg PppCcb.ipv6Enabled hip
  replace hen : s1.ipv6Enabled = t1.ipv6Enabled := hen
  simp only [hen]
  split
  · rw [(comes_open env .pppIpv6cp _).core]
    apply core_openMove
    rw [key6 s1, hip, ← key6 t1]
  · exact hip

theorem core_lcpLayerUp (env : PppEnv) (h : s.core = t.core) :
    (lcpLayerUp env (pppFsm env) s).core = (t.lcpUpMove env).core := by
  have hkeep : s.startKeepalive.core = t.startKeepalive.core := by
    have key : ∀ s : PppCcb, s.startKeepalive.core = s.core.startKeepalive.core := fun _ => rfl
    rw [key s, h, ← key t]
  have hauth : ∀ u v : PppCcb, u.core = v.core →
      (u.enterPhase authPhase).core = (v.enterPhase authPhase).core := by
    intro u v huv
    have key : ∀ s : PppCcb, (s.enterPhase authPhase).core = s.core.enterPhase authPhase :=
      fun _ => rfl
    rw [key u, huv, ← key v]
  have hparams : s.startKeepalive.core.params = t.startKeepalive.core.params :=
    congrArg PppCcb.params hkeep
  replace hparams : s.startKeepalive.params = t.startKeepalive.params := hparams
  unfold lcpLayerUp PppCcb.lcpUpMove
  generalize s.startKeepalive = u at hkeep hparams
  generalize t.startKeepalive = v at hkeep hparams
  simp only [hparams]
  split
  · exact core_openNcps env hkeep
  by_cases hpap : v.params.authMethod = papProtocol
  · rw [if_pos hpap, if_pos (Or.inl hpap)]
    exact hauth u v hkeep
  by_cases hchap : v.params.authMethod = chapProtocol
  · rw [if_neg hpap, if_pos hchap, if_pos (Or.inr hchap)]
    exact hauth u v hkeep
  · rw [if_neg hpap, if_neg hchap, if_neg (fun hor => hor.elim hpap hchap)]
    exact hkeep

/-- This-Layer-Up. -/
theorem core_thisLayerUp (env : PppEnv) (h : s.core = t.core) :
    (thisLayerUp env (pppFsm env) s).2.core = (t.layerUp env).core := by
  have hproto : (s.controlProtocol.get s.cpId).pppProtocol =
      (t.controlProtocol.get t.cpId).pppProtocol := by
    have key : ∀ s : PppCcb, (s.controlProtocol.get s.cpId).pppProtocol =
        (s.core.controlProtocol.get s.core.cpId).pppProtocol := by
      intro s
      rw [cpId_core]
      cases s.cpId <;> rfl
    rw [key s, h, ← key t]
  have hipcp : ∀ s : PppCcb, (ipcpLayerUp env s).2.core = (ipcpLayerUp env s.core).2.core :=
    fun _ => rfl
  have hipv6cp : ∀ s : PppCcb, (ipv6cpLayerUp s).core = (ipv6cpLayerUp s.core).core := by
    intro s
    unfold ipv6cpLayerUp PppCcb.dhcp6PdStart
    split <;> split <;> first | rfl | contradiction
  unfold thisLayerUp PppCcb.layerUp
  simp only [hproto]
  split
  · exact core_lcpLayerUp env h
  · split
    · rw [hipcp s, h, ← hipcp t]
    · split
      · rw [hipv6cp s, h, ← hipv6cp t]
      · exact h

/-- A row whose last action brings the layer up. -/
theorem comes_layerUp (hst : s.state s.cpId = st)
    (hrow : pppRow s.cpId st ev = some ⟨st, ev, .sOpened, [a, .thisLayerUp]⟩)
    (hp : a.plain) (ha : plainEffect tim (s.setState s.cpId .sOpened) a =
      s.setState s.cpId .sOpened)
    (hodd : ev ≠ .eRecvTerminateAck) :
    Comes env tim ev s ((s.setState s.cpId .sOpened).layerUp env) := by
  have hodd' : ¬ (s.cpId = .ipcp ∧ st = .sClosing ∧ ev = .eRecvTerminateAck) :=
    fun h => hodd h.2.2
  subst hst
  obtain ⟨i, hr, hrun⟩ := pppFsm_row env tim hrow
  have hlt : i < 129 :=
    Nat.lt_of_lt_of_le (List.getElem?_eq_some_iff.mp hr).1 (tbl_length s.cpId)
  -- the plain action first
  obtain ⟨hok, hcp1⟩ := runAction_plain_cpId env (pppFsm env) tim hp
    (timerCounter_tick (s.setState s.cpId .sOpened))
  have hcore1 : (runAction env (pppFsm env) tim (s.setState s.cpId .sOpened).tick a).2.core =
      (plainEffect tim (s.setState s.cpId .sOpened) a).core := core_runAction hp
  generalize hs1 : (runAction env (pppFsm env) tim (s.setState s.cpId .sOpened).tick a).2 = s1
    at hcp1 hcore1
  have hhead : pppHdl (s.setState s.cpId .sOpened).cpId i 0 = some a := by simp [pppHdl, hr]
  have hact1 : runAction env (pppFsm env) tim (s.setState s.cpId .sOpened).tick a =
      (.success, s1) := Prod.ext hok hs1
  -- then This-Layer-Up, after which no table has anything more
  have hsecond : pppHdl s1.cpId i 1 = some .thisLayerUp := by
    rw [hcp1]
    simp [pppHdl, hr]
  have hcore2 : (thisLayerUp env (pppFsm env) s1.tick).2.core =
      ((s.setState s.cpId .sOpened).layerUp env).core := by
    apply core_thisLayerUp
    rw [core_tick, hcore1, ha]
  have hthird : ∀ cp', pppHdl cp' i 2 = none := by
    intro cp'
    exact tbl_layerUp i hlt s.cpId (by cases s.cpId <;> simp) cp' (by cases cp' <;> simp)
      (by simp [hr])
  have hrun1 : runHdl env (pppFsm env) tim i 9 1 s1 =
      ⟨(thisLayerUp env (pppFsm env) s1.tick).1, (thisLayerUp env (pppFsm env) s1.tick).2,
        [(s1.cpId, .thisLayerUp)]⟩ := by
    rw [runHdl_action (k := 8) hsecond, runHdl_none (hthird _)]
    show (if (thisLayerUp env (pppFsm env) s1.tick).1 = .error then _ else _) = _
    cases hs : (thisLayerUp env (pppFsm env) s1.tick).1 <;> rfl
  rw [runHdl_some hhead hact1, hrun1] at hrun
  refine ⟨?_, ?_⟩
  · rw [pppFsm_run, hrun]
    exact hcore2
  · rw [hrun, pppRan_row hrow hodd']
    simp [hcp1]

/-! ### Every event -/

/-- A row that keeps the state and only sends a frame. -/
theorem comes_stay (hst : s.state s.cpId = st)
    (hrow : pppRow s.cpId st ev = some ⟨st, ev, st, l⟩) (hp : ∀ a ∈ l, a.plain)
    (hl : ∀ u, l.foldl (plainEffect tim) u = u) : Comes env tim ev s s := by
  refine comes_plain hst hrow hp ?_
  rw [hl, setState_self s hst]

/-- The actions that only send a frame or write to the log. -/
def PppAction.inert : PppAction → Bool
  | .initRestartCount | .zeroRestartCount | .createUpEvent | .sendConfigRequest
  | .sendConfigNakRej | .sendConfigAck | .sendTerminateRequest | .sendTerminateAck
  | .sendCodeReject | .sendEchoReply => true
  | _ => false

/-- Whether an event leaves a state alone: no row, or one that only sends. -/
def idles (st : PppState) (ev : PppEvent) (cp : PppCp) : Bool :=
  (pppRow cp st ev).all fun r => r.nextState = st && r.hdl.all PppAction.inert

theorem PppAction.plain_of_inert (h : a.inert) : a.plain := by
  cases a <;> first | rfl | exact absurd h (by decide)

theorem plainEffect_inert (h : ∀ a ∈ l, a.inert) : l.foldl (plainEffect tim) s = s := by
  induction l with
  | nil => rfl
  | cons a rest ih =>
      have ha : plainEffect tim s a = s := by
        have := h a List.mem_cons_self
        cases a <;> first | rfl | exact absurd this (by decide)
      rw [List.foldl_cons, ha]
      exact ih fun b hb => h b (List.mem_cons_of_mem a hb)

theorem comes_idle (hst : s.state s.cpId = st)
    (h : idles st ev .lcp && idles st ev .ipcp) : Comes env tim ev s s := by
  have hidle : idles st ev s.cpId := by
    simp only [Bool.and_eq_true] at h
    cases s.cpId
    · exact h.1
    · exact h.2
    · exact h.2
  cases hrow : pppRow s.cpId st ev with
  | none => exact comes_none (by rw [hst]; exact hrow)
  | some r =>
      obtain ⟨-, hst', hev⟩ := pppRow_mem hrow
      simp only [idles, hrow, Option.all_some, Bool.and_eq_true, decide_eq_true_eq,
        List.all_eq_true] at hidle
      have hr : r = ⟨st, ev, st, r.hdl⟩ := by
        cases r
        simp_all
      rw [hr] at hrow
      exact comes_stay hst hrow (fun a ha => PppAction.plain_of_inert (hidle.2 a ha))
        fun u => plainEffect_inert hidle.2

/-- A timeout. -/
theorem comes_timeout (hev : ev = .eTimeoutCounterPositive ∨ ev = .eTimeoutCounterExpired) :
    Comes env tim ev s (pppMove env tim ev s) := by
  rcases hev with rfl | rfl <;> cases hst : s.state s.cpId <;> simp only [pppMove, hst]
  case inr.sClosing =>
    exact comes_finish hst (by decide) (pppRow_all rfl rfl _) (by decide)
  case inl.sAckReceived => exact comes_plain hst (pppRow_all rfl rfl _) (by decide) rfl
  case inr.sStopping | inr.sRequestSent | inr.sAckReceived | inr.sAckSent =>
    exact comes_giveUp hst (pppRow_all rfl rfl _) (by decide)
  all_goals exact comes_idle hst (by decide)

/-- A Configure-Request. -/
theorem comes_request (hev : ev = .eRecvGoodConfigRequest ∨ ev = .eRecvBadConfigRequest) :
    Comes env tim ev s (pppMove env tim ev s) := by
  rcases hev with rfl | rfl <;> cases hst : s.state s.cpId <;> simp only [pppMove, hst]
  case inl.sAckReceived =>
    exact comes_layerUp hst (pppRow_all rfl rfl _) (by decide) rfl (by decide)
  case inl.sOpened | inr.sOpened =>
    exact comes_opened hst (pppRow_all rfl rfl _) (by decide)
      (by simp [PppCcb.closeMove, plainEffect, PppCcb.terminate])
  case inl.sStopped | inl.sRequestSent | inr.sStopped | inr.sAckSent =>
    exact comes_plain hst (pppRow_all rfl rfl _) (by decide) rfl
  all_goals exact comes_idle hst (by decide)

/-- An answer to our Configure-Request. -/
theorem comes_answer (hev : ev = .eRecvConfigAck ∨ ev = .eRecvConfigNakRej) :
    Comes env tim ev s (pppMove env tim ev s) := by
  rcases hev with rfl | rfl <;> cases hst : s.state s.cpId <;> simp only [pppMove, hst]
  case inl.sAckSent =>
    exact comes_layerUp hst (pppRow_all rfl rfl _) (by decide) rfl (by decide)
  case inr.sAckSent =>
    refine comes_plain hst (pppRow_all rfl rfl _) (by decide) ?_
    rw [setState_self s hst]
    rfl
  case inl.sOpened | inr.sOpened =>
    exact comes_opened hst (pppRow_all rfl rfl _) (by decide)
      (by simp [PppCcb.closeMove, plainEffect, PppCcb.terminate])
  case inl.sRequestSent | inl.sAckReceived | inr.sRequestSent | inr.sAckReceived =>
    exact comes_plain hst (pppRow_all rfl rfl _) (by decide) rfl
  all_goals exact comes_idle hst (by decide)

/-- A Terminate-Request. -/
theorem comes_terminateRequest :
    Comes env tim .eRecvTerminateRequest s (pppMove env tim .eRecvTerminateRequest s) := by
  cases hst : s.state s.cpId <;> simp only [pppMove, hst]
  case sOpened =>
    by_cases hlcp : s.cpId = .lcp
    · rw [if_pos hlcp]
      refine comes_opened hst (by rw [hlcp]; rfl) (by decide) ?_
      simp [PppCcb.closeMove, plainEffect, PppCcb.terminate]
    · rw [if_neg hlcp]
      have hrow : pppRow s.cpId .sOpened .eRecvTerminateRequest = some
          ⟨.sOpened, .eRecvTerminateRequest, .sStopping,
            [.thisLayerDown, .zeroRestartCount, .sendTerminateAck]⟩ := by
        cases h : s.cpId <;> first | rfl | exact absurd h hlcp
      refine comes_opened hst hrow (by decide) ?_
      simp [PppCcb.closeMove, plainEffect]
  case sAckReceived | sAckSent =>
    exact comes_plain hst (pppRow_all rfl rfl _) (by decide) rfl
  all_goals exact comes_idle hst (by decide)

theorem comes_recvTerminateAck :
    Comes env tim .eRecvTerminateAck s (pppMove env tim .eRecvTerminateAck s) := by
  cases hst : s.state s.cpId <;> simp only [pppMove, hst]
  case sClosing => exact comes_terminateAck hst
  case sStopping => exact comes_terminateAck_stopping hst
  case sAckReceived => exact comes_plain hst (pppRow_all rfl rfl _) (by decide) rfl
  case sOpened =>
    exact comes_opened hst (pppRow_all rfl rfl _) (by decide)
      (by simp [PppCcb.closeMove, plainEffect, PppCcb.terminate])
  all_goals exact comes_idle hst (by decide)

/-- A Code-Reject or Protocol-Reject, and a code the automaton does not know. -/
theorem comes_reject (hev : ev = .eRecvUnknownCode ∨ ev = .eRecvGoodCodeProtocolReject ∨
      ev = .eRecvBadCodeProtocolReject) :
    Comes env tim ev s (pppMove env tim ev s) := by
  rcases hev with rfl | rfl | rfl <;> cases hst : s.state s.cpId <;> simp only [pppMove, hst]
  case inr.inr.sClosed | inr.inr.sClosing =>
    exact comes_finish hst (by decide) (pppRow_all rfl rfl _) (by decide)
  case inr.inr.sStopped | inr.inr.sStopping | inr.inr.sRequestSent | inr.inr.sAckReceived |
      inr.inr.sAckSent =>
    exact comes_giveUp hst (pppRow_all rfl rfl _) (by decide)
  case inr.inr.sOpened =>
    exact comes_opened hst (pppRow_all rfl rfl _) (by decide)
      (by simp [PppCcb.closeMove, plainEffect, PppCcb.terminate])
  case inr.inl.sAckReceived => exact comes_plain hst (pppRow_all rfl rfl _) (by decide) rfl
  all_goals exact comes_idle hst (by decide)

/-- An echo, and an event the automaton does not know. -/
theorem comes_echo (hev : ev = .eRecvEchoRequest ∨ ev = .eRecvEchoReply ∨ ev = .eUnknown) :
    Comes env tim ev s s := by
  rcases hev with rfl | rfl | rfl <;> cases hst : s.state s.cpId
  all_goals exact comes_idle hst (by decide)

/-- **A call of `PPP_FSM` is a move.**  For every event and every control block the call
leaves, up to `core`, what `pppMove` says, and runs the actions of `pppRan`, each under the
protocol the event was for. -/
theorem pppFsm_move (env : PppEnv) (tim : PppTimerId) (ev : PppEvent) (s : PppCcb) :
    Comes env tim ev s (pppMove env tim ev s) := by
  cases ev with
  | eUp => exact comes_up env tim s
  | eDown => exact comes_down env tim s
  | eOpen => exact comes_open env tim s
  | eClose => exact comes_close env tim s
  | eTimeoutCounterPositive => exact comes_timeout (Or.inl rfl)
  | eTimeoutCounterExpired => exact comes_timeout (Or.inr rfl)
  | eRecvGoodConfigRequest => exact comes_request (Or.inl rfl)
  | eRecvBadConfigRequest => exact comes_request (Or.inr rfl)
  | eRecvConfigAck => exact comes_answer (Or.inl rfl)
  | eRecvConfigNakRej => exact comes_answer (Or.inr rfl)
  | eRecvTerminateRequest => exact comes_terminateRequest
  | eRecvTerminateAck => exact comes_recvTerminateAck
  | eRecvUnknownCode => exact comes_reject (Or.inl rfl)
  | eRecvGoodCodeProtocolReject => exact comes_reject (Or.inr (Or.inl rfl))
  | eRecvBadCodeProtocolReject => exact comes_reject (Or.inr (Or.inr rfl))
  | eRecvEchoRequest => exact comes_echo (Or.inl rfl)
  | eRecvEchoReply => exact comes_echo (Or.inr (Or.inl rfl))
  | eUnknown => exact comes_echo (Or.inr (Or.inr rfl))

end FastRG
