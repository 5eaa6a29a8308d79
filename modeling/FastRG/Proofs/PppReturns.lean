/-
The automaton comes back.

Left as calls, the functions of the PPP client could go on calling one another for ever;
no counter goes down from one to the next.  What ends them is which events can follow which.
An Up runs only plain actions; a Close re-enters the automaton only where nothing more
happens; a Down delivers an Up or a Close, an Open an Up or a Down, and every other event
one of the four.  `Returns k` says that a call comes back, with what the model says, when
there is room for `k` calls below one another, and each of these steps adds two: a call
of the automaton and one of an action.
-/
import FastRG.PppCall
import FastRG.Proofs.PppRows

namespace FastRG

variable {env : PppEnv} {tim : PppTimerId} {s : PppCcb} {ev : PppEvent} {c : PppCall}
  {a : PppAction} {k l n : Nat} {st : Status}

/-! ### Calls that come back -/

/-- What the model says a call does. -/
def PppCall.result (env : PppEnv) (s : PppCcb) : PppCall → Status × PppCcb
  | .pppFsm tim ev => FastRG.pppFsm env tim ev s
  | .action tim a => runAction env (FastRG.pppFsm env) tim s a
  | .pppBye => (.success, FastRG.pppBye (FastRG.pppFsm env) s)
  | .pppoeSendPkt (.padi built) => sendDiscovery built s
  | .pppoeSendPkt (.padr built) => sendDiscovery built s
  | .pppoeSendPkt .padt => (.success, sendPadtPkt (FastRG.pppFsm env) s)
  | .exitPpp => (.success, s.exitPpp)
where
  sendDiscovery (built : Status) (s : PppCcb) : Status × PppCcb :=
    if s.pppoePhase.maxRetransmit ≤ s.pppoePhase.timerCounter then (.error, s.exitPpp)
    else if built = .error then (.error, FastRG.pppBye (FastRG.pppFsm env) s)
    else
      (.success, { s with
        pppoePhase := { s.pppoePhase with timerCounter := s.pppoePhase.timerCounter + 1 } })

/-- With room for `k` nested calls or more, the call comes back. -/
def Returns (env : PppEnv) (k : Nat) (c : PppCall) (s : PppCcb) : Prop :=
  ∀ n, k ≤ n → pppCall env n c s = some (c.result env s)

theorem Returns.mono (h : Returns env k c s) (hkl : k ≤ l) : Returns env l c s :=
  fun n hn => h n (Nat.le_trans hkl hn)

/-- One call needs one level more than the calls it makes. -/
theorem returns_succ (h : ∀ n, k ≤ n → c.body env (pppCall env n) s = some (c.result env s)) :
    Returns env (k + 1) c s := by
  intro n hn
  obtain ⟨m, rfl⟩ : ∃ m, n = m + 1 := ⟨n - 1, by omega⟩
  exact h m (by omega)

theorem callAnd_of_returns (h : Returns env k c s) (hn : k ≤ n) (st : Status) :
    callAnd (pppCall env n) st c s = some (st, (c.result env s).2) := by
  unfold callAnd
  rw [h n hn]
  rfl

/-! ### Ending a session -/

theorem returns_exit (env : PppEnv) (s : PppCcb) : Returns env 1 .exitPpp s :=
  returns_succ fun _ _ => rfl

theorem phase_byeStop (s : PppCcb) : (byeStop s).phase = s.phase := rfl

/-- `PPP_bye` with nothing to close. -/
theorem returns_bye_end (hphase : s.phase = endPhase) : Returns env 2 .pppBye s := by
  refine returns_succ fun n hn => ?_
  show callBye (pppCall env n) s = some (.success, pppBye (pppFsm env) s)
  unfold callBye pppBye
  simp only [phase_byeStop, hphase, if_true]
  exact callAnd_of_returns (returns_exit env _) hn .success

/-- In `PPPOE_PHASE` it calls itself, one phase down. -/
theorem returns_bye_pppoe (hphase : s.phase = pppoePhase) : Returns env 3 .pppBye s := by
  refine returns_succ fun n hn => ?_
  show callBye (pppCall env n) s = some (.success, pppBye (pppFsm env) s)
  have hne : ¬ pppoePhase = endPhase := by decide
  have hdown : ({ byeStop s with phase := pppoePhase - 1 }.resetStates).phase = endPhase := rfl
  unfold callBye pppBye
  simp only [phase_byeStop, hphase, hne, if_true, if_false]
  rw [callAnd_of_returns (returns_bye_end hdown) hn .success]
  rfl

theorem returns_sendPadt (env : PppEnv) (s : PppCcb) :
    Returns env 4 (.pppoeSendPkt .padt) s := by
  refine returns_succ fun n hn => ?_
  exact callAnd_of_returns (returns_bye_pppoe rfl) hn .success

/-! ### Actions -/

/-- The actions that look at the restart counter. -/
def PppAction.counted : PppAction → Bool
  | .sendConfigRequest | .sendTerminateRequest => true
  | _ => false

/-- An action that delivers no event of its own. -/
theorem returns_plain (ha : a.plain) (hc : a.counted → s.timerCounter s.cpId ≠ 0) :
    Returns env 5 (.action tim a) s := by
  refine returns_succ fun n hn => ?_
  show callAction env (pppCall env n) tim s a = some (runAction env (pppFsm env) tim s a)
  cases a <;> simp [PppAction.plain] at ha
  case sendPadt =>
    simp only [callAction, (returns_sendPadt env s) n hn]
    rfl
  case sendConfigRequest =>
    have hne := hc rfl
    simp [callAction, callSendRequest, runAction, sendConfigRequest, hne]
  case sendTerminateRequest =>
    have hne := hc rfl
    simp [callAction, callSendRequest, runAction, sendTerminateRequest, hne]
  all_goals rfl

/-- Opening the network protocols, when the automaton comes back from an Open. -/
theorem callOpenNcps_eq (hopen : ∀ tim s, Returns env k (.pppFsm tim .eOpen) s) (hn : k ≤ n) :
    callOpenNcps env (pppCall env n) s = some (.success, openNcps env (pppFsm env) s) := by
  unfold callOpenNcps openNcps
  rw [hopen .ppp _ n hn]
  show (if (pppFsm env .ppp .eOpen { s with cpId := .ipcp, phase := ipcpPhase }).2.ipv6Enabled then
    _ else _) = _
  by_cases h6 :
      (pppFsm env .ppp .eOpen { s with cpId := .ipcp, phase := ipcpPhase }).2.ipv6Enabled = true
  · simp only [h6, if_true]
    exact callAnd_of_returns (hopen .pppIpv6cp _) hn .success
  · simp only [h6]
    rfl

theorem callLayerUp_eq (hopen : ∀ tim s, Returns env k (.pppFsm tim .eOpen) s) (hn : k ≤ n) :
    callLayerUp env (pppCall env n) s = some (thisLayerUp env (pppFsm env) s) := by
  have hlcp : callLcpLayerUp env (pppCall env n) s =
      some (.success, lcpLayerUp env (pppFsm env) s) := by
    unfold callLcpLayerUp lcpLayerUp
    simp only [callOpenNcps_eq hopen hn]
    split
    · rfl
    · split
      · rfl
      · split
        · rfl
        · rfl
  unfold callLayerUp thisLayerUp
  simp only [hlcp]
  split
  · rfl
  · split
    · rfl
    · split
      · rfl
      · rfl

theorem callLayerDown_eq
    (hclose : ∀ s', s'.state s'.cpId = s.state s.cpId → Returns env k (.pppFsm tim .eClose) s')
    (hn : k ≤ n) :
    callLayerDown (pppCall env n) tim s = some (.success, thisLayerDown (pppFsm env) tim s) := by
  unfold callLayerDown thisLayerDown
  cases hcp : s.cpId with
  | lcp =>
      have hlcp : s.lcpDown.cpId = .lcp := hcp
      exact callAnd_of_returns (hclose _ (by rw [hlcp, state_lcpDown, hcp])) hn .success
  | ipcp =>
      simp only [hclose s rfl n hn]
      rfl
  | ipv6cp => exact callAnd_of_returns (hclose s.ipv6Down rfl) hn .success

/-- An action comes back when the automaton does from the events it delivers. -/
theorem returns_action (hk : 4 ≤ k) (hc : a.counted → s.timerCounter s.cpId ≠ 0)
    (h : ∀ e ∈ a.delivers, ∀ tim s, Returns env k (.pppFsm tim e) s) :
    Returns env (k + 1) (.action tim a) s := by
  by_cases hp : a.plain
  · exact (returns_plain hp hc).mono (by omega)
  refine returns_succ fun n hn => ?_
  show callAction env (pppCall env n) tim s a = some (runAction env (pppFsm env) tim s a)
  cases a <;> simp [PppAction.plain] at hp <;> simp [PppAction.delivers] at h
  case thisLayerStart => exact callAnd_of_returns (h tim s) hn .success
  case thisLayerFinish =>
    by_cases h6 : s.cpId = .ipv6cp
    · have hstop : Returns env 1 (.action tim .createCloseToLowerLayer) s := by
        refine returns_succ fun m _ => ?_
        simp [PppCall.body, callAction, callCloseToLowerLayer, PppCall.result, runAction,
          createCloseToLowerLayer, h6]
      simp only [callAction, runAction, h6, if_true, hstop n (by omega)]
      rfl
    · simp only [callAction, runAction, h6, if_false]
      exact callAnd_of_returns (h tim s) hn .success
  case thisLayerUp => exact callLayerUp_eq h hn
  case thisLayerDown => exact callLayerDown_eq (fun s' _ => h tim s') hn
  case createDownEvent => exact callAnd_of_returns (h tim s) hn .success
  case createCloseToLowerLayer =>
    simp only [callAction, callCloseToLowerLayer, runAction, createCloseToLowerLayer]
    by_cases h6 : s.cpId = .ipv6cp
    · simp only [h6, if_true]
    · simp only [h6, if_false]
      exact callAnd_of_returns (h tim _) hn .success

/-! ### The automaton -/

theorem callHdl_none {i j : Nat} {call : PppCalls} (h : pppHdl s.cpId i j = none) :
    callHdl call tim i l j s = some (.success, s) := by
  cases l with
  | zero => rfl
  | succ l => simp [callHdl, h]

/-- One turn of the loop, when its action comes back. -/
theorem callHdl_action {i j : Nat} {call : PppCalls} {r : Status × PppCcb}
    (h : pppHdl s.cpId i j = some a) (hact : call (.action tim a) s.tick = some r) :
    callHdl call tim i (l + 1) j s =
      if r.1 = .error then some (.error, r.2) else callHdl call tim i l (j + 1) r.2 := by
  have htick : s.setTimerCounter s.cpId 10 = s.tick := rfl
  rw [callHdl, h]
  simp only [htick, hact, Option.bind_eq_bind, Option.bind_some]

/-- From one place of a row the loop comes back when the action there and the rest do. -/
theorem callHdl_eq_head {i j : Nat}
    (hact : ∀ a, pppHdl s.cpId i j = some a → Returns env k (.action tim a) s.tick)
    (htail : ∀ l s, callHdl (pppCall env n) tim i l (j + 1) s =
      some ((runHdl env (pppFsm env) tim i l (j + 1) s).status,
        (runHdl env (pppFsm env) tim i l (j + 1) s).ccb))
    (hn : k ≤ n) :
    callHdl (pppCall env n) tim i l j s =
      some ((runHdl env (pppFsm env) tim i l j s).status,
        (runHdl env (pppFsm env) tim i l j s).ccb) := by
  cases l with
  | zero => rfl
  | succ l =>
      cases ha : pppHdl s.cpId i j with
      | none => rw [callHdl_none ha, runHdl_none ha]
      | some a =>
          have hback : pppCall env n (.action tim a) s.tick =
            some (runAction env (pppFsm env) tim s.tick a) := hact a ha n hn
          rw [callHdl_action ha hback, runHdl_action ha]
          by_cases herr : (runAction env (pppFsm env) tim s.tick a).1 = .error
          · rw [if_pos herr, if_pos herr]
          · rw [if_neg herr, if_neg herr]
            exact htail l _

/-- The rest of a row comes back when its actions do. -/
theorem callHdl_eq {i j : Nat}
    (h : ∀ j a (s : PppCcb), pppHdl s.cpId i (j + 1) = some a →
      Returns env k (.action tim a) s.tick)
    (hn : k ≤ n) :
    callHdl (pppCall env n) tim i l (j + 1) s =
      some ((runHdl env (pppFsm env) tim i l (j + 1) s).status,
        (runHdl env (pppFsm env) tim i l (j + 1) s).ccb) := by
  induction l generalizing j s with
  | zero => rfl
  | succ l ih =>
      cases ha : pppHdl s.cpId i (j + 1) with
      | none => rw [callHdl_none ha, runHdl_none ha]
      | some a =>
          have hback : pppCall env n (.action tim a) s.tick =
            some (runAction env (pppFsm env) tim s.tick a) := h j a s ha n hn
          rw [callHdl_action ha hback, runHdl_action ha]
          by_cases herr : (runAction env (pppFsm env) tim s.tick a).1 = .error
          · rw [if_pos herr, if_pos herr]
          · rw [if_neg herr, if_neg herr]
            exact ih

/-- A call of the automaton comes back when the first action of its row does, and
This-Layer-Up where it can stand. -/
theorem returns_fsm (hk : 5 ≤ k)
    (hhead : ∀ r, pppRow s.cpId (s.state s.cpId) ev = some r → ∀ a ∈ r.hdl.head?,
      Returns env k (.action tim a) (s.setState s.cpId r.nextState).tick)
    (hup : ev.feedback ∨ ∀ s, s.timerCounter s.cpId ≠ 0 →
      Returns env k (.action tim .thisLayerUp) s) :
    Returns env (k + 1) (.pppFsm tim ev) s := by
  refine returns_succ fun n hn => ?_
  show callFsm (pppCall env n) tim ev s = some (pppFsm env tim ev s)
  rw [pppFsm_eq]
  unfold callFsm pppFsmBody pppFsmRun
  cases hrow : pppRow s.cpId (s.state s.cpId) ev with
  | none => rw [pppFindRow_of_none hrow]
  | some r =>
      obtain ⟨i, hi, hr⟩ := pppFindRow_of_row hrow
      have hev : r.event = ev := (pppRow_mem hrow).2.2
      have htail : ∀ j a (s' : PppCcb), pppHdl s'.cpId i (j + 1) = some a →
          Returns env k (.action tim a) s'.tick := by
        intro j a s' ha
        obtain ⟨r', hr', hra⟩ : ∃ r', (pppFsmTbl s'.cpId)[i]? = some r' ∧ r'.hdl[j + 1]? = some a :=
          Option.bind_eq_some_iff.mp ha
        have hmem : a ∈ r'.hdl.tail := by
          rw [← List.drop_one]
          refine List.mem_of_getElem? (i := j) ?_
          rw [List.getElem?_drop, Nat.add_comm]
          exact hra
        rcases ((tbl_rows s'.cpId) r' (List.mem_of_getElem? hr')).2 a hmem with hp | rfl
        · exact (returns_plain hp fun _ => timerCounter_tick s').mono hk
        · rcases hup with hf | hup
          · -- a row of a feedback event has no This-Layer-Up beside it
            have hlt : i < 129 :=
              Nat.lt_of_lt_of_le (List.getElem?_eq_some_iff.mp hr).1 (tbl_length s.cpId)
            have hno := tbl_up i hlt s'.cpId (by cases s'.cpId <;> simp) s.cpId
              (by cases s.cpId <;> simp) (by simp [hr', List.mem_of_mem_tail hmem])
            simp [hr, hev, hf] at hno
          · exact hup s'.tick (timerCounter_tick s')
      have hfirst : pppHdl (s.setState s.cpId r.nextState).cpId i 0 = r.hdl.head? := by
        rw [List.head?_eq_getElem?]
        simp [pppHdl, hr]
      simp only [hi, hr, Option.map_some, Option.getD_some]
      refine callHdl_eq_head ?_ (fun l s => callHdl_eq htail hn) hn
      intro a ha
      rw [hfirst] at ha
      exact hhead r hrow a (by rw [ha]; exact rfl)

/-- A row that delivers only events the automaton comes back from. -/
theorem returns_fsm_of (hk : 4 ≤ k)
    (h : ∀ r, pppRow s.cpId (s.state s.cpId) ev = some r → ∀ a ∈ r.hdl.head?,
      ∀ e ∈ a.delivers, ∀ tim s, Returns env k (.pppFsm tim e) s)
    (hup : ev.feedback ∨ ∀ tim s, Returns env k (.pppFsm tim .eOpen) s) :
    Returns env (k + 2) (.pppFsm tim ev) s := by
  refine returns_fsm (by omega) ?_ ?_
  · intro r hr a ha
    exact returns_action hk (fun _ => timerCounter_tick _) (h r hr a ha)
  · rcases hup with hf | hopen
    · exact Or.inl hf
    · refine Or.inr fun s' hc => returns_action hk (fun _ => hc) ?_
      intro e he
      rw [List.mem_singleton.mp he]
      exact hopen

theorem returns_up (env : PppEnv) (tim : PppTimerId) (s : PppCcb) :
    Returns env 6 (.pppFsm tim .eUp) s := by
  refine returns_fsm_of (Nat.le_refl 4) ?_ (Or.inl rfl)
  intro r hr a ha e he
  obtain ⟨hmem, -, hev⟩ := pppRow_mem hr
  rw [((tbl_heads s.cpId) r hmem a ha).1 hev] at he
  simp at he

/-- In `S_INIT` a Down runs no action, and in `S_CLOSING` a Close runs none. -/
theorem returns_init_down (h : s.state s.cpId = .sInit) :
    Returns env 1 (.pppFsm tim .eDown) s := by
  refine returns_succ fun n _ => ?_
  have hrow : pppRow s.cpId .sInit .eDown = none := by cases s.cpId <;> rfl
  show callFsm (pppCall env n) tim .eDown s = some (pppFsm env tim .eDown s)
  rw [pppFsm_eq, pppFsmBody_init_down h]
  simp only [callFsm, h, pppFindRow_of_none hrow]

theorem returns_closing_close (h : s.state s.cpId = .sClosing) :
    Returns env 1 (.pppFsm tim .eClose) s := by
  refine returns_succ fun n _ => ?_
  obtain ⟨r, hrow, hnext, hhdl⟩ : ∃ r, pppRow s.cpId .sClosing .eClose = some r ∧
      r.nextState = .sClosing ∧ r.hdl = [] := by
    cases s.cpId <;> exact ⟨_, rfl, rfl, rfl⟩
  obtain ⟨i, hi, hr⟩ := pppFindRow_of_row hrow
  have hnone : pppHdl (s.setState s.cpId .sClosing).cpId i 0 = none := by
    simp [pppHdl, hr, hhdl]
  show callFsm (pppCall env n) tim .eClose s = some (pppFsm env tim .eClose s)
  rw [pppFsm_eq, pppFsmBody_closing_close h]
  simp only [callFsm, h, hi, hr, Option.map_some, Option.getD_some, hnext, callHdl_none hnone]

theorem returns_close (env : PppEnv) (tim : PppTimerId) (s : PppCcb) :
    Returns env 6 (.pppFsm tim .eClose) s := by
  refine returns_fsm (Nat.le_refl 5) ?_ (Or.inl rfl)
  intro r hr a ha
  obtain ⟨hmem, -, hev⟩ := pppRow_mem hr
  rcases (tbl_close s.cpId) r hmem hev a ha with hp | ⟨rfl, hnext⟩ | ⟨rfl, hnext⟩
  · exact returns_plain hp fun _ => timerCounter_tick _
  · -- the layer below is told of a Down, in `S_INIT`
    have hst : (s.setState s.cpId r.nextState).tick.state
        (s.setState s.cpId r.nextState).tick.cpId = .sInit := by
      simp [hnext]
    refine returns_succ fun n hn => ?_
    show callAction env (pppCall env n) tim _ .thisLayerFinish = _
    by_cases h6 : (s.setState s.cpId r.nextState).tick.cpId = .ipv6cp
    · have hstop : Returns env 1 (.action tim .createCloseToLowerLayer)
          (s.setState s.cpId r.nextState).tick := by
        refine returns_succ fun m _ => ?_
        simp only [PppCall.body, callAction, callCloseToLowerLayer, PppCall.result, runAction,
          createCloseToLowerLayer, h6, if_true]
      simp only [callAction, h6, if_true, hstop n (by omega)]
      simp only [PppCall.result, runAction, h6, if_true]
    · simp only [callAction, PppCall.result, runAction, h6, if_false]
      exact callAnd_of_returns (returns_init_down hst) (by omega) .success
  · -- the layer goes down in `S_CLOSING`
    have hst : (s.setState s.cpId r.nextState).tick.state
        (s.setState s.cpId r.nextState).tick.cpId = .sClosing := by
      simp [hnext]
    refine returns_succ fun n hn => ?_
    have hclose : ∀ s' : PppCcb, s'.state s'.cpId = (s.setState s.cpId r.nextState).tick.state
        (s.setState s.cpId r.nextState).tick.cpId → Returns env 1 (.pppFsm tim .eClose) s' :=
      fun s' hs' => returns_closing_close (hs'.trans hst)
    exact callLayerDown_eq hclose (by omega)

theorem returns_down (env : PppEnv) (tim : PppTimerId) (s : PppCcb) :
    Returns env 8 (.pppFsm tim .eDown) s := by
  refine returns_fsm_of (by omega) ?_ (Or.inl rfl)
  intro r hr a ha e he
  obtain ⟨hmem, -, hev⟩ := pppRow_mem hr
  rcases ((tbl_heads s.cpId) r hmem a ha).2.1 hev e he with rfl | rfl
  · exact returns_up env
  · exact returns_close env

theorem returns_open (env : PppEnv) (tim : PppTimerId) (s : PppCcb) :
    Returns env 10 (.pppFsm tim .eOpen) s := by
  refine returns_fsm_of (by omega) ?_ (Or.inl rfl)
  intro r hr a ha e he
  obtain ⟨hmem, -, hev⟩ := pppRow_mem hr
  rcases ((tbl_heads s.cpId) r hmem a ha).2.2.1 hev e he with rfl | rfl
  · exact fun tim s => (returns_up env tim s).mono (by omega)
  · exact returns_down env

/-- Every event: what a row delivers is one of the four. -/
theorem returns_event (env : PppEnv) (tim : PppTimerId) (ev : PppEvent) (s : PppCcb) :
    Returns env 12 (.pppFsm tim ev) s := by
  refine returns_fsm_of (by omega) ?_ (Or.inr (returns_open env))
  intro r hr a ha e he
  rcases ((tbl_heads s.cpId) r (pppRow_mem hr).1 a ha).2.2.2 e he with rfl | rfl | rfl | rfl
  · exact fun tim s => (returns_up env tim s).mono (by omega)
  · exact fun tim s => (returns_down env tim s).mono (by omega)
  · exact returns_open env
  · exact fun tim s => (returns_close env tim s).mono (by omega)

/-! ### Every function -/

/-- An action with nothing left to count delivers the expiry. -/
theorem returns_any_action (env : PppEnv) (tim : PppTimerId) (a : PppAction) (s : PppCcb) :
    Returns env 13 (.action tim a) s := by
  by_cases hc : a.counted = true ∧ s.timerCounter s.cpId = 0
  · obtain ⟨ha, hzero⟩ := hc
    refine returns_succ fun n hn => ?_
    have hexp := callAnd_of_returns
      (returns_event env tim .eTimeoutCounterExpired (s.stopTimer tim)) hn .success
    cases a <;> simp [PppAction.counted] at ha
    · simp only [PppCall.body, callAction, callSendRequest, hzero, if_true, hexp]
      simp [PppCall.result, runAction, sendConfigRequest, hzero]
    · simp only [PppCall.body, callAction, callSendRequest, hzero, if_true, hexp]
      simp [PppCall.result, runAction, sendTerminateRequest, hzero]
  · rw [not_and] at hc
    exact returns_action (by omega) hc fun e _ tim s => returns_event env tim e s

/-- `PPP_bye`, in whatever phase. -/
theorem returns_bye (env : PppEnv) (s : PppCcb) : Returns env 7 .pppBye s := by
  by_cases hend : s.phase = endPhase
  · exact (returns_bye_end hend).mono (by omega)
  by_cases hpppoe : s.phase = pppoePhase
  · exact (returns_bye_pppoe hpppoe).mono (by omega)
  refine returns_succ fun n hn => ?_
  show callBye (pppCall env n) s = some (.success, pppBye (pppFsm env) s)
  rw [← phase_byeStop] at hend hpppoe
  unfold callBye pppBye
  simp only [if_neg hend, if_neg hpppoe]
  by_cases hlcp : (byeStop s).phase = lcpPhase
  · simp only [if_pos hlcp]
    exact callAnd_of_returns (returns_close env .ppp _) hn .success
  · simp only [if_neg hlcp]
    by_cases hdata : (byeStop s).phase = dataPhase ∨ (byeStop s).phase = ipcpPhase
    · simp only [if_pos hdata]
      exact callAnd_of_returns (returns_close env .ppp _) hn .success
    · simp only [if_neg hdata]
      exact callAnd_of_returns (returns_exit env _) (by omega) .success

theorem returns_sendDiscovery (built : Status) (hn : 7 ≤ n) :
    callSendDiscovery (pppCall env n) built s = some (PppCall.result.sendDiscovery env built s) := by
  unfold callSendDiscovery PppCall.result.sendDiscovery
  by_cases hmax : s.pppoePhase.maxRetransmit ≤ s.pppoePhase.timerCounter
  · simp only [hmax, if_true]
    exact callAnd_of_returns (returns_exit env s) (by omega) .error
  · simp only [hmax, if_false]
    by_cases hbuilt : built = .error
    · simp only [hbuilt, if_true]
      exact callAnd_of_returns (returns_bye env s) hn .error
    · simp only [hbuilt, if_false]

theorem returns_sendPkt (env : PppEnv) (pkt : PppoePkt) (s : PppCcb) :
    Returns env 8 (.pppoeSendPkt pkt) s := by
  cases pkt with
  | padi built => exact returns_succ fun n hn => returns_sendDiscovery built hn
  | padr built => exact returns_succ fun n hn => returns_sendDiscovery built hn
  | padt => exact (returns_sendPadt env s).mono (by omega)

/--
**The automaton always comes back.**  Whatever the control block, the current protocol and
the event are, a call of `PPP_FSM`, of any of its actions, of `PPP_bye`, `pppoe_send_pkt` or
`exit_ppp` comes back when there is room for thirteen calls below one another, and with what
the model says.
-/
theorem ppp_calls_return (env : PppEnv) (c : PppCall) (s : PppCcb) (k : Nat) :
    pppCall env (k + 13) c s = some (c.result env s) := by
  cases c with
  | pppFsm tim ev => exact (returns_event env tim ev s) _ (by omega)
  | action tim a => exact (returns_any_action env tim a s) _ (by omega)
  | pppBye => exact (returns_bye env s) _ (by omega)
  | pppoeSendPkt pkt => exact (returns_sendPkt env pkt s) _ (by omega)
  | exitPpp => exact (returns_exit env s) _ (by omega)

end FastRG
