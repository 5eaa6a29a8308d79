/-
What each move of the automaton leaves armed.

The moves are taken protocol by protocol: those that arm a timer, those that stay with the timer
there is, those that need none any more.  A decoder may have stopped the timer before, so a move is
given `Inv0` or `Inv6` where it does not need the timer of its own protocol, and `Inv` where it
does.
-/
import FastRG.Proofs.PppShape

namespace FastRG

variable {env : PppEnv} {tim : PppTimerId} {s t : PppCcb} {ev : PppEvent} {cp : PppCp}

/-! ### Views of the moves -/

theorem view_of_core (h : s.core = t.core) : s.view = t.view := by
  have key : ∀ s : PppCcb, s.core.view = s.view := fun _ => rfl
  rw [← key s, h, key]

/-- A decoded frame is seen as the block it came to, but for the slot it is in. -/
theorem view_of_outline (h : s.outline cp = t.outline cp)
    (hmark : s.view.mark = t.view.mark) : s.view = t.view := by
  have key : ∀ s : PppCcb, { (s.outline cp).view with mark := s.view.mark } = s.view := by
    intro s
    cases cp <;> rfl
  rw [← key s, h, hmark, key]

theorem inv_ended (s : PppCcb) : s.ended.view.Inv := PppView.inv_over endPhase _ (by decide)

theorem inv_exitPpp (s : PppCcb) : s.exitPpp.view.Inv := PppView.inv_over endPhase _ (by decide)

/-- A state entered again. -/
theorem setState_same {st : PppState} (hcp : s.cpId = cp) (hst : s.state cp = st) :
    s.setState cp st = s := by
  rw [← hcp] at hst ⊢
  exact setState_self s hst

/-! ### LCP -/

theorem view_restart_lcp (hcp : s.cpId = .lcp) :
    (s.restart .ppp).view = s.view.lcpWaits .sRequestSent (.sendConfigRequest .lcp) := by
  unfold PppCcb.restart
  rw [hcp]
  rfl

theorem view_terminate_lcp (hcp : s.cpId = .lcp) :
    (s.terminate .ppp).view = s.view.lcpWaits .sClosing (.sendTerminateRequest .lcp) := by
  unfold PppCcb.terminate
  rw [hcp]
  rfl

theorem view_down_lcp (hcp : s.cpId = .lcp) :
    (s.layerDown.terminate .ppp).view = s.view.lcpDown (.sendTerminateRequest .lcp) := by
  have hdown : s.layerDown = s.lcpDown := by
    unfold PppCcb.layerDown
    rw [hcp]
  unfold PppCcb.terminate
  rw [cpId_layerDown, hdown, hcp]
  rfl

/-- An LCP that negotiates, or has nothing to do. -/
def PppState.low (st : PppState) : Bool := st.asking || st.quiet

theorem low_ne {st : PppState} (h : st.low = true) :
    st ≠ .sOpened ∧ st ≠ .sClosing ∧ st ≠ .sStarting := by
  refine ⟨?_, ?_, ?_⟩ <;> intro heq <;> rw [heq] at h <;> exact absurd h (by decide)

/-- The timer is armed, in one of the states of a negotiation. -/
theorem inv_arm_lcp (h : s.view.Inv0) {st : PppState} (hlow : (s.state .lcp).low = true)
    (hst : st.asking = true) :
    ((s.setState .lcp st).armTimer (.sendConfigRequest .lcp) .ppp).view.Inv := by
  obtain ⟨h1, h2, h3⟩ := low_ne hlow
  have hcb : (PppTimerCb.sendConfigRequest .lcp).cp = .lcp := rfl
  exact h.lcpWaits hcb (Or.inl hst) h1 h2 h3

theorem inv_restart_lcp (hcp : s.cpId = .lcp) (h : s.view.Inv0) (hlow : (s.state .lcp).low = true) :
    (s.restart .ppp).view.Inv := by
  have hasking : PppState.sRequestSent.asking = true := rfl
  rw [view_restart_lcp hcp]
  exact inv_arm_lcp h hlow hasking

theorem inv_terminate_lcp (hcp : s.cpId = .lcp) (h : s.view.Inv0)
    (hlow : (s.state .lcp).low = true) : (s.terminate .ppp).view.Inv := by
  obtain ⟨h1, h2, h3⟩ := low_ne hlow
  rw [view_terminate_lcp hcp]
  exact h.lcpWaits rfl (Or.inr rfl) h1 h2 h3

theorem inv_down_lcp (hcp : s.cpId = .lcp) (h : s.view.phase = authPhase → s.view.mark = false) :
    (s.layerDown.terminate .ppp).view.Inv := by
  rw [view_down_lcp hcp]
  exact PppView.inv_lcpDown h rfl

theorem inv_finish_lcp (hcp : s.cpId = .lcp) (tim : PppTimerId) : (s.finishMove tim).view.Inv := by
  unfold PppCcb.finishMove
  rw [if_pos hcp]
  exact inv_ended s

theorem inv_giveUp_lcp (hcp : s.cpId = .lcp) (h : s.view.Inv0) (hlow : (s.state .lcp).low = true) :
    (s.giveUp .ppp).view.Inv := by
  unfold PppCcb.giveUp
  rw [hcp, if_neg (by decide)]
  exact inv_restart_lcp hcp h hlow

/-- The layer comes up without harm; how, depends on what the peer and we agreed on. -/
def UpKeeps (env : PppEnv) (cp : PppCp) (s : PppCcb) : Prop :=
  ((s.setState cp .sOpened).layerUp env).view.Inv

theorem inv_lcpRequest (hcp : s.cpId = .lcp)
    (hev : ev = .eRecvGoodConfigRequest ∨ ev = .eRecvBadConfigRequest)
    (hup : (s.state .lcp).asking = true → UpKeeps env .lcp s) (h : s.view.Inv) :
    (pppMove env .ppp ev s).view.Inv := by
  have hdown := inv_down_lcp hcp h.sound.mark
  rcases hev with rfl | rfl <;> cases hst : s.state .lcp <;> simp only [pppMove, hcp, hst]
  case inl.sStopped => exact inv_arm_lcp h.inv0 (by rw [hst]; rfl) rfl
  case inl.sRequestSent => exact h.lcpAsks (congrArg PppState.asking hst) rfl
  case inl.sAckReceived => exact hup (congrArg PppState.asking hst)
  case inl.sOpened => exact hdown
  case inr.sStopped => exact inv_restart_lcp hcp h.inv0 (by rw [hst]; rfl)
  case inr.sAckSent => exact h.lcpAsks (congrArg PppState.asking hst) rfl
  case inr.sOpened => exact hdown
  all_goals exact h

/-- An answer that is not what was asked for, and a request to terminate. -/
theorem inv_lcpRefused (hcp : s.cpId = .lcp)
    (hev : ev = .eRecvConfigNakRej ∨ ev = .eRecvTerminateRequest) (h : s.view.Inv) :
    (pppMove env .ppp ev s).view.Inv := by
  have hdown := inv_down_lcp hcp h.sound.mark
  rcases hev with rfl | rfl <;> cases hst : s.state .lcp <;> simp only [pppMove, hcp, hst]
  case inl.sRequestSent => exact inv_restart_lcp hcp h.inv0 (by rw [hst]; rfl)
  case inl.sAckReceived => exact h.lcpAsks (congrArg PppState.asking hst) rfl
  case inl.sAckSent =>
    have harm : ((s.setState .lcp .sAckSent).armTimer (.sendConfigRequest .lcp) .ppp).view.Inv :=
      inv_arm_lcp h.inv0 (by rw [hst]; rfl) rfl
    rw [setState_same hcp hst] at harm
    exact harm
  case inr.sAckReceived => exact h.lcpAsks (congrArg PppState.asking hst) rfl
  case inr.sAckSent => exact h.lcpAsks (congrArg PppState.asking hst) rfl
  case inl.sOpened => exact hdown
  case inr.sOpened =>
    rw [if_pos trivial]
    exact hdown
  all_goals exact h

theorem inv_lcpReject (hcp : s.cpId = .lcp)
    (hev : ev = .eRecvGoodCodeProtocolReject ∨ ev = .eRecvBadCodeProtocolReject) (h : s.view.Inv) :
    (pppMove env .ppp ev s).view.Inv := by
  have hdown := inv_down_lcp hcp h.sound.mark
  have hfin := inv_finish_lcp hcp .ppp
  rcases hev with rfl | rfl <;> cases hst : s.state .lcp <;> simp only [pppMove, hcp, hst]
  case inl.sAckReceived => exact h.lcpAsks (congrArg PppState.asking hst) rfl
  case inr.sClosed => exact hfin
  case inr.sClosing => exact hfin
  case inr.sStopping => exact absurd hst h.sound.noStopping.1
  case inr.sOpened => exact hdown
  case inr.sStopped | inr.sRequestSent | inr.sAckReceived | inr.sAckSent =>
    exact inv_giveUp_lcp hcp h.inv0 (by rw [hst]; rfl)
  all_goals exact h

/-- A Configure-Ack, the shared timer stopped. -/
theorem inv_lcpAck (hcp : s.cpId = .lcp) (hup : (s.state .lcp).asking = true → UpKeeps env .lcp s)
    (h : s.view.Inv0) (hipcp : s.view.ipcp.waiting = false)
    (hst : s.state .lcp ≠ .sRequestSent ∧ s.state .lcp ≠ .sAckReceived ∧ s.state .lcp ≠ .sClosing) :
    (pppMove env .ppp .eRecvConfigAck s).view.Inv := by
  have hidle : (s.state .lcp).waiting = false → s.view.Inv := fun hlcp => h.inv hlcp hipcp
  cases hst' : s.state .lcp <;> simp only [pppMove, hcp, hst']
  case sAckSent => exact hup (congrArg PppState.asking hst')
  case sOpened => exact inv_down_lcp hcp h.sound.mark
  case sRequestSent => exact absurd hst' hst.1
  case sAckReceived => exact absurd hst' hst.2.1
  case sClosing => exact absurd hst' hst.2.2
  case sStopping => exact absurd hst' h.sound.noStopping.1
  all_goals exact hidle (by rw [hst']; rfl)

/-- A Terminate-Ack, the shared timer stopped. -/
theorem inv_lcpTermAck (hcp : s.cpId = .lcp) (h : s.view.Inv0)
    (hst : (s.state .lcp).asking = false) :
    (pppMove env .ppp .eRecvTerminateAck s).view.Inv := by
  have hidle : (s.state .lcp).waiting = false → s.state .lcp ≠ .sOpened → s.view.Inv := by
    intro hlcp hopen
    refine h.inv hlcp ?_
    rw [h.sound.above hopen]
    rfl
  cases hst' : s.state .lcp <;> simp only [pppMove, hcp, hst']
  case sOpened => exact inv_down_lcp hcp h.sound.mark
  case sClosing => exact inv_finish_lcp hcp .ppp
  case sStopping => exact absurd hst' h.sound.noStopping.1
  case sRequestSent | sAckReceived | sAckSent =>
    rw [hst'] at hst
    exact absurd hst (by decide)
  all_goals exact hidle (by rw [hst']; rfl) (by rw [hst']; decide)

/-- LCP's timer ran out. -/
theorem inv_lcpExpired (hcp : s.cpId = .lcp) (h : s.view.Inv0)
    (hipcp : s.view.ipcp.waiting = false) :
    (pppMove env .ppp .eTimeoutCounterExpired s).view.Inv := by
  cases hst : s.state .lcp <;> simp only [pppMove, hcp, hst]
  case sClosing => exact inv_finish_lcp hcp .ppp
  case sStopping => exact absurd hst h.sound.noStopping.1
  case sRequestSent | sAckReceived | sAckSent =>
    exact inv_giveUp_lcp hcp h (by rw [hst]; rfl)
  all_goals exact h.inv (congrArg PppState.waiting hst) hipcp

/-- A Close of LCP that has its timer, or does not need one. -/
theorem inv_lcpClose (hcp : s.cpId = .lcp) (h : s.view.Inv0)
    (hidle : (s.state .lcp).asking = false → s.view.Inv) :
    (s.closeMove .ppp).view.Inv := by
  unfold PppCcb.closeMove
  cases hst : s.state .lcp <;> simp only [hcp, hst]
  case sStarting | sStopped => exact inv_ended s
  case sStopping => exact absurd hst h.sound.noStopping.1
  case sOpened => exact inv_down_lcp hcp h.sound.mark
  case sRequestSent | sAckReceived | sAckSent => exact inv_terminate_lcp hcp h (by rw [hst]; rfl)
  all_goals exact hidle (by rw [hst]; rfl)

/-! ### IPCP -/

/-- IPCP has left `S_INIT` only above an open LCP. -/
theorem opened_of_ipcp (h : s.view.Sound) (hne : s.state .ipcp ≠ .sInit) : s.state .lcp = .sOpened := by
  by_contra hlcp
  exact hne (h.above hlcp)

/-- The timer is armed, for IPCP. -/
theorem inv_arm_ipcp (h : s.view.Inv0) (hlcp : s.state .lcp = .sOpened)
    (hphase : s.phase = ipcpPhase) {st : PppState} (hst : st ≠ .sStopping) {cb : PppTimerCb}
    (hcb : cb.cp = .ipcp) : ((s.setState .ipcp st).armTimer cb .ppp).view.Inv :=
  h.ipcpWaits hcb hst hlcp hphase

theorem inv_restart_ipcp (hcp : s.cpId = .ipcp) (h : s.view.Inv0) (hlcp : s.state .lcp = .sOpened)
    (hphase : s.phase = ipcpPhase) : (s.restart .ppp).view.Inv := by
  unfold PppCcb.restart
  rw [hcp]
  exact inv_arm_ipcp h hlcp hphase (by decide) rfl

/-- IPCP leaves `S_OPENED`. -/
theorem inv_down_ipcp (hcp : s.cpId = .ipcp) (h : s.view.Inv0) (hlcp : s.state .lcp = .sOpened)
    (hphase : s.phase = ipcpPhase) : (s.layerDown.terminate .ppp).view.Inv := by
  have hgate : s.shutGate.view.Inv0 := h
  unfold PppCcb.terminate
  rw [cpId_layerDown, layerDown_ipcp hcp, hcp]
  exact inv_arm_ipcp hgate hlcp hphase (by decide) rfl

/-- IPCP has finished, and LCP is closed under it. -/
theorem inv_finish_ipcp (hcp : s.cpId = .ipcp) (hlcp : s.state .lcp = .sOpened)
    (hphase : s.phase = ipcpPhase) : (s.finishMove .ppp).view.Inv := by
  have hmove : ∀ t : PppCcb, t.cpId = .lcp → t.state .lcp = .sOpened → t.phase = lcpPhase →
      (t.closeMove .ppp).view.Inv := by
    intro t htcp htst htphase
    have hne : t.view.phase = authPhase → t.view.mark = false := by
      intro heq
      exact absurd (htphase.symm.trans heq) (by decide)
    unfold PppCcb.closeMove
    rw [htcp, htst]
    exact inv_down_lcp htcp hne
  unfold PppCcb.finishMove PppCcb.closeLower
  rw [cpId_setState, hcp, if_neg (by decide), if_neg (by decide)]
  refine hmove _ rfl hlcp ?_
  show pppPhaseRollback s.phase = lcpPhase
  rw [hphase]
  rfl

/-- An event of IPCP that comes with its timer as it was. -/
theorem inv_ipcpEvent (hcp : s.cpId = .ipcp) (hev : ev ∈ ncpEvents)
    (hup : (s.state .ipcp).waiting = true → UpKeeps env .ipcp s) (h : s.view.Inv)
    (hphase : s.phase = ipcpPhase)
    (hreq : ev = .eRecvTerminateRequest → s.state .ipcp ≠ .sOpened) :
    (pppMove env .ppp ev s).view.Inv := by
  have hopen := opened_of_ipcp h.sound
  have hdown : s.state .ipcp = .sOpened → (s.layerDown.terminate .ppp).view.Inv := fun hst =>
    inv_down_ipcp hcp h.inv0 (hopen (by rw [hst]; decide)) hphase
  have hasks : ∀ {st : PppState}, (s.state .ipcp).waiting = true → st ≠ .sStopping →
      (s.setState .ipcp st).view.Inv := fun hw hst => h.ipcpAsks hw hst
  simp only [ncpEvents, List.mem_cons, List.not_mem_nil, or_false] at hev
  rcases hev with rfl | rfl | rfl | rfl | rfl | rfl <;> cases hst : s.state .ipcp <;>
    simp only [pppMove, hcp, hst]
  -- a good Configure-Request
  case inl.sStopped =>
    exact inv_arm_ipcp h.inv0 (hopen (by rw [hst]; decide)) hphase (by decide) rfl
  case inl.sRequestSent => exact hasks (by rw [hst]; rfl) (by decide)
  case inl.sAckReceived => exact hup (by rw [hst]; rfl)
  case inl.sOpened => exact hdown hst
  -- a bad one
  case inr.inl.sStopped =>
    exact inv_restart_ipcp hcp h.inv0 (hopen (by rw [hst]; decide)) hphase
  case inr.inl.sAckSent => exact hasks (by rw [hst]; rfl) (by decide)
  case inr.inl.sOpened => exact hdown hst
  -- a Configure-Nak or Configure-Reject
  case inr.inr.inl.sRequestSent =>
    exact inv_restart_ipcp hcp h.inv0 (hopen (by rw [hst]; decide)) hphase
  case inr.inr.inl.sAckReceived => exact hasks (by rw [hst]; rfl) (by decide)
  case inr.inr.inl.sAckSent =>
    have harm : ((s.setState .ipcp .sAckSent).armTimer (.sendConfigRequest .ipcp) .ppp).view.Inv :=
      inv_arm_ipcp h.inv0 (hopen (by rw [hst]; decide)) hphase (by decide) rfl
    rw [setState_same hcp hst] at harm
    exact harm
  case inr.inr.inl.sOpened => exact hdown hst
  -- a Terminate-Request
  case inr.inr.inr.inl.sAckReceived => exact hasks (by rw [hst]; rfl) (by decide)
  case inr.inr.inr.inl.sAckSent => exact hasks (by rw [hst]; rfl) (by decide)
  case inr.inr.inr.inl.sOpened => exact absurd hst (hreq rfl)
  -- a Code-Reject
  case inr.inr.inr.inr.inl.sAckReceived => exact hasks (by rw [hst]; rfl) (by decide)
  all_goals exact h

/-- A Configure-Ack, the shared timer stopped. -/
theorem inv_ipcpAck (hcp : s.cpId = .ipcp) (hup : (s.state .ipcp).waiting = true → UpKeeps env .ipcp s)
    (h : s.view.Inv0) (hphase : s.phase = ipcpPhase) (hlcp : (s.state .lcp).waiting = false)
    (hst : s.state .ipcp ≠ .sRequestSent ∧ s.state .ipcp ≠ .sAckReceived ∧
      s.state .ipcp ≠ .sClosing) :
    (pppMove env .ppp .eRecvConfigAck s).view.Inv := by
  cases hst' : s.state .ipcp <;> simp only [pppMove, hcp, hst']
  case sAckSent => exact hup (by rw [hst']; rfl)
  case sOpened =>
    exact inv_down_ipcp hcp h (opened_of_ipcp h.sound (by rw [hst']; decide)) hphase
  case sRequestSent => exact absurd hst' hst.1
  case sAckReceived => exact absurd hst' hst.2.1
  case sClosing => exact absurd hst' hst.2.2
  case sStopping => exact absurd hst' h.sound.noStopping.2.1
  all_goals exact h.inv hlcp (congrArg PppState.waiting hst')

/-- A Terminate-Ack, the shared timer stopped. -/
theorem inv_ipcpTermAck (hcp : s.cpId = .ipcp) (h : s.view.Inv0) (hphase : s.phase = ipcpPhase)
    (hlcp : (s.state .lcp).waiting = false) (hst : (s.state .ipcp).asking = false) :
    (pppMove env .ppp .eRecvTerminateAck s).view.Inv := by
  have hopen := opened_of_ipcp h.sound
  cases hst' : s.state .ipcp <;> simp only [pppMove, hcp, hst']
  case sOpened => exact inv_down_ipcp hcp h (hopen (by rw [hst']; decide)) hphase
  case sClosing => exact inv_finish_ipcp hcp (hopen (by rw [hst']; decide)) hphase
  case sStopping => exact absurd hst' h.sound.noStopping.2.1
  case sRequestSent | sAckReceived | sAckSent =>
    rw [hst'] at hst
    exact absurd hst (by decide)
  all_goals exact h.inv hlcp (congrArg PppState.waiting hst')

/-- The shared timer ran out, and was IPCP's. -/
theorem inv_ipcpExpired (hcp : s.cpId = .ipcp) (h : s.view.Inv0)
    (hlcp : (s.state .lcp).waiting = false) :
    (pppMove env .ppp .eTimeoutCounterExpired s).view.Inv := by
  have hwaits : (s.state .ipcp).waiting = true → s.state .lcp = .sOpened ∧ s.phase = ipcpPhase :=
    h.sound.ipcp_waits
  have hgive : (s.state .ipcp).waiting = true → (s.giveUp .ppp).view.Inv := by
    intro hw
    obtain ⟨hopen, hphase⟩ := hwaits hw
    unfold PppCcb.giveUp
    rw [hcp, if_neg (by decide)]
    exact inv_restart_ipcp hcp h hopen hphase
  cases hst : s.state .ipcp <;> simp only [pppMove, hcp, hst]
  case sClosing =>
    obtain ⟨hopen, hphase⟩ := hwaits (by rw [hst]; rfl)
    exact inv_finish_ipcp hcp hopen hphase
  case sStopping => exact absurd hst h.sound.noStopping.2.1
  case sRequestSent | sAckReceived | sAckSent => exact hgive (by rw [hst]; rfl)
  all_goals exact h.inv hlcp (congrArg PppState.waiting hst)

/-! ### IPV6CP -/

/-- Where IPV6CP may be at work. -/
def PppCcb.roomy (s : PppCcb) : Prop :=
  (s.state .lcp = .sOpened ∨ s.state .lcp = .sClosing) ∧ s.phase ≠ authPhase

theorem roomy_of_phase (h : s.view.Sound) (hphase : s.phase = ipcpPhase ∨ s.phase = dataPhase) :
    s.roomy := by
  refine ⟨?_, ?_⟩
  · by_cases hopen : s.state .lcp = .sOpened
    · exact Or.inl hopen
    · refine Or.inr (not_not.mp fun hclosing => ?_)
      obtain ⟨-, hipcp, hdata⟩ := h.later hopen hclosing
      rcases hphase with hp | hp
      · exact hipcp hp
      · exact hdata hp
  · intro hauth
    rcases hphase with hp | hp <;> exact absurd (hp.symm.trans hauth) (by decide)

theorem inv_arm_ipv6cp (h : s.view.Inv6) (hroom : s.roomy) {st : PppState} (hst : st ≠ .sStopping)
    {cb : PppTimerCb} (hcb : cb.cp = .ipv6cp) :
    ((s.setState .ipv6cp st).armTimer cb .pppIpv6cp).view.Inv := by
  refine h.ipv6cpSet hst ?_ (fun _ => Option.some_ne_none cb) (Or.inr hroom)
  intro c hc
  rw [← Option.some.inj hc]
  exact hcb

/-- In another state, with the timer it has. -/
theorem inv_keep_ipv6cp (h : s.view.Inv) {st : PppState} (hw : (s.state .ipv6cp).waiting = true)
    (hst : st ≠ .sStopping) (hroom : s.roomy) : (s.setState .ipv6cp st).view.Inv := by
  refine h.inv6.ipv6cpSet hst h.sound.own ?_ (Or.inr hroom)
  intro _ hnone
  obtain ⟨cb, hcb, -⟩ := h.armed .ipv6cp hw
  exact absurd (hnone.symm.trans hcb) (by simp)

/-- In a state that needs no timer. -/
theorem inv_rest_ipv6cp (h : s.view.Inv6) {st : PppState} (hw : st.waiting = false)
    (hst : st ≠ .sStopping) (hroom : st.quiet = true ∨ s.roomy) : (s.setState .ipv6cp st).view.Inv :=
  h.ipv6cpSet hst h.sound.own (fun h => absurd (h.symm.trans hw) (by decide)) hroom

/-- IPV6CP is parked. -/
theorem inv_ipv6cpStop (h : s.view.Inv6) : s.ipv6cpStop.view.Inv :=
  @PppView.Inv6.ipv6cpSet _ h .sStopped none (by decide) (by simp) (fun h => absurd h (by decide))
    (Or.inl rfl)

theorem inv_restart_ipv6cp (hcp : s.cpId = .ipv6cp) (h : s.view.Inv6) (hroom : s.roomy) :
    (s.restart .pppIpv6cp).view.Inv := by
  unfold PppCcb.restart
  rw [hcp]
  exact inv_arm_ipv6cp h hroom (by decide) rfl

theorem inv_terminate_ipv6cp (hcp : s.cpId = .ipv6cp) (h : s.view.Inv6) (hroom : s.roomy) :
    (s.terminate .pppIpv6cp).view.Inv := by
  unfold PppCcb.terminate
  rw [hcp]
  exact inv_arm_ipv6cp h hroom (by decide) rfl

theorem inv_down_ipv6cp (hcp : s.cpId = .ipv6cp) (h : s.view.Inv6) (hroom : s.roomy) :
    (s.layerDown.terminate .pppIpv6cp).view.Inv := by
  have hdown : s.ipv6Down.view.Inv6 := h
  rw [layerDown_ipv6cp hcp]
  exact inv_terminate_ipv6cp hcp hdown hroom

theorem inv_finish_ipv6cp (hcp : s.cpId = .ipv6cp) (h : s.view.Inv6) (tim : PppTimerId) :
    (s.finishMove tim).view.Inv := by
  unfold PppCcb.finishMove PppCcb.closeLower
  rw [cpId_setState, hcp, if_neg (by decide), if_pos rfl, ipv6cpStop_setState]
  exact inv_ipv6cpStop h

theorem inv_giveUp_ipv6cp (hcp : s.cpId = .ipv6cp) (h : s.view.Inv6) (tim : PppTimerId) :
    (s.giveUp tim).view.Inv := by
  unfold PppCcb.giveUp
  rw [if_pos hcp]
  exact inv_ipv6cpStop h

/-- An event of IPV6CP that comes with its timer as it was. -/
theorem inv_ipv6cpEvent (hcp : s.cpId = .ipv6cp) (hev : ev ∈ ncpEvents)
    (hup : (s.state .ipv6cp).waiting = true → UpKeeps env .ipv6cp s) (h : s.view.Inv)
    (hroom : s.roomy) (hreq : ev = .eRecvTerminateRequest → s.state .ipv6cp ≠ .sOpened) :
    (pppMove env .pppIpv6cp ev s).view.Inv := by
  have hdown := inv_down_ipv6cp hcp h.inv6 hroom
  have hkeep : ∀ {st : PppState}, (s.state .ipv6cp).waiting = true → st ≠ .sStopping →
      (s.setState .ipv6cp st).view.Inv := fun hw hst => inv_keep_ipv6cp h hw hst hroom
  simp only [ncpEvents, List.mem_cons, List.not_mem_nil, or_false] at hev
  rcases hev with rfl | rfl | rfl | rfl | rfl | rfl <;> cases hst : s.state .ipv6cp <;>
    simp only [pppMove, hcp, hst]
  -- a good Configure-Request
  case inl.sStopped => exact inv_arm_ipv6cp h.inv6 hroom (by decide) rfl
  case inl.sRequestSent => exact hkeep (by rw [hst]; rfl) (by decide)
  case inl.sAckReceived => exact hup (by rw [hst]; rfl)
  case inl.sOpened => exact hdown
  -- a bad one
  case inr.inl.sStopped => exact inv_restart_ipv6cp hcp h.inv6 hroom
  case inr.inl.sAckSent => exact hkeep (by rw [hst]; rfl) (by decide)
  case inr.inl.sOpened => exact hdown
  -- a Configure-Nak or Configure-Reject
  case inr.inr.inl.sRequestSent => exact inv_restart_ipv6cp hcp h.inv6 hroom
  case inr.inr.inl.sAckReceived => exact hkeep (by rw [hst]; rfl) (by decide)
  case inr.inr.inl.sAckSent =>
    have harm : ((s.setState .ipv6cp .sAckSent).armTimer (.sendConfigRequest .ipv6cp)
        .pppIpv6cp).view.Inv := inv_arm_ipv6cp h.inv6 hroom (by decide) rfl
    rw [setState_same hcp hst] at harm
    exact harm
  case inr.inr.inl.sOpened => exact hdown
  -- a Terminate-Request
  case inr.inr.inr.inl.sAckReceived => exact hkeep (by rw [hst]; rfl) (by decide)
  case inr.inr.inr.inl.sAckSent => exact hkeep (by rw [hst]; rfl) (by decide)
  case inr.inr.inr.inl.sOpened => exact absurd hst (hreq rfl)
  -- a Code-Reject
  case inr.inr.inr.inr.inl.sAckReceived => exact hkeep (by rw [hst]; rfl) (by decide)
  all_goals exact h

/-- A Configure-Ack, the timer stopped. -/
theorem inv_ipv6cpAck (hcp : s.cpId = .ipv6cp)
    (hup : (s.state .ipv6cp).waiting = true → UpKeeps env .ipv6cp s) (h : s.view.Inv6)
    (hroom : s.roomy) (hst : s.state .ipv6cp ≠ .sRequestSent ∧ s.state .ipv6cp ≠ .sAckReceived ∧
      s.state .ipv6cp ≠ .sClosing) :
    (pppMove env .pppIpv6cp .eRecvConfigAck s).view.Inv := by
  cases hst' : s.state .ipv6cp <;> simp only [pppMove, hcp, hst']
  case sAckSent => exact hup (by rw [hst']; rfl)
  case sOpened => exact inv_down_ipv6cp hcp h hroom
  case sRequestSent => exact absurd hst' hst.1
  case sAckReceived => exact absurd hst' hst.2.1
  case sClosing => exact absurd hst' hst.2.2
  case sStopping => exact absurd hst' h.sound.noStopping.2.2
  all_goals exact h.inv (congrArg PppState.waiting hst')

/-- A Terminate-Ack, the timer stopped. -/
theorem inv_ipv6cpTermAck (hcp : s.cpId = .ipv6cp) (h : s.view.Inv6) (hroom : s.roomy)
    (hst : (s.state .ipv6cp).asking = false) :
    (pppMove env .pppIpv6cp .eRecvTerminateAck s).view.Inv := by
  cases hst' : s.state .ipv6cp <;> simp only [pppMove, hcp, hst']
  case sOpened => exact inv_down_ipv6cp hcp h hroom
  case sClosing => exact inv_finish_ipv6cp hcp h _
  case sStopping => exact absurd hst' h.sound.noStopping.2.2
  case sRequestSent | sAckReceived | sAckSent =>
    rw [hst'] at hst
    exact absurd hst (by decide)
  all_goals exact h.inv (congrArg PppState.waiting hst')

/-- Its timer ran out. -/
theorem inv_ipv6cpExpired (hcp : s.cpId = .ipv6cp) (h : s.view.Inv6) (tim : PppTimerId) :
    (pppMove env tim .eTimeoutCounterExpired s).view.Inv := by
  cases hst : s.state .ipv6cp <;> simp only [pppMove, hcp, hst]
  case sClosing => exact inv_finish_ipv6cp hcp h tim
  case sStopping | sRequestSent | sAckReceived | sAckSent => exact inv_giveUp_ipv6cp hcp h tim
  all_goals exact h.inv (congrArg PppState.waiting hst)

/-- A Close of IPV6CP. -/
theorem inv_ipv6cpClose (hcp : s.cpId = .ipv6cp) (h : s.view.Inv) (hroom : s.roomy) :
    (s.closeMove .pppIpv6cp).view.Inv := by
  unfold PppCcb.closeMove
  cases hst : s.state .ipv6cp <;> simp only [hcp, hst]
  case sStarting => exact inv_ipv6cpStop h.inv6
  case sStopped => exact inv_rest_ipv6cp h.inv6 rfl (by decide) (Or.inl rfl)
  case sStopping => exact absurd hst h.sound.noStopping.2.2
  case sOpened => exact inv_down_ipv6cp hcp h.inv6 hroom
  case sRequestSent | sAckReceived | sAckSent => exact inv_terminate_ipv6cp hcp h.inv6 hroom
  all_goals exact h

/-! ### Layers that come up -/

theorem upKeeps_ipv6cp (hcp : s.cpId = .ipv6cp) (h : s.view.Inv6) (hroom : s.roomy)
    (hproto : s.protos.ipv6cp = ipv6cpProtocol) : UpKeeps env .ipv6cp s := by
  have hget : ((s.setState .ipv6cp .sOpened).controlProtocol.get
      (s.setState .ipv6cp .sOpened).cpId).pppProtocol = ipv6cpProtocol := by
    rw [cpId_setState, hcp]
    exact hproto
  have hview : ∀ t : PppCcb, (ipv6cpLayerUp t).view = t.view := by
    intro t
    unfold ipv6cpLayerUp PppCcb.dhcp6PdStart
    split <;> rfl
  unfold UpKeeps PppCcb.layerUp
  simp only [hget]
  rw [if_neg (by decide), if_neg (by decide), if_pos trivial, hview]
  exact inv_rest_ipv6cp h rfl (by decide) (Or.inr hroom)

theorem upKeeps_ipcp (hcp : s.cpId = .ipcp) (h : s.view.Inv0) (hlcp : s.state .lcp = .sOpened)
    (hproto : s.protos.ipcp = ipcpProtocol) : UpKeeps env .ipcp s := by
  have hget : ((s.setState .ipcp .sOpened).controlProtocol.get
      (s.setState .ipcp .sOpened).cpId).pppProtocol = ipcpProtocol := by
    rw [cpId_setState, hcp]
    exact hproto
  unfold UpKeeps PppCcb.layerUp
  simp only [hget]
  rw [if_neg (by decide), if_pos trivial]
  exact h.ipcpUp hlcp

/-- The network protocols are opened above an LCP that is up. -/
theorem inv_openNcps (h : { s.view with phase := ipcpPhase }.Inv0) (hlcp : s.state .lcp = .sOpened)
    (hipcp : s.state .ipcp = .sInit) (h6 : (s.state .ipv6cp).quiet = true) :
    (s.openNcpsMove env).view.Inv := by
  have hipcpMove : PppCcb.openMove .ppp { s with cpId := .ipcp, phase := ipcpPhase } =
      PppCcb.restart .ppp { s with cpId := .ipcp, phase := ipcpPhase } := by
    unfold PppCcb.openMove
    have hst : PppCcb.state { s with cpId := .ipcp, phase := ipcpPhase } .ipcp = .sInit := hipcp
    simp only [hst]
  have hinv := inv_restart_ipcp (s := { s with cpId := .ipcp, phase := ipcpPhase }) rfl h hlcp rfl
  have hiid : ∀ t : PppCcb, (t.ipv6cpIidInit env).view = t.view := by
    intro t
    unfold PppCcb.ipv6cpIidInit
    split <;> rfl
  unfold PppCcb.openNcpsMove
  rw [hipcpMove]
  simp only
  split
  · -- IPV6CP is quiet, so it is opened from there
    generalize ht : PppCcb.restart .ppp { s with cpId := .ipcp, phase := ipcpPhase } = t at hinv ⊢
    have hstate : t.state .ipv6cp = s.state .ipv6cp ∧ t.state .lcp = .sOpened ∧
        t.phase = ipcpPhase := by
      rw [← ht]
      exact ⟨rfl, hlcp, rfl⟩
    have hview : ({ t.ipv6cpIidInit env with cpId := .ipv6cp } : PppCcb).view = t.view := hiid t
    have hstates : ∀ cp, PppCcb.state { t.ipv6cpIidInit env with cpId := .ipv6cp } cp = t.state cp := by
      intro cp
      unfold PppCcb.ipv6cpIidInit
      split <;> rfl
    have hphase : ({ t.ipv6cpIidInit env with cpId := .ipv6cp } : PppCcb).phase = t.phase :=
      congrArg PppView.phase hview
    generalize hu : ({ t.ipv6cpIidInit env with cpId := .ipv6cp } : PppCcb) = u at *
    have hcp : u.cpId = .ipv6cp := by rw [← hu]
    have hroom : u.roomy := by
      refine ⟨Or.inl ((hstates .lcp).trans hstate.2.1), ?_⟩
      rw [hphase, hstate.2.2]
      decide
    have hrestart := inv_restart_ipv6cp hcp (by rw [hview]; exact hinv.inv6) hroom
    have hmove : u.openMove .pppIpv6cp = u.restart .pppIpv6cp := by
      unfold PppCcb.openMove
      rw [hcp, hstates .ipv6cp, hstate.1]
      cases hst : s.state .ipv6cp <;> first | rfl | exact absurd (hst ▸ h6) (by decide)
    rw [hmove]
    exact hrestart
  · exact hinv

/-- LCP is up, and nothing above it is at work yet. -/
theorem upKeeps_lcp (hcp : s.cpId = .lcp) (h : s.view.Inv0) (hst : (s.state .lcp).asking = true)
    (hproto : s.protos.lcp = lcpProtocol) : UpKeeps env .lcp s := by
  have hget : ((s.setState .lcp .sOpened).controlProtocol.get
      (s.setState .lcp .sOpened).cpId).pppProtocol = lcpProtocol := by
    rw [cpId_setState, hcp]
    exact hproto
  have hmark : s.view.mark = false := by
    show PppSlot.authenticated s.slots.lcp = false
    have hp : s.slots.lcp.proto = lcpProtocol := hproto
    unfold PppSlot.authenticated
    rw [hp]
    rfl
  have hlow : (s.state .lcp).low = true := by
    unfold PppState.low
    rw [hst]
    rfl
  obtain ⟨h1, h2, h3⟩ := low_ne hlow
  unfold UpKeeps PppCcb.layerUp
  simp only [hget]
  rw [if_pos trivial]
  unfold PppCcb.lcpUpMove
  simp only
  split
  · exact inv_openNcps (h.lcpUp hst fun _ => hmark).inv0 rfl (h.sound.above h1) (h.sound.ipv6 h1 h2 h3)
  · split
    · exact h.lcpUp hst fun _ => hmark
    · exact h.lcpUp hst fun _ => hmark

end FastRG
