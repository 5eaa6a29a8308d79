/-
What a call of the PPP automaton comes to.

The feedback folds up: a layer that finishes and is taken down either starts over, ends
the session, closes LCP under it, or is parked, and which of these it is depends only on
the protocol and on where it stood.  `pppMove` says it for every state and every event,
in terms of the few things a call can do: enter a state, arm the restart timer, take the
layer down, end the session.

The statements are up to `core`, which forgets what no decision of the automaton reads.
-/
import FastRG.Proofs.PppRows

namespace FastRG

variable {env : PppEnv} {tim : PppTimerId} {s t u : PppCcb} {ev : PppEvent} {r : PppRow}

/-! ### The core of a control block -/

def ControlProtocol.core (c : ControlProtocol) : ControlProtocol :=
  { c with timerCounter := 0 }

/-- A control block without identifiers, pending flags and counters. -/
def PppCcb.core (s : PppCcb) : PppCcb :=
  { s with
      controlProtocol := s.controlProtocol.map ControlProtocol.core
      pppoePhase := ⟨0, 0, s.pppoePhase.active⟩
      identifier := ⟨0, 0, 0⟩
      configRequestPending := ⟨false, false, false⟩
      echoMissCount := 0
      redialPending := false
      rand := fun _ => 0 }

@[simp] theorem cpId_core (s : PppCcb) : s.core.cpId = s.cpId := rfl

@[simp] theorem state_core (s : PppCcb) (cp : PppCp) : s.core.state cp = s.state cp := by
  cases cp <;> rfl

theorem cpId_of_core (h : s.core = t.core) : s.cpId = t.cpId := by
  rw [← cpId_core s, h, cpId_core]

theorem state_of_core (h : s.core = t.core) (cp : PppCp) : s.state cp = t.state cp := by
  rw [← state_core s, h, state_core]

theorem core_setState (h : s.core = t.core) (cp : PppCp) (st : PppState) :
    (s.setState cp st).core = (t.setState cp st).core := by
  have key : ∀ s : PppCcb, (s.setState cp st).core = (s.core.setState cp st).core := by
    intro s
    cases cp <;> rfl
  rw [key s, h, ← key t]

theorem core_armTimer (h : s.core = t.core) (cb : PppTimerCb) (tim : PppTimerId) :
    (s.armTimer cb tim).core = (t.armTimer cb tim).core := by
  have key : ∀ s : PppCcb, (s.armTimer cb tim).core = (s.core.armTimer cb tim).core :=
    fun _ => rfl
  rw [key s, h, ← key t]

@[simp] theorem core_tick (s : PppCcb) : s.tick.core = s.core := by
  unfold PppCcb.tick
  cases s.cpId <;> rfl

/-! ### What a call can do -/

/-- The session is over, and no teardown is under way. -/
def PppCcb.ended (s : PppCcb) : PppCcb := { s with pppProcessing := false }.exitPpp

@[simp] theorem ended_setState (s : PppCcb) (cp : PppCp) (st : PppState) :
    (s.setState cp st).ended = s.ended := by
  cases cp <;> rfl

theorem core_ended (h : s.core = t.core) : s.ended.core = t.ended.core := by
  have key : ∀ s : PppCcb, s.ended.core = s.core.ended.core := fun _ => rfl
  rw [key s, h, ← key t]

/-- What a plain action does. -/
def plainEffect (tim : PppTimerId) (s : PppCcb) : PppAction → PppCcb
  | .initRestartConfig => s.armTimer (.sendConfigRequest s.cpId) tim
  | .initRestartTermin => s.armTimer (.sendTerminateRequest s.cpId) tim
  | .sendPadt => s.ended
  | _ => s

theorem core_plainEffect (h : s.core = t.core) (a : PppAction) :
    (plainEffect tim s a).core = (plainEffect tim t a).core := by
  cases a <;> simp only [plainEffect, h, cpId_of_core h]
  case initRestartConfig => exact core_armTimer h _ _
  case initRestartTermin => exact core_armTimer h _ _
  case sendPadt => exact core_ended h

theorem core_sendPadt (F : PppFsm) (s : PppCcb) :
    { sendPadtPkt F s with phase := endPhase }.core = s.ended.core := by
  rw [sendPadtPkt_eq]
  rfl

@[simp] theorem core_setTimerCounter (s : PppCcb) (cp : PppCp) (n : Nat) :
    (s.setTimerCounter cp n).core = s.core := by
  cases cp <;> rfl

theorem core_initRestart (cb : PppCp → PppTimerCb) (tim : PppTimerId) (s : PppCcb) :
    (initRestart cb tim s).core = (s.armTimer (cb s.cpId) tim).core := by
  have harm : ((s.stopTimer tim).armTimer (cb s.cpId) tim).core =
      (s.armTimer (cb s.cpId) tim).core := by
    cases tim <;> rfl
  rw [← harm]
  exact core_armTimer (core_setTimerCounter _ _ _) _ _

theorem core_runAction {F : PppFsm} {a : PppAction} (ha : a.plain) :
    (runAction env F tim s.tick a).2.core = (plainEffect tim s a).core := by
  have hc : s.tick.timerCounter s.cpId ≠ 0 := timerCounter_tick s
  cases a <;> simp [PppAction.plain] at ha <;>
    simp only [runAction, plainEffect, sendConfigRequest, sendTerminateRequest, cpId_tick, hc,
      if_false, core_tick, core_sendPadt, core_setTimerCounter]
  case initRestartConfig =>
    exact (core_initRestart _ _ _).trans (core_armTimer (core_tick s) _ _)
  case initRestartTermin =>
    exact (core_initRestart _ _ _).trans (core_armTimer (core_tick s) _ _)
  case sendConfigRequest =>
    have hbuild : s.tick.buildConfigRequest.core = s.tick.core := rfl
    rw [hbuild, core_tick]
  case sendPadt => exact core_ended (core_tick s)

theorem core_runPlain {F : PppFsm} {l : List PppAction} (hl : ∀ a ∈ l, a.plain)
    (h : s.core = t.core) :
    (runPlain env F tim l s).core = (l.foldl (plainEffect tim) t).core := by
  induction l generalizing s t with
  | nil => exact h
  | cons a rest ih =>
      apply ih (fun b hb => hl b (List.mem_cons_of_mem a hb))
      rw [core_runAction (hl a List.mem_cons_self)]
      exact core_plainEffect h a

/-! ### The moves -/

namespace PppCcb

/-- Negotiation starts over: a Configure-Request is out, and the timer runs. -/
def restart (tim : PppTimerId) (s : PppCcb) : PppCcb :=
  (s.setState s.cpId .sRequestSent).armTimer (.sendConfigRequest s.cpId) tim

/-- Termination starts: a Terminate-Request is out, and the timer runs. -/
def terminate (tim : PppTimerId) (s : PppCcb) : PppCcb :=
  (s.setState s.cpId .sClosing).armTimer (.sendTerminateRequest s.cpId) tim

/-- What leaving `S_OPENED` takes down. -/
def layerDown (s : PppCcb) : PppCcb :=
  match s.cpId with
  | .lcp => s.lcpDown
  | .ipcp => s.shutGate
  | .ipv6cp => s.ipv6Down

/-- An Up. -/
def upMove (tim : PppTimerId) (s : PppCcb) : PppCcb :=
  match s.state s.cpId with
  | .sInit => s.setState s.cpId .sClosed
  | .sStarting => s.restart tim
  | _ => s

/-- A Close. -/
def closeMove (tim : PppTimerId) (s : PppCcb) : PppCcb :=
  match s.state s.cpId with
  | .sStarting =>
      if s.cpId = .lcp then s.ended
      else if s.cpId = .ipv6cp then s.ipv6cpStop
      else s.setState s.cpId .sInit
  | .sStopped => if s.cpId = .lcp then s.ended else s.setState s.cpId .sClosed
  | .sStopping => s.setState s.cpId .sClosing
  | .sRequestSent => s.terminate tim
  | .sAckReceived => s.terminate tim
  | .sAckSent => s.terminate tim
  | .sOpened => s.layerDown.terminate tim
  | _ => s

/-- The lower layer is closed under IPCP; IPV6CP has none of its own and is parked. -/
def closeLower (tim : PppTimerId) (s : PppCcb) : PppCcb :=
  if s.cpId = .ipv6cp then s.ipv6cpStop
  else closeMove tim
    { s with cpId := .lcp, phase := pppPhaseRollback s.phase, pppAlive := false }

/-- A layer that has finished is taken down: LCP ends the session, IPCP closes LCP under
it, IPV6CP is parked. -/
def finishMove (tim : PppTimerId) (s : PppCcb) : PppCcb :=
  if s.cpId = .lcp then s.ended else closeLower tim (s.setState s.cpId .sInit)

/-- A Down that finds the layer open. -/
def dropMove (s : PppCcb) : PppCcb :=
  if s.cpId = .lcp then s.ended
  else if s.cpId = .ipv6cp then s.ipv6cpStop
  else (s.setState s.cpId .sInit).shutGate

/-- A Down. -/
def downMove (tim : PppTimerId) (s : PppCcb) : PppCcb :=
  match s.state s.cpId with
  | .sClosed => s.finishMove tim
  | .sStopped => s.restart tim
  | .sClosing => s.setState s.cpId .sInit
  | .sStopping => s.setState s.cpId .sStarting
  | .sRequestSent => s.setState s.cpId .sStarting
  | .sAckReceived => s.setState s.cpId .sStarting
  | .sAckSent => s.setState s.cpId .sStarting
  | .sOpened => s.dropMove
  | _ => s

/-- An Open. -/
def openMove (tim : PppTimerId) (s : PppCcb) : PppCcb :=
  match s.state s.cpId with
  | .sInit => s.restart tim
  | .sClosed => s.restart tim
  | .sStopped => s.restart tim
  | .sClosing => s.setState s.cpId .sStarting
  | .sStopping => s.setState s.cpId .sStarting
  | .sOpened => s.dropMove
  | _ => s

/-- A layer that gives up starts over, but IPV6CP is parked. -/
def giveUp (tim : PppTimerId) (s : PppCcb) : PppCcb :=
  if s.cpId = .ipv6cp then s.ipv6cpStop else s.restart tim

/-- Opening the network protocols. -/
def openNcpsMove (env : PppEnv) (s : PppCcb) : PppCcb :=
  let s := openMove .ppp { s with cpId := .ipcp, phase := ipcpPhase }
  if s.ipv6Enabled then openMove .pppIpv6cp { s.ipv6cpIidInit env with cpId := .ipv6cp } else s

/-- LCP comes up: on to authentication, or past it. -/
def lcpUpMove (env : PppEnv) (s : PppCcb) : PppCcb :=
  let s := s.startKeepalive
  if s.params.lcpAuthRejected && !s.params.peerRequiresAuth then s.openNcpsMove env
  else if s.params.authMethod = papProtocol ∨ s.params.authMethod = chapProtocol then
    s.enterPhase authPhase
  else s

/-- What coming up does, by the protocol of the frame that brought the layer up. -/
def layerUp (env : PppEnv) (s : PppCcb) : PppCcb :=
  let proto := (s.controlProtocol.get s.cpId).pppProtocol
  if proto = lcpProtocol then s.lcpUpMove env
  else if proto = ipcpProtocol then (ipcpLayerUp env s).2
  else if proto = ipv6cpProtocol then ipv6cpLayerUp s
  else s

end PppCcb

/--
What a call comes to, for every event and every state.

In `S_OPENED` everything that unsettles the layer ends in the same place: the layer goes
down by closing itself, so it is on its way out whatever state the row named.
-/
def pppMove (env : PppEnv) (tim : PppTimerId) (ev : PppEvent) (s : PppCcb) : PppCcb :=
  match ev, s.state s.cpId with
  | .eUp, _ => s.upMove tim
  | .eDown, _ => s.downMove tim
  | .eOpen, _ => s.openMove tim
  | .eClose, _ => s.closeMove tim
  | .eTimeoutCounterPositive, .sAckReceived => s.setState s.cpId .sRequestSent
  | .eTimeoutCounterExpired, .sClosing => s.finishMove tim
  | .eTimeoutCounterExpired, .sStopping => s.giveUp tim
  | .eTimeoutCounterExpired, .sRequestSent => s.giveUp tim
  | .eTimeoutCounterExpired, .sAckReceived => s.giveUp tim
  | .eTimeoutCounterExpired, .sAckSent => s.giveUp tim
  | .eRecvGoodConfigRequest, .sStopped =>
      (s.setState s.cpId .sAckSent).armTimer (.sendConfigRequest s.cpId) tim
  | .eRecvGoodConfigRequest, .sRequestSent => s.setState s.cpId .sAckSent
  | .eRecvGoodConfigRequest, .sAckReceived => (s.setState s.cpId .sOpened).layerUp env
  | .eRecvGoodConfigRequest, .sOpened => s.layerDown.terminate tim
  | .eRecvBadConfigRequest, .sStopped => s.restart tim
  | .eRecvBadConfigRequest, .sAckSent => s.setState s.cpId .sRequestSent
  | .eRecvBadConfigRequest, .sOpened => s.layerDown.terminate tim
  | .eRecvConfigAck, .sRequestSent => s.setState s.cpId .sAckReceived
  | .eRecvConfigAck, .sAckReceived => s.setState s.cpId .sRequestSent
  | .eRecvConfigAck, .sAckSent => (s.setState s.cpId .sOpened).layerUp env
  | .eRecvConfigAck, .sOpened => s.layerDown.terminate tim
  | .eRecvConfigNakRej, .sRequestSent => s.restart tim
  | .eRecvConfigNakRej, .sAckReceived => s.setState s.cpId .sRequestSent
  | .eRecvConfigNakRej, .sAckSent => s.armTimer (.sendConfigRequest s.cpId) tim
  | .eRecvConfigNakRej, .sOpened => s.layerDown.terminate tim
  | .eRecvTerminateRequest, .sAckReceived => s.setState s.cpId .sRequestSent
  | .eRecvTerminateRequest, .sAckSent => s.setState s.cpId .sRequestSent
  -- a network protocol that is asked to terminate arms no timer
  | .eRecvTerminateRequest, .sOpened =>
      if s.cpId = .lcp then s.layerDown.terminate tim
      else s.layerDown.setState s.cpId .sClosing
  | .eRecvTerminateAck, .sClosing => s.finishMove tim
  | .eRecvTerminateAck, .sStopping => s.restart tim
  | .eRecvTerminateAck, .sAckReceived => s.setState s.cpId .sRequestSent
  | .eRecvTerminateAck, .sOpened => s.layerDown.terminate tim
  | .eRecvGoodCodeProtocolReject, .sAckReceived => s.setState s.cpId .sRequestSent
  | .eRecvBadCodeProtocolReject, .sClosed => s.finishMove tim
  | .eRecvBadCodeProtocolReject, .sClosing => s.finishMove tim
  | .eRecvBadCodeProtocolReject, .sStopped => s.giveUp tim
  | .eRecvBadCodeProtocolReject, .sStopping => s.giveUp tim
  | .eRecvBadCodeProtocolReject, .sRequestSent => s.giveUp tim
  | .eRecvBadCodeProtocolReject, .sAckReceived => s.giveUp tim
  | .eRecvBadCodeProtocolReject, .sAckSent => s.giveUp tim
  | .eRecvBadCodeProtocolReject, .sOpened => s.layerDown.terminate tim
  | _, _ => s

/-- An event no row has changes nothing. -/
theorem pppMove_unknown (env : PppEnv) (tim : PppTimerId) (s : PppCcb) :
    pppMove env tim .eUnknown s = s := by
  cases s.state s.cpId <;> simp only [pppMove]

/-! ### The moves read only the core -/

theorem core_restart (h : s.core = t.core) (tim : PppTimerId) :
    (s.restart tim).core = (t.restart tim).core := by
  unfold PppCcb.restart
  rw [cpId_of_core h]
  exact core_armTimer (core_setState h _ _) _ _

theorem core_terminate (h : s.core = t.core) (tim : PppTimerId) :
    (s.terminate tim).core = (t.terminate tim).core := by
  unfold PppCcb.terminate
  rw [cpId_of_core h]
  exact core_armTimer (core_setState h _ _) _ _

theorem core_ipv6cpStop (h : s.core = t.core) : s.ipv6cpStop.core = t.ipv6cpStop.core := by
  have key : ∀ s : PppCcb, s.ipv6cpStop.core = s.core.ipv6cpStop.core := fun _ => rfl
  rw [key s, h, ← key t]

theorem core_shutGate (h : s.core = t.core) : s.shutGate.core = t.shutGate.core := by
  have key : ∀ s : PppCcb, s.shutGate.core = s.core.shutGate.core := fun _ => rfl
  rw [key s, h, ← key t]

theorem core_layerDown (h : s.core = t.core) : s.layerDown.core = t.layerDown.core := by
  have key : ∀ s : PppCcb, s.layerDown.core = s.core.layerDown.core := by
    intro s
    unfold PppCcb.layerDown
    cases hcp : s.cpId <;> simp only [cpId_core, hcp] <;> rfl
  rw [key s, h, ← key t]

theorem core_upMove (h : s.core = t.core) (tim : PppTimerId) :
    (s.upMove tim).core = (t.upMove tim).core := by
  unfold PppCcb.upMove
  rw [state_of_core h, cpId_of_core h]
  split
  · exact core_setState h _ _
  · exact core_restart h tim
  · exact h

theorem core_closeMove (h : s.core = t.core) (tim : PppTimerId) :
    (s.closeMove tim).core = (t.closeMove tim).core := by
  unfold PppCcb.closeMove
  rw [state_of_core h, cpId_of_core h]
  split
  case h_1 =>
    split
    · exact core_ended h
    · split
      · exact core_ipv6cpStop h
      · exact core_setState h _ _
  case h_2 =>
    split
    · exact core_ended h
    · exact core_setState h _ _
  case h_3 => exact core_setState h _ _
  case h_4 => exact core_terminate h tim
  case h_5 => exact core_terminate h tim
  case h_6 => exact core_terminate h tim
  case h_7 => exact core_terminate (core_layerDown h) tim
  case h_8 => exact h

theorem core_closeLower (h : s.core = t.core) (tim : PppTimerId) :
    (s.closeLower tim).core = (t.closeLower tim).core := by
  have key : ∀ s : PppCcb,
      { s with cpId := .lcp, phase := pppPhaseRollback s.phase, pppAlive := false }.core =
        { s.core with
            cpId := .lcp, phase := pppPhaseRollback s.core.phase, pppAlive := false }.core :=
    fun _ => rfl
  unfold PppCcb.closeLower
  rw [cpId_of_core h]
  split
  · exact core_ipv6cpStop h
  · apply core_closeMove
    rw [key s, h, ← key t]

theorem core_finishMove (h : s.core = t.core) (tim : PppTimerId) :
    (s.finishMove tim).core = (t.finishMove tim).core := by
  unfold PppCcb.finishMove
  rw [cpId_of_core h]
  split
  · exact core_ended h
  · exact core_closeLower (core_setState h _ _) tim

theorem core_dropMove (h : s.core = t.core) : s.dropMove.core = t.dropMove.core := by
  unfold PppCcb.dropMove
  rw [cpId_of_core h]
  split
  · exact core_ended h
  · split
    · exact core_ipv6cpStop h
    · exact core_shutGate (core_setState h _ _)

theorem core_downMove (h : s.core = t.core) (tim : PppTimerId) :
    (s.downMove tim).core = (t.downMove tim).core := by
  unfold PppCcb.downMove
  rw [state_of_core h, cpId_of_core h]
  split
  case h_1 => exact core_finishMove h tim
  case h_2 => exact core_restart h tim
  case h_8 => exact core_dropMove h
  case h_9 => exact h
  all_goals exact core_setState h _ _

theorem core_openMove (h : s.core = t.core) (tim : PppTimerId) :
    (s.openMove tim).core = (t.openMove tim).core := by
  unfold PppCcb.openMove
  rw [state_of_core h, cpId_of_core h]
  split
  case h_1 => exact core_restart h tim
  case h_2 => exact core_restart h tim
  case h_3 => exact core_restart h tim
  case h_4 => exact core_setState h _ _
  case h_5 => exact core_setState h _ _
  case h_6 => exact core_dropMove h
  case h_7 => exact h

end FastRG
