/-
The functions of the PPP client that call one another.

`PPP_FSM` runs actions; an action delivers an event to `PPP_FSM`, or sends a PADT, which
ends in `PPP_bye`, which closes LCP through `PPP_FSM` again.  `PppFsm.lean` writes these
calls out as far as they go.  Here they are left as calls: every function is handed what
the functions it calls do, and `pppCall` ties the knot with a depth that it counts down.  A
call for which no depth is left has not come back, and neither has its caller.
-/
import FastRG.Pppd

namespace FastRG

/-- What `pppoe_send_pkt` is asked to send, with what building a discovery packet came to. -/
inductive PppoePkt
  | padi (built : Status)
  | padr (built : Status)
  | padt

/-- A call of one of the functions, with its arguments but the control block. -/
inductive PppCall
  | pppFsm (tim : PppTimerId) (ev : PppEvent)
  | action (tim : PppTimerId) (a : PppAction)
  | pppBye
  | pppoeSendPkt (pkt : PppoePkt)
  | exitPpp

/-- What calls come back with, those that do. -/
abbrev PppCalls := PppCall → PppCcb → Option (Status × PppCcb)

section

variable (env : PppEnv) (call : PppCalls)

/-- A call whose status the caller does not look at. -/
def callAnd (st : Status) (c : PppCall) (s : PppCcb) : Option (Status × PppCcb) :=
  (call c s).map fun r => (st, r.2)

/-- `PPP_bye`. -/
def callBye (s : PppCcb) : Option (Status × PppCcb) :=
  let s := byeStop s
  if s.phase = endPhase then
    callAnd call .success .exitPpp { s with pppBool := false, pppProcessing := false }
  else if s.phase = pppoePhase then
    callAnd call .success .pppBye { s with phase := s.phase - 1 }.resetStates
  else if s.phase = lcpPhase then
    let s := { s with pppProcessing := true, cpId := .lcp }
    callAnd call .success (.pppFsm .ppp .eClose) ((s.setState .ipcp .sInit).setState .ipv6cp .sInit)
  else if s.phase = dataPhase ∨ s.phase = ipcpPhase then
    let s := { s.shutGate with phase := lcpPhase, pppProcessing := true, cpId := .lcp }
    callAnd call .success (.pppFsm .ppp .eClose) ((s.setState .ipcp .sInit).setState .ipv6cp .sInit)
  else callAnd call .success .exitPpp { s with pppBool := false, pppProcessing := false }

/-- `pppoe_send_pkt` for a PADI or a PADR. -/
def callSendDiscovery (built : Status) (s : PppCcb) : Option (Status × PppCcb) :=
  if s.pppoePhase.maxRetransmit ≤ s.pppoePhase.timerCounter then callAnd call .error .exitPpp s
  else if built = .error then callAnd call .error .pppBye s
  else
    some (.success, { s with
      pppoePhase := { s.pppoePhase with timerCounter := s.pppoePhase.timerCounter + 1 } })

/-- `pppoe_send_pkt`. -/
def callSendPkt (s : PppCcb) : PppoePkt → Option (Status × PppCcb)
  | .padi built => callSendDiscovery call built s
  | .padr built => callSendDiscovery call built s
  | .padt =>
      callAnd call .success .pppBye
        { s with phase := pppoePhase, pppoePhase := { s.pppoePhase with active := false } }

/-- What LCP and the authentication open when they are done. -/
def callOpenNcps (s : PppCcb) : Option (Status × PppCcb) := do
  let r ← call (.pppFsm .ppp .eOpen) { s with cpId := .ipcp, phase := ipcpPhase }
  if r.2.ipv6Enabled then
    callAnd call .success (.pppFsm .pppIpv6cp .eOpen) { r.2.ipv6cpIidInit env with cpId := .ipv6cp }
  else some (.success, r.2)

/-- `lcp_layer_up`. -/
def callLcpLayerUp (s : PppCcb) : Option (Status × PppCcb) :=
  let s := s.startKeepalive
  if s.params.lcpAuthRejected && !s.params.peerRequiresAuth then callOpenNcps env call s
  else if s.params.authMethod = papProtocol then some (.success, s.enterPhase authPhase)
  else if s.params.authMethod = chapProtocol then some (.success, s.enterPhase authPhase)
  else some (.success, s)

/-- `A_this_layer_up`. -/
def callLayerUp (s : PppCcb) : Option (Status × PppCcb) :=
  let proto := (s.controlProtocol.get s.cpId).pppProtocol
  if proto = lcpProtocol then callLcpLayerUp env call s
  else if proto = ipcpProtocol then some (ipcpLayerUp env s)
  else if proto = ipv6cpProtocol then some (.success, ipv6cpLayerUp s)
  else some (.success, s)

/-- `A_this_layer_down`. -/
def callLayerDown (tim : PppTimerId) (s : PppCcb) : Option (Status × PppCcb) :=
  match s.cpId with
  | .ipv6cp => callAnd call .success (.pppFsm tim .eClose) s.ipv6Down
  | .ipcp => (call (.pppFsm tim .eClose) s).map fun r => (.success, r.2.shutGate)
  | .lcp => callAnd call .success (.pppFsm tim .eClose) s.lcpDown

/-- `A_create_close_to_lower_layer`. -/
def callCloseToLowerLayer (tim : PppTimerId) (s : PppCcb) : Option (Status × PppCcb) :=
  if s.cpId = .ipv6cp then some (.success, s.ipv6cpStop)
  else callAnd call .success (.pppFsm tim .eClose)
    { s with cpId := .lcp, phase := pppPhaseRollback s.phase, pppAlive := false }

/-- `A_send_config_request` and `A_send_terminate_request`, which differ in what is sent. -/
def callSendRequest (sent : PppCcb → PppCcb) (tim : PppTimerId) (s : PppCcb) :
    Option (Status × PppCcb) :=
  if s.timerCounter s.cpId = 0 then
    callAnd call .success (.pppFsm tim .eTimeoutCounterExpired) (s.stopTimer tim)
  else some (.success, (sent s).setTimerCounter s.cpId (s.timerCounter s.cpId - 1))

/-- One action. -/
def callAction (tim : PppTimerId) (s : PppCcb) : PppAction → Option (Status × PppCcb)
  | .thisLayerStart => callAnd call .success (.pppFsm tim .eUp) s
  | .thisLayerFinish =>
      if s.cpId = .ipv6cp then call (.action tim .createCloseToLowerLayer) s
      else callAnd call .success (.pppFsm tim .eDown) s
  | .thisLayerUp => callLayerUp env call s
  | .thisLayerDown => callLayerDown call tim s
  | .initRestartConfig => some (.success, initRestart .sendConfigRequest tim s)
  | .initRestartTermin => some (.success, initRestart .sendTerminateRequest tim s)
  | .sendConfigRequest => callSendRequest call PppCcb.buildConfigRequest tim s
  | .sendTerminateRequest => callSendRequest call id tim s
  | .createDownEvent => callAnd call .success (.pppFsm tim .eDown) s
  | .sendPadt => (call (.pppoeSendPkt .padt) s).map fun r => (.success, { r.2 with phase := endPhase })
  | .createCloseToLowerLayer => callCloseToLowerLayer call tim s
  | .initRestartCount | .zeroRestartCount | .createUpEvent | .sendConfigNakRej
  | .sendConfigAck | .sendTerminateAck | .sendCodeReject | .sendEchoReply => some (.success, s)

/-- The loop of `PPP_FSM` over `hdl`, from the `j`-th entry on. -/
def callHdl (tim : PppTimerId) (i : Nat) : Nat → Nat → PppCcb → Option (Status × PppCcb)
  | 0, _, s => some (.success, s)
  | k + 1, j, s =>
      match pppHdl s.cpId i j with
      | none => some (.success, s)
      | some a => do
          let r ← call (.action tim a) (s.setTimerCounter s.cpId 10)
          if r.1 = .error then some (.error, r.2) else callHdl tim i k (j + 1) r.2

/-- `PPP_FSM`. -/
def callFsm (tim : PppTimerId) (ev : PppEvent) (s : PppCcb) : Option (Status × PppCcb) :=
  match pppFindRow s.cpId (s.state s.cpId) ev with
  | none => some (.success, s)
  | some i =>
      let next := ((pppFsmTbl s.cpId)[i]?.map PppRow.nextState).getD (s.state s.cpId)
      callHdl call tim i 10 0 (s.setState s.cpId next)

/-- One call, with the calls it makes. -/
def PppCall.body (s : PppCcb) : PppCall → Option (Status × PppCcb)
  | .pppFsm tim ev => callFsm call tim ev s
  | .action tim a => callAction env call tim s a
  | .pppBye => callBye call s
  | .pppoeSendPkt pkt => callSendPkt call s pkt
  | .exitPpp => some (.success, s.exitPpp)

end

/-- A call, with as many nested calls below one another as there is depth. -/
def pppCall (env : PppEnv) : Nat → PppCalls
  | 0, _, _ => none
  | depth + 1, c, s => c.body env (pppCall env depth) s

end FastRG
