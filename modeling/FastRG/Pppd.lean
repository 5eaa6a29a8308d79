/-
The PPPoE client: `pppd.c` and what the control loop calls of it.

A step is one thing the control thread does for a subscriber: a frame from the WAN, one of
its timers, or a command from the northbound side.  A timer that is not running does nothing
when its turn comes, so any order of steps is an order the node can take them in.

What the environment decides comes with the step: whether the DNS proxy could be set up
while a frame was handled, and what a DHCPv6 exchange came to.
-/
import FastRG.PppCodec
import FastRG.Lib.Run

namespace FastRG

/-! ### Commands -/

/-- `ppp_connect`.  The counter is at zero, so the first PADI always goes out. -/
def pppConnect (s : PppCcb) : Status × PppCcb :=
  if endPhase < s.phase then (.error, s)
  else
    (.success, { s with
      phase := pppoePhase
      pppoePhase := { s.pppoePhase with maxRetransmit := maxRetran, timerCounter := 1 }
      pppBool := true
      pppoe := some .padi })

/-- `ppp_disconnect`. -/
def pppDisconnect (env : PppEnv) (s : PppCcb) : Status × PppCcb :=
  if s.phase = endPhase then (.error, s)
  else if s.pppProcessing then (.error, s)
  else (.success, pppBye (pppFsm env) s)

/-- `fastrg_force_terminate_hsi`. -/
def fastrgForceTerminateHsi (s : PppCcb) : PppCcb :=
  if s.phase = notConfigured then s else s.exitPpp

/-- `is_ppp_ipv6_need_redial`, the setting having changed. -/
def isPppIpv6NeedRedial (phase : Nat) (pppProcessing : Bool) : Bool :=
  !(decide (phase ≠ dataPhase) || pppProcessing)

/-- `ppp_ipv6_redial`. -/
def pppIpv6Redial (env : PppEnv) (s : PppCcb) : PppCcb :=
  let (st, s) := pppDisconnect env { s with redialPending := true }
  if st = .success then s else { s with redialPending := false }

/-- `ppp_init_config_by_user`, for a subscriber that gets a VLAN or loses it.  It leaves
`ppp_processing` and `session_id` alone. -/
def pppInitConfigByUser (hasVlan : Bool) (s : PppCcb) : PppCcb :=
  { s with
      phase := if hasVlan then endPhase else notConfigured
      controlProtocol := s.controlProtocol.map ({ · with state := .sInit })
      pppoePhase := { s.pppoePhase with active := false }
      pppDstMac := 0
      params := {
        hsiIpv4 := 0, hsiIpv4Gw := 0, hsiPrimaryDns := 0xffffffff, hsiSecondaryDns := 0xffffffff
        magicNum := swap32 (s.rand 0 % 0xFFFFFFFE + 1)
        mru := maxRecvUnit, lcpAuthRejected := false, lcpMruRejected := false
        lcpMagicRejected := false, peerRequiresAuth := false, authMethod := papProtocol
        ipv6cpLocalIid := 0, ipv6cpPeerIid := 0 }
      identifier := ⟨0, 0, 0⟩
      configRequestPending := ⟨false, false, false⟩
      echoMissCount := 0
      pppBool := false
      dpStartBool := false
      redialPending := false
      pppoe := none
      ppp := none
      pppAlive := false
      pppIpv6cp := none
      ipv6Enabled := false
      ipv6cpUp := false
      dhcp6PdReady := false
      dhcp6Timer := false
      raTimer := false
      ipv6DpBool := false
      rand := fun n => s.rand (n + 1) }

/-- `set_ipv6_enable`. -/
def setIpv6Enable (enable : Bool) (s : PppCcb) : PppCcb :=
  { s with ipv6Enabled := enable }.ipv6DpGateUpdate

/-- `apply_hsi_config`, as far as it is about the session.  An update of a subscriber that is
not configured yet is handled as a new one. -/
def applyHsiConfig (isUpdate ipv6Enable : Bool) (s : PppCcb) : PppCcb :=
  let s := if isUpdate = false ∨ s.phase = notConfigured then pppInitConfigByUser true s else s
  setIpv6Enable ipv6Enable s

/-- `pppd_disable_ccb`, for one of the subscribers it disables. -/
def pppdDisableCcb (s : PppCcb) : PppCcb := pppInitConfigByUser false s.exitPpp

/-! ### Timers -/

/-- The callbacks of the restart timers. -/
def pppTimerCb (env : PppEnv) (tim : PppTimerId) (s : PppCcb) : PppTimerCb → PppCcb
  | .sendConfigRequest cp => sendConfigRequest (pppFsm env) tim { s with cpId := cp }
  | .sendTerminateRequest cp => sendTerminateRequest (pppFsm env) tim { s with cpId := cp }

/-- `A_padi_timer_func` and `A_padr_timer_func`: another try, or the end. -/
def pppoeTimerCb (s : PppCcb) : PppCcb :=
  if s.pppoePhase.maxRetransmit ≤ s.pppoePhase.timerCounter then s.exitPpp
  else { s with pppoePhase := { s.pppoePhase with timerCounter := s.pppoePhase.timerCounter + 1 } }

/-- `PPP_keepalive_cb`. -/
def pppKeepaliveCb (env : PppEnv) (s : PppCcb) : PppCcb :=
  if lcpEchoMaxFail ≤ s.echoMissCount then pppBye (pppFsm env) s
  else { s with echoMissCount := s.echoMissCount + 1 }

/-- What a DHCPv6 exchange came to. -/
structure Dhcp6 where
  pdReady : Bool
  timer : Bool
  ra : Bool

def PppCcb.dhcp6Came (s : PppCcb) (d : Dhcp6) : PppCcb :=
  { s with dhcp6PdReady := d.pdReady, dhcp6Timer := d.timer, raTimer := d.ra }.ipv6DpGateUpdate

/-- `dhcp6_wan_input`. -/
def dhcp6WanInput (d : Dhcp6) (s : PppCcb) : PppCcb :=
  if s.ipv6Enabled && s.ipv6cpUp then s.dhcp6Came d else s

/-- `dhcp6_timer_cb`. -/
def dhcp6TimerCb (d : Dhcp6) (s : PppCcb) : PppCcb :=
  if s.ipv6Enabled && s.ipv6cpUp then s.dhcp6Came d else s.dhcp6PdStop

/-! ### Frames -/

/-- `ppp_cp_timer`. -/
def pppCpTimer (s : PppCcb) : PppTimerId := if s.cpId = .ipv6cp then .pppIpv6cp else .ppp

/-- `codec_cleanup_ppp_ccb`. -/
def codecCleanupPppCcb (s : PppCcb) : PppCcb :=
  { s with controlProtocol := s.controlProtocol.map ({ · with pppOptions := [] }) }

/-- Whether a frame is for one session only: a session frame, or a PADT. -/
def namesSession (pkt : List (BitVec 8)) : Bool :=
  frameNextProto pkt == ethPPppSes ||
    (frameNextProto pkt == ethPPppDis && framePppoeCode pkt == padtCode)

/-- `ppp_process`, for a frame on the VLAN of this subscriber. -/
def pppProcess (env : PppEnv) (pkt : List (BitVec 8)) (d : Dhcp6) (s : PppCcb) :
    Status × PppCcb :=
  if 24 ≤ pkt.length ∧ namesSession pkt = true ∧
      (s.sessionId = 0 ∨ frameSessionId pkt ≠ s.sessionId) then (.error, s)
  else if 26 ≤ pkt.length ∧ frameNextProto pkt = ethPPppSes ∧
      be16At (framePayload pkt) 0 = pppIpv6Protocol then (.success, dhcp6WanInput d s)
  else
    let r := pppDecodeFrame env pkt s
    if r.status = .error then (.error, r.ccb)
    else
      let (done, s) := checkAuthResult env r.ccb
      if done then (.error, s)
      else (.success, codecCleanupPppCcb (pppFsm env (pppCpTimer s) r.event s).2)

/-! ### Steps -/

inductive PppLabel
  | connect
  | disconnect
  | forceDisable
  | ipv6Changed
  | setIpv6Enable (enable : Bool)
  | applyConfig (isUpdate ipv6Enable : Bool)
  | disableCcb
  | recv (pkt : List (BitVec 8)) (dnsProxyInit : Status) (d : Dhcp6)
  | pppTimer
  | ipv6cpTimer
  | pppoeTimer
  | aliveTimer
  | dhcp6Timer (d : Dhcp6)

/-- One step of the control thread, on a node with this WAN address. -/
def pppStep (mac : BitVec 48) (s : PppCcb) : PppLabel → PppCcb
  | .connect => (pppConnect s).2
  | .disconnect => (pppDisconnect ⟨mac, .success⟩ s).2
  | .forceDisable => fastrgForceTerminateHsi s
  | .ipv6Changed =>
      if isPppIpv6NeedRedial s.phase s.pppProcessing then pppIpv6Redial ⟨mac, .success⟩ s else s
  | .setIpv6Enable enable => setIpv6Enable enable s
  | .applyConfig isUpdate ipv6Enable => applyHsiConfig isUpdate ipv6Enable s
  | .disableCcb => pppdDisableCcb s
  | .recv pkt dns d => (pppProcess ⟨mac, dns⟩ pkt d s).2
  | .pppTimer => (s.ppp.map (pppTimerCb ⟨mac, .success⟩ .ppp s)).getD s
  | .ipv6cpTimer => (s.pppIpv6cp.map (pppTimerCb ⟨mac, .success⟩ .pppIpv6cp s)).getD s
  | .pppoeTimer => if s.pppoe = none then s else pppoeTimerCb s
  | .aliveTimer => if s.pppAlive then pppKeepaliveCb ⟨mac, .success⟩ s else s
  | .dhcp6Timer d => if s.dhcp6Timer then dhcp6TimerCb d s else s

/-- A control block as it comes out of the pool, before anything is configured. -/
def pppZero (rand : Nat → BitVec 32) : PppCcb :=
  let cp : ControlProtocol := ⟨.sInit, 0, ⟨0, 0, 0⟩, [], 0⟩
  { cpId := .lcp, phase := 0, controlProtocol := ⟨cp, cp, cp⟩, pppoePhase := ⟨0, 0, false⟩
    sessionId := 0, pppDstMac := 0
    params := ⟨0, 0, 0, 0, 0, 0, false, false, false, false, 0, 0, 0⟩
    identifier := ⟨0, 0, 0⟩, configRequestPending := ⟨false, false, false⟩, echoMissCount := 0
    pppBool := false, dpStartBool := false, redialPending := false, pppProcessing := false
    pppoe := none, ppp := none, pppAlive := false, pppIpv6cp := none, ipv6Enabled := false
    ipv6cpUp := false, dhcp6PdReady := false, dhcp6Timer := false, raTimer := false
    ipv6DpBool := false, disconnects := 0, rand := rand }

/-- `pppd_allocate_ccbs`, for one subscriber. -/
def pppInit (rand : Nat → BitVec 32) : PppCcb := pppInitConfigByUser false (pppZero rand)

end FastRG
