/-
The PPPoE session control block, and how a session ends.

One `PppCcb` is one subscriber's `ppp_ccb_t` as the control thread sees it: the
connection phase, the three negotiation automata, what they negotiate, the gates the
data plane reads, and the timers.  The phase is the number the source keeps, since the
code counts it down; everything else that is an enumeration there is one here.

A timer is what `rte_timer_manage` would call, or nothing when it is stopped.  The two
restart timers are told apart from the callback they carry: LCP and IPCP take turns
on `ppp`, and the callback says whose turn it is.

DHCPv6 is here only as far as a session touches it: whether a prefix is held and
whether its two timers run.  What the exchange itself decides is left to the steps.
-/
import FastRG.Common

namespace FastRG

/-! ### Phases, protocols, states and events -/

def endPhase : Nat := 0x0
def pppoePhase : Nat := 0x1
def lcpPhase : Nat := 0x2
def authPhase : Nat := 0x3
def ipcpPhase : Nat := 0x4
def dataPhase : Nat := 0x5
def notConfigured : Nat := 0x7F

/-- `PPP_CP_*`: which control protocol an automaton belongs to. -/
inductive PppCp
  | lcp
  | ipcp
  | ipv6cp
  deriving DecidableEq

/-- `PPP_STATE`.  `S_INVLD` only ends the tables, so it is not a state here. -/
inductive PppState
  | sInit
  | sStarting
  | sClosed
  | sStopped
  | sClosing
  | sStopping
  | sRequestSent
  | sAckReceived
  | sAckSent
  | sOpened
  deriving DecidableEq

/-- `PPP_EVENT_TYPE`. -/
inductive PppEvent
  | eUp
  | eDown
  | eOpen
  | eClose
  | eTimeoutCounterPositive
  | eTimeoutCounterExpired
  | eRecvGoodConfigRequest
  | eRecvBadConfigRequest
  | eRecvConfigAck
  | eRecvConfigNakRej
  | eRecvTerminateRequest
  | eRecvTerminateAck
  | eRecvUnknownCode
  | eRecvGoodCodeProtocolReject
  | eRecvBadCodeProtocolReject
  | eRecvEchoRequest
  | eRecvEchoReply
  | eUnknown
  deriving DecidableEq

/-- One value for each control protocol: the source's arrays of length `PPP_CP_COUNT`. -/
structure PerCp (α : Type) where
  lcp : α
  ipcp : α
  ipv6cp : α
  deriving DecidableEq

def PerCp.get {α : Type} (p : PerCp α) : PppCp → α
  | .lcp => p.lcp
  | .ipcp => p.ipcp
  | .ipv6cp => p.ipv6cp

def PerCp.set {α : Type} (p : PerCp α) (cp : PppCp) (a : α) : PerCp α :=
  match cp with
  | .lcp => { p with lcp := a }
  | .ipcp => { p with ipcp := a }
  | .ipv6cp => { p with ipv6cp := a }

def PerCp.map {α β : Type} (f : α → β) (p : PerCp α) : PerCp β :=
  ⟨f p.lcp, f p.ipcp, f p.ipv6cp⟩

@[simp] theorem PerCp.get_set_self {α : Type} (p : PerCp α) (cp : PppCp) (a : α) :
    (p.set cp a).get cp = a := by
  cases cp <;> rfl

theorem PerCp.get_set_ne {α : Type} (p : PerCp α) {cp cp' : PppCp} (a : α) (h : cp' ≠ cp) :
    (p.set cp a).get cp' = p.get cp' := by
  cases cp <;> cases cp' <;> first | rfl | exact absurd rfl h

/-! ### Protocol numbers -/

def lcpProtocol : BitVec 16 := 0xc021
def ipcpProtocol : BitVec 16 := 0x8021
def ipv6cpProtocol : BitVec 16 := 0x8057
def mplscpProtocol : BitVec 16 := 0x8281
def papProtocol : BitVec 16 := 0xc023
def chapProtocol : BitVec 16 := 0xc223
def pppIpv6Protocol : BitVec 16 := 0x0057

/-- `MAX_RECV_UNIT`: `ETH_MTU` less the PPPoE, PPP and VLAN headers. -/
def maxRecvUnit : BitVec 16 := 1488

def maxRetran : Nat := 10
def lcpEchoMaxFail : Nat := 3

/-! ### The control block -/

/-- `ppp_header_t`, the length as the machine loads it. -/
structure PppHdr where
  code : BitVec 8
  identifier : BitVec 8
  length : BitVec 16
  deriving DecidableEq

/-- `control_protocol_t`: one automaton and the last frame that was stored for it. -/
structure ControlProtocol where
  state : PppState
  pppProtocol : BitVec 16
  pppHdr : PppHdr
  pppOptions : List (BitVec 8)
  timerCounter : Nat
  deriving DecidableEq

/-- `pppoe_phase_t`, without the tag list. -/
structure PppoePhase where
  maxRetransmit : Nat
  timerCounter : Nat
  active : Bool
  deriving DecidableEq

/-- The callbacks of the restart timers, each naming the protocol it is for. -/
inductive PppTimerCb
  | sendConfigRequest (cp : PppCp)
  | sendTerminateRequest (cp : PppCp)
  deriving DecidableEq

def PppTimerCb.cp : PppTimerCb → PppCp
  | .sendConfigRequest cp => cp
  | .sendTerminateRequest cp => cp

/-- The callbacks of the discovery timer: `A_padi_timer_func`, `A_padr_timer_func`. -/
inductive PppoeTimerCb
  | padi
  | padr
  deriving DecidableEq

/-- What the three protocols negotiate. -/
structure PppParams where
  hsiIpv4 : BitVec 32
  hsiIpv4Gw : BitVec 32
  hsiPrimaryDns : BitVec 32
  hsiSecondaryDns : BitVec 32
  magicNum : BitVec 32
  mru : BitVec 16
  lcpAuthRejected : Bool
  lcpMruRejected : Bool
  lcpMagicRejected : Bool
  peerRequiresAuth : Bool
  authMethod : BitVec 16
  ipv6cpLocalIid : BitVec 64
  ipv6cpPeerIid : BitVec 64
  deriving DecidableEq

/--
`ppp_ccb_t`, the part the control thread owns.

`disconnects` counts the "disconnected" reports `exit_ppp` sends to the controller, and
`rand` is what `rand()` will return from here on.
-/
structure PppCcb where
  cpId : PppCp
  phase : Nat
  controlProtocol : PerCp ControlProtocol
  pppoePhase : PppoePhase
  sessionId : BitVec 16
  pppDstMac : BitVec 48
  params : PppParams
  identifier : PerCp (BitVec 8)
  configRequestPending : PerCp Bool
  echoMissCount : Nat
  pppBool : Bool
  dpStartBool : Bool
  redialPending : Bool
  pppProcessing : Bool
  pppoe : Option PppoeTimerCb
  ppp : Option PppTimerCb
  pppAlive : Bool
  pppIpv6cp : Option PppTimerCb
  ipv6Enabled : Bool
  ipv6cpUp : Bool
  dhcp6PdReady : Bool
  dhcp6Timer : Bool
  raTimer : Bool
  ipv6DpBool : Bool
  disconnects : Nat
  rand : Nat → BitVec 32

/-- What a step reads of the node around it: the WAN MAC, and whether the DNS proxy of
this subscriber can be set up. -/
structure PppEnv where
  hsiWanSrcMac : BitVec 48
  dnsProxyInit : Status

namespace PppCcb

/-- The state stored for one protocol. -/
def state (s : PppCcb) (cp : PppCp) : PppState := (s.controlProtocol.get cp).state

def setState (s : PppCcb) (cp : PppCp) (st : PppState) : PppCcb :=
  { s with controlProtocol :=
      s.controlProtocol.set cp { s.controlProtocol.get cp with state := st } }

def timerCounter (s : PppCcb) (cp : PppCp) : Nat := (s.controlProtocol.get cp).timerCounter

def setTimerCounter (s : PppCcb) (cp : PppCp) (n : Nat) : PppCcb :=
  { s with controlProtocol :=
      s.controlProtocol.set cp { s.controlProtocol.get cp with timerCounter := n } }

def setPending (s : PppCcb) (cp : PppCp) (b : Bool) : PppCcb :=
  { s with configRequestPending := s.configRequestPending.set cp b }

/-- All three automata back to `S_INIT`. -/
def resetStates (s : PppCcb) : PppCcb :=
  { s with controlProtocol := s.controlProtocol.map ({ · with state := .sInit }) }

/-- `dp_start_bool` cleared. -/
def shutGate (s : PppCcb) : PppCcb := { s with dpStartBool := false }

/-! ### The IPv6 gate -/

/-- `pppd_ipv6_dp_gate_update`. -/
def ipv6DpGateUpdate (s : PppCcb) : PppCcb :=
  { s with ipv6DpBool := s.ipv6Enabled && s.ipv6cpUp && s.dhcp6PdReady }

/-- `dhcp6_pd_stop`.  Without a prefix the gate update shuts the gate. -/
def dhcp6PdStop (s : PppCcb) : PppCcb :=
  { s with raTimer := false, dhcp6Timer := false, dhcp6PdReady := false, ipv6DpBool := false }

/-- `dhcp6_pd_start`. -/
def dhcp6PdStart (s : PppCcb) : PppCcb :=
  if s.ipv6Enabled && s.ipv6cpUp then { s.dhcp6PdStop with dhcp6Timer := true } else s

/-- `dhcp6_pd_stop`, IPV6CP not up, and the gate update that follows. -/
def ipv6Down (s : PppCcb) : PppCcb :=
  { s with raTimer := false, dhcp6Timer := false, dhcp6PdReady := false, ipv6cpUp := false
           ipv6DpBool := false }

/-- `ipv6cp_stop`. -/
def ipv6cpStop (s : PppCcb) : PppCcb :=
  { (s.ipv6Down.setPending .ipv6cp false).setState .ipv6cp .sStopped with pppIpv6cp := none }

/-! ### The end of a session -/

/--
`exit_ppp`: the gates shut, the six timers stopped, IPv6 down, the automata back in
`S_INIT`, and nothing left of the session or of what it negotiated.  It leaves
`ppp_processing` alone.  A parked redial is dropped here: the connect it stands for comes
back as a northbound event.
-/
def exitPpp (s : PppCcb) : PppCcb :=
  { s with
      pppBool := false
      dpStartBool := false
      ppp := none
      pppIpv6cp := none
      dhcp6Timer := false
      raTimer := false
      pppoe := none
      pppAlive := false
      dhcp6PdReady := false
      ipv6cpUp := false
      ipv6DpBool := false
      phase := endPhase
      controlProtocol := s.controlProtocol.map ({ · with state := .sInit })
      configRequestPending := s.configRequestPending.set .ipv6cp false
      pppoePhase := { s.pppoePhase with active := false }
      sessionId := 0
      params := { s.params with
        hsiIpv4 := 0, hsiIpv4Gw := 0, hsiPrimaryDns := 0xffffffff,
        hsiSecondaryDns := 0xffffffff, mru := maxRecvUnit, lcpAuthRejected := false,
        lcpMruRejected := false, lcpMagicRejected := false, peerRequiresAuth := false,
        ipv6cpLocalIid := 0, ipv6cpPeerIid := 0 }
      redialPending := false
      disconnects := s.disconnects + 1 }

end PppCcb

end FastRG
