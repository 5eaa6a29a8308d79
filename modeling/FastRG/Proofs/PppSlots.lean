/-
What the automaton leaves alone: the frames stored in the slots.

Each protocol has a slot for the frame it received last, and `A_this_layer_up` goes by the
protocol number it finds there.  The automaton reads the slots and never writes them, and
neither do the commands and the timers.  Only the decoders do.
-/
import FastRG.Pppd
import FastRG.Proofs.PppCalls

namespace FastRG

variable {env : PppEnv} {tim : PppTimerId} {s t : PppCcb} {ev : PppEvent} {cp : PppCp}

/-- What is stored of the last frame of a protocol. -/
structure PppSlot where
  proto : BitVec 16
  hdr : PppHdr
  opts : List (BitVec 8)

def ControlProtocol.slot (c : ControlProtocol) : PppSlot := ⟨c.pppProtocol, c.pppHdr, c.pppOptions⟩

/-- The three slots. -/
def PppCcb.slots (s : PppCcb) : PerCp PppSlot := s.controlProtocol.map ControlProtocol.slot

/-- A control block as it is handed to the automaton of a protocol. -/
def PppCcb.under (s : PppCcb) (cp : PppCp) : PppCcb := { s with cpId := cp }

/-! ### The automaton -/

@[simp] theorem slots_core (s : PppCcb) : s.core.slots = s.slots := rfl

theorem slots_of_core (h : s.core = t.core) : s.slots = t.slots := by
  rw [← slots_core s, h, slots_core]

@[simp] theorem slots_setState (s : PppCcb) (cp : PppCp) (st : PppState) :
    (s.setState cp st).slots = s.slots := by
  cases cp <;> rfl

@[simp] theorem slots_armTimer (s : PppCcb) (cb : PppTimerCb) (tim : PppTimerId) :
    (s.armTimer cb tim).slots = s.slots := rfl

@[simp] theorem slots_stopTimer (s : PppCcb) (tim : PppTimerId) :
    (s.stopTimer tim).slots = s.slots := rfl

@[simp] theorem slots_ended (s : PppCcb) : s.ended.slots = s.slots := rfl

@[simp] theorem slots_exitPpp (s : PppCcb) : s.exitPpp.slots = s.slots := rfl

@[simp] theorem slots_ipv6cpStop (s : PppCcb) : s.ipv6cpStop.slots = s.slots := rfl

@[simp] theorem slots_shutGate (s : PppCcb) : s.shutGate.slots = s.slots := rfl

@[simp] theorem slots_layerDown (s : PppCcb) : s.layerDown.slots = s.slots := by
  unfold PppCcb.layerDown
  split <;> rfl

@[simp] theorem slots_restart (s : PppCcb) (tim : PppTimerId) : (s.restart tim).slots = s.slots := by
  simp [PppCcb.restart]

@[simp] theorem slots_terminate (s : PppCcb) (tim : PppTimerId) :
    (s.terminate tim).slots = s.slots := by
  simp [PppCcb.terminate]

@[simp] theorem slots_upMove (s : PppCcb) (tim : PppTimerId) : (s.upMove tim).slots = s.slots := by
  unfold PppCcb.upMove
  split <;> simp

@[simp] theorem slots_closeMove (s : PppCcb) (tim : PppTimerId) :
    (s.closeMove tim).slots = s.slots := by
  unfold PppCcb.closeMove
  split <;> (try split) <;> (try split) <;> simp

@[simp] theorem slots_finishMove (s : PppCcb) (tim : PppTimerId) :
    (s.finishMove tim).slots = s.slots := by
  unfold PppCcb.finishMove PppCcb.closeLower
  split
  · simp
  · split
    · simp
    · rw [slots_closeMove]
      exact slots_setState s s.cpId .sInit

@[simp] theorem slots_dropMove (s : PppCcb) : s.dropMove.slots = s.slots := by
  unfold PppCcb.dropMove
  split <;> (try split) <;> simp

@[simp] theorem slots_downMove (s : PppCcb) (tim : PppTimerId) :
    (s.downMove tim).slots = s.slots := by
  unfold PppCcb.downMove
  split <;> simp

@[simp] theorem slots_openMove (s : PppCcb) (tim : PppTimerId) :
    (s.openMove tim).slots = s.slots := by
  unfold PppCcb.openMove
  split <;> simp

@[simp] theorem slots_giveUp (s : PppCcb) (tim : PppTimerId) : (s.giveUp tim).slots = s.slots := by
  unfold PppCcb.giveUp
  split <;> simp

@[simp] theorem slots_ipv6cpIidInit (env : PppEnv) (s : PppCcb) :
    (s.ipv6cpIidInit env).slots = s.slots := by
  unfold PppCcb.ipv6cpIidInit
  split <;> rfl

@[simp] theorem slots_openNcpsMove (env : PppEnv) (s : PppCcb) :
    (s.openNcpsMove env).slots = s.slots := by
  have hipcp : (PppCcb.openMove .ppp { s with cpId := .ipcp, phase := ipcpPhase }).slots =
      s.slots := slots_openMove _ _
  unfold PppCcb.openNcpsMove
  simp only
  split
  · rw [slots_openMove]
    exact (slots_ipv6cpIidInit env _).trans hipcp
  · exact hipcp

@[simp] theorem slots_layerUp (env : PppEnv) (s : PppCcb) : (s.layerUp env).slots = s.slots := by
  have h6 : (ipv6cpLayerUp s).slots = s.slots := by
    unfold ipv6cpLayerUp PppCcb.dhcp6PdStart
    split <;> rfl
  have hlcp : (s.lcpUpMove env).slots = s.slots := by
    unfold PppCcb.lcpUpMove
    simp only
    split
    · exact slots_openNcpsMove env _
    · split <;> rfl
  unfold PppCcb.layerUp
  simp only
  split
  · exact hlcp
  · split
    · rfl
    · split
      · exact h6
      · rfl

theorem slots_pppMove (env : PppEnv) (tim : PppTimerId) (ev : PppEvent) (s : PppCcb) :
    (pppMove env tim ev s).slots = s.slots := by
  unfold pppMove
  split <;> (try split) <;> simp

/-- The automaton leaves the slots alone. -/
@[simp] theorem slots_pppFsm (env : PppEnv) (tim : PppTimerId) (ev : PppEvent) (s : PppCcb) :
    (pppFsm env tim ev s).2.slots = s.slots :=
  (slots_of_core (pppFsm_move env tim ev s).core).trans (slots_pppMove env tim ev s)

/-! ### Commands and timers -/

@[simp] theorem slots_byeStop (s : PppCcb) : (byeStop s).slots = s.slots := rfl

@[simp] theorem slots_byeExit (s : PppCcb) : (byeExit s).slots = s.slots := rfl

@[simp] theorem slots_byeClose (env : PppEnv) (s : PppCcb) :
    (byeClose (pppFsm env) s).slots = s.slots := by
  unfold byeClose
  rw [slots_pppFsm, slots_setState, slots_setState]
  rfl

@[simp] theorem slots_pppBye (env : PppEnv) (s : PppCcb) :
    (pppBye (pppFsm env) s).slots = s.slots := by
  unfold pppBye
  simp only
  split
  · rfl
  · split
    · rfl
    · split
      · rw [slots_byeClose]
        rfl
      · split
        · rw [slots_byeClose]
          rfl
        · rfl

theorem slots_openNcps (env : PppEnv) (s : PppCcb) :
    (openNcps env (pppFsm env) s).slots = s.slots := by
  have h := core_openNcps env (s := s) rfl
  exact (slots_of_core h).trans (slots_openNcpsMove env s)

@[simp] theorem slots_pppDisconnect (env : PppEnv) (s : PppCcb) :
    (pppDisconnect env s).2.slots = s.slots := by
  unfold pppDisconnect
  split
  · rfl
  · split
    · rfl
    · exact slots_pppBye env s

@[simp] theorem slots_pppIpv6Redial (env : PppEnv) (s : PppCcb) :
    (pppIpv6Redial env s).slots = s.slots := by
  unfold pppIpv6Redial
  simp only
  split <;> exact slots_pppDisconnect env { s with redialPending := true }

/-- The restart timer's turn: the counter goes down, or the timer is stopped and the timeout
delivered. -/
theorem core_sendConfigRequest (env : PppEnv) (tim : PppTimerId) (s : PppCcb) :
    (sendConfigRequest (pppFsm env) tim s).core = s.core ∨
      (sendConfigRequest (pppFsm env) tim s).core =
        (pppMove env tim .eTimeoutCounterExpired (s.stopTimer tim)).core := by
  unfold sendConfigRequest
  split
  · exact Or.inr (pppFsm_move env tim _ _).core
  · exact Or.inl (core_setTimerCounter _ _ _)

theorem core_sendTerminateRequest (env : PppEnv) (tim : PppTimerId) (s : PppCcb) :
    (sendTerminateRequest (pppFsm env) tim s).core = s.core ∨
      (sendTerminateRequest (pppFsm env) tim s).core =
        (pppMove env tim .eTimeoutCounterExpired (s.stopTimer tim)).core := by
  unfold sendTerminateRequest
  split
  · exact Or.inr (pppFsm_move env tim _ _).core
  · exact Or.inl (core_setTimerCounter _ _ _)

theorem core_pppTimerCb (env : PppEnv) (tim : PppTimerId) (s : PppCcb) (cb : PppTimerCb) :
    (pppTimerCb env tim s cb).core = { s with cpId := cb.cp }.core ∨
      (pppTimerCb env tim s cb).core =
        (pppMove env tim .eTimeoutCounterExpired ({ s with cpId := cb.cp }.stopTimer tim)).core := by
  cases cb with
  | sendConfigRequest cp => exact core_sendConfigRequest env tim { s with cpId := cp }
  | sendTerminateRequest cp => exact core_sendTerminateRequest env tim { s with cpId := cp }

@[simp] theorem slots_pppTimerCb (env : PppEnv) (tim : PppTimerId) (s : PppCcb) (cb : PppTimerCb) :
    (pppTimerCb env tim s cb).slots = s.slots := by
  rcases core_pppTimerCb env tim s cb with h | h
  · exact (slots_of_core h).trans rfl
  · exact (slots_of_core h).trans (slots_pppMove env tim _ _)

@[simp] theorem slots_applyHsiConfig (isUpdate enable : Bool) (s : PppCcb) :
    (applyHsiConfig isUpdate enable s).slots = s.slots := by
  unfold applyHsiConfig
  simp only
  split <;> rfl

@[simp] theorem slots_dhcp6WanInput (d : Dhcp6) (s : PppCcb) :
    (dhcp6WanInput d s).slots = s.slots := by
  unfold dhcp6WanInput
  split <;> rfl

/-- Only a frame changes what is stored. -/
theorem slots_pppStep (mac : BitVec 48) (s : PppCcb) (l : PppLabel)
    (hl : ∀ pkt dns d, l ≠ .recv pkt dns d) : (pppStep mac s l).slots = s.slots := by
  cases l with
  | connect =>
      show (pppConnect s).2.slots = s.slots
      unfold pppConnect
      split <;> rfl
  | disconnect => exact slots_pppDisconnect _ s
  | forceDisable =>
      show (fastrgForceTerminateHsi s).slots = s.slots
      unfold fastrgForceTerminateHsi
      split <;> rfl
  | ipv6Changed =>
      simp only [pppStep]
      split
      · exact slots_pppIpv6Redial _ s
      · rfl
  | setIpv6Enable enable => rfl
  | applyConfig isUpdate enable => exact slots_applyHsiConfig isUpdate enable s
  | disableCcb => rfl
  | recv pkt dns d => exact absurd rfl (hl pkt dns d)
  | pppTimer =>
      simp only [pppStep]
      cases s.ppp with
      | none => rfl
      | some cb => exact slots_pppTimerCb _ _ s cb
  | ipv6cpTimer =>
      simp only [pppStep]
      cases s.pppIpv6cp with
      | none => rfl
      | some cb => exact slots_pppTimerCb _ _ s cb
  | pppoeTimer =>
      simp only [pppStep, pppoeTimerCb]
      split
      · rfl
      · split <;> rfl
  | aliveTimer =>
      simp only [pppStep, pppKeepaliveCb]
      split
      · split
        · exact slots_pppBye _ s
        · rfl
      · rfl
  | dhcp6Timer d =>
      simp only [pppStep, dhcp6TimerCb]
      split
      · split <;> rfl
      · rfl

end FastRG
