/-
Authentication is under way: what the slot of LCP holds while it is.

The phase is AUTH and LCP is opened only after a frame of LCP has brought LCP up, and then the slot
holds that frame.  Nothing else leads there: rolling the phase back from DATA to AUTH closes LCP,
and so does everything that comes of a failed authentication.  `Lifts` is a step that keeps the
slots and leads there only from there, or with a frame of LCP in the slot.
-/
import FastRG.Proofs.PppGates
import FastRG.Proofs.PppTeardown

namespace FastRG

variable {env : PppEnv} {tim : PppTimerId} {s t u : PppCcb} {ev : PppEvent} {cp : PppCp}
  {pkt payload : List (BitVec 8)}

/-- Authentication is under way, on a link that is up. -/
def PppCcb.authUp (s : PppCcb) : Prop := s.phase = authPhase ∧ s.state .lcp = .sOpened

/-- While it is, the slot holds a frame of LCP. -/
def AuthFresh (s : PppCcb) : Prop := s.authUp → s.protos.lcp = lcpProtocol

/-- A step that leads to authentication only with a frame of LCP in the slot. -/
structure Lifts (s t : PppCcb) : Prop where
  slots : t.slots = s.slots
  up : t.authUp → s.authUp ∨ s.protos.lcp = lcpProtocol

theorem Lifts.trans (h : Lifts s t) (h' : Lifts t u) : Lifts s u := by
  refine ⟨h'.slots.trans h.slots, ?_⟩
  intro hu
  rcases h'.up hu with ht | ht
  · exact h.up ht
  · rw [protos_of_slots h.slots] at ht
    exact Or.inr ht

theorem AuthFresh.lifts (hs : AuthFresh s) (h : Lifts s t) : AuthFresh t := by
  intro ht
  rw [protos_of_slots h.slots]
  rcases h.up ht with hup | hslot
  · exact hs hup
  · exact hslot

theorem authFresh_same (hphase : t.phase = s.phase) (hst : t.state .lcp = s.state .lcp)
    (hprotos : t.protos.lcp = s.protos.lcp) (hs : AuthFresh s) : AuthFresh t := by
  intro h
  rw [hprotos]
  exact hs ⟨hphase.symm.trans h.1, hst.symm.trans h.2⟩

theorem lifts_same (hphase : t.phase = s.phase) (hst : t.state .lcp = s.state .lcp)
    (hslots : t.slots = s.slots) : Lifts s t := by
  refine ⟨hslots, ?_⟩
  intro h
  exact Or.inl ⟨hphase.symm.trans h.1, hst.symm.trans h.2⟩

theorem lifts_phase (phase : Nat) (hphase : t.phase = phase) (hne : phase ≠ authPhase)
    (hslots : t.slots = s.slots) : Lifts s t :=
  ⟨hslots, fun h => absurd (hphase.symm.trans h.1) hne⟩

theorem lifts_lcp (hst : t.state .lcp ≠ .sOpened) (hslots : t.slots = s.slots) : Lifts s t :=
  ⟨hslots, fun h => absurd h.2 hst⟩

theorem lifts_setState (cp : PppCp) {st : PppState} (hst : st ≠ .sOpened) :
    Lifts s (s.setState cp st) := by
  by_cases hcp : cp = .lcp
  · subst hcp
    exact lifts_lcp hst (slots_setState s .lcp st)
  · exact lifts_same rfl (state_setState_ne s st (Ne.symm hcp)) (slots_setState s cp st)

theorem lifts_ended (s : PppCcb) : Lifts s s.ended := lifts_phase endPhase rfl (by decide) rfl

theorem lifts_ipv6cpStop (s : PppCcb) : Lifts s s.ipv6cpStop := lifts_same rfl rfl rfl

theorem Lifts.of_core (h : Lifts s t) (hcore : u.core = t.core) : Lifts s u := by
  refine h.trans (lifts_same ?_ (state_of_core hcore .lcp) (slots_of_core hcore))
  exact congrArg PppGates.phase (gates_of_core hcore)

/-! ### The automaton -/

theorem lifts_layerDown (s : PppCcb) : Lifts s s.layerDown := by
  refine lifts_same ?_ ?_ (slots_layerDown s)
  · unfold PppCcb.layerDown
    split <;> rfl
  · unfold PppCcb.layerDown
    split <;> rfl

theorem lifts_terminate (s : PppCcb) (tim : PppTimerId) : Lifts s (s.terminate tim) :=
  (lifts_setState s.cpId (by simp)).trans (lifts_same rfl rfl rfl)

theorem lifts_restart (s : PppCcb) (tim : PppTimerId) : Lifts s (s.restart tim) :=
  (lifts_setState s.cpId (by simp)).trans (lifts_same rfl rfl rfl)

theorem lifts_drop (s : PppCcb) (tim : PppTimerId) : Lifts s (s.layerDown.terminate tim) :=
  (lifts_layerDown s).trans (lifts_terminate _ tim)

theorem lifts_closeMove (s : PppCcb) (tim : PppTimerId) : Lifts s (s.closeMove tim) := by
  unfold PppCcb.closeMove
  split
  · split
    · exact lifts_ended s
    · split
      · exact lifts_ipv6cpStop s
      · exact lifts_setState _ (by simp)
  · split
    · exact lifts_ended s
    · exact lifts_setState _ (by simp)
  · exact lifts_setState _ (by simp)
  · exact lifts_terminate s tim
  · exact lifts_terminate s tim
  · exact lifts_terminate s tim
  · exact lifts_drop s tim
  · exact lifts_same rfl rfl rfl

/-- A Close leaves the protocol it is for unopened. -/
theorem state_closeMove_ne (hcp : s.cpId = .lcp) : (s.closeMove tim).state .lcp ≠ .sOpened := by
  have hset : ∀ st : PppState, st ≠ .sOpened →
      (s.setState s.cpId st).state .lcp ≠ .sOpened := by
    intro st hst
    rw [hcp]
    exact hst
  unfold PppCcb.closeMove
  split
  · rw [if_pos hcp]
    exact (by decide : PppState.sInit ≠ .sOpened)
  · rw [if_pos hcp]
    exact (by decide : PppState.sInit ≠ .sOpened)
  · exact hset _ (by simp)
  · exact hset _ (by simp)
  · exact hset _ (by simp)
  · exact hset _ (by simp)
  · have hdown : s.layerDown.cpId = .lcp := by
      unfold PppCcb.layerDown
      rw [hcp]
      exact hcp
    show (s.layerDown.setState s.layerDown.cpId .sClosing).state .lcp ≠ .sOpened
    rw [hdown]
    exact (by decide : PppState.sClosing ≠ .sOpened)
  · rename_i hno
    rw [hcp] at hno
    exact hno

/-- Rolling the phase back closes LCP, so it does not lead to authentication. -/
theorem lifts_closeLower (s : PppCcb) (tim : PppTimerId) : Lifts s (s.closeLower tim) := by
  unfold PppCcb.closeLower
  split
  · exact lifts_ipv6cpStop s
  · refine lifts_lcp (state_closeMove_ne rfl) ?_
    exact (lifts_closeMove _ tim).slots

theorem lifts_finishMove (s : PppCcb) (tim : PppTimerId) : Lifts s (s.finishMove tim) := by
  unfold PppCcb.finishMove
  split
  · exact lifts_ended s
  · exact (lifts_setState s.cpId (by simp)).trans (lifts_closeLower _ tim)

theorem lifts_dropMove (s : PppCcb) : Lifts s s.dropMove := by
  unfold PppCcb.dropMove
  split
  · exact lifts_ended s
  · split
    · exact lifts_ipv6cpStop s
    · exact (lifts_setState s.cpId (by simp)).trans (lifts_same rfl rfl rfl)

theorem lifts_downMove (s : PppCcb) (tim : PppTimerId) : Lifts s (s.downMove tim) := by
  unfold PppCcb.downMove
  split
  · exact lifts_finishMove s tim
  · exact lifts_restart s tim
  · exact lifts_setState _ (by simp)
  · exact lifts_setState _ (by simp)
  · exact lifts_setState _ (by simp)
  · exact lifts_setState _ (by simp)
  · exact lifts_setState _ (by simp)
  · exact lifts_dropMove s
  · exact lifts_same rfl rfl rfl

theorem lifts_openMove (s : PppCcb) (tim : PppTimerId) : Lifts s (s.openMove tim) := by
  unfold PppCcb.openMove
  split
  · exact lifts_restart s tim
  · exact lifts_restart s tim
  · exact lifts_restart s tim
  · exact lifts_setState _ (by simp)
  · exact lifts_setState _ (by simp)
  · exact lifts_dropMove s
  · exact lifts_same rfl rfl rfl

theorem lifts_upMove (s : PppCcb) (tim : PppTimerId) : Lifts s (s.upMove tim) := by
  unfold PppCcb.upMove
  split
  · exact lifts_setState _ (by simp)
  · exact lifts_restart s tim
  · exact lifts_same rfl rfl rfl

theorem lifts_giveUp (s : PppCcb) (tim : PppTimerId) : Lifts s (s.giveUp tim) := by
  unfold PppCcb.giveUp
  split
  · exact lifts_ipv6cpStop s
  · exact lifts_restart s tim

/-- Opening the network protocols starts by leaving authentication. -/
theorem lifts_openNcpsMove (env : PppEnv) (s : PppCcb) :
    Lifts { s with cpId := .ipcp, phase := ipcpPhase } (s.openNcpsMove env) := by
  have hipcp := lifts_openMove { s with cpId := .ipcp, phase := ipcpPhase } .ppp
  have hipv6cp : ∀ t : PppCcb,
      Lifts t (PppCcb.openMove .pppIpv6cp { t.ipv6cpIidInit env with cpId := .ipv6cp }) := by
    intro t
    have hiid : Lifts t { t.ipv6cpIidInit env with cpId := .ipv6cp } := by
      unfold PppCcb.ipv6cpIidInit
      split <;> exact lifts_same rfl rfl rfl
    exact hiid.trans (lifts_openMove _ .pppIpv6cp)
  unfold PppCcb.openNcpsMove
  simp only
  split
  · exact hipcp.trans (hipv6cp _)
  · exact hipcp

theorem authFresh_openNcps (env : PppEnv) (s : PppCcb) :
    AuthFresh (openNcps env (pppFsm env) s) := by
  have hentered : AuthFresh { s with cpId := .ipcp, phase := ipcpPhase } := by
    intro hup
    exact absurd hup.1 (by show ¬ ipcpPhase = authPhase; decide)
  exact hentered.lifts ((lifts_openNcpsMove env s).of_core (core_openNcps env rfl))

/-- LCP is brought up by the frame in its slot. -/
theorem lifts_layerUp (env : PppEnv) (hs : Slotted s)
    (hslot : s.cpId = .lcp → s.protos.lcp = lcpProtocol) :
    Lifts s ((s.setState s.cpId .sOpened).layerUp env) := by
  have hslots : ((s.setState s.cpId .sOpened).layerUp env).slots = s.slots := by
    rw [slots_layerUp, slots_setState]
  refine ⟨hslots, ?_⟩
  by_cases hcp : s.cpId = .lcp
  · exact fun _ => Or.inr (hslot hcp)
  intro hup
  have hst : (s.setState s.cpId .sOpened).state .lcp = s.state .lcp :=
    state_setState_ne s .sOpened (Ne.symm hcp)
  have hproto : ((s.setState s.cpId .sOpened).controlProtocol.get s.cpId).pppProtocol =
      s.protos.get s.cpId := by
    cases s.cpId <;> rfl
  have hlcp : s.protos.get s.cpId ≠ lcpProtocol := by
    have hmem := hs s.cpId
    intro heq
    rw [heq] at hmem
    cases hid : s.cpId with
    | lcp => exact hcp hid
    | ipcp => rw [hid] at hmem; exact absurd hmem (by decide)
    | ipv6cp => rw [hid] at hmem; exact absurd hmem (by decide)
  unfold PppCcb.layerUp at hup
  rw [show (s.setState s.cpId .sOpened).cpId = s.cpId from rfl, hproto] at hup
  simp only at hup
  rw [if_neg hlcp] at hup
  split at hup
  · exact absurd hup.1 (by show ¬ dataPhase = authPhase; decide)
  · split at hup
    · have h6 : (ipv6cpLayerUp (s.setState s.cpId .sOpened)).phase = s.phase ∧
          (ipv6cpLayerUp (s.setState s.cpId .sOpened)).state .lcp = s.state .lcp := by
        unfold ipv6cpLayerUp PppCcb.dhcp6PdStart
        split
        · exact ⟨rfl, hst⟩
        · exact ⟨rfl, hst⟩
      exact Or.inl ⟨h6.1.symm.trans hup.1, h6.2.symm.trans hup.2⟩
    · exact Or.inl ⟨hup.1, hst.symm.trans hup.2⟩

/-- The events that may bring a layer up. -/
def PppEvent.lifting (ev : PppEvent) : Prop := ev = .eRecvGoodConfigRequest ∨ ev = .eRecvConfigAck

theorem lifts_pppMove (env : PppEnv) (tim : PppTimerId) (hs : Slotted s)
    (hslot : ev.lifting → s.cpId = .lcp → s.protos.lcp = lcpProtocol) :
    Lifts s (pppMove env tim ev s) := by
  cases ev
  case eUp => exact lifts_upMove s tim
  case eDown => exact lifts_downMove s tim
  case eOpen => exact lifts_openMove s tim
  case eClose => exact lifts_closeMove s tim
  case eRecvGoodConfigRequest =>
    have hup := lifts_layerUp env hs (hslot (Or.inl rfl))
    cases hst : s.state s.cpId <;> simp only [pppMove, hst] <;>
      first
        | exact hup
        | exact lifts_drop s tim
        | exact lifts_setState _ (by simp)
        | exact (lifts_setState s.cpId (by simp)).trans (lifts_same rfl rfl rfl)
        | exact lifts_same rfl rfl rfl
  case eRecvConfigAck =>
    have hup := lifts_layerUp env hs (hslot (Or.inr rfl))
    cases hst : s.state s.cpId <;> simp only [pppMove, hst] <;>
      first
        | exact hup
        | exact lifts_drop s tim
        | exact lifts_setState _ (by simp)
        | exact lifts_same rfl rfl rfl
  case eRecvTerminateRequest =>
    cases hst : s.state s.cpId <;> simp only [pppMove, hst]
    case sOpened =>
      split
      · exact lifts_drop s tim
      · exact (lifts_layerDown s).trans (lifts_setState _ (by simp))
    all_goals first
      | exact lifts_setState _ (by simp)
      | exact lifts_same rfl rfl rfl
  all_goals
    cases hst : s.state s.cpId <;> simp only [pppMove, hst] <;>
      first
        | exact lifts_finishMove s tim
        | exact lifts_giveUp s tim
        | exact lifts_drop s tim
        | exact lifts_restart s tim
        | exact lifts_setState _ (by simp)
        | exact lifts_same rfl rfl rfl

theorem lifts_pppFsm (env : PppEnv) (tim : PppTimerId) (hs : Slotted s)
    (hslot : ev.lifting → s.cpId = .lcp → s.protos.lcp = lcpProtocol) :
    Lifts s (pppFsm env tim ev s).2 :=
  (lifts_pppMove env tim hs hslot).of_core (pppFsm_move env tim ev s).core

theorem lifts_pppFsm_close (env : PppEnv) (tim : PppTimerId) (s : PppCcb) :
    Lifts s (pppFsm env tim .eClose s).2 :=
  (lifts_closeMove s tim).of_core (pppFsm_move env tim .eClose s).core

/-- LCP told to close is not opened. -/
theorem state_close_ne (env : PppEnv) (hcp : s.cpId = .lcp) :
    (pppFsm env tim .eClose s).2.state .lcp ≠ .sOpened := by
  rw [state_of_core (pppFsm_move env tim .eClose s).core]
  exact state_closeMove_ne hcp

/-! ### Commands and timers -/

theorem lifts_pppBye (env : PppEnv) (s : PppCcb) : Lifts s (pppBye (pppFsm env) s) := by
  have hclose : ∀ t : PppCcb, Lifts s t → Lifts s (byeClose (pppFsm env) t) := by
    intro t ht
    have hset : Lifts t
        (({ t with pppProcessing := true, cpId := .lcp }.setState .ipcp .sInit).setState .ipv6cp
          .sInit) := lifts_same rfl rfl rfl
    exact ht.trans (hset.trans (lifts_pppFsm_close env .ppp _))
  unfold pppBye
  simp only [byeExit_eq]
  split
  · exact lifts_phase endPhase rfl (by decide) rfl
  · split
    · exact lifts_phase endPhase rfl (by decide) rfl
    · split
      · exact hclose _ (lifts_same rfl rfl rfl)
      · split
        · exact hclose _ (lifts_phase lcpPhase rfl (by decide) rfl)
        · exact lifts_phase endPhase rfl (by decide) rfl

theorem lifts_pppDisconnect (env : PppEnv) (s : PppCcb) : Lifts s (pppDisconnect env s).2 := by
  unfold pppDisconnect
  split
  · exact lifts_same rfl rfl rfl
  · split
    · exact lifts_same rfl rfl rfl
    · exact lifts_pppBye env s

theorem lifts_pppTimerCb (env : PppEnv) (tim : PppTimerId) (hs : Slotted s) (cb : PppTimerCb) :
    Lifts s (pppTimerCb env tim s cb) := by
  have hset : Lifts s { s with cpId := cb.cp } := lifts_same rfl rfl rfl
  rcases core_pppTimerCb env tim s cb with h | h
  · exact hset.of_core h
  · have hstop : Lifts s ({ s with cpId := cb.cp }.stopTimer tim) := lifts_same rfl rfl rfl
    refine (hstop.trans (lifts_pppMove env tim ?_ ?_)).of_core h
    · exact slotted_of_slots hs rfl
    · intro hev
      rcases hev with hev | hev <;> cases hev

/-- Every step but a frame. -/
theorem lifts_pppStep (mac : BitVec 48) {l : PppLabel} (hs : Slotted s)
    (hl : ∀ pkt dns d, l ≠ .recv pkt dns d) : Lifts s (pppStep mac s l) := by
  cases l with
  | connect =>
      show Lifts s (pppConnect s).2
      unfold pppConnect
      split
      · exact lifts_same rfl rfl rfl
      · exact lifts_phase pppoePhase rfl (by decide) rfl
  | disconnect => exact lifts_pppDisconnect _ s
  | forceDisable =>
      show Lifts s (fastrgForceTerminateHsi s)
      unfold fastrgForceTerminateHsi
      split
      · exact lifts_same rfl rfl rfl
      · exact lifts_phase endPhase rfl (by decide) rfl
  | ipv6Changed =>
      simp only [pppStep]
      split
      · unfold pppIpv6Redial
        have hred : Lifts s { s with redialPending := true } := lifts_same rfl rfl rfl
        have hdone := hred.trans (lifts_pppDisconnect ⟨mac, .success⟩ _)
        simp only
        split
        · exact hdone
        · exact hdone.trans (lifts_same rfl rfl rfl)
      · exact lifts_same rfl rfl rfl
  | setIpv6Enable enable => exact lifts_same rfl rfl rfl
  | applyConfig isUpdate enable =>
      simp only [pppStep, applyHsiConfig]
      split
      · exact lifts_phase endPhase rfl (by decide) rfl
      · exact lifts_same rfl rfl rfl
  | disableCcb => exact lifts_phase notConfigured rfl (by decide) rfl
  | recv pkt dns d => exact absurd rfl (hl pkt dns d)
  | pppTimer =>
      simp only [pppStep]
      cases s.ppp with
      | none => exact lifts_same rfl rfl rfl
      | some cb => exact lifts_pppTimerCb _ _ hs cb
  | ipv6cpTimer =>
      simp only [pppStep]
      cases s.pppIpv6cp with
      | none => exact lifts_same rfl rfl rfl
      | some cb => exact lifts_pppTimerCb _ _ hs cb
  | pppoeTimer =>
      simp only [pppStep, pppoeTimerCb]
      split
      · exact lifts_same rfl rfl rfl
      · split
        · exact lifts_phase endPhase rfl (by decide) rfl
        · exact lifts_same rfl rfl rfl
  | aliveTimer =>
      simp only [pppStep, pppKeepaliveCb]
      split
      · split
        · exact lifts_pppBye _ s
        · exact lifts_same rfl rfl rfl
      · exact lifts_same rfl rfl rfl
  | dhcp6Timer d =>
      simp only [pppStep, dhcp6TimerCb]
      split
      · split <;> exact lifts_same rfl rfl rfl
      · exact lifts_same rfl rfl rfl

end FastRG
