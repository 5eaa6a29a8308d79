/-
A session that is configured stays configured, and waits for no PADS it has not asked for.

Only the configuration of a subscriber writes `NOT_CONFIGURED`.  The automaton, the commands, the
timers and the frames enter one of the other phases or leave the phase alone.  The same steps leave
the discovery timer alone or stop it; only a connect and a PADO start it.
-/
import FastRG.Proofs.PppDiscovery
import FastRG.Proofs.PppTeardown

namespace FastRG

variable {env : PppEnv} {tim : PppTimerId} {s t u : PppCcb} {ev : PppEvent}

/-- A step from one control block to another does not lose the configuration. -/
def StaysOn (s t : PppCcb) : Prop := s.phase ≤ dataPhase → t.phase ≤ dataPhase

/-- A step that does not lose the configuration, and starts no discovery. -/
structure Onward (s t : PppCcb) : Prop where
  staysOn : StaysOn s t
  pppoe : t.pppoe = s.pppoe ∨ t.pppoe = none

theorem Onward.trans (h : Onward s t) (h' : Onward t u) : Onward s u := by
  refine ⟨fun hs => h'.staysOn (h.staysOn hs), ?_⟩
  rcases h'.pppoe with hp | hp
  · rw [hp]
    exact h.pppoe
  · exact Or.inr hp

theorem onward_of_le (h : t.phase ≤ s.phase) (hp : t.pppoe = s.pppoe) : Onward s t :=
  ⟨fun hs => Nat.le_trans h hs, Or.inl hp⟩

theorem onward_same (h : t.phase = s.phase) (hp : t.pppoe = s.pppoe) : Onward s t :=
  onward_of_le (Nat.le_of_eq h) hp

theorem onward_enter (phase : Nat) (h : t.phase = phase) (hphase : phase ≤ dataPhase)
    (hp : t.pppoe = s.pppoe ∨ t.pppoe = none) : Onward s t :=
  ⟨fun _ => Nat.le_trans (Nat.le_of_eq h) hphase, hp⟩

/-- The discovery timer is stopped. -/
theorem onward_off (h : t.phase = s.phase) (hp : t.pppoe = none) : Onward s t :=
  ⟨fun hs => Nat.le_trans (Nat.le_of_eq h) hs, Or.inr hp⟩

theorem onward_ended (s t : PppCcb) : Onward s t.ended :=
  onward_enter endPhase rfl (by decide) (Or.inr rfl)

theorem Onward.of_core (h : Onward s t) (hcore : u.core = t.core) : Onward s u := by
  have hphase : u.core.phase = t.core.phase := by rw [hcore]
  have hp : u.core.pppoe = t.core.pppoe := by rw [hcore]
  exact h.trans (onward_same hphase hp)

theorem pppPhaseRollback_le (phase : Nat) : pppPhaseRollback phase ≤ phase := by
  unfold pppPhaseRollback endPhase
  split <;> omega

/-! ### The automaton -/

theorem onward_closeMove (s : PppCcb) (tim : PppTimerId) : Onward s (s.closeMove tim) := by
  unfold PppCcb.closeMove
  split
  case h_1 =>
    split
    · exact onward_ended s s
    · split <;> exact onward_same rfl rfl
  case h_2 =>
    split
    · exact onward_ended s s
    · exact onward_same rfl rfl
  case h_7 =>
    unfold PppCcb.layerDown
    split <;> exact onward_same rfl rfl
  all_goals exact onward_same rfl rfl

theorem onward_finishMove (s : PppCcb) (tim : PppTimerId) : Onward s (s.finishMove tim) := by
  unfold PppCcb.finishMove PppCcb.closeLower
  split
  · exact onward_ended s s
  · split
    · exact onward_same rfl rfl
    · have hdown : Onward s { s.setState s.cpId .sInit with
          cpId := .lcp, phase := pppPhaseRollback s.phase, pppAlive := false } :=
        onward_of_le (pppPhaseRollback_le s.phase) rfl
      exact hdown.trans (onward_closeMove _ tim)

theorem onward_dropMove (s : PppCcb) : Onward s s.dropMove := by
  unfold PppCcb.dropMove
  split
  · exact onward_ended s s
  · split <;> exact onward_same rfl rfl

theorem onward_downMove (s : PppCcb) (tim : PppTimerId) : Onward s (s.downMove tim) := by
  unfold PppCcb.downMove
  split
  case h_1 => exact onward_finishMove s tim
  case h_8 => exact onward_dropMove s
  all_goals exact onward_same rfl rfl

theorem onward_openMove (s : PppCcb) (tim : PppTimerId) : Onward s (s.openMove tim) := by
  unfold PppCcb.openMove
  split
  case h_6 => exact onward_dropMove s
  all_goals exact onward_same rfl rfl

theorem onward_openNcpsMove (env : PppEnv) (s : PppCcb) : Onward s (s.openNcpsMove env) := by
  have hipcp : Onward s (PppCcb.openMove .ppp { s with cpId := .ipcp, phase := ipcpPhase }) := by
    have henter : Onward s { s with cpId := .ipcp, phase := ipcpPhase } :=
      onward_enter ipcpPhase rfl (by decide) (Or.inl rfl)
    exact henter.trans (onward_openMove _ .ppp)
  have hipv6cp : ∀ t : PppCcb,
      Onward t (PppCcb.openMove .pppIpv6cp { t.ipv6cpIidInit env with cpId := .ipv6cp }) := by
    intro t
    have hiid : Onward t { t.ipv6cpIidInit env with cpId := .ipv6cp } := by
      unfold PppCcb.ipv6cpIidInit
      split <;> exact onward_same rfl rfl
    exact hiid.trans (onward_openMove _ .pppIpv6cp)
  unfold PppCcb.openNcpsMove
  simp only
  split
  · exact hipcp.trans (hipv6cp _)
  · exact hipcp

theorem onward_layerUp (env : PppEnv) (s : PppCcb) : Onward s (s.layerUp env) := by
  have h6 : Onward s (ipv6cpLayerUp s) := by
    unfold ipv6cpLayerUp PppCcb.dhcp6PdStart
    split <;> exact onward_same rfl rfl
  have hlcp : Onward s (s.lcpUpMove env) := by
    unfold PppCcb.lcpUpMove
    simp only
    split
    · have hkeep : Onward s s.startKeepalive := onward_same rfl rfl
      exact hkeep.trans (onward_openNcpsMove env _)
    · split
      · exact onward_enter authPhase rfl (by decide) (Or.inl rfl)
      · exact onward_same rfl rfl
  unfold PppCcb.layerUp
  simp only
  split
  · exact hlcp
  · split
    · exact onward_enter dataPhase rfl (by decide) (Or.inl rfl)
    · split
      · exact h6
      · exact onward_same rfl rfl

theorem onward_layerDown (s : PppCcb) (tim : PppTimerId) :
    Onward s (s.layerDown.terminate tim) := by
  unfold PppCcb.layerDown
  split <;> exact onward_same rfl rfl

theorem onward_pppMove (env : PppEnv) (tim : PppTimerId) (ev : PppEvent) (s : PppCcb) :
    Onward s (pppMove env tim ev s) := by
  have hup : Onward s ((s.setState s.cpId .sOpened).layerUp env) := by
    have hset : Onward s (s.setState s.cpId .sOpened) := onward_same rfl rfl
    exact hset.trans (onward_layerUp env _)
  have hterm : Onward s (s.layerDown.setState s.cpId .sClosing) := by
    unfold PppCcb.layerDown
    split <;> exact onward_same rfl rfl
  have hgive : Onward s (s.giveUp tim) := by
    unfold PppCcb.giveUp
    split <;> exact onward_same rfl rfl
  cases ev
  case eUp =>
    show Onward s (s.upMove tim)
    unfold PppCcb.upMove
    split <;> exact onward_same rfl rfl
  case eDown => exact onward_downMove s tim
  case eOpen => exact onward_openMove s tim
  case eClose => exact onward_closeMove s tim
  case eRecvTerminateRequest =>
    cases hst : s.state s.cpId <;> simp only [pppMove, hst]
    case sOpened =>
      split
      · exact onward_layerDown s tim
      · exact hterm
    all_goals exact onward_same rfl rfl
  all_goals
    cases hst : s.state s.cpId <;> simp only [pppMove, hst] <;>
      first
        | exact onward_finishMove s tim
        | exact hgive
        | exact onward_layerDown s tim
        | exact hup
        | exact onward_same rfl rfl

theorem onward_pppFsm (env : PppEnv) (tim : PppTimerId) (ev : PppEvent) (s : PppCcb) :
    Onward s (pppFsm env tim ev s).2 :=
  (onward_pppMove env tim ev s).of_core (pppFsm_move env tim ev s).core

/-! ### Commands and timers -/

theorem onward_pppBye (env : PppEnv) (s : PppCcb) : Onward s (pppBye (pppFsm env) s) := by
  have hclose : ∀ t : PppCcb, Onward s t → Onward s (byeClose (pppFsm env) t) := by
    intro t ht
    have hset : Onward t
        (({ t with pppProcessing := true, cpId := .lcp }.setState .ipcp .sInit).setState .ipv6cp
          .sInit) := onward_same rfl rfl
    exact ht.trans (hset.trans (onward_pppFsm env .ppp .eClose _))
  unfold pppBye
  simp only [byeExit_eq]
  split
  · exact onward_ended s _
  · split
    · exact onward_ended s _
    · split
      · exact hclose _ (onward_off rfl rfl)
      · split
        · exact hclose _ (onward_enter lcpPhase rfl (by decide) (Or.inr rfl))
        · exact onward_ended s _

theorem onward_pppDisconnect (env : PppEnv) (s : PppCcb) : Onward s (pppDisconnect env s).2 := by
  unfold pppDisconnect
  split
  · exact onward_same rfl rfl
  · split
    · exact onward_same rfl rfl
    · exact onward_pppBye env s

theorem onward_pppTimerCb (env : PppEnv) (tim : PppTimerId) (s : PppCcb) (cb : PppTimerCb) :
    Onward s (pppTimerCb env tim s cb) := by
  have hset : Onward s { s with cpId := cb.cp } := onward_same rfl rfl
  rcases core_pppTimerCb env tim s cb with h | h
  · exact hset.of_core h
  · have hstop : Onward s ({ s with cpId := cb.cp }.stopTimer tim) := onward_same rfl rfl
    exact (hstop.trans (onward_pppMove env tim _ _)).of_core h

/-! ### Frames -/

theorem onward_of_outline {cp : PppCp} (h : t.outline cp = u.outline cp)
    (hphase : u.phase = s.phase) (hp : u.pppoe = s.pppoe) : Onward s t := by
  have key : ∀ s : PppCcb, (s.outline cp).phase = s.phase ∧ (s.outline cp).pppoe = s.pppoe :=
    fun _ => ⟨rfl, rfl⟩
  refine onward_same ?_ ?_
  · rw [← (key t).1, h, (key u).1, hphase]
  · rw [← (key t).2, h, (key u).2, hp]

theorem onward_select (d : Decoded) (cp : PppCp) : Onward d.ccb (d.select cp).ccb := by
  unfold Decoded.select
  split <;> exact onward_same rfl rfl

theorem onward_decodeLcp (tim : PppTimerId) (s : PppCcb) : Onward s (decodeLcp tim s).ccb := by
  have hspec := decodeLcp_spec tim s
  generalize decodeLcp tim s = d at hspec
  cases hspec with
  | fail h => exact onward_of_outline h rfl rfl
  | request hev hphase h => exact onward_of_outline h rfl rfl
  | ack hack h => exact onward_of_outline h rfl rfl
  | termAck hcode h => exact onward_of_outline h rfl rfl
  | noIpv6 h => exact onward_of_outline h rfl rfl
  | other hev h => exact onward_of_outline h rfl rfl

theorem onward_decodeIpcp (tim : PppTimerId) (s : PppCcb) : Onward s (decodeIpcp tim s).ccb := by
  have hspec := decodeIpcp_spec tim s
  generalize decodeIpcp tim s = d at hspec
  cases hspec with
  | fail h => exact onward_of_outline h rfl rfl
  | failAck hack hopts h => exact onward_of_outline h rfl rfl
  | ack hack h => exact onward_of_outline h rfl rfl
  | termAck hcode h => exact onward_of_outline h rfl rfl
  | other hev hreq h => exact onward_of_outline h rfl rfl

theorem onward_decodeIpv6cp (env : PppEnv) (tim : PppTimerId) (s : PppCcb) :
    Onward s (decodeIpv6cp env tim s).ccb := by
  have hspec := decodeIpv6cp_spec env tim s
  generalize decodeIpv6cp env tim s = d at hspec
  cases hspec with
  | fail h => exact onward_of_outline h rfl rfl
  | closed hcp h =>
      refine Onward.trans ?_ (onward_pppFsm env tim .eClose _)
      exact onward_of_outline h rfl rfl
  | ack hack h => exact onward_of_outline h rfl rfl
  | termAck hcode h => exact onward_of_outline h rfl rfl
  | other hev hreq h => exact onward_of_outline h rfl rfl

theorem onward_decodePpp {payload : List (BitVec 8)} {r : Decoded}
    (hr : PppDecoded env payload s r) : Onward s r.ccb := by
  have hstore : ∀ cp, Onward s (s.storeFrame cp payload) := fun _ => onward_same rfl rfl
  cases hr with
  | ignored => exact onward_same rfl rfl
  | ipcpEarly hproto => exact onward_same rfl rfl
  | ipv6cpEarly hproto => exact onward_same rfl rfl
  | ipcp hfits hproto hphase =>
      exact (hstore .ipcp).trans ((onward_decodeIpcp _ _).trans (onward_select _ _))
  | ipv6cp hfits hproto henabled hphase =>
      exact (hstore .ipv6cp).trans ((onward_decodeIpv6cp env _ _).trans (onward_select _ _))
  | lcp hfits hproto =>
      exact (hstore .lcp).trans ((onward_decodeLcp _ _).trans (onward_select _ _))
  | authStay hphase => exact onward_same rfl rfl
  | authResult hfits hproto hauth hphase => exact onward_same rfl rfl
  | papNak hphase =>
      have henter : Onward s (s.enterPhase lcpPhase) := onward_enter lcpPhase rfl (by decide) (Or.inl rfl)
      exact henter.trans (onward_pppFsm env .ppp .eClose _)

theorem onward_checkAuthResult (env : PppEnv) (s : PppCcb) :
    Onward s (checkAuthResult env s).2 := by
  have hopen : Onward s (openNcps env (pppFsm env) s) :=
    (onward_openNcpsMove env s).of_core (core_openNcps env rfl)
  unfold checkAuthResult
  simp only
  split
  · exact onward_same rfl rfl
  · split
    · have hlcp : Onward s { s with cpId := .lcp } := onward_same rfl rfl
      exact hlcp.trans (onward_pppFsm env .ppp .eClose _)
    · split
      · exact hopen
      · exact onward_same rfl rfl

theorem onward_pppFinish (env : PppEnv) (r : Decoded) : Onward r.ccb (pppFinish env r) := by
  unfold pppFinish
  split
  · exact onward_checkAuthResult env r.ccb
  · refine (onward_checkAuthResult env r.ccb).trans ?_
    refine (onward_pppFsm env _ r.event _).trans (onward_same rfl rfl)

/-- A frame that is no PADO. -/
theorem onward_recv (env : PppEnv) {pkt : List (BitVec 8)} (d : Dhcp6) (s : PppCcb)
    (hpado : ¬ (frameNextProto pkt = ethPPppDis ∧ framePppoeCode pkt = padoCode)) :
    Onward s (pppProcess env pkt d s).2 := by
  have hcame := pppProcess_handled env pkt d s
  generalize (pppProcess env pkt d s).2 = t at hcame
  cases hcame with
  | refused => exact onward_same rfl rfl
  | dhcp6 =>
      unfold dhcp6WanInput
      split <;> exact onward_same rfl rfl
  | discovery hlen hmax hdis =>
      have hphase : Onward s (discoveryPhase pkt s) := by
        unfold discoveryPhase
        split
        · exact onward_enter lcpPhase rfl (by decide) (Or.inl rfl)
        · exact onward_same rfl rfl
      refine hphase.trans ?_
      unfold decodePppoe
      rw [if_neg fun hcode => hpado ⟨hdis, hcode⟩]
      split
      · refine Onward.trans ?_ (onward_pppFsm env .ppp .eOpen _)
        exact onward_off rfl rfl
      · split
        · unfold recvPadt
          refine Onward.trans ?_ (onward_pppBye env _)
          exact onward_enter endPhase rfl (by decide) (Or.inl rfl)
        · exact onward_same rfl rfl
  | failed hses hr hst => exact onward_decodePpp hr
  | finished hses hr hst => exact (onward_decodePpp hr).trans (onward_pppFinish env _)
  | idle => exact onward_pppFinish env (.ok .eUnknown s)

/-! ### Steps -/

/-- The steps of a session, which the configuration of the subscriber is not one of. -/
def PppLabel.ofSession : PppLabel → Bool
  | .applyConfig _ _ => false
  | .disableCcb => false
  | _ => true

/-- The steps that start the discovery timer. -/
def PppLabel.startsDiscovery : PppLabel → Bool
  | .connect => true
  | .recv pkt _ _ => frameNextProto pkt == ethPPppDis && framePppoeCode pkt == padoCode
  | _ => false

theorem onward_pppStep (mac : BitVec 48) (s : PppCcb) {l : PppLabel} (hl : l.ofSession = true)
    (hstart : l.startsDiscovery = false) : Onward s (pppStep mac s l) := by
  cases l with
  | connect => exact Bool.noConfusion hstart
  | disconnect => exact onward_pppDisconnect _ s
  | forceDisable =>
      show Onward s (fastrgForceTerminateHsi s)
      unfold fastrgForceTerminateHsi
      split
      · exact onward_same rfl rfl
      · exact onward_enter endPhase rfl (by decide) (Or.inr rfl)
  | ipv6Changed =>
      simp only [pppStep]
      split
      · unfold pppIpv6Redial
        have hred : Onward s { s with redialPending := true } := onward_same rfl rfl
        have hdone := hred.trans (onward_pppDisconnect ⟨mac, .success⟩ _)
        simp only
        split
        · exact hdone
        · exact hdone.trans (onward_same rfl rfl)
      · exact onward_same rfl rfl
  | setIpv6Enable enable => exact onward_same rfl rfl
  | applyConfig isUpdate enable => exact Bool.noConfusion hl
  | disableCcb => exact Bool.noConfusion hl
  | recv pkt dns d =>
      refine onward_recv _ d s ?_
      intro hpado
      simp [PppLabel.startsDiscovery, hpado.1, hpado.2] at hstart
  | pppTimer =>
      simp only [pppStep]
      cases s.ppp with
      | none => exact onward_same rfl rfl
      | some cb => exact onward_pppTimerCb _ _ s cb
  | ipv6cpTimer =>
      simp only [pppStep]
      cases s.pppIpv6cp with
      | none => exact onward_same rfl rfl
      | some cb => exact onward_pppTimerCb _ _ s cb
  | pppoeTimer =>
      simp only [pppStep, pppoeTimerCb]
      split
      · exact onward_same rfl rfl
      · split
        · exact onward_enter endPhase rfl (by decide) (Or.inr rfl)
        · exact onward_same rfl rfl
  | aliveTimer =>
      simp only [pppStep, pppKeepaliveCb]
      split
      · split
        · exact onward_pppBye _ s
        · exact onward_same rfl rfl
      · exact onward_same rfl rfl
  | dhcp6Timer d =>
      simp only [pppStep, dhcp6TimerCb]
      split
      · split <;> exact onward_same rfl rfl
      · exact onward_same rfl rfl

/-- A PADO leaves the phase alone. -/
theorem phase_pado {pkt : List (BitVec 8)} (hdis : frameNextProto pkt = ethPPppDis)
    (hcode : framePppoeCode pkt = padoCode) (env : PppEnv) (d : Dhcp6) (s : PppCcb) :
    (pppProcess env pkt d s).2.phase = s.phase := by
  rw [pppProcess_offer ⟨hdis, Or.inl hcode⟩]
  split
  · rfl
  · rw [decodePppoe_pado hcode]
    split <;> rfl

theorem staysOn_pppStep (mac : BitVec 48) (s : PppCcb) {l : PppLabel} (hl : l.ofSession = true) :
    StaysOn s (pppStep mac s l) := by
  cases hstart : l.startsDiscovery with
  | false => exact (onward_pppStep mac s hl hstart).staysOn
  | true =>
      cases l with
      | connect =>
          show StaysOn s (pppConnect s).2
          unfold pppConnect
          split
          · exact id
          · exact fun _ => (by decide : pppoePhase ≤ dataPhase)
      | recv pkt dns d =>
          simp only [PppLabel.startsDiscovery, Bool.and_eq_true, beq_iff_eq] at hstart
          intro hs
          show (pppProcess ⟨mac, dns⟩ pkt d s).2.phase ≤ dataPhase
          rw [phase_pado hstart.1 hstart.2]
          exact hs
      | _ => exact Bool.noConfusion hstart

end FastRG
