/-
After a session has ended.

`exit_ppp` is the end of every session, and almost every way there goes through `PPP_bye` or a
PADT, which clear `ppp_processing` first.  Three callers go straight to `exit_ppp`: a
forced disable, the removal of a subscriber, and discovery that gives up.  `exit_ppp` leaves
the flag alone, so if a teardown was under way it stays up, and every later disconnect is
refused.

`teardown_redialable` is about whole runs in which these three find no teardown under way: from
an `exit_ppp` on, for as long as nothing is dialled, the subscriber is clean and can be
connected and disconnected again.
-/
import FastRG.Proofs.PppFrames

namespace FastRG

variable {env : PppEnv} {tim : PppTimerId} {s t u : PppCcb} {ev : PppEvent} {mac : BitVec 48}
  {l : PppLabel}

/-! ### A clean subscriber -/

/-- A phase without a session. -/
def idlePhase (phase : Nat) : Bool := phase == endPhase || phase == notConfigured

/-- Nothing of a session is left.  The discovery timer is stopped too, unless an offer has been
answered since. -/
structure TornDown (s : PppCcb) : Prop where
  processing : s.pppProcessing = false
  gates : s.dpStartBool = false ∧ s.pppBool = false ∧ s.ipv6DpBool = false
  timers : s.ppp = none ∧ s.pppIpv6cp = none ∧ s.pppAlive = false ∧ s.dhcp6Timer = false ∧
    s.raTimer = false
  discovery : s.pppoePhase.active = false → s.pppoe = none
  states : ∀ cp, s.state cp = .sInit

/-- A connect is accepted, and so is the disconnect after it. -/
def Redials (mac : BitVec 48) (s : PppCcb) : Prop :=
  (pppConnect s).1 = .success ∧ (pppDisconnect ⟨mac, .success⟩ (pppConnect s).2).1 = .success

/-- A clean subscriber, with what keeps it clean: no session is named, and IPv6 is not up. -/
structure Idle (s : PppCcb) : Prop where
  phase : idlePhase s.phase = true
  torn : TornDown s
  sessionId : s.sessionId = 0
  ipv6cpUp : s.ipv6cpUp = false

theorem TornDown.redials (h : TornDown s) (hend : s.phase = endPhase) (mac : BitVec 48) :
    Redials mac s := by
  have hconn : (pppConnect s).1 = .success ∧ (pppConnect s).2.phase = pppoePhase ∧
      (pppConnect s).2.pppProcessing = s.pppProcessing := by
    unfold pppConnect
    rw [hend, if_neg (by decide)]
    exact ⟨rfl, rfl, rfl⟩
  refine ⟨hconn.1, ?_⟩
  unfold pppDisconnect
  rw [hconn.2.1, hconn.2.2, h.processing]
  rfl

theorem idle_ended (s : PppCcb) : Idle s.ended :=
  ⟨rfl, ⟨rfl, ⟨rfl, rfl, rfl⟩, ⟨rfl, rfl, rfl, rfl, rfl⟩, fun _ => rfl, fun cp => by cases cp <;> rfl⟩,
    rfl, rfl⟩

theorem idle_of_core (h : Idle t) (hcore : s.core = t.core) : Idle s := by
  have key : ∀ s : PppCcb, Idle s ↔ Idle s.core := by
    intro s
    refine ⟨fun h => ⟨h.phase, ⟨h.torn.processing, h.torn.gates, h.torn.timers, h.torn.discovery, ?_⟩,
      h.sessionId, h.ipv6cpUp⟩, fun h => ⟨h.phase, ⟨h.torn.processing, h.torn.gates, h.torn.timers,
      h.torn.discovery, ?_⟩, h.sessionId, h.ipv6cpUp⟩⟩
    · intro cp
      rw [state_core]
      exact h.torn.states cp
    · intro cp
      rw [← state_core]
      exact h.torn.states cp
  rw [key s, hcore, ← key t]
  exact h

/-! ### Calls that end the session -/

/-- Either `exit_ppp` was not called, or the session is over and clean. -/
def Settles (s t : PppCcb) : Prop := t.disconnects = s.disconnects ∨ Idle t

theorem Settles.of_core (h : Settles s t) (hcore : u.core = t.core) : Settles s u := by
  rcases h with h | h
  · have hd : u.core.disconnects = t.core.disconnects := by rw [hcore]
    exact Or.inl (hd.trans h)
  · exact Or.inr (idle_of_core h hcore)

theorem settles_ended (s t : PppCcb) : Settles s t.ended := Or.inr (idle_ended t)

theorem settles_closeMove (s : PppCcb) (tim : PppTimerId) : Settles s (s.closeMove tim) := by
  unfold PppCcb.closeMove
  split
  case h_1 =>
    split
    · exact settles_ended s s
    · split <;> exact Or.inl rfl
  case h_2 =>
    split
    · exact settles_ended s s
    · exact Or.inl rfl
  case h_7 =>
    unfold PppCcb.layerDown
    split <;> exact Or.inl rfl
  all_goals exact Or.inl rfl

theorem settles_finishMove (s : PppCcb) (tim : PppTimerId) : Settles s (s.finishMove tim) := by
  unfold PppCcb.finishMove PppCcb.closeLower
  split
  · exact settles_ended s s
  · split
    · exact Or.inl rfl
    · exact settles_closeMove _ tim

theorem settles_dropMove (s : PppCcb) : Settles s s.dropMove := by
  unfold PppCcb.dropMove
  split
  · exact settles_ended s s
  · split <;> exact Or.inl rfl

theorem settles_downMove (s : PppCcb) (tim : PppTimerId) : Settles s (s.downMove tim) := by
  unfold PppCcb.downMove
  split
  case h_1 => exact settles_finishMove s tim
  case h_8 => exact settles_dropMove s
  all_goals exact Or.inl rfl

theorem settles_openMove (s : PppCcb) (tim : PppTimerId) : Settles s (s.openMove tim) := by
  unfold PppCcb.openMove
  split
  case h_6 => exact settles_dropMove s
  all_goals exact Or.inl rfl

theorem settles_giveUp (s : PppCcb) (tim : PppTimerId) : Settles s (s.giveUp tim) := by
  unfold PppCcb.giveUp
  split <;> exact Or.inl rfl

/-- Opening a network protocol ends no session. -/
theorem disconnects_openMove (hcp : s.cpId ≠ .lcp) (tim : PppTimerId) :
    (s.openMove tim).disconnects = s.disconnects := by
  unfold PppCcb.openMove
  split
  case h_6 =>
    unfold PppCcb.dropMove
    rw [if_neg hcp]
    split <;> rfl
  all_goals rfl

theorem disconnects_openNcpsMove (env : PppEnv) (s : PppCcb) :
    (s.openNcpsMove env).disconnects = s.disconnects := by
  have hipcp : (PppCcb.openMove .ppp { s with cpId := .ipcp, phase := ipcpPhase }).disconnects =
      s.disconnects := disconnects_openMove (by simp) .ppp
  have hiid : ∀ t : PppCcb, (t.ipv6cpIidInit env).disconnects = t.disconnects := by
    intro t
    unfold PppCcb.ipv6cpIidInit
    split <;> rfl
  unfold PppCcb.openNcpsMove
  simp only
  split
  · exact (disconnects_openMove (by simp) _).trans ((hiid _).trans hipcp)
  · exact hipcp

theorem disconnects_layerUp (env : PppEnv) (s : PppCcb) :
    (s.layerUp env).disconnects = s.disconnects := by
  have h6 : (ipv6cpLayerUp s).disconnects = s.disconnects := by
    unfold ipv6cpLayerUp PppCcb.dhcp6PdStart
    split <;> rfl
  have hlcp : (s.lcpUpMove env).disconnects = s.disconnects := by
    unfold PppCcb.lcpUpMove
    simp only
    split
    · exact disconnects_openNcpsMove env _
    · split <;> rfl
  unfold PppCcb.layerUp
  simp only
  split
  · exact hlcp
  · split
    · rfl
    · split
      · exact h6
      · rfl

theorem settles_layerDown (s : PppCcb) (tim : PppTimerId) :
    Settles s (s.layerDown.terminate tim) := by
  unfold PppCcb.layerDown
  split <;> exact Or.inl rfl

theorem settles_pppMove (env : PppEnv) (tim : PppTimerId) (ev : PppEvent) (s : PppCcb) :
    Settles s (pppMove env tim ev s) := by
  have hup : Settles s ((s.setState s.cpId .sOpened).layerUp env) :=
    Or.inl (disconnects_layerUp env _)
  have hterm : Settles s (s.layerDown.setState s.cpId .sClosing) := by
    unfold PppCcb.layerDown
    split <;> exact Or.inl rfl
  cases ev
  case eUp =>
    show Settles s (s.upMove tim)
    unfold PppCcb.upMove
    split <;> exact Or.inl rfl
  case eDown => exact settles_downMove s tim
  case eOpen => exact settles_openMove s tim
  case eClose => exact settles_closeMove s tim
  case eRecvTerminateRequest =>
    cases hst : s.state s.cpId <;> simp only [pppMove, hst]
    case sOpened =>
      split
      · exact settles_layerDown s tim
      · exact hterm
    all_goals exact Or.inl rfl
  all_goals
    cases hst : s.state s.cpId <;> simp only [pppMove, hst] <;>
      first
        | exact settles_finishMove s tim
        | exact settles_giveUp s tim
        | exact settles_layerDown s tim
        | exact hup
        | exact Or.inl rfl

theorem settles_pppFsm (env : PppEnv) (tim : PppTimerId) (ev : PppEvent) (s : PppCcb) :
    Settles s (pppFsm env tim ev s).2 :=
  (settles_pppMove env tim ev s).of_core (pppFsm_move env tim ev s).core

theorem byeExit_eq (s : PppCcb) : byeExit s = s.ended := rfl

theorem settles_pppBye (env : PppEnv) (s : PppCcb) : Settles s (pppBye (pppFsm env) s) := by
  have hclose : ∀ t : PppCcb, t.disconnects = s.disconnects →
      Settles s (byeClose (pppFsm env) t) := by
    intro t ht
    rcases settles_pppFsm env .ppp .eClose
      (({ t with pppProcessing := true, cpId := .lcp }.setState .ipcp .sInit).setState .ipv6cp
        .sInit) with h | h
    · exact Or.inl (h.trans ht)
    · exact Or.inr h
  unfold pppBye
  simp only [byeExit_eq]
  split
  · exact settles_ended s _
  · split
    · exact settles_ended s _
    · split
      · exact hclose _ rfl
      · split
        · exact hclose _ rfl
        · exact settles_ended s _

theorem settles_openNcps (env : PppEnv) (s : PppCcb) :
    (openNcps env (pppFsm env) s).disconnects = s.disconnects := by
  have h := congrArg PppCcb.disconnects (core_openNcps env (s := s) rfl)
  exact h.trans (disconnects_openNcpsMove env s)

theorem settles_pppDisconnect (env : PppEnv) (s : PppCcb) : Settles s (pppDisconnect env s).2 := by
  unfold pppDisconnect
  split
  · exact Or.inl rfl
  · split
    · exact Or.inl rfl
    · exact settles_pppBye env s

theorem settles_pppTimerCb (env : PppEnv) (tim : PppTimerId) (s : PppCcb) (cb : PppTimerCb) :
    Settles s (pppTimerCb env tim s cb) := by
  rcases core_pppTimerCb env tim s cb with h | h
  · exact Settles.of_core (t := { s with cpId := cb.cp }) (Or.inl rfl) h
  · have hmove : Settles ({ s with cpId := cb.cp }.stopTimer tim) (pppTimerCb env tim s cb) :=
      (settles_pppMove env tim _ _).of_core h
    exact hmove.imp_left fun hd => hd.trans rfl

/-! ### Frames -/

theorem disconnects_of_outline {cp : PppCp} (h : s.outline cp = t.outline cp) :
    s.disconnects = t.disconnects := by
  have key : ∀ s : PppCcb, (s.outline cp).disconnects = s.disconnects := fun _ => rfl
  rw [← key s, h, key]

theorem select_disconnects (d : Decoded) (cp : PppCp) :
    (d.select cp).ccb.disconnects = d.ccb.disconnects := by
  unfold Decoded.select
  split <;> rfl

theorem disconnects_decodeLcp (tim : PppTimerId) (s : PppCcb) :
    (decodeLcp tim s).ccb.disconnects = s.disconnects := by
  have hspec := decodeLcp_spec tim s
  generalize decodeLcp tim s = d at hspec
  cases hspec with
  | fail h => exact disconnects_of_outline h
  | request hev hphase h => exact disconnects_of_outline h
  | ack hack h => exact (disconnects_of_outline h).trans rfl
  | termAck hcode h => exact (disconnects_of_outline h).trans rfl
  | noIpv6 h => exact (disconnects_of_outline h).trans rfl
  | other hev h => exact disconnects_of_outline h

theorem disconnects_decodeIpcp (tim : PppTimerId) (s : PppCcb) :
    (decodeIpcp tim s).ccb.disconnects = s.disconnects := by
  have hspec := decodeIpcp_spec tim s
  generalize decodeIpcp tim s = d at hspec
  cases hspec with
  | fail h => exact disconnects_of_outline h
  | failAck hack hopts h => exact (disconnects_of_outline h).trans rfl
  | ack hack h => exact (disconnects_of_outline h).trans rfl
  | termAck hcode h => exact (disconnects_of_outline h).trans rfl
  | other hev hreq h => exact disconnects_of_outline h

/-- A decoded frame ends a session only by closing LCP after a failed authentication, or by
closing IPV6CP, and what it leaves then is clean. -/
theorem settles_decodeIpv6cp (env : PppEnv) (tim : PppTimerId) (s : PppCcb) :
    (decodeIpv6cp env tim s).ccb.disconnects = s.disconnects ∨
      (decodeIpv6cp env tim s).status = .error ∧ Idle (decodeIpv6cp env tim s).ccb := by
  have hspec := decodeIpv6cp_spec env tim s
  generalize decodeIpv6cp env tim s = d at hspec
  cases hspec with
  | fail h => exact Or.inl (disconnects_of_outline h)
  | closed hcp h =>
      rcases settles_pppFsm env tim .eClose _ with hset | hset
      · exact Or.inl (hset.trans ((disconnects_of_outline h).trans rfl))
      · exact Or.inr ⟨rfl, hset⟩
  | ack hack h => exact Or.inl ((disconnects_of_outline h).trans rfl)
  | termAck hcode h => exact Or.inl ((disconnects_of_outline h).trans rfl)
  | other hev hreq h => exact Or.inl (disconnects_of_outline h)

theorem settles_decodePpp {payload : List (BitVec 8)} {r : Decoded}
    (hr : PppDecoded env payload s r) :
    r.ccb.disconnects = s.disconnects ∨ Idle r.ccb ∧ (r.status = .success → r.event = .eUnknown) := by
  cases hr with
  | ignored => exact Or.inl rfl
  | ipcpEarly hproto => exact Or.inl rfl
  | ipv6cpEarly hproto => exact Or.inl rfl
  | ipcp hfits hproto hphase =>
      exact Or.inl ((select_disconnects _ _).trans (disconnects_decodeIpcp _ _))
  | ipv6cp hfits hproto henabled hphase =>
      rcases settles_decodeIpv6cp env .pppIpv6cp (s.storeFrame .ipv6cp payload) with h | ⟨hst, h⟩
      · exact Or.inl ((select_disconnects _ _).trans h)
      · have hsel : (decodeIpv6cp env .pppIpv6cp (s.storeFrame .ipv6cp payload)).select .ipv6cp =
            decodeIpv6cp env .pppIpv6cp (s.storeFrame .ipv6cp payload) := by
          unfold Decoded.select
          rw [if_pos hst]
        rw [hsel, hst]
        exact Or.inr ⟨h, fun hok => absurd hok (by decide)⟩
  | lcp hfits hproto =>
      exact Or.inl ((select_disconnects _ _).trans (disconnects_decodeLcp _ _))
  | authStay hphase => exact Or.inl rfl
  | authResult hfits hproto hauth hphase => exact Or.inl rfl
  | papNak hphase =>
      rcases settles_pppFsm env .ppp .eClose (s.enterPhase lcpPhase) with h | h
      · exact Or.inl h
      · exact Or.inr ⟨h, fun _ => rfl⟩

@[simp] theorem state_cleanup (s : PppCcb) (cp : PppCp) :
    (codecCleanupPppCcb s).state cp = s.state cp := by
  cases cp <;> rfl

theorem idle_cleanup (h : Idle s) : Idle (codecCleanupPppCcb s) :=
  ⟨h.phase, ⟨h.torn.processing, h.torn.gates, h.torn.timers, h.torn.discovery,
    fun cp => (state_cleanup s cp).trans (h.torn.states cp)⟩, h.sessionId, h.ipv6cpUp⟩

theorem checkAuthResult_idle (h : Idle s) : checkAuthResult env s = (false, s) := by
  have hphase : s.phase ≠ authPhase := by
    intro heq
    have := h.phase
    rw [heq] at this
    exact absurd this (by decide)
  unfold checkAuthResult
  simp only
  rw [if_pos hphase]

theorem settles_checkAuthResult (env : PppEnv) (s : PppCcb) :
    Settles s (checkAuthResult env s).2 := by
  unfold checkAuthResult
  simp only
  split
  · exact Or.inl rfl
  · split
    · exact settles_pppFsm env .ppp .eClose { s with cpId := .lcp }
    · split
      · exact Or.inl (settles_openNcps env s)
      · exact Or.inl rfl

/-- An event the automaton does not know leaves a clean block clean. -/
theorem idle_pppFinish {r : Decoded} (h : Idle r.ccb) (hev : r.event = .eUnknown) :
    Idle (pppFinish env r) := by
  unfold pppFinish
  rw [checkAuthResult_idle h, hev, if_neg Bool.false_ne_true]
  refine idle_cleanup (idle_of_core h ?_)
  exact (pppFsm_move env _ .eUnknown r.ccb).core

theorem settles_pppFinish (env : PppEnv) (r : Decoded) : Settles r.ccb (pppFinish env r) := by
  unfold pppFinish
  split
  · exact settles_checkAuthResult env r.ccb
  · rename_i hdone
    -- a check that has not dealt with the frame has done nothing
    have hsame : (checkAuthResult env r.ccb).2 = r.ccb := by
      unfold checkAuthResult at hdone ⊢
      simp only at hdone ⊢
      split
      · rfl
      · split
        · simp_all
        · split
          · simp_all
          · rfl
    rw [hsame]
    rcases settles_pppFsm env (pppCpTimer r.ccb) r.event r.ccb with h | h
    · exact Or.inl h
    · exact Or.inr (idle_cleanup h)

/-! ### Steps -/

/-- The calls that go straight to `exit_ppp`: a forced disable, the removal of the subscriber,
and discovery that gives up. -/
def exitsDirectly (s : PppCcb) : PppLabel → Bool
  | .forceDisable => s.phase ≠ notConfigured
  | .disableCcb => true
  | .pppoeTimer => s.pppoe ≠ none ∧ s.pppoePhase.maxRetransmit ≤ s.pppoePhase.timerCounter
  | _ => false

/-- They find no teardown under way. -/
def ExitsFree (s : PppCcb) (l : PppLabel) : Prop :=
  exitsDirectly s l = true → s.pppProcessing = false

theorem exitPpp_free (h : s.pppProcessing = false) : s.exitPpp = s.ended := by
  unfold PppCcb.ended
  rw [← h]

theorem settles_recv (env : PppEnv) (pkt : List (BitVec 8)) (d : Dhcp6) (s : PppCcb) :
    Settles s (pppProcess env pkt d s).2 := by
  have hcame := pppProcess_handled env pkt d s
  generalize (pppProcess env pkt d s).2 = t at hcame
  cases hcame with
  | refused => exact Or.inl rfl
  | dhcp6 =>
      unfold dhcp6WanInput
      split <;> exact Or.inl rfl
  | discovery hlen hmax hdis =>
      have hphase : (discoveryPhase pkt s).disconnects = s.disconnects := by
        unfold discoveryPhase
        split <;> rfl
      unfold decodePppoe
      split
      · split
        · exact Or.inl hphase
        · exact Or.inl hphase
      · split
        · exact (settles_pppFsm env .ppp .eOpen _).imp_left fun h => h.trans hphase
        · split
          · exact (settles_pppBye env _).imp_left fun h => h.trans hphase
          · exact Or.inl hphase
  | failed hses hr hst => exact (settles_decodePpp hr).imp_right fun h => h.1
  | finished hses hr hst =>
      rcases settles_decodePpp hr with h | h
      · exact (settles_pppFinish env _).imp_left fun h' => h'.trans h
      · exact Or.inr (idle_pppFinish h.1 (h.2 hst))
  | idle => exact settles_pppFinish env (.ok .eUnknown s)

theorem idle_disable (h : Idle s) : Idle (pppInitConfigByUser false s) :=
  ⟨rfl, ⟨h.torn.processing, ⟨rfl, rfl, rfl⟩, ⟨rfl, rfl, rfl, rfl, rfl⟩, fun _ => rfl,
    fun cp => by cases cp <;> rfl⟩, h.sessionId, rfl⟩

/-- A step in which `exit_ppp` ran leaves a clean subscriber. -/
theorem step_settles (mac : BitVec 48) (hl : ExitsFree s l) : Settles s (pppStep mac s l) := by
  cases l with
  | connect =>
      show Settles s (pppConnect s).2
      unfold pppConnect
      split <;> exact Or.inl rfl
  | disconnect => exact settles_pppDisconnect _ s
  | forceDisable =>
      show Settles s (fastrgForceTerminateHsi s)
      unfold fastrgForceTerminateHsi
      by_cases hcfg : s.phase = notConfigured
      · rw [if_pos hcfg]
        exact Or.inl rfl
      · rw [if_neg hcfg, exitPpp_free (hl (by simp [exitsDirectly, hcfg]))]
        exact settles_ended s s
  | ipv6Changed =>
      simp only [pppStep]
      split
      · unfold pppIpv6Redial
        simp only
        split
        · exact settles_pppDisconnect _ { s with redialPending := true }
        · exact (settles_pppDisconnect ⟨mac, .success⟩ { s with redialPending := true }).imp id
            fun h => ⟨h.phase, ⟨h.torn.processing, h.torn.gates, h.torn.timers, h.torn.discovery,
              h.torn.states⟩, h.sessionId, h.ipv6cpUp⟩
      · exact Or.inl rfl
  | setIpv6Enable enable => exact Or.inl rfl
  | applyConfig isUpdate enable =>
      show Settles s (applyHsiConfig isUpdate enable s)
      unfold applyHsiConfig
      simp only
      split <;> exact Or.inl rfl
  | disableCcb =>
      show Settles s (pppInitConfigByUser false s.exitPpp)
      rw [exitPpp_free (hl rfl)]
      exact Or.inr (idle_disable (idle_ended s))
  | recv pkt dns d => exact settles_recv _ pkt d s
  | pppTimer =>
      simp only [pppStep]
      cases s.ppp with
      | none => exact Or.inl rfl
      | some cb => exact settles_pppTimerCb _ _ s cb
  | ipv6cpTimer =>
      simp only [pppStep]
      cases s.pppIpv6cp with
      | none => exact Or.inl rfl
      | some cb => exact settles_pppTimerCb _ _ s cb
  | pppoeTimer =>
      simp only [pppStep]
      by_cases harm : s.pppoe = none
      · rw [if_pos harm]
        exact Or.inl rfl
      · rw [if_neg harm]
        unfold pppoeTimerCb
        by_cases hmax : s.pppoePhase.maxRetransmit ≤ s.pppoePhase.timerCounter
        · rw [if_pos hmax, exitPpp_free (hl (by simp [exitsDirectly, harm, hmax]))]
          exact settles_ended s s
        · rw [if_neg hmax]
          exact Or.inl rfl
  | aliveTimer =>
      simp only [pppStep, pppKeepaliveCb]
      split
      · split
        · exact settles_pppBye _ s
        · exact Or.inl rfl
      · exact Or.inl rfl
  | dhcp6Timer d =>
      simp only [pppStep, dhcp6TimerCb]
      split
      · split <;> exact Or.inl rfl
      · exact Or.inl rfl

/-! ### Until the next dial -/

theorem idle_setIpv6Enable (h : Idle s) (enable : Bool) : Idle (setIpv6Enable enable s) := by
  refine ⟨h.phase, ⟨h.torn.processing, ⟨h.torn.gates.1, h.torn.gates.2.1, ?_⟩, h.torn.timers,
    h.torn.discovery, h.torn.states⟩, h.sessionId, h.ipv6cpUp⟩
  show (enable && s.ipv6cpUp && s.dhcp6PdReady) = false
  rw [h.ipv6cpUp]
  simp

theorem idle_config (h : Idle s) : Idle (pppInitConfigByUser true s) :=
  ⟨rfl, ⟨h.torn.processing, ⟨rfl, rfl, rfl⟩, ⟨rfl, rfl, rfl, rfl, rfl⟩, fun _ => rfl,
    fun cp => by cases cp <;> rfl⟩, h.sessionId, rfl⟩

theorem idlePhase_cases {phase : Nat} (h : idlePhase phase = true) :
    phase = endPhase ∨ phase = notConfigured := by
  simpa [idlePhase] using h

theorem idle_pppBye (h : Idle s) (env : PppEnv) : Idle (pppBye (pppFsm env) s) := by
  have hphase : (byeStop s).phase = s.phase := rfl
  unfold pppBye
  simp only [byeExit_eq, hphase]
  rcases idlePhase_cases h.phase with hend | hcfg
  · rw [if_pos hend]
    exact idle_ended _
  · rw [hcfg, if_neg (by decide), if_neg (by decide), if_neg (by decide), if_neg (by decide)]
    exact idle_ended _

/-- Of the frames, only a PADS gets a clean subscriber out of its idle phase. -/
theorem idle_recv (h : Idle s) (env : PppEnv) (pkt : List (BitVec 8)) (d : Dhcp6)
    (hphase : idlePhase (pppProcess env pkt d s).2.phase = true) :
    Idle (pppProcess env pkt d s).2 := by
  have hcame := pppProcess_handled env pkt d s
  generalize (pppProcess env pkt d s).2 = t at hcame hphase
  cases hcame with
  | refused => exact h
  | dhcp6 =>
      unfold dhcp6WanInput
      rw [h.ipv6cpUp]
      simpa using h
  | discovery hlen hmax hdis =>
      by_cases hpads : framePppoeCode pkt = padsCode
      · -- LCP is opened, so this is the start of a session
        have hmove : (padsBlock pkt s).openMove .ppp = (padsBlock pkt s).restart .ppp := by
          have hst : (padsBlock pkt s).state (padsBlock pkt s).cpId = .sInit := h.torn.states .lcp
          unfold PppCcb.openMove
          rw [hst]
        have hcall := decodePppoe_pads hpads env s
        rw [hmove] at hcall
        have hlcp : (decodePppoe env pkt (discoveryPhase pkt s)).phase = lcpPhase :=
          congrArg PppCcb.phase hcall
        rw [hlcp] at hphase
        exact absurd hphase (by decide)
      · have hsame : discoveryPhase pkt s = s := by
          unfold discoveryPhase
          rw [if_neg hpads]
        rw [hsame]
        unfold decodePppoe
        by_cases hpado : framePppoeCode pkt = padoCode
        · rw [if_pos hpado]
          split
          · exact h
          · exact ⟨h.phase, ⟨h.torn.processing, h.torn.gates, h.torn.timers, by simp,
              h.torn.states⟩, h.sessionId, h.ipv6cpUp⟩
        · rw [if_neg hpado, if_neg hpads]
          split
          · unfold recvPadt pppBye
            simp only [byeExit_eq]
            exact idle_ended _
          · exact h
  | failed hses hr hst => exact absurd h.sessionId hses.live
  | finished hses hr hst => exact absurd h.sessionId hses.live
  | idle => exact idle_pppFinish h rfl

/-- A step that dials nothing leaves a clean subscriber clean. -/
theorem idle_step (h : Idle s) (hphase : idlePhase (pppStep mac s l).phase = true) :
    Idle (pppStep mac s l) := by
  have hfree : s.exitPpp = s.ended := exitPpp_free h.torn.processing
  obtain ⟨hppp, h6, halive, hdhcp, -⟩ := h.torn.timers
  cases l with
  | connect =>
      have hstep : pppStep mac s .connect = (pppConnect s).2 := rfl
      rw [hstep] at hphase ⊢
      unfold pppConnect at hphase ⊢
      by_cases hend : endPhase < s.phase
      · rw [if_pos hend]
        exact h
      · rw [if_neg hend] at hphase
        have hdial : idlePhase pppoePhase = true := hphase
        exact absurd hdial (by decide)
  | disconnect =>
      show Idle (pppDisconnect _ s).2
      unfold pppDisconnect
      split
      · exact h
      · split
        · exact h
        · exact idle_pppBye h _
  | forceDisable =>
      show Idle (fastrgForceTerminateHsi s)
      unfold fastrgForceTerminateHsi
      rw [hfree]
      split
      · exact h
      · exact idle_ended s
  | ipv6Changed =>
      have hdata : isPppIpv6NeedRedial s.phase s.pppProcessing = false := by
        rcases idlePhase_cases h.phase with heq | heq <;> rw [heq] <;> rfl
      simp only [pppStep, hdata]
      exact h
  | setIpv6Enable enable => exact idle_setIpv6Enable h enable
  | applyConfig isUpdate enable =>
      show Idle (applyHsiConfig isUpdate enable s)
      unfold applyHsiConfig
      simp only
      split
      · exact idle_setIpv6Enable (idle_config h) enable
      · exact idle_setIpv6Enable h enable
  | disableCcb =>
      show Idle (pppInitConfigByUser false s.exitPpp)
      rw [hfree]
      exact idle_disable (idle_ended s)
  | recv pkt dns d => exact idle_recv h _ pkt d hphase
  | pppTimer =>
      simp only [pppStep, hppp]
      exact h
  | ipv6cpTimer =>
      simp only [pppStep, h6]
      exact h
  | pppoeTimer =>
      simp only [pppStep, pppoeTimerCb, hfree]
      split
      · exact h
      · split
        · exact idle_ended s
        · exact ⟨h.phase, ⟨h.torn.processing, h.torn.gates, h.torn.timers, h.torn.discovery,
            h.torn.states⟩, h.sessionId, h.ipv6cpUp⟩
  | aliveTimer =>
      simp only [pppStep, halive]
      exact h
  | dhcp6Timer d =>
      simp only [pppStep, hdhcp]
      exact h

/-! ### Whole runs -/

/-- A step, and whether `exit_ppp` has run with nothing dialled since. -/
def exitStep (mac : BitVec 48) (p : PppCcb × Bool) (l : PppLabel) : PppCcb × Bool :=
  (pppStep mac p.1 l, decide (p.1.disconnects < (pppStep mac p.1 l).disconnects) ||
    p.2 && idlePhase (pppStep mac p.1 l).phase)

theorem exitStep_idle {p : PppCcb × Bool} (hp : p.2 = true → Idle p.1) (hl : ExitsFree p.1 l)
    (h : (exitStep mac p l).2 = true) : Idle (exitStep mac p l).1 := by
  simp only [exitStep, Bool.or_eq_true, decide_eq_true_eq, Bool.and_eq_true] at h
  rcases h with hexit | ⟨hafter, hphase⟩
  · rcases step_settles mac hl with hsame | hidle
    · omega
    · exact hidle
  · exact idle_step (hp hafter) hphase

/--
**A session that has ended can be dialled again.**  In every run in which a forced disable, the
removal of a subscriber and discovery that gives up find no teardown under way: whenever the
phase is `END_PHASE` after `exit_ppp`, nothing of the session is left, and a connect and the
disconnect after it are accepted.
-/
theorem teardown_redialable {rand : Nat → BitVec 32} {ls : List PppLabel} {p : PppCcb × Bool}
    (hrun : Run (exitStep mac) (fun p l => ExitsFree p.1 l) (pppInit rand, false) ls p)
    (hexit : p.2 = true) (hend : p.1.phase = endPhase) : TornDown p.1 ∧ Redials mac p.1 := by
  have hidle : Idle p.1 :=
    Run.inv (fun p => p.2 = true → Idle p.1) (fun p l hp hl => exitStep_idle hp hl) hrun
      (fun h => absurd h Bool.false_ne_true) hexit
  exact ⟨hidle.torn, hidle.torn.redials hend mac⟩

/-- The block and the flag a run of labels leads to, as in `runOf`. -/
def exitRunOf (ls : List PppLabel) : PppCcb × Bool :=
  ls.foldl (exitStep 1) (pppInit fun _ => 0, false)

/-- The steps that may go straight to `exit_ppp`. -/
def PppLabel.direct : PppLabel → Bool
  | .forceDisable | .disableCcb | .pppoeTimer => true
  | _ => false

theorem exitsFree_of_not_direct (h : l.direct = false) (s : PppCcb) : ExitsFree s l := by
  intro hexit
  cases l <;> first | exact absurd h (by decide) | exact absurd hexit Bool.false_ne_true

theorem run_exitRunOf {guard : PppCcb × Bool → PppLabel → Prop} (ls : List PppLabel)
    (h : ∀ p, ∀ l ∈ ls, guard p l) :
    Run (exitStep 1) guard (pppInit fun _ => 0, false) ls (exitRunOf ls) :=
  Run.of_labels _ ls h

/-- A disconnect that the peer confirms: the subscriber is clean and can dial again. -/
theorem teardown_after_disconnect :
    TornDown (exitRunOf (ncpRun ++ [.disconnect, recvPpp lcpProtocol 6 2 []])).1 ∧
      Redials 1 (exitRunOf (ncpRun ++ [.disconnect, recvPpp lcpProtocol 6 2 []])).1 := by
  have hdirect : ∀ l ∈ ncpRun ++ [PppLabel.disconnect, recvPpp lcpProtocol 6 2 []],
      l.direct = false := by decide
  exact teardown_redialable
    (run_exitRunOf _ fun p l hl => exitsFree_of_not_direct (hdirect l hl) p.1)
    (by decide) (by decide)

/-- A disconnect while the network protocols are negotiated, and a forced disable on top. -/
def forcedRun : List PppLabel := ncpRun ++ [.disconnect, .forceDisable]

/-- A forced disable while a disconnect is under way: the session ends with `ppp_processing`
still set. -/
theorem forced_disable_keeps_processing :
    ¬ ∀ (mac : BitVec 48) (rand : Nat → BitVec 32) (ls : List PppLabel) (p : PppCcb × Bool),
      Run (exitStep mac) (fun _ _ => True) (pppInit rand, false) ls p →
        p.2 = true → p.1.phase = endPhase → TornDown p.1 ∧ Redials mac p.1 := by
  intro h
  have hrun : Run (exitStep 1) (fun _ _ => True) (pppInit fun _ => 0, false) forcedRun
      (exitRunOf forcedRun) := run_exitRunOf forcedRun fun _ _ _ => trivial
  have hforced := h 1 (fun _ => 0) forcedRun (exitRunOf forcedRun) hrun (by decide)
    (by decide)
  exact absurd hforced.1.processing (by decide)

end FastRG
