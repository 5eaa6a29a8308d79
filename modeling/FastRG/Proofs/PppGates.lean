/-
The gates of a session.

`dp_start_bool` lets the data plane read what a session has negotiated, and `ppp_bool` tells that a
dial is under way.  A call of the automaton ends the session, or it leaves both gates alone and
shuts the first unless nothing the gates stand for has changed; only IPCP coming up opens it.
-/
import FastRG.Proofs.PppConfigured

namespace FastRG

variable {env : PppEnv} {tim : PppTimerId} {s t u : PppCcb} {ev : PppEvent}

/-- What the gates stand for. -/
structure PppGates where
  phase : Nat
  lcp : PppState
  ipcp : PppState
  sessionId : BitVec 16
  hsiIpv4 : BitVec 32
  dpStartBool : Bool
  pppBool : Bool

def PppCcb.gates (s : PppCcb) : PppGates :=
  ⟨s.phase, s.state .lcp, s.state .ipcp, s.sessionId, s.params.hsiIpv4, s.dpStartBool, s.pppBool⟩

namespace PppGates

variable {v w x : PppGates}

/-- One automaton in another state. -/
def set (v : PppGates) : PppCp → PppState → PppGates
  | .lcp, st => { v with lcp := st }
  | .ipcp, st => { v with ipcp := st }
  | .ipv6cp, _ => v

/-- Nothing is above an LCP that is not open. -/
def Above (v : PppGates) : Prop := v.ipcp ≠ .sInit → v.lcp = .sOpened

/-- Our request of IPCP was acknowledged. -/
def acked (v : PppGates) : Bool :=
  match v.ipcp with
  | .sAckReceived | .sOpened => true
  | _ => false

/-- There is an address once our request was acknowledged. -/
def Addressed (v : PppGates) : Prop := v.acked = true → v.hsiIpv4 ≠ 0

/-- The gate is open for automata that are. -/
def Opened (v : PppGates) : Prop := v.dpStartBool = true → v.lcp = .sOpened ∧ v.ipcp = .sOpened

/-- The session goes on, and the gate of the data plane is shut unless nothing has changed. -/
structure Kept (v w : PppGates) : Prop where
  pppBool : w.pppBool = v.pppBool
  sessionId : w.sessionId = v.sessionId
  hsiIpv4 : w.hsiIpv4 = v.hsiIpv4
  phase : v.phase ≤ dataPhase → w.phase ≤ dataPhase
  gate : w.dpStartBool = false ∨ w = v
  above : v.Above → w.Above
  addressed : v.Addressed → w.Addressed

theorem Kept.refl (v : PppGates) : Kept v v := ⟨rfl, rfl, rfl, id, Or.inr rfl, id, id⟩

theorem Kept.trans (h : Kept v w) (h' : Kept w x) : Kept v x := by
  refine ⟨h'.pppBool.trans h.pppBool, h'.sessionId.trans h.sessionId, h'.hsiIpv4.trans h.hsiIpv4,
    h'.phase ∘ h.phase, ?_, h'.above ∘ h.above, h'.addressed ∘ h.addressed⟩
  rcases h'.gate with hshut | rfl
  · exact Or.inl hshut
  · exact h.gate

theorem Kept.opened (h : Kept v w) (hv : v.Opened) : w.Opened := by
  intro hopen
  rcases h.gate with hshut | rfl
  · rw [hshut] at hopen
    cases hopen
  · exact hv hopen

/-- An automaton that was not open goes to another state, and the phase may change with it. -/
theorem kept_set (hv : v.Opened) (cp : PppCp) (st : PppState) (phase : Nat)
    (hlcp : cp = .lcp → v.lcp ≠ .sOpened) (hipcp : cp = .ipcp → v.ipcp ≠ .sOpened)
    (hphase : v.phase ≤ dataPhase → phase ≤ dataPhase) (h6 : cp = .ipv6cp → phase = v.phase)
    (habove : cp = .ipcp → v.ipcp ≠ .sInit ∨ v.lcp = .sOpened)
    (hacked : cp = .ipcp → st = .sAckReceived ∨ st = .sOpened → v.hsiIpv4 ≠ 0) :
    Kept v { v.set cp st with phase := phase } := by
  cases cp with
  | lcp =>
      have hne := hlcp rfl
      have hshut : v.dpStartBool = false := Bool.eq_false_iff.mpr fun ho => hne (hv ho).1
      refine ⟨rfl, rfl, rfl, hphase, Or.inl hshut, ?_, id⟩
      intro h hw
      exact absurd (h hw) hne
  | ipcp =>
      have hne := hipcp rfl
      have hshut : v.dpStartBool = false := Bool.eq_false_iff.mpr fun ho => hne (hv ho).2
      refine ⟨rfl, rfl, rfl, hphase, Or.inl hshut, ?_, ?_⟩
      · intro h _
        rcases habove rfl with hi | hl
        · exact h hi
        · exact hl
      · intro _ hw
        refine hacked rfl ?_
        have hw' : acked { v with ipcp := st } = true := hw
        unfold acked at hw'
        cases st <;> simp at hw' ⊢
  | ipv6cp =>
      have hsame : ({ v.set .ipv6cp st with phase := phase } : PppGates) = v := by
        rw [h6 rfl]
        rfl
      rw [hsame]
      exact Kept.refl v

/-- LCP goes down, and IPCP with it. -/
theorem kept_lcpDown (v : PppGates) (st : PppState) (phase : Nat)
    (hphase : v.phase ≤ dataPhase → phase ≤ dataPhase) :
    Kept v { v with phase := phase, lcp := st, ipcp := .sInit, dpStartBool := false } :=
  ⟨rfl, rfl, rfl, hphase, Or.inl rfl, fun _ h => absurd rfl h, fun _ h => by cases h⟩

/-- IPCP goes down by itself. -/
theorem kept_ipcpDown (v : PppGates) (st : PppState) (hst : st = .sInit ∨ v.ipcp ≠ .sInit)
    (hacked : st ≠ .sAckReceived ∧ st ≠ .sOpened) :
    Kept v { v with ipcp := st, dpStartBool := false } := by
  refine ⟨rfl, rfl, rfl, id, Or.inl rfl, ?_, ?_⟩
  · intro h hw
    rcases hst with rfl | hi
    · exact absurd rfl hw
    · exact h hi
  · intro _ hw
    have hw' : acked { v with ipcp := st } = true := hw
    unfold acked at hw'
    cases st <;> simp at hw' hacked

/-- The gate of the data plane is shut already, so only the phase changes. -/
theorem kept_phase (hshut : v.dpStartBool = false) (phase : Nat) (hphase : phase ≤ dataPhase) :
    Kept v { v with phase := phase } :=
  ⟨rfl, rfl, rfl, fun _ => hphase, Or.inl hshut, id, id⟩

/-- A session that is over. -/
def finished : PppGates := ⟨endPhase, .sInit, .sInit, 0, 0, false, false⟩

/-- The session ends, or it goes on and nothing has opened the gate. -/
inductive Shuts (v w : PppGates) : Prop
  | finished (h : w = .finished)
  | kept (h : Kept v w)

/-- IPCP has come up. -/
structure Up (v w : PppGates) : Prop where
  gates : w = { v with phase := dataPhase, ipcp := .sOpened, dpStartBool := true }
  above : v.ipcp ≠ .sInit
  addressed : v.hsiIpv4 ≠ 0

theorem Kept.shuts (h : Kept v w) (h' : Shuts w x) : Shuts v x := by
  cases h' with
  | finished hx => exact .finished hx
  | kept hx => exact .kept (h.trans hx)

end PppGates

open PppGates (Kept Shuts)

theorem gates_of_core (h : s.core = t.core) : s.gates = t.gates := by
  have key : ∀ s : PppCcb, s.gates = s.core.gates := by
    intro s
    rw [PppCcb.gates, PppCcb.gates, state_core, state_core]
    rfl
  rw [key s, h, ← key t]

theorem gates_setState (s : PppCcb) (cp : PppCp) (st : PppState) :
    (s.setState cp st).gates = s.gates.set cp st := by
  cases cp <;> rfl

theorem gates_armTimer (s : PppCcb) (cb : PppTimerCb) (tim : PppTimerId) :
    (s.armTimer cb tim).gates = s.gates := by
  cases tim <;> rfl

theorem gates_restart (s : PppCcb) (tim : PppTimerId) :
    (s.restart tim).gates = s.gates.set s.cpId .sRequestSent := by
  unfold PppCcb.restart
  rw [gates_armTimer, gates_setState]

theorem gates_terminate (s : PppCcb) (tim : PppTimerId) :
    (s.terminate tim).gates = s.gates.set s.cpId .sClosing := by
  unfold PppCcb.terminate
  rw [gates_armTimer, gates_setState]

/-! ### The moves that open nothing -/

/-- The automaton of the current protocol, which was not open, goes to another state. -/
theorem kept_move (hs : s.gates.Opened) {st : PppState} (hne : s.state s.cpId ≠ .sOpened)
    (habove : s.cpId = .ipcp → s.state .ipcp ≠ .sInit ∨ s.state .lcp = .sOpened)
    (hacked : s.cpId = .ipcp → st = .sAckReceived ∨ st = .sOpened → s.params.hsiIpv4 ≠ 0)
    (hg : t.gates = s.gates.set s.cpId st) : Kept s.gates t.gates := by
  have hk := PppGates.kept_set hs s.cpId st s.phase (fun h => by rw [h] at hne; exact hne)
    (fun h => by rw [h] at hne; exact hne) id (fun _ => rfl) habove hacked
  have hphase : ({ s.gates.set s.cpId st with phase := s.phase } : PppGates) = t.gates := by
    rw [hg]
    cases s.cpId <;> rfl
  rw [hphase] at hk
  exact hk

/-- An automaton that is neither open nor at its start goes to a state in which nothing is
acknowledged. -/
theorem kept_among (hs : s.gates.Opened) (st : PppState) (hne : s.state s.cpId ≠ .sOpened)
    (hni : s.state s.cpId ≠ .sInit) (hst : st ≠ .sAckReceived ∧ st ≠ .sOpened)
    (hg : t.gates = s.gates.set s.cpId st) : Kept s.gates t.gates := by
  refine kept_move hs hne (fun hcp => Or.inl (hcp ▸ hni)) ?_ hg
  intro _ hst'
  rcases hst' with h | h
  · exact absurd h hst.1
  · exact absurd h hst.2

/-- A layer that was open goes down and closes. -/
theorem kept_layerDown (s : PppCcb) (tim : PppTimerId) (hopen : s.state s.cpId = .sOpened) :
    Kept s.gates (s.layerDown.terminate tim).gates := by
  unfold PppCcb.layerDown
  cases hcp : s.cpId with
  | lcp =>
      have hg : (s.lcpDown.terminate tim).gates =
          { s.gates with phase := s.phase, lcp := .sClosing, ipcp := .sInit, dpStartBool := false } := by
        rw [gates_terminate, show s.lcpDown.cpId = s.cpId from rfl, hcp]
        rfl
      rw [hg]
      exact PppGates.kept_lcpDown _ _ _ id
  | ipcp =>
      have hg : (s.shutGate.terminate tim).gates =
          { s.gates with ipcp := .sClosing, dpStartBool := false } := by
        rw [gates_terminate, show s.shutGate.cpId = s.cpId from rfl, hcp]
        rfl
      rw [hg]
      refine PppGates.kept_ipcpDown _ .sClosing (Or.inr ?_) (by decide)
      rw [hcp] at hopen
      show s.state .ipcp ≠ .sInit
      rw [hopen]
      decide
  | ipv6cp =>
      have hg : (s.ipv6Down.terminate tim).gates = s.gates := by
        rw [gates_terminate, show s.ipv6Down.cpId = s.cpId from rfl, hcp]
        rfl
      rw [hg]
      exact .refl _

/-- A network protocol that is asked to terminate. -/
theorem kept_terminated (s : PppCcb) (hopen : s.state s.cpId = .sOpened) (hcp : s.cpId ≠ .lcp) :
    Kept s.gates (s.layerDown.setState s.cpId .sClosing).gates := by
  unfold PppCcb.layerDown
  cases hcp' : s.cpId with
  | lcp => exact absurd hcp' hcp
  | ipcp =>
      refine PppGates.kept_ipcpDown s.gates .sClosing (Or.inr ?_) (by decide)
      rw [hcp'] at hopen
      show s.state .ipcp ≠ .sInit
      rw [hopen]
      decide
  | ipv6cp => exact .refl _

/-- A Close. -/
theorem shuts_closeMove (hs : s.gates.Opened) (tim : PppTimerId) :
    Shuts s.gates (s.closeMove tim).gates := by
  have hset : ∀ st : PppState, s.state s.cpId ≠ .sOpened → s.state s.cpId ≠ .sInit →
      st ≠ .sAckReceived ∧ st ≠ .sOpened → Shuts s.gates (s.setState s.cpId st).gates := by
    intro st hne hni hst
    exact .kept (kept_among hs st hne hni hst (gates_setState s s.cpId st))
  have hterm : s.state s.cpId ≠ .sOpened → s.state s.cpId ≠ .sInit →
      Shuts s.gates (s.terminate tim).gates := by
    intro hne hni
    exact .kept (kept_among hs .sClosing hne hni (by decide) (gates_terminate s tim))
  unfold PppCcb.closeMove
  cases hst : s.state s.cpId with
  | sInit => exact .kept (.refl _)
  | sStarting =>
      dsimp only
      by_cases hl : s.cpId = .lcp
      · rw [if_pos hl]
        exact .finished rfl
      rw [if_neg hl]
      by_cases h6 : s.cpId = .ipv6cp
      · rw [if_pos h6]
        exact .kept (.refl _)
      rw [if_neg h6]
      exact hset .sInit (by rw [hst]; decide) (by rw [hst]; decide) (by decide)
  | sClosed => exact .kept (.refl _)
  | sStopped =>
      dsimp only
      by_cases hl : s.cpId = .lcp
      · rw [if_pos hl]
        exact .finished rfl
      rw [if_neg hl]
      exact hset .sClosed (by rw [hst]; decide) (by rw [hst]; decide) (by decide)
  | sClosing => exact .kept (.refl _)
  | sStopping => exact hset .sClosing (by rw [hst]; decide) (by rw [hst]; decide) (by decide)
  | sRequestSent => exact hterm (by rw [hst]; decide) (by rw [hst]; decide)
  | sAckReceived => exact hterm (by rw [hst]; decide) (by rw [hst]; decide)
  | sAckSent => exact hterm (by rw [hst]; decide) (by rw [hst]; decide)
  | sOpened => exact .kept (kept_layerDown s tim hst)

/-- A layer that has finished, which was not open any more. -/
theorem shuts_finishMove (hs : s.gates.Opened) (tim : PppTimerId) (hne : s.state s.cpId ≠ .sOpened)
    (hni : s.state s.cpId ≠ .sInit) : Shuts s.gates (s.finishMove tim).gates := by
  unfold PppCcb.finishMove
  cases hcp : s.cpId with
  | lcp => exact .finished rfl
  | ipv6cp =>
      have hstop : (s.setState .ipv6cp .sInit).closeLower tim =
          (s.setState .ipv6cp .sInit).ipv6cpStop := by
        rw [PppCcb.closeLower, if_pos (show (s.setState .ipv6cp .sInit).cpId = .ipv6cp from hcp)]
      rw [if_neg (by decide), hstop]
      exact .kept (.refl _)
  | ipcp =>
      rw [hcp] at hne hni
      have hdown := PppGates.kept_set hs .ipcp .sInit (pppPhaseRollback s.phase)
        (fun h => by cases h) (fun _ => hne) (Nat.le_trans (pppPhaseRollback_le s.phase))
        (fun h => by cases h) (fun _ => Or.inl hni)
        (fun _ h => by rcases h with h | h <;> cases h)
      have hclose : (s.setState .ipcp .sInit).closeLower tim = PppCcb.closeMove tim
          { s.setState .ipcp .sInit with
              cpId := .lcp, phase := pppPhaseRollback s.phase, pppAlive := false } := by
        rw [PppCcb.closeLower, if_neg (show (s.setState .ipcp .sInit).cpId ≠ .ipv6cp from
          fun h => by rw [show (s.setState .ipcp .sInit).cpId = s.cpId from rfl, hcp] at h; cases h)]
        rfl
      rw [if_neg (by decide), hclose]
      have hlower : ({ s.setState .ipcp .sInit with
          cpId := .lcp, phase := pppPhaseRollback s.phase, pppAlive := false } : PppCcb).gates.Opened :=
        hdown.opened hs
      exact hdown.shuts (shuts_closeMove hlower tim)

/-- A layer that gives up. -/
theorem shuts_giveUp (hs : s.gates.Opened) (tim : PppTimerId) (hne : s.state s.cpId ≠ .sOpened)
    (hni : s.state s.cpId ≠ .sInit) : Shuts s.gates (s.giveUp tim).gates := by
  unfold PppCcb.giveUp
  by_cases h6 : s.cpId = .ipv6cp
  · rw [if_pos h6]
    exact .kept (.refl _)
  · rw [if_neg h6]
    exact .kept (kept_among hs .sRequestSent hne hni (by decide) (gates_restart s tim))

/-! ### Opening a layer -/

/-- LCP is opened. -/
theorem shuts_openLcp (hs : s.gates.Opened) (tim : PppTimerId) (hcp : s.cpId = .lcp) :
    Shuts s.gates (s.openMove tim).gates := by
  have hset : ∀ (t : PppCcb) (st : PppState), s.state s.cpId ≠ .sOpened →
      t.gates = s.gates.set s.cpId st → Shuts s.gates t.gates := by
    intro t st hne hg
    refine .kept (kept_move hs hne ?_ ?_ hg)
    · intro h
      rw [hcp] at h
      cases h
    · intro h
      rw [hcp] at h
      cases h
  unfold PppCcb.openMove
  split
  case h_6 =>
    rw [PppCcb.dropMove, if_pos hcp]
    exact .finished rfl
  case h_7 => exact .kept (.refl _)
  case h_4 hst => exact hset _ .sStarting (by rw [hst]; decide) (gates_setState _ _ _)
  case h_5 hst => exact hset _ .sStarting (by rw [hst]; decide) (gates_setState _ _ _)
  all_goals
    rename_i hst
    exact hset _ .sRequestSent (by rw [hst]; decide) (gates_restart _ _)

/-- IPCP is opened over an open LCP, and a phase is entered for it. -/
theorem kept_openIpcp (hs : s.gates.Opened) (hl : s.state .lcp = .sOpened) (tim : PppTimerId)
    (phase : Nat) (hphase : s.phase ≤ dataPhase → phase ≤ dataPhase) :
    Kept s.gates (PppCcb.openMove tim { s with cpId := .ipcp, phase := phase }).gates := by
  have hset : ∀ (t : PppCcb) (st : PppState), s.state .ipcp ≠ .sOpened →
      st ≠ .sAckReceived ∧ st ≠ .sOpened →
      t.gates = { s.gates.set .ipcp st with phase := phase } → Kept s.gates t.gates := by
    intro t st hne hst hg
    rw [hg]
    refine PppGates.kept_set hs .ipcp st phase (fun h => by cases h) (fun _ => hne) hphase
      (fun h => by cases h) (fun _ => Or.inr hl) ?_
    intro _ hst'
    rcases hst' with h | h
    · exact absurd h hst.1
    · exact absurd h hst.2
  have hstart : ∀ st : PppState, s.state .ipcp = st → st ≠ .sOpened →
      Kept s.gates (PppCcb.restart tim { s with cpId := .ipcp, phase := phase }).gates := by
    intro st hst hne
    exact hset _ .sRequestSent (by rw [hst]; exact hne) (by decide) (gates_restart _ _)
  unfold PppCcb.openMove
  split
  case h_1 hst => exact hstart _ hst (by decide)
  case h_2 hst => exact hstart _ hst (by decide)
  case h_3 hst => exact hstart _ hst (by decide)
  case h_4 hst =>
    exact hset _ .sStarting (by rw [show s.state .ipcp = _ from hst]; decide) (by decide) rfl
  case h_5 hst =>
    exact hset _ .sStarting (by rw [show s.state .ipcp = _ from hst]; decide) (by decide) rfl
  case h_6 => exact ⟨rfl, rfl, rfl, hphase, Or.inl rfl, fun _ h => absurd rfl h, fun _ h => by cases h⟩
  case h_7 =>
    rename_i hne
    have hshut : s.dpStartBool = false := Bool.eq_false_iff.mpr fun ho => hne (hs ho).2
    exact ⟨rfl, rfl, rfl, hphase, Or.inl hshut, id, id⟩

theorem gates_openIpv6cp (tim : PppTimerId) (h6 : s.cpId = .ipv6cp) :
    (s.openMove tim).gates = s.gates := by
  have hset : ∀ st, (s.setState s.cpId st).gates = s.gates := by
    intro st
    rw [gates_setState, h6]
    rfl
  have hstart : (s.restart tim).gates = s.gates := by
    rw [gates_restart, h6]
    rfl
  unfold PppCcb.openMove
  split
  case h_6 =>
    rw [PppCcb.dropMove, if_neg (by rw [h6]; decide), if_pos h6]
    rfl
  case h_7 => rfl
  case h_4 => exact hset _
  case h_5 => exact hset _
  all_goals exact hstart

/-- The network protocols are opened over an open LCP. -/
theorem kept_openNcps (env : PppEnv) (hs : s.gates.Opened) (hl : s.state .lcp = .sOpened) :
    Kept s.gates (s.openNcpsMove env).gates := by
  have hipcp := kept_openIpcp hs hl .ppp ipcpPhase (fun _ => by decide)
  have hiid : ∀ t : PppCcb, (t.ipv6cpIidInit env).gates = t.gates := by
    intro t
    unfold PppCcb.ipv6cpIidInit
    split <;> rfl
  unfold PppCcb.openNcpsMove
  simp only
  split
  · rw [gates_openIpv6cp _ rfl]
    exact (hiid _).symm ▸ hipcp
  · exact hipcp

/-! ### A layer comes up -/

/-- What becomes of the gates at a call of the automaton. -/
abbrev Gated (v w : PppGates) : Prop := Shuts v w ∨ PppGates.Up v w

/-- LCP comes up, which was not open. -/
theorem kept_lcpUp (env : PppEnv) (hs : s.gates.Opened) (hcp : s.cpId = .lcp)
    (hne : s.state .lcp ≠ .sOpened) :
    Kept s.gates ((s.setState .lcp .sOpened).lcpUpMove env).gates := by
  have hup : Kept s.gates (s.setState .lcp .sOpened).gates := by
    have hg : (s.setState .lcp .sOpened).gates = s.gates.set s.cpId .sOpened := by
      rw [hcp]
      exact gates_setState s .lcp .sOpened
    refine kept_move hs (hcp ▸ hne) (fun h => ?_) (fun h => ?_) hg
    · rw [hcp] at h
      cases h
    · rw [hcp] at h
      cases h
  have hshut : (s.setState .lcp .sOpened).dpStartBool = false :=
    Bool.eq_false_iff.mpr fun ho => hne (hs ho).1
  unfold PppCcb.lcpUpMove
  simp only
  split
  · exact hup.trans (kept_openNcps (s := (s.setState .lcp .sOpened).startKeepalive) env
      (hup.opened hs) rfl)
  · split
    · exact hup.trans (PppGates.kept_phase hshut authPhase (by decide))
    · exact hup

/-- The current layer comes up, which was not open. -/
theorem gated_layerUp (env : PppEnv) (hs : s.gates.Opened) (hslot : Slotted s)
    (hne : s.state s.cpId ≠ .sOpened) (hni : s.state s.cpId ≠ .sInit)
    (haddr : s.cpId = .ipcp → s.params.hsiIpv4 ≠ 0) :
    Gated s.gates ((s.setState s.cpId .sOpened).layerUp env).gates := by
  have hopen : Kept s.gates (s.setState s.cpId .sOpened).gates :=
    kept_move hs hne (fun hcp => Or.inl (hcp ▸ hni)) (fun hcp _ => haddr hcp)
      (gates_setState s s.cpId .sOpened)
  have hproto : ((s.setState s.cpId .sOpened).controlProtocol.get s.cpId).pppProtocol =
      s.protos.get s.cpId := by
    cases s.cpId <;> rfl
  have hin := hslot s.cpId
  unfold PppCcb.layerUp
  simp only [show (s.setState s.cpId .sOpened).cpId = s.cpId from rfl, hproto]
  by_cases hl : s.protos.get s.cpId = lcpProtocol
  · rw [if_pos hl]
    -- only the slot of LCP holds a frame of LCP
    have hcp : s.cpId = .lcp := by
      rw [hl] at hin
      cases hcp : s.cpId with
      | lcp => rfl
      | ipcp => rw [hcp] at hin; exact absurd hin (by decide)
      | ipv6cp => rw [hcp] at hin; exact absurd hin (by decide)
    rw [hcp] at hne ⊢
    exact Or.inl (.kept (kept_lcpUp env hs hcp hne))
  rw [if_neg hl]
  by_cases hi : s.protos.get s.cpId = ipcpProtocol
  · rw [if_pos hi]
    have hcp : s.cpId = .ipcp := by
      rw [hi] at hin
      cases hcp : s.cpId with
      | lcp => rw [hcp] at hin; exact absurd hin (by decide)
      | ipcp => rfl
      | ipv6cp => rw [hcp] at hin; exact absurd hin (by decide)
    rw [hcp] at hni ⊢
    exact Or.inr ⟨rfl, hni, haddr hcp⟩
  rw [if_neg hi]
  split
  · have hg : ∀ t : PppCcb, (ipv6cpLayerUp t).gates = t.gates := by
      intro t
      unfold ipv6cpLayerUp PppCcb.dhcp6PdStart
      split <;> rfl
    rw [hg]
    exact Or.inl (.kept hopen)
  · exact Or.inl (.kept hopen)

/-! ### The automaton -/

/-- What a call relies on: the gate is open for automata that are, the slots hold frames of their
own protocols, and IPCP is opened or acknowledged only where that is sound. -/
structure GateReady (ev : PppEvent) (s : PppCcb) : Prop where
  opened : s.gates.Opened
  slotted : Slotted s
  addressed : s.gates.Addressed
  above : ev = .eOpen → s.cpId = .ipcp → s.state .lcp = .sOpened
  acked : ev = .eRecvConfigAck → s.cpId = .ipcp → s.params.hsiIpv4 ≠ 0

/-- A call with an event that does not come from the automaton itself. -/
theorem gated_pppMove (env : PppEnv) (tim : PppTimerId) (h : GateReady ev s) (hup : ev ≠ .eUp)
    (hdown : ev ≠ .eDown) : Gated s.gates (pppMove env tim ev s).gates := by
  have hs := h.opened
  -- from a state that is not open and not the first one, to one in which nothing is acknowledged
  have hset : ∀ {st : PppState}, s.state s.cpId = st → st ≠ .sOpened → st ≠ .sInit →
      ∀ (t : PppCcb) (st' : PppState), st' ≠ .sAckReceived ∧ st' ≠ .sOpened →
      t.gates = s.gates.set s.cpId st' → Gated s.gates t.gates := by
    intro st hst hne hni t st' hst' hg
    exact Or.inl (.kept (kept_among hs st' (hst ▸ hne) (hst ▸ hni) hst' hg))
  have harmed : ∀ st, ((s.setState s.cpId st).armTimer (.sendConfigRequest s.cpId) tim).gates =
      s.gates.set s.cpId st := by
    intro st
    rw [gates_armTimer, gates_setState]
  have hfinish : ∀ {st : PppState}, s.state s.cpId = st → st ≠ .sOpened → st ≠ .sInit →
      Gated s.gates (s.finishMove tim).gates := by
    intro st hst hne hni
    exact Or.inl (shuts_finishMove hs tim (hst ▸ hne) (hst ▸ hni))
  have hgive : ∀ {st : PppState}, s.state s.cpId = st → st ≠ .sOpened → st ≠ .sInit →
      Gated s.gates (s.giveUp tim).gates := by
    intro st hst hne hni
    exact Or.inl (shuts_giveUp hs tim (hst ▸ hne) (hst ▸ hni))
  have hclosing : s.state s.cpId = .sOpened → Gated s.gates (s.layerDown.terminate tim).gates := by
    intro hst
    exact Or.inl (.kept (kept_layerDown s tim hst))
  have hsame : Gated s.gates s.gates := Or.inl (.kept (.refl _))
  cases ev
  case eUp => exact absurd rfl hup
  case eDown => exact absurd rfl hdown
  case eOpen =>
    refine Or.inl ?_
    cases hcp : s.cpId with
    | lcp => exact shuts_openLcp hs tim hcp
    | ipcp =>
        have hself : ({ s with cpId := .ipcp, phase := s.phase } : PppCcb) = s := by
          rw [← hcp]
        have hk := kept_openIpcp hs (h.above rfl hcp) tim s.phase id
        rw [hself] at hk
        exact .kept hk
    | ipv6cp =>
        refine .kept ?_
        rw [show pppMove env tim .eOpen s = s.openMove tim from rfl, gates_openIpv6cp tim hcp]
        exact .refl _
  case eClose => exact Or.inl (shuts_closeMove hs tim)
  case eRecvGoodConfigRequest =>
    cases hst : s.state s.cpId <;> simp only [pppMove, hst]
    case sStopped => exact hset hst (by decide) (by decide) _ .sAckSent (by decide) (harmed _)
    case sRequestSent =>
      exact hset hst (by decide) (by decide) _ .sAckSent (by decide) (gates_setState _ _ _)
    case sAckReceived =>
      refine gated_layerUp env hs h.slotted (by rw [hst]; decide) (by rw [hst]; decide) ?_
      intro hcp
      refine h.addressed ?_
      rw [hcp] at hst
      show PppGates.acked s.gates = true
      unfold PppGates.acked
      rw [show s.gates.ipcp = .sAckReceived from hst]
    case sOpened => exact hclosing hst
    all_goals exact hsame
  case eRecvConfigAck =>
    cases hst : s.state s.cpId <;> simp only [pppMove, hst]
    case sRequestSent =>
      refine Or.inl (.kept (kept_move hs (by rw [hst]; decide) ?_ ?_ (gates_setState _ _ _)))
      · intro hcp
        refine Or.inl ?_
        rw [hcp] at hst
        rw [hst]
        decide
      · intro hcp _
        exact h.acked rfl hcp
    case sAckReceived =>
      exact hset hst (by decide) (by decide) _ .sRequestSent (by decide) (gates_setState _ _ _)
    case sAckSent =>
      exact gated_layerUp env hs h.slotted (by rw [hst]; decide) (by rw [hst]; decide) (h.acked rfl)
    case sOpened => exact hclosing hst
    all_goals exact hsame
  case eRecvTerminateRequest =>
    cases hst : s.state s.cpId <;> simp only [pppMove, hst]
    case sOpened =>
      by_cases hl : s.cpId = .lcp
      · rw [if_pos hl]
        exact hclosing hst
      · rw [if_neg hl]
        exact Or.inl (.kept (kept_terminated s hst hl))
    case sAckReceived =>
      exact hset hst (by decide) (by decide) _ .sRequestSent (by decide) (gates_setState _ _ _)
    case sAckSent =>
      exact hset hst (by decide) (by decide) _ .sRequestSent (by decide) (gates_setState _ _ _)
    all_goals exact hsame
  case eRecvConfigNakRej =>
    cases hst : s.state s.cpId <;> simp only [pppMove, hst]
    case sRequestSent =>
      exact hset hst (by decide) (by decide) _ .sRequestSent (by decide) (gates_restart _ _)
    case sAckReceived =>
      exact hset hst (by decide) (by decide) _ .sRequestSent (by decide) (gates_setState _ _ _)
    case sAckSent =>
      rw [gates_armTimer]
      exact hsame
    case sOpened => exact hclosing hst
    all_goals exact hsame
  all_goals
    cases hst : s.state s.cpId <;> simp only [pppMove, hst] <;>
      first
        | exact hsame
        | exact hclosing hst
        | exact hfinish hst (by decide) (by decide)
        | exact hgive hst (by decide) (by decide)
        | exact hset hst (by decide) (by decide) _ .sRequestSent (by decide) (gates_setState _ _ _)
        | exact hset hst (by decide) (by decide) _ .sRequestSent (by decide) (gates_restart _ _)

theorem gated_pppFsm (env : PppEnv) (tim : PppTimerId) (h : GateReady ev s) (hup : ev ≠ .eUp)
    (hdown : ev ≠ .eDown) : Gated s.gates (pppFsm env tim ev s).2.gates := by
  rw [gates_of_core (pppFsm_move env tim ev s).core]
  exact gated_pppMove env tim h hup hdown

/-- A Close opens nothing, whatever the slots hold. -/
theorem shuts_pppFsm_close (env : PppEnv) (tim : PppTimerId) (hs : s.gates.Opened) :
    Shuts s.gates (pppFsm env tim .eClose s).2.gates := by
  rw [gates_of_core (pppFsm_move env tim .eClose s).core]
  exact shuts_closeMove hs tim

/-- Neither does a timer that has run out. -/
theorem shuts_expired (env : PppEnv) (tim : PppTimerId) (hs : s.gates.Opened) :
    Shuts s.gates (pppMove env tim .eTimeoutCounterExpired s).gates := by
  cases hst : s.state s.cpId <;> simp only [pppMove, hst]
  case sClosing => exact shuts_finishMove hs tim (by rw [hst]; decide) (by rw [hst]; decide)
  case sStopping => exact shuts_giveUp hs tim (by rw [hst]; decide) (by rw [hst]; decide)
  case sRequestSent => exact shuts_giveUp hs tim (by rw [hst]; decide) (by rw [hst]; decide)
  case sAckReceived => exact shuts_giveUp hs tim (by rw [hst]; decide) (by rw [hst]; decide)
  case sAckSent => exact shuts_giveUp hs tim (by rw [hst]; decide) (by rw [hst]; decide)
  all_goals exact .kept (.refl _)

theorem shuts_pppTimerCb (env : PppEnv) (tim : PppTimerId) (hs : s.gates.Opened) (cb : PppTimerCb) :
    Shuts s.gates (pppTimerCb env tim s cb).gates := by
  rcases core_pppTimerCb env tim s cb with h | h
  · rw [gates_of_core h]
    exact .kept (.refl _)
  · rw [gates_of_core h]
    exact shuts_expired (s := { s with cpId := cb.cp }.stopTimer tim) env tim hs

/-- `PPP_bye`. -/
theorem shuts_pppBye (env : PppEnv) (s : PppCcb) : Shuts s.gates (pppBye (pppFsm env) s).gates := by
  have hclose : ∀ (t : PppCcb) (phase : Nat), (s.phase ≤ dataPhase → phase ≤ dataPhase) →
      t.gates = { s.gates with phase := phase, dpStartBool := false } →
      Shuts s.gates (byeClose (pppFsm env) t).gates := by
    intro t phase hphase hg
    have hdown : Kept s.gates (({ t with pppProcessing := true, cpId := .lcp }.setState .ipcp
        .sInit).setState .ipv6cp .sInit).gates := by
      have hreset : (({ t with pppProcessing := true, cpId := .lcp }.setState .ipcp .sInit).setState
          .ipv6cp .sInit).gates = { t.gates with ipcp := .sInit } := rfl
      rw [hreset, hg]
      exact PppGates.kept_lcpDown s.gates s.gates.lcp phase hphase
    refine hdown.shuts (shuts_pppFsm_close env .ppp ?_)
    intro ho
    have hshut : t.gates.dpStartBool = true := ho
    rw [hg] at hshut
    cases hshut
  unfold pppBye
  simp only [byeExit_eq]
  split
  · exact .finished rfl
  · split
    · exact .finished rfl
    · split
      · exact hclose _ s.phase id rfl
      · split
        · exact hclose _ lcpPhase (fun _ => by decide) rfl
        · exact .finished rfl

end FastRG
