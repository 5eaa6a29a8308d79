/-
The three automata of a session together: which states occur side by side.

LCP and IPCP share one restart timer, so that each of them has it when it needs it rests on
their never waiting at the same time.  `Sound` says why they do not: nothing is above an
LCP that is not open, IPCP waits only in its own phase, and the phases after LCP's need an LCP
that is open or on its way out.  `armed` is what is to be shown: a protocol that waits has its
timer.

Both are about a `PppView`, the few fields they speak of, so that each move of the automaton has
one small lemma here.  A decoder may have stopped a timer before the move; the moves that arm
one need no more than `Sound` and the other protocols armed.
-/
import FastRG.Proofs.PppFrames

namespace FastRG

/-- A protocol that waits for the peer. -/
def PppState.waiting : PppState → Bool
  | .sRequestSent | .sAckReceived | .sAckSent | .sClosing | .sStopping => true
  | _ => false

/-- A protocol with nothing to do. -/
def PppState.quiet : PppState → Bool
  | .sInit | .sClosed | .sStopped => true
  | _ => false

/-- Negotiation is under way, and our request is out. -/
def PppState.asking : PppState → Bool
  | .sRequestSent | .sAckReceived | .sAckSent => true
  | _ => false

/-- What the invariant speaks of. -/
structure PppView where
  phase : Nat
  lcp : PppState
  ipcp : PppState
  ipv6cp : PppState
  ppp : Option PppTimerCb
  pppIpv6cp : Option PppTimerCb
  mark : Bool

/-- The slot of LCP holds an authentication that succeeded. -/
def PppSlot.authenticated (c : PppSlot) : Bool :=
  (c.proto == papProtocol && c.hdr.code == papAck) ||
    (c.proto == chapProtocol && c.hdr.code == chapSuccess)

def PppCcb.view (s : PppCcb) : PppView :=
  ⟨s.phase, s.state .lcp, s.state .ipcp, s.state .ipv6cp, s.ppp, s.pppIpv6cp,
    s.slots.lcp.authenticated⟩

namespace PppView

/-- The states that occur side by side. -/
structure Sound (v : PppView) : Prop where
  noStopping : v.lcp ≠ .sStopping ∧ v.ipcp ≠ .sStopping ∧ v.ipv6cp ≠ .sStopping
  above : v.lcp ≠ .sOpened → v.ipcp = .sInit
  auth : v.phase = authPhase → (v.lcp = .sOpened ∨ v.lcp = .sClosing) ∧ v.ipcp = .sInit ∧
    v.ipv6cp.quiet = true ∧ v.mark = false
  later : v.lcp ≠ .sOpened → v.lcp ≠ .sClosing →
    v.phase ≠ authPhase ∧ v.phase ≠ ipcpPhase ∧ v.phase ≠ dataPhase
  ipv6 : v.lcp ≠ .sOpened → v.lcp ≠ .sClosing → v.lcp ≠ .sStarting → v.ipv6cp.quiet = true
  ipcpWaits : v.ipcp.waiting = true → v.phase = ipcpPhase
  shared : ∀ cb, v.ppp = some cb → cb.cp ≠ .ipv6cp
  own : ∀ cb, v.pppIpv6cp = some cb → cb.cp = .ipv6cp

def stateOf (v : PppView) : PppCp → PppState
  | .lcp => v.lcp
  | .ipcp => v.ipcp
  | .ipv6cp => v.ipv6cp

/-- The timer that drives a protocol. -/
def timerOf (v : PppView) : PppCp → Option PppTimerCb
  | .ipv6cp => v.pppIpv6cp
  | _ => v.ppp

/-- If the protocol waits, its timer runs, and for it. -/
def armed (v : PppView) (cp : PppCp) : Prop :=
  (v.stateOf cp).waiting = true → ∃ cb, v.timerOf cp = some cb ∧ cb.cp = cp

/-- The invariant. -/
structure Inv (v : PppView) : Prop where
  sound : v.Sound
  armed : ∀ cp, v.armed cp

/-- The invariant, but for the timer LCP and IPCP share. -/
structure Inv0 (v : PppView) : Prop where
  sound : v.Sound
  armed : v.armed .ipv6cp

/-- The invariant, but for the timer of IPV6CP. -/
structure Inv6 (v : PppView) : Prop where
  sound : v.Sound
  lcp : v.armed .lcp
  ipcp : v.armed .ipcp

variable {v : PppView}

theorem Inv.inv0 (h : v.Inv) : v.Inv0 := ⟨h.sound, h.armed .ipv6cp⟩

theorem Inv.inv6 (h : v.Inv) : v.Inv6 := ⟨h.sound, h.armed .lcp, h.armed .ipcp⟩

theorem armed_of_not_waiting {cp : PppCp} (h : (v.stateOf cp).waiting = false) : v.armed cp :=
  fun hw => absurd (hw.symm.trans h) (by decide)

/-- Stopping the shared timer loses nothing else. -/
theorem Inv0.stop (h : v.Inv0) : { v with ppp := none }.Inv0 := by
  obtain ⟨⟨h1, h2, h3, h4, h5, h6, h7, h8⟩, harm⟩ := h
  exact ⟨⟨h1, h2, h3, h4, h5, h6, by simp, h8⟩, harm⟩

theorem Inv6.stop (h : v.Inv6) : { v with pppIpv6cp := none }.Inv6 := by
  obtain ⟨⟨h1, h2, h3, h4, h5, h6, h7, h8⟩, hlcp, hipcp⟩ := h
  exact ⟨⟨h1, h2, h3, h4, h5, h6, h7, by simp⟩, hlcp, hipcp⟩

/-- Neither of the two needs the shared timer. -/
theorem Inv0.inv (h : v.Inv0) (hlcp : v.lcp.waiting = false) (hipcp : v.ipcp.waiting = false) :
    v.Inv := by
  refine ⟨h.sound, ?_⟩
  intro cp
  cases cp
  · exact armed_of_not_waiting hlcp
  · exact armed_of_not_waiting hipcp
  · exact h.armed

theorem Inv6.inv (h : v.Inv6) (h6 : v.ipv6cp.waiting = false) : v.Inv := by
  refine ⟨h.sound, ?_⟩
  intro cp
  cases cp
  · exact h.lcp
  · exact h.ipcp
  · exact armed_of_not_waiting h6

/-- A session that is over. -/
theorem inv_over (phase : Nat) (mark : Bool)
    (hphase : phase ≠ authPhase ∧ phase ≠ ipcpPhase ∧ phase ≠ dataPhase) :
    (PppView.mk phase .sInit .sInit .sInit none none mark).Inv := by
  refine ⟨⟨by simp, by simp, fun h => absurd h hphase.1, fun _ _ => hphase, by simp [PppState.quiet],
    by simp [PppState.waiting], by simp, by simp⟩, ?_⟩
  intro cp
  cases cp <;> exact armed_of_not_waiting rfl

/-! ### LCP moves -/

/-- LCP waits, and the shared timer is its own. -/
def lcpWaits (v : PppView) (st : PppState) (cb : PppTimerCb) : PppView :=
  { v with lcp := st, ppp := some cb }

/-- LCP starts waiting for the peer, with nothing above it. -/
theorem Inv0.lcpWaits (h : v.Inv0) {st : PppState} {cb : PppTimerCb} (hcb : cb.cp = .lcp)
    (hst : st.asking = true ∨ st = .sClosing) (hlcp : v.lcp ≠ .sOpened)
    (hclosing : v.lcp ≠ .sClosing) (hstarting : v.lcp ≠ .sStarting) : (v.lcpWaits st cb).Inv := by
  obtain ⟨⟨h1, h2, h3, h4, h5, h6, h7, h8⟩, harm⟩ := h
  have hipcp : v.ipcp = .sInit := h2 hlcp
  have hphase := h4 hlcp hclosing
  have hquiet := h5 hlcp hclosing hstarting
  have hstop : st ≠ .sStopping := by
    intro heq
    rw [heq] at hst
    rcases hst with hst | hst <;> exact absurd hst (by decide)
  refine ⟨⟨⟨hstop, h1.2⟩, fun _ => hipcp, fun h => absurd h hphase.1, fun _ _ => hphase,
    fun _ _ _ => hquiet, ?_, ?_, h8⟩, ?_⟩
  · intro hw
    exact absurd hw (by simp [PppView.lcpWaits, hipcp, PppState.waiting])
  · intro cb' hcb'
    have : cb = cb' := Option.some.inj hcb'
    rw [← this, hcb]
    decide
  · intro cp
    cases cp
    · exact fun _ => ⟨cb, rfl, hcb⟩
    · refine armed_of_not_waiting ?_
      show v.ipcp.waiting = false
      rw [hipcp]
      rfl
    · exact harm

/-- LCP stays at it. -/
theorem Inv.lcpAsks (h : v.Inv) (hlcp : v.lcp.asking = true) {st : PppState}
    (hst : st.asking = true) : { v with lcp := st }.Inv := by
  have hne : v.lcp ≠ .sOpened ∧ v.lcp ≠ .sClosing ∧ v.lcp ≠ .sStarting := by
    refine ⟨?_, ?_, ?_⟩ <;> intro heq <;> rw [heq] at hlcp <;> exact absurd hlcp (by decide)
  have hw : v.lcp.waiting = true := by
    cases hv : v.lcp <;> rw [hv] at hlcp <;> first | rfl | exact absurd hlcp (by decide)
  obtain ⟨cb, htim, hcb⟩ := h.armed .lcp hw
  have hinv := h.inv0.lcpWaits hcb (Or.inl hst) hne.1 hne.2.1 hne.2.2
  have heq : v.lcpWaits st cb = { v with lcp := st } := by
    have htim' : v.ppp = some cb := htim
    unfold PppView.lcpWaits
    rw [← htim']
  rw [heq] at hinv
  exact hinv

/-- LCP goes down, and what is above it. -/
def lcpDown (v : PppView) (cb : PppTimerCb) : PppView :=
  { v with lcp := .sClosing, ipcp := .sInit, ipv6cp := .sInit, ppp := some cb, pppIpv6cp := none }

/-- Whatever the states were, it waits alone afterwards. -/
theorem inv_lcpDown (hmark : v.phase = authPhase → v.mark = false) {cb : PppTimerCb}
    (hcb : cb.cp = .lcp) : (v.lcpDown cb).Inv := by
  refine ⟨⟨by simp [PppView.lcpDown], by simp [PppView.lcpDown], ?_, by simp [PppView.lcpDown],
    by simp [PppView.lcpDown], by simp [PppView.lcpDown, PppState.waiting], ?_,
    by simp [PppView.lcpDown]⟩, ?_⟩
  · intro hphase
    exact ⟨Or.inr rfl, rfl, rfl, hmark hphase⟩
  · intro cb' hcb'
    have : cb = cb' := Option.some.inj hcb'
    rw [← this, hcb]
    decide
  · intro cp
    cases cp
    · exact fun _ => ⟨cb, rfl, hcb⟩
    · exact armed_of_not_waiting rfl
    · exact armed_of_not_waiting rfl

theorem Sound.mark (h : v.Sound) : v.phase = authPhase → v.mark = false :=
  fun hphase => (h.auth hphase).2.2.2

/-- LCP has come up. -/
def lcpUp (v : PppView) (phase : Nat) : PppView := { v with lcp := .sOpened, phase := phase }

/-- Nothing above an LCP that is being negotiated waits, so the timer may be off. -/
theorem Inv0.lcpUp (h : v.Inv0) (hlcp : v.lcp.asking = true) {phase : Nat}
    (hauth : phase = authPhase → v.mark = false) : (v.lcpUp phase).Inv := by
  have hne : v.lcp ≠ .sOpened ∧ v.lcp ≠ .sClosing ∧ v.lcp ≠ .sStarting := by
    refine ⟨?_, ?_, ?_⟩ <;> intro heq <;> rw [heq] at hlcp <;> exact absurd hlcp (by decide)
  obtain ⟨⟨h1, h2, h3, h4, h5, h6, h7, h8⟩, harm⟩ := h
  have hipcp : v.ipcp = .sInit := h2 hne.1
  have hquiet := h5 hne.1 hne.2.1 hne.2.2
  have hidle : v.ipcp.waiting = false := by
    rw [hipcp]
    rfl
  refine Inv0.inv ⟨⟨⟨by simp [PppView.lcpUp], h1.2⟩, fun hn => absurd rfl hn, ?_,
    fun hn => absurd rfl hn, fun hn => absurd rfl hn, ?_, h7, h8⟩, harm⟩ rfl hidle
  · intro hphase
    exact ⟨Or.inl rfl, hipcp, hquiet, hauth hphase⟩
  · intro hw
    exact absurd (hw.symm.trans hidle) (by decide)

/-! ### IPCP moves -/

/-- IPCP waits, and the shared timer is its own. -/
def ipcpWaits (v : PppView) (st : PppState) (cb : PppTimerCb) : PppView :=
  { v with ipcp := st, ppp := some cb }

theorem Inv0.ipcpWaits (h : v.Inv0) {st : PppState} {cb : PppTimerCb} (hcb : cb.cp = .ipcp)
    (hst : st ≠ .sStopping) (hlcp : v.lcp = .sOpened) (hphase : v.phase = ipcpPhase) :
    (v.ipcpWaits st cb).Inv := by
  obtain ⟨⟨h1, h2, h3, h4, h5, h6, h7, h8⟩, harm⟩ := h
  refine ⟨⟨⟨h1.1, hst, h1.2.2⟩, fun hne => absurd hlcp hne, ?_, fun hne => absurd hlcp hne,
    fun hne => absurd hlcp hne, fun _ => hphase, ?_, h8⟩, ?_⟩
  · intro hauth
    exact absurd (hphase.symm.trans hauth) (by decide)
  · intro cb' hcb'
    have : cb = cb' := Option.some.inj hcb'
    rw [← this, hcb]
    decide
  · intro cp
    cases cp
    · refine armed_of_not_waiting ?_
      show v.lcp.waiting = false
      rw [hlcp]
      rfl
    · exact fun _ => ⟨cb, rfl, hcb⟩
    · exact harm

/-- IPCP waits only above an open LCP, in its own phase. -/
theorem Sound.ipcp_waits (h : v.Sound) (hw : v.ipcp.waiting = true) :
    v.lcp = .sOpened ∧ v.phase = ipcpPhase := by
  refine ⟨?_, h.ipcpWaits hw⟩
  by_contra hne
  rw [h.above hne] at hw
  exact absurd hw (by decide)

theorem Inv.ipcpAsks (h : v.Inv) (hipcp : v.ipcp.waiting = true) {st : PppState}
    (hst : st ≠ .sStopping) : { v with ipcp := st }.Inv := by
  obtain ⟨hlcp, hphase⟩ := h.sound.ipcp_waits hipcp
  obtain ⟨cb, htim, hcb⟩ := h.armed .ipcp hipcp
  have hinv := h.inv0.ipcpWaits hcb hst hlcp hphase
  have heq : v.ipcpWaits st cb = { v with ipcp := st } := by
    have htim' : v.ppp = some cb := htim
    unfold PppView.ipcpWaits
    rw [← htim']
  rw [heq] at hinv
  exact hinv

/-- IPCP is up, and data flows. -/
theorem Inv0.ipcpUp (h : v.Inv0) (hlcp : v.lcp = .sOpened) :
    { v with ipcp := .sOpened, phase := dataPhase }.Inv := by
  obtain ⟨⟨h1, h2, h3, h4, h5, h6, h7, h8⟩, harm⟩ := h
  have hdata : dataPhase ≠ authPhase := by decide
  refine Inv0.inv ⟨⟨⟨h1.1, by simp, h1.2.2⟩, fun hne => absurd hlcp hne,
    fun h => absurd h hdata, fun hne => absurd hlcp hne, fun hne => absurd hlcp hne,
    by simp [PppState.waiting], h7, h8⟩, harm⟩ ?_ rfl
  show v.lcp.waiting = false
  rw [hlcp]
  rfl

/-! ### IPV6CP moves -/

/-- IPV6CP in another state, with its timer running or not. -/
def ipv6cpSet (v : PppView) (st : PppState) (cb : Option PppTimerCb) : PppView :=
  { v with ipv6cp := st, pppIpv6cp := cb }

/-- Above an LCP that is open or closing IPV6CP goes its own way, outside authentication. -/
theorem Inv6.ipv6cpSet (h : v.Inv6) {st : PppState} {cb : Option PppTimerCb}
    (hst : st ≠ .sStopping) (hcb : ∀ c, cb = some c → c.cp = .ipv6cp)
    (harm : st.waiting = true → cb ≠ none)
    (hroom : st.quiet = true ∨ (v.lcp = .sOpened ∨ v.lcp = .sClosing) ∧ v.phase ≠ authPhase) :
    (v.ipv6cpSet st cb).Inv := by
  obtain ⟨⟨h1, h2, h3, h4, h5, h6, h7, h8⟩, hlcp, hipcp⟩ := h
  refine ⟨⟨⟨h1.1, h1.2.1, hst⟩, h2, ?_, h4, ?_, h6, h7, hcb⟩, ?_⟩
  · intro hphase
    obtain ⟨hl, hi, -, hm⟩ := h3 hphase
    refine ⟨hl, hi, ?_, hm⟩
    rcases hroom with hq | ⟨-, hne⟩
    · exact hq
    · exact absurd hphase hne
  · intro hopen hclosing hstarting
    rcases hroom with hq | ⟨hl, -⟩
    · exact hq
    · rcases hl with hl | hl
      · exact absurd hl hopen
      · exact absurd hl hclosing
  · intro cp
    cases cp
    · exact hlcp
    · exact hipcp
    · intro hw
      cases hc : cb with
      | none => exact absurd hc (harm hw)
      | some c => exact ⟨c, rfl, hcb c hc⟩

end PppView

end FastRG
