/-
Discovery frames and an established session.

Session frames and PADTs are turned away unless they name the current session.  A PADO is
answered only while none has been, and a PADS is not checked at all: it sets the phase, takes
over the session identifier and opens LCP, in whatever state it finds the subscriber.
`discovery_undisturbed_iff` says exactly when a frame of these two kinds changes nothing about a
session, and when a PADS without a session identifier starts LCP.
-/
import FastRG.Proofs.PppFrames

namespace FastRG

variable {env : PppEnv} {s t u : PppCcb} {pkt : List (BitVec 8)}

/-- A PADO or a PADS. -/
structure Offers (pkt : List (BitVec 8)) : Prop where
  dis : frameNextProto pkt = ethPPppDis
  code : framePppoeCode pkt = padoCode ∨ framePppoeCode pkt = padsCode

/-- Past discovery: `LCP_PHASE`, `AUTH_PHASE`, `IPCP_PHASE` or `DATA_PHASE`. -/
def PastDiscovery (s : PppCcb) : Prop := lcpPhase ≤ s.phase ∧ s.phase ≤ dataPhase

/-- Nothing about the session has changed. -/
structure Undisturbed (s t : PppCcb) : Prop where
  phase : t.phase = s.phase
  sessionId : t.sessionId = s.sessionId
  dstMac : t.pppDstMac = s.pppDstMac
  states : ∀ cp, t.state cp = s.state cp
  gates : t.dpStartBool = s.dpStartBool ∧ t.pppBool = s.pppBool ∧ t.ipv6DpBool = s.ipv6DpBool

/-- LCP has been started: its first Configure-Request is out. -/
def StartsLcp (s t : PppCcb) : Prop :=
  s.state .lcp ≠ .sRequestSent ∧ t.state .lcp = .sRequestSent

/-- A frame too short for a PPPoE header, or longer than any frame may be. -/
def badLength (pkt : List (BitVec 8)) : Prop := pkt.length < 24 ∨ ethJumbo < pkt.length

/-- LCP is being negotiated, or is about to be. -/
def PppState.underway : PppState → Bool
  | .sStarting | .sRequestSent | .sAckReceived | .sAckSent => true
  | _ => false

/-- LCP is at rest, and an Open starts it. -/
def PppState.resting : PppState → Bool
  | .sInit | .sClosed | .sStopped => true
  | _ => false

/-! ### Following the frame -/

theorem Undisturbed.refl (s : PppCcb) : Undisturbed s s :=
  ⟨rfl, rfl, rfl, fun _ => rfl, rfl, rfl, rfl⟩

theorem undisturbed_core (h : t.core = u.core) : Undisturbed s t ↔ Undisturbed s u := by
  have key : ∀ t : PppCcb, Undisturbed s t ↔ Undisturbed s t.core := by
    intro t
    refine ⟨fun h => ⟨h.phase, h.sessionId, h.dstMac, ?_, h.gates⟩,
      fun h => ⟨h.phase, h.sessionId, h.dstMac, ?_, h.gates⟩⟩
    · intro cp
      rw [state_core]
      exact h.states cp
    · intro cp
      rw [← state_core]
      exact h.states cp
  rw [key t, h, ← key u]

/-- Only a PADT is held against the session identifier, so a PADO or PADS is always looked at. -/
theorem pppProcess_offer (hoff : Offers pkt) (env : PppEnv) (d : Dhcp6) (s : PppCcb) :
    (pppProcess env pkt d s).2 =
      if pkt.length < 24 ∨ ethJumbo < pkt.length then s
      else decodePppoe env pkt (discoveryPhase pkt s) := by
  have hcode : framePppoeCode pkt ≠ padtCode := by
    rcases hoff.code with h | h <;> rw [h] <;> decide
  have hses : ethPPppDis ≠ ethPPppSes := by decide
  have hnames : namesSession pkt = false := by
    simp [namesSession, hoff.dis, hcode, hses]
  have hdata : frameNextProto pkt ≠ ethPPppSes := by
    rw [hoff.dis]
    exact hses
  rw [pppProcess_decoded env d (by simp [hnames]) (by simp [hdata])]
  unfold pppDecodeFrame
  by_cases hmax : ethJumbo < pkt.length
  · rw [if_pos hmax, if_pos (Or.inr hmax)]
    rfl
  rw [if_neg hmax]
  by_cases hlen : pkt.length < 24
  · rw [if_pos hlen, if_pos (Or.inl hlen)]
    rfl
  have hneither : ¬ (pkt.length < 24 ∨ ethJumbo < pkt.length) := fun h => h.elim hlen hmax
  rw [if_neg hlen, if_neg hneither, if_pos hoff.dis]
  rfl

/-! ### When nothing changes -/

theorem undisturbed_pado (hcode : framePppoeCode pkt = padoCode) (env : PppEnv) (s : PppCcb) :
    Undisturbed s (decodePppoe env pkt (discoveryPhase pkt s)) ↔
      s.pppoePhase.active = true ∨ frameSrcMac pkt = s.pppDstMac := by
  rw [decodePppoe_pado hcode]
  by_cases hact : s.pppoePhase.active = true
  · rw [if_pos hact]
    exact ⟨fun _ => Or.inl hact, fun _ => Undisturbed.refl s⟩
  · rw [if_neg hact]
    refine ⟨fun h => Or.inr h.dstMac, ?_⟩
    intro h
    rcases h with h | h
    · exact absurd h hact
    · exact ⟨rfl, rfl, h, fun _ => rfl, rfl, rfl, rfl⟩

/-- The block LCP is opened in, when the Open does nothing. -/
theorem undisturbed_padsBlock (pkt : List (BitVec 8)) (s : PppCcb) :
    Undisturbed s (padsBlock pkt s) ↔ s.phase = lcpPhase ∧ frameSessionId pkt = s.sessionId := by
  refine ⟨fun h => ⟨h.phase.symm, h.sessionId⟩, ?_⟩
  intro h
  exact ⟨h.1.symm, h.2, rfl, fun _ => rfl, rfl, rfl, rfl⟩

theorem undisturbed_pads (hcode : framePppoeCode pkt = padsCode) (env : PppEnv)
    (hphase : PastDiscovery s) :
    Undisturbed s (decodePppoe env pkt (discoveryPhase pkt s)) ↔
      s.phase = lcpPhase ∧ frameSessionId pkt = s.sessionId ∧ (s.state .lcp).underway = true := by
  rw [undisturbed_core (decodePppoe_pads hcode env s)]
  have hst : (padsBlock pkt s).state (padsBlock pkt s).cpId = s.state .lcp := rfl
  -- an Open that moves LCP leaves it in another state
  have hmoved : ∀ st, s.state .lcp ≠ st →
      ¬ Undisturbed s ((padsBlock pkt s).setState (padsBlock pkt s).cpId st) :=
    fun st hne h => hne (h.states .lcp).symm
  have hrestart : s.state .lcp ≠ .sRequestSent →
      ¬ Undisturbed s ((padsBlock pkt s).restart .ppp) := fun hne h => hne (h.states .lcp).symm
  unfold PppCcb.openMove
  rw [hst]
  cases hlcp : s.state .lcp
  case sStarting | sRequestSent | sAckReceived | sAckSent =>
    simp only [PppState.underway, and_true]
    exact undisturbed_padsBlock pkt s
  case sInit | sClosed | sStopped =>
    simp only [PppState.underway, Bool.false_eq_true, and_false, iff_false]
    exact hrestart (by rw [hlcp]; decide)
  case sClosing | sStopping =>
    simp only [PppState.underway, Bool.false_eq_true, and_false, iff_false]
    exact hmoved .sStarting (by rw [hlcp]; decide)
  case sOpened =>
    simp only [PppState.underway, Bool.false_eq_true, and_false, iff_false]
    intro h
    -- an open LCP is taken down, and the session with it
    have hend : endPhase = s.phase := h.phase
    have := hphase.1
    rw [← hend] at this
    exact absurd this (by decide)

theorem startsLcp_pads (hcode : framePppoeCode pkt = padsCode) (env : PppEnv) (s : PppCcb) :
    StartsLcp s (decodePppoe env pkt (discoveryPhase pkt s)) ↔ (s.state .lcp).resting = true := by
  unfold StartsLcp
  rw [state_of_core (decodePppoe_pads hcode env s)]
  have hst : (padsBlock pkt s).state (padsBlock pkt s).cpId = s.state .lcp := rfl
  unfold PppCcb.openMove
  rw [hst]
  cases hlcp : s.state .lcp
  case sInit | sClosed | sStopped =>
    refine ⟨fun _ => rfl, fun _ => ⟨by decide, ?_⟩⟩
    exact state_setState_self (padsBlock pkt s) .lcp .sRequestSent
  case sRequestSent => simp [PppState.resting]
  case sStarting | sAckReceived | sAckSent =>
    have hstay : (padsBlock pkt s).state .lcp = s.state .lcp := rfl
    simp [PppState.resting, hstay, hlcp]
  case sClosing | sStopping =>
    have hmove : ((padsBlock pkt s).setState (padsBlock pkt s).cpId .sStarting).state .lcp =
        .sStarting := state_setState_self (padsBlock pkt s) .lcp .sStarting
    simp [PppState.resting, hmove]
  case sOpened =>
    have hend : (padsBlock pkt s).dropMove.state .lcp = .sInit := rfl
    simp [PppState.resting, hend]

/-- What a PADO or PADS must meet to leave a session alone. -/
def discoveryHarmless (s : PppCcb) (pkt : List (BitVec 8)) : Prop :=
  badLength pkt ∨
    if framePppoeCode pkt = padoCode then
      s.pppoePhase.active = true ∨ frameSrcMac pkt = s.pppDstMac
    else
      s.phase = lcpPhase ∧ frameSessionId pkt = s.sessionId ∧ (s.state .lcp).underway = true

/--
**When a discovery frame leaves an established session alone.**  For every PADO and PADS and
every subscriber: past discovery the session is undisturbed exactly when the frame has no
PPPoE header or is too long, or is a PADO and one was answered before or this one comes from the
same peer, or is a PADS for the session that is being negotiated.  And a PADS whose session
identifier is zero leaves LCP unstarted exactly when it is ignored for its length or LCP is not
at rest.
-/
theorem discovery_undisturbed_iff (env : PppEnv) (d : Dhcp6) (s : PppCcb) (hoff : Offers pkt) :
    (PastDiscovery s → (Undisturbed s (pppProcess env pkt d s).2 ↔ discoveryHarmless s pkt)) ∧
      (framePppoeCode pkt = padsCode → frameSessionId pkt = 0 →
        (¬ StartsLcp s (pppProcess env pkt d s).2 ↔
          badLength pkt ∨ (s.state .lcp).resting = false)) := by
  rw [pppProcess_offer hoff]
  by_cases hbad : badLength pkt
  · have hstay : ¬ StartsLcp s s := fun h => h.1 h.2
    have hskip : pkt.length < 24 ∨ ethJumbo < pkt.length := hbad
    rw [if_pos hskip]
    refine ⟨fun _ => ⟨fun _ => Or.inl hbad, fun _ => Undisturbed.refl s⟩, fun _ _ => ?_⟩
    exact ⟨fun _ => Or.inl hbad, fun _ => hstay⟩
  · have hseen : ¬ (pkt.length < 24 ∨ ethJumbo < pkt.length) := hbad
    rw [if_neg hseen]
    refine ⟨?_, ?_⟩
    · intro hphase
      unfold discoveryHarmless
      simp only [hbad, false_or]
      by_cases hpado : framePppoeCode pkt = padoCode
      · rw [if_pos hpado]
        exact undisturbed_pado hpado env s
      · rw [if_neg hpado]
        exact undisturbed_pads (hoff.code.resolve_left hpado) env hphase
    · intro hpads _
      rw [startsLcp_pads hpads]
      simp [hbad]

/-- A second PADO while the network protocols are negotiated is ignored. -/
theorem discovery_second_pado :
    Undisturbed (runOf ncpRun)
      (pppProcess ⟨1, .success⟩ (wireFrame ethPPppDis padoCode 0 []) ⟨false, false, false⟩
        (runOf ncpRun)).2 := by
  refine ((discovery_undisturbed_iff ⟨1, .success⟩ ⟨false, false, false⟩ (runOf ncpRun)
    ⟨by decide, Or.inl (by decide)⟩).1 ⟨by decide, by decide⟩).mpr (Or.inr ?_)
  rw [if_pos (by decide)]
  exact Or.inl (by decide)

/-- A stray PADS with another session identifier ends a session whose network protocols are
being negotiated. -/
theorem stray_pads_ends_session :
    ¬ ∀ (mac : BitVec 48) (rand : Nat → BitVec 32) (ls : List PppLabel) (s : PppCcb),
      Run (pppStep mac) (fun _ _ => True) (pppInit rand) ls s →
      ∀ (pkt : List (BitVec 8)) (dns : Status) (d : Dhcp6), Offers pkt →
        (PastDiscovery s → Undisturbed s (pppProcess ⟨mac, dns⟩ pkt d s).2) ∧
          (framePppoeCode pkt = padsCode → frameSessionId pkt = 0 →
            ¬ StartsLcp s (pppProcess ⟨mac, dns⟩ pkt d s).2) := by
  intro h
  have hstray := (h 1 (fun _ => 0) ncpRun (runOf ncpRun) (run_runOf ncpRun)
    (wireFrame ethPPppDis padsCode 7 []) .success ⟨false, false, false⟩
    ⟨by decide, Or.inr (by decide)⟩).1 ⟨by decide, by decide⟩
  exact absurd hstray.phase (by decide)

end FastRG
