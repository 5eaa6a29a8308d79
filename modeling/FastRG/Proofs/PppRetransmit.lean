/-
A protocol that waits has its restart timer running, unless one of four things happened.

A decoder stops the timer where it takes a frame for an answer, before the automaton has been
asked; if the automaton then stays in a state that waits, or was waiting for something else,
nothing arms the timer again.  `PPP_bye` does the same to a session that is closing already, a
network protocol asked to terminate goes to `S_CLOSING` without a timer, and an authentication
that succeeds while LCP is closing hands LCP's timer to IPCP.  `Unstopped` is a step that does
none of these, and `run_retransmits` is about every run of such steps.
-/
import FastRG.Proofs.PppArmed

namespace FastRG

variable {env : PppEnv} {s t : PppCcb} {ev : PppEvent} {cp : PppCp} {mac : BitVec 48}

/-! ### Frames -/

/-- A session frame that stops no timer something waits for, takes none away, and asks no open
network protocol to terminate. -/
structure FrameKeeps (payload : List (BitVec 8)) (s : PppCcb) : Prop where
  lcpAck : be16At payload 0 = lcpProtocol → lcpAcked (s.storeFrame .lcp payload) →
    s.state .lcp ∉ [.sRequestSent, .sAckReceived, .sClosing]
  lcpTermAck : be16At payload 0 = lcpProtocol →
    (s.storeFrame .lcp payload).codeOf .lcp = .terminAck → (s.state .lcp).asking = false
  ipcpAck : be16At payload 0 = ipcpProtocol → s.phase = ipcpPhase →
    ipcpAcked (s.storeFrame .ipcp payload) → (s.state .lcp).waiting = false ∧
      s.state .ipcp ∉ [.sRequestSent, .sAckReceived, .sClosing] ∧
      ((s.storeFrame .ipcp payload).optsOk .ipcp ipcpOptOk = false → s.state .ipcp ≠ .sAckSent)
  ipcpTermAck : be16At payload 0 = ipcpProtocol → s.phase = ipcpPhase →
    (s.storeFrame .ipcp payload).codeOf .ipcp = .terminAck →
      (s.state .lcp).waiting = false ∧ (s.state .ipcp).asking = false
  ipcpTermReq : be16At payload 0 = ipcpProtocol → s.phase = ipcpPhase →
    (s.storeFrame .ipcp payload).codeOf .ipcp = .terminRequest → s.state .ipcp ≠ .sOpened
  ipv6cpAck : be16At payload 0 = ipv6cpProtocol → s.ipv6Enabled = true →
    s.phase = ipcpPhase ∨ s.phase = dataPhase → ipv6cpAcked (s.storeFrame .ipv6cp payload) →
      s.state .ipv6cp ∉ [.sRequestSent, .sAckReceived, .sClosing]
  ipv6cpTermAck : be16At payload 0 = ipv6cpProtocol → s.ipv6Enabled = true →
    s.phase = ipcpPhase ∨ s.phase = dataPhase →
      (s.storeFrame .ipv6cp payload).codeOf .ipv6cp = .terminAck → (s.state .ipv6cp).asking = false
  ipv6cpTermReq : be16At payload 0 = ipv6cpProtocol → s.ipv6Enabled = true →
    s.phase = ipcpPhase ∨ s.phase = dataPhase →
      (s.storeFrame .ipv6cp payload).codeOf .ipv6cp = .terminRequest → s.state .ipv6cp ≠ .sOpened
  auth : s.phase = authPhase →
    (be16At payload 0 = papProtocol ∧ payload.getD 2 0 = papAck) ∨
      (be16At payload 0 = chapProtocol ∧ payload.getD 2 0 = chapSuccess) →
      (s.state .lcp).waiting = false

theorem inv_unmark {v : PppView} (h : v.Inv) : { v with mark := false }.Inv := by
  obtain ⟨⟨h1, h2, h3, h4, h5, h6, h7, h8⟩, harm⟩ := h
  exact ⟨⟨h1, h2, fun hp => ⟨(h3 hp).1, (h3 hp).2.1, (h3 hp).2.2.1, rfl⟩, h4, h5, h6, h7, h8⟩, harm⟩

theorem mark_of_proto (h : s.protos.lcp = lcpProtocol) : s.view.mark = false := by
  show PppSlot.authenticated s.slots.lcp = false
  have hp : s.slots.lcp.proto = lcpProtocol := h
  unfold PppSlot.authenticated
  rw [hp]
  rfl

theorem checkAuthResult_skip
    (h : s.phase = authPhase → s.protos.lcp ≠ papProtocol ∧ s.protos.lcp ≠ chapProtocol) :
    checkAuthResult env s = (false, s) := by
  have hproto : (s.controlProtocol.get .lcp).pppProtocol = s.protos.lcp := rfl
  unfold checkAuthResult
  simp only [hproto]
  by_cases hphase : s.phase = authPhase
  · obtain ⟨hpap, hchap⟩ := h hphase
    simp [hphase, hpap, hchap]
  · rw [if_pos hphase]

/-- Past the authentication check, the automaton. -/
theorem view_pppFinish {u : PppCcb}
    (h : u.phase = authPhase → u.protos.lcp ≠ papProtocol ∧ u.protos.lcp ≠ chapProtocol) :
    (pppFinish env (.ok ev u)).view = (pppMove env (pppCpTimer u) ev u).view := by
  have hclean : ∀ t : PppCcb, (codecCleanupPppCcb t).view = t.view := fun _ => rfl
  have hskip : checkAuthResult env (Decoded.ok ev u).ccb = (false, u) := checkAuthResult_skip h
  unfold pppFinish
  rw [hskip, if_neg Bool.false_ne_true, hclean]
  exact view_of_core (pppFsm_move env (pppCpTimer u) ev u).core

/-- The block a frame leaves: what the decoder says, or what the automaton makes of it. -/
def PppHeld (env : PppEnv) (r : Decoded) : Prop :=
  (r.status = .error → r.ccb.view.Inv) ∧ (r.status = .success → (pppFinish env r).view.Inv)

theorem held_fail (h : t.view.Inv) : PppHeld env (.fail t) :=
  ⟨fun _ => h, fun hst => absurd hst (by simp [Decoded.fail])⟩

theorem held_ok {u : PppCcb}
    (hskip : u.phase = authPhase → u.protos.lcp ≠ papProtocol ∧ u.protos.lcp ≠ chapProtocol)
    (h : (pppMove env (pppCpTimer u) ev u).view.Inv) : PppHeld env (.ok ev u) := by
  refine ⟨fun hst => absurd hst (by simp [Decoded.ok]), fun _ => ?_⟩
  rw [view_pppFinish hskip]
  exact h

theorem not_mem_three {st a b c : PppState} (h : st ∉ [a, b, c]) : st ≠ a ∧ st ≠ b ∧ st ≠ c := by
  simp only [List.mem_cons, List.not_mem_nil, or_false, not_or] at h
  exact h

/-- A frame of LCP. -/
theorem held_lcp {payload : List (BitVec 8)} (h : s.view.Inv)
    (hproto : be16At payload 0 = lcpProtocol) (hkeep : FrameKeeps payload s) :
    PppHeld env ((decodeLcp .ppp (s.storeFrame .lcp payload)).select .lcp) := by
  have hs0 : (s.storeFrame .lcp payload).protos.lcp = lcpProtocol := hproto
  -- the frame takes the place of an authentication result
  have h0 : (s.storeFrame .lcp payload).view.Inv := by
    have hview : (s.storeFrame .lcp payload).view = { s.view with mark := false } := by
      rw [← mark_of_proto hs0]
      rfl
    rw [hview]
    exact inv_unmark h
  have hack := hkeep.lcpAck hproto
  have hterm := hkeep.lcpTermAck hproto
  have hspec := decodeLcp_spec .ppp (s.storeFrame .lcp payload)
  generalize decodeLcp .ppp (s.storeFrame .lcp payload) = d at hspec
  have hstate : (s.storeFrame .lcp payload).state .lcp = s.state .lcp := rfl
  rw [← hstate] at hack hterm
  generalize s.storeFrame .lcp payload = s0 at hspec h0 hs0 hack hterm
  -- whatever has the outline of `t0` is seen as `t0`, with LCP's frame in the slot
  have hout : ∀ {t t0 : PppCcb}, t.outline .lcp = t0.outline .lcp → t0.protos.lcp = lcpProtocol →
      (t.under .lcp).view = t0.view ∧ (t.under .lcp).protos.lcp = lcpProtocol := by
    intro t t0 h ht0
    have hp : t.protos.lcp = lcpProtocol := by
      rw [protos_of_outline h]
      exact ht0
    have hview : t.view = t0.view :=
      view_of_outline h ((mark_of_proto hp).trans (mark_of_proto ht0).symm)
    exact ⟨hview, hp⟩
  have hok : ∀ {ev : PppEvent} {t : PppCcb}, t.protos.lcp = lcpProtocol →
      (pppMove env .ppp ev (t.under .lcp)).view.Inv →
      PppHeld env ((Decoded.ok ev t).select .lcp) := by
    intro ev t hp hinv
    refine held_ok (u := t.under .lcp) (fun _ => ?_) hinv
    have hp' : (t.under .lcp).protos.lcp = lcpProtocol := hp
    rw [hp']
    decide
  cases hspec with
  | fail ht =>
      refine held_fail ?_
      rw [← (hout ht hs0).1] at h0
      exact h0
  | @request ev t hev hphase ht =>
      obtain ⟨hview, hp⟩ := hout ht hs0
      rw [← hview] at h0
      exact hok hp (inv_lcpRequest rfl hev (fun hst => upKeeps_lcp rfl h0.inv0 hst hp) h0)
  | @ack t hacked ht =>
      obtain ⟨hview, hp⟩ := hout ht hs0
      have h0' : (t.under .lcp).view.Inv0 := by
        rw [hview]
        exact h0.inv0.stop
      have hst : (t.under .lcp).state .lcp = s0.state .lcp :=
        congrArg PppView.lcp hview
      have hphase : (t.under .lcp).phase = s0.phase := congrArg PppView.phase hview
      refine hok hp (inv_lcpAck rfl (fun hst => upKeeps_lcp rfl h0' hst hp) h0' ?_ ?_)
      · -- IPCP does not wait in LCP's phase
        by_contra hw
        have := h0'.sound.ipcpWaits (by simpa using hw)
        exact absurd (hacked.2.1.symm.trans (hphase.symm.trans this)) (by decide)
      · rw [hst]
        exact not_mem_three (hack hacked)
  | @termAck t hcode ht =>
      obtain ⟨hview, hp⟩ := hout ht hs0
      have h0' : (t.under .lcp).view.Inv0 := by
        rw [hview]
        exact h0.inv0.stop
      have hst : (t.under .lcp).state .lcp = s0.state .lcp :=
        congrArg PppView.lcp hview
      refine hok hp (inv_lcpTermAck rfl h0' ?_)
      rw [hst]
      exact hterm hcode
  | @noIpv6 t ht =>
      obtain ⟨hview, hp⟩ := hout ht hs0
      refine hok hp (inv_lcpReject rfl (Or.inl rfl) ?_)
      rw [hview]
      exact inv_ipv6cpStop h0.inv6
  | @other ev t hev ht =>
      obtain ⟨hview, hp⟩ := hout ht hs0
      rw [← hview] at h0
      have hidle : ∀ {ev : PppEvent}, ev = .eRecvEchoRequest ∨ ev = .eRecvEchoReply ∨
          ev = .eRecvUnknownCode → (pppMove env .ppp ev (t.under .lcp)).view.Inv := by
        intro ev hev
        rcases hev with rfl | rfl | rfl <;> exact h0
      refine hok hp ?_
      simp only [List.mem_cons, List.not_mem_nil, or_false] at hev
      rcases hev with hev | hev | hev | hev | hev
      · exact inv_lcpRefused rfl (Or.inl hev) h0
      · exact inv_lcpRefused rfl (Or.inr hev) h0
      · exact inv_lcpReject rfl (Or.inl hev) h0
      · exact inv_lcpReject rfl (Or.inr hev) h0
      · exact hidle hev

/-- A decoder of a network protocol leaves the slot of LCP alone. -/
theorem view_of_ncp (h : s.outline cp = t.outline cp) (hcp : cp ≠ .lcp) : s.view = t.view := by
  refine view_of_outline h ?_
  have key : ∀ s : PppCcb, (s.outline cp).view.mark = s.view.mark := by
    intro s
    cases cp
    · exact absurd rfl hcp
    · rfl
    · rfl
  rw [← key s, h, key]

/-- A frame of IPCP, in its phase. -/
theorem held_ipcp {payload : List (BitVec 8)} (h : s.view.Inv)
    (hproto : be16At payload 0 = ipcpProtocol) (hphase : s.phase = ipcpPhase)
    (hkeep : FrameKeeps payload s) :
    PppHeld env ((decodeIpcp .ppp (s.storeFrame .ipcp payload)).select .ipcp) := by
  have hs0 : (s.storeFrame .ipcp payload).protos.ipcp = ipcpProtocol := hproto
  have h0 : (s.storeFrame .ipcp payload).view.Inv := h
  have hphase0 : (s.storeFrame .ipcp payload).phase = ipcpPhase := hphase
  have hack := hkeep.ipcpAck hproto hphase
  have hterm := hkeep.ipcpTermAck hproto hphase
  have hreq := hkeep.ipcpTermReq hproto hphase
  have hspec := decodeIpcp_spec .ppp (s.storeFrame .ipcp payload)
  generalize decodeIpcp .ppp (s.storeFrame .ipcp payload) = d at hspec
  have hstate : ∀ cp, (s.storeFrame .ipcp payload).state cp = s.state cp := by
    intro cp
    cases cp <;> rfl
  simp only [← hstate] at hack hterm hreq
  generalize s.storeFrame .ipcp payload = s0 at hspec h0 hs0 hack hterm hreq hphase0
  have hout : ∀ {t u : PppCcb}, t.outline .ipcp = u.outline .ipcp →
      u.protos.ipcp = ipcpProtocol → (t.under .ipcp).view = u.view ∧
        (t.under .ipcp).protos.ipcp = ipcpProtocol := by
    intro t u h hu
    have hview : t.view = u.view := view_of_ncp h (by decide)
    refine ⟨hview, ?_⟩
    show t.protos.ipcp = ipcpProtocol
    rw [protos_of_outline h]
    exact hu
  have hok : ∀ {ev : PppEvent} {t : PppCcb}, t.phase = ipcpPhase →
      (pppMove env .ppp ev (t.under .ipcp)).view.Inv →
      PppHeld env ((Decoded.ok ev t).select .ipcp) := by
    intro ev t hp hinv
    refine held_ok (u := t.under .ipcp) (fun hauth => ?_) hinv
    exact absurd (hp.symm.trans hauth) (by decide)
  have hwaits : ∀ {t : PppCcb}, t.cpId = .ipcp → t.view.Inv0 → t.protos.ipcp = ipcpProtocol →
      (t.state .ipcp).waiting = true → UpKeeps env .ipcp t := by
    intro t hcp ht hp hw
    exact upKeeps_ipcp hcp ht (ht.sound.ipcp_waits hw).1 hp
  cases hspec with
  | fail ht =>
      refine held_fail ?_
      rw [← (hout ht hs0).1] at h0
      exact h0
  | failAck hacked hopts ht =>
      obtain ⟨hlcp, hipcp, hsent⟩ := hack hacked
      obtain ⟨h1, h2, h3⟩ := not_mem_three hipcp
      refine held_fail ?_
      have hidle : (s0.state .ipcp).waiting = false := by
        cases hst : s0.state .ipcp <;>
          first
            | rfl
            | exact absurd hst h1
            | exact absurd hst h2
            | exact absurd hst h3
            | exact absurd hst (hsent hopts)
            | exact absurd hst h0.sound.noStopping.2.1
      have hstop := h0.inv0.stop.inv hlcp hidle
      have hview := view_of_ncp ht (by decide)
      rw [hview]
      exact hstop
  | @ack t hacked ht =>
      obtain ⟨hlcp, hipcp, -⟩ := hack hacked
      obtain ⟨hview, hp⟩ := hout (u := s0.stopTimer .ppp) ht hs0
      have h0' : (t.under .ipcp).view.Inv0 := by
        rw [hview]
        exact h0.inv0.stop
      have hphase' : t.phase = ipcpPhase := (congrArg PppView.phase hview).trans hphase0
      have hst : (t.under .ipcp).state .ipcp = s0.state .ipcp :=
        congrArg PppView.ipcp hview
      have hlcp' : ((t.under .ipcp).state .lcp).waiting = false := by
        rw [show (t.under .ipcp).state .lcp = s0.state .lcp from congrArg PppView.lcp hview]
        exact hlcp
      refine hok hphase' (inv_ipcpAck rfl (hwaits rfl h0' hp) h0' hphase' hlcp' ?_)
      rw [hst]
      exact not_mem_three hipcp
  | @termAck t hcode ht =>
      obtain ⟨hlcp, hipcp⟩ := hterm hcode
      obtain ⟨hview, hp⟩ := hout (u := s0.stopTimer .ppp) ht hs0
      have h0' : (t.under .ipcp).view.Inv0 := by
        rw [hview]
        exact h0.inv0.stop
      have hphase' : t.phase = ipcpPhase := (congrArg PppView.phase hview).trans hphase0
      have hst : (t.under .ipcp).state .ipcp = s0.state .ipcp :=
        congrArg PppView.ipcp hview
      have hlcp' : ((t.under .ipcp).state .lcp).waiting = false := by
        rw [show (t.under .ipcp).state .lcp = s0.state .lcp from congrArg PppView.lcp hview]
        exact hlcp
      refine hok hphase' (inv_ipcpTermAck rfl h0' hphase' hlcp' ?_)
      rw [hst]
      exact hipcp
  | @other ev t hev hcode ht =>
      obtain ⟨hview, hp⟩ := hout ht hs0
      have hphase' : t.phase = ipcpPhase := (congrArg PppView.phase hview).trans hphase0
      have hst : (t.under .ipcp).state .ipcp = s0.state .ipcp :=
        congrArg PppView.ipcp hview
      rw [← hview] at h0
      refine hok hphase' (inv_ipcpEvent rfl hev (hwaits rfl h0.inv0 hp) h0 hphase' ?_)
      intro heq
      rw [hst]
      exact hreq (hcode heq)

/-- A frame of IPV6CP, in a phase it is accepted in. -/
theorem held_ipv6cp {payload : List (BitVec 8)} (h : s.view.Inv)
    (hproto : be16At payload 0 = ipv6cpProtocol) (henabled : s.ipv6Enabled = true)
    (hphase : s.phase = ipcpPhase ∨ s.phase = dataPhase) (hkeep : FrameKeeps payload s) :
    PppHeld env ((decodeIpv6cp env .pppIpv6cp (s.storeFrame .ipv6cp payload)).select .ipv6cp) := by
  have hs0 : (s.storeFrame .ipv6cp payload).protos.ipv6cp = ipv6cpProtocol := hproto
  have h0 : (s.storeFrame .ipv6cp payload).view.Inv := h
  have hphase0 : (s.storeFrame .ipv6cp payload).phase = ipcpPhase ∨
      (s.storeFrame .ipv6cp payload).phase = dataPhase := hphase
  have hack := hkeep.ipv6cpAck hproto henabled hphase
  have hterm := hkeep.ipv6cpTermAck hproto henabled hphase
  have hreq := hkeep.ipv6cpTermReq hproto henabled hphase
  have hspec := decodeIpv6cp_spec env .pppIpv6cp (s.storeFrame .ipv6cp payload)
  generalize decodeIpv6cp env .pppIpv6cp (s.storeFrame .ipv6cp payload) = d at hspec
  have hstate : (s.storeFrame .ipv6cp payload).state .ipv6cp = s.state .ipv6cp := rfl
  rw [← hstate] at hack hterm hreq
  generalize s.storeFrame .ipv6cp payload = s0 at hspec h0 hs0 hack hterm hreq hphase0
  have hout : ∀ {t u : PppCcb}, t.outline .ipv6cp = u.outline .ipv6cp →
      u.protos.ipv6cp = ipv6cpProtocol → (t.under .ipv6cp).view = u.view ∧
        (t.under .ipv6cp).protos.ipv6cp = ipv6cpProtocol := by
    intro t u h hu
    have hview : t.view = u.view := view_of_ncp h (by decide)
    refine ⟨hview, ?_⟩
    show t.protos.ipv6cp = ipv6cpProtocol
    rw [protos_of_outline h]
    exact hu
  have hok : ∀ {ev : PppEvent} {t : PppCcb}, t.phase = ipcpPhase ∨ t.phase = dataPhase →
      (pppMove env .pppIpv6cp ev (t.under .ipv6cp)).view.Inv →
      PppHeld env ((Decoded.ok ev t).select .ipv6cp) := by
    intro ev t hp hinv
    refine held_ok (u := t.under .ipv6cp) (fun hauth => ?_) hinv
    have hauth' : t.phase = authPhase := hauth
    rw [hauth'] at hp
    exact absurd hp (by decide)
  cases hspec with
  | fail ht =>
      refine held_fail ?_
      rw [← (hout ht hs0).1] at h0
      exact h0
  | @closed t hcp ht =>
      obtain ⟨hview, hp⟩ := hout (u := s0.under .ipv6cp) ht hs0
      have ht0 : t.view.Inv := by
        rw [show t.view = s0.view from hview]
        exact h0
      have hphase' : t.phase = s0.phase := congrArg PppView.phase hview
      refine held_fail ?_
      rw [view_of_core (pppFsm_move env .pppIpv6cp .eClose t).core]
      exact inv_ipv6cpClose hcp ht0 (roomy_of_phase ht0.sound (by rw [hphase']; exact hphase0))
  | @ack t hacked ht =>
      obtain ⟨hview, hp⟩ := hout (u := s0.stopTimer .pppIpv6cp) ht hs0
      have h0' : (t.under .ipv6cp).view.Inv6 := by
        rw [hview]
        exact h0.inv6.stop
      have hphase' : t.phase = s0.phase := congrArg PppView.phase hview
      have hst : (t.under .ipv6cp).state .ipv6cp = s0.state .ipv6cp :=
        congrArg PppView.ipv6cp hview
      rw [← hphase'] at hphase0
      have hroom : (t.under .ipv6cp).roomy := roomy_of_phase h0'.sound hphase0
      refine hok hphase0 (inv_ipv6cpAck rfl (fun _ => upKeeps_ipv6cp rfl h0' hroom hp) h0' hroom ?_)
      rw [hst]
      exact not_mem_three (hack hacked)
  | @termAck t hcode ht =>
      obtain ⟨hview, hp⟩ := hout (u := s0.stopTimer .pppIpv6cp) ht hs0
      have h0' : (t.under .ipv6cp).view.Inv6 := by
        rw [hview]
        exact h0.inv6.stop
      have hphase' : t.phase = s0.phase := congrArg PppView.phase hview
      have hst : (t.under .ipv6cp).state .ipv6cp = s0.state .ipv6cp :=
        congrArg PppView.ipv6cp hview
      rw [← hphase'] at hphase0
      have hroom : (t.under .ipv6cp).roomy := roomy_of_phase h0'.sound hphase0
      refine hok hphase0 (inv_ipv6cpTermAck rfl h0' hroom ?_)
      rw [hst]
      exact hterm hcode
  | @other ev t hev hcode ht =>
      obtain ⟨hview, hp⟩ := hout ht hs0
      have hphase' : t.phase = s0.phase := congrArg PppView.phase hview
      have hst : (t.under .ipv6cp).state .ipv6cp = s0.state .ipv6cp :=
        congrArg PppView.ipv6cp hview
      rw [← hphase'] at hphase0
      rw [← hview] at h0
      have hroom : (t.under .ipv6cp).roomy := roomy_of_phase h0.sound hphase0
      refine hok hphase0 (inv_ipv6cpEvent rfl hev
        (fun _ => upKeeps_ipv6cp rfl h0.inv6 hroom hp) h0 hroom ?_)
      intro heq
      rw [hst]
      exact hreq (hcode heq)

/-! ### Authentication -/

/-- The network protocols may be opened in the phase of authentication, whatever its result. -/
theorem inv0_enterNcp {v : PppView} (h : v.Sound) (harm : v.armed .ipv6cp)
    (hlcp : v.lcp = .sOpened) (mark : Bool) :
    { v with phase := ipcpPhase, mark := mark }.Inv0 := by
  obtain ⟨h1, h2, h3, h4, h5, h6, h7, h8⟩ := h
  have hne : ipcpPhase ≠ authPhase := by decide
  exact ⟨⟨h1, h2, fun hp => absurd hp hne, fun hl => absurd hlcp hl, fun hl => absurd hlcp hl,
    fun _ => rfl, h7, h8⟩, harm⟩

/-- The mark is what `check_auth_result` takes for a success. -/
theorem mark_iff (u : PppCcb) : u.view.mark = true ↔
    ((u.controlProtocol.get .lcp).pppProtocol = papProtocol ∧
      (u.controlProtocol.get .lcp).pppHdr.code = papAck) ∨
    ((u.controlProtocol.get .lcp).pppProtocol = chapProtocol ∧
      (u.controlProtocol.get .lcp).pppHdr.code = chapSuccess) := by
  show PppSlot.authenticated ⟨(u.controlProtocol.get .lcp).pppProtocol,
    (u.controlProtocol.get .lcp).pppHdr, (u.controlProtocol.get .lcp).pppOptions⟩ = true ↔ _
  simp [PppSlot.authenticated]

/-- The authentication check, in a block whose LCP slot holds a result. -/
theorem held_auth {u : PppCcb} (h : s.view.Inv) (hphase : s.phase = authPhase)
    (hview : { u.view with mark := s.view.mark } = s.view)
    (hok : u.view.mark = true → (s.state .lcp).waiting = false) :
    PppHeld env (.ok .eUnknown u) := by
  obtain ⟨hlcp, hipcp, h6, -⟩ := h.sound.auth hphase
  have hphase' : u.phase = authPhase := (congrArg PppView.phase hview).trans hphase
  have hlcp' : u.state .lcp = s.state .lcp := congrArg PppView.lcp hview
  have hipcp' : u.state .ipcp = s.state .ipcp := congrArg PppView.ipcp hview
  have h6' : u.state .ipv6cp = s.state .ipv6cp := congrArg PppView.ipv6cp hview
  -- without a success in the slot the block is as good as `s`
  have hinv : u.view.mark = false → u.view.Inv := by
    intro hm
    have hu : u.view = { s.view with mark := false } := by
      rw [← hview, ← hm]
    rw [hu]
    exact inv_unmark h
  refine ⟨fun hst => absurd hst (by simp [Decoded.ok]), fun _ => ?_⟩
  unfold pppFinish
  have hccb : (Decoded.ok .eUnknown u).ccb = u := rfl
  have hev : (Decoded.ok .eUnknown u).event = .eUnknown := rfl
  rw [hccb, hev]
  unfold checkAuthResult
  simp only
  rw [if_neg (not_not.mpr hphase')]
  by_cases hnak : ((u.controlProtocol.get .lcp).pppProtocol = papProtocol ∧
      (u.controlProtocol.get .lcp).pppHdr.code = papNak) ∨
      ((u.controlProtocol.get .lcp).pppProtocol = chapProtocol ∧
        (u.controlProtocol.get .lcp).pppHdr.code = chapFailure)
  · -- refused: LCP is closed
    have hm : u.view.mark = false := by
      refine Bool.eq_false_iff.mpr fun hm => ?_
      rw [mark_iff] at hm
      rcases hnak with ⟨h1, h2⟩ | ⟨h1, h2⟩ <;> rw [h1, h2] at hm <;> exact absurd hm (by decide)
    have hclose : ((u.under .lcp).closeMove .ppp).view.Inv :=
      inv_lcpClose rfl (hinv hm).inv0 fun _ => hinv hm
    rw [if_pos hnak, if_pos rfl]
    rw [view_of_core (pppFsm_move env .ppp .eClose { u with cpId := .lcp }).core]
    exact hclose
  rw [if_neg hnak]
  by_cases hack : ((u.controlProtocol.get .lcp).pppProtocol = papProtocol ∧
      (u.controlProtocol.get .lcp).pppHdr.code = papAck) ∨
      ((u.controlProtocol.get .lcp).pppProtocol = chapProtocol ∧
        (u.controlProtocol.get .lcp).pppHdr.code = chapSuccess)
  · -- accepted: LCP does not wait, so it is open
    have hm : u.view.mark = true := (mark_iff u).mpr hack
    have hopen : s.state .lcp = .sOpened := by
      rcases hlcp with hl | hl
      · exact hl
      · have hw := hok hm
        rw [show s.state .lcp = .sClosing from hl] at hw
        exact absurd hw (by decide)
    have h0 : { u.view with phase := ipcpPhase }.Inv0 := by
      have := inv0_enterNcp h.sound (h.armed .ipv6cp) hopen u.view.mark
      rw [← hview] at this
      exact this
    rw [if_pos hack, if_pos rfl]
    rw [view_of_core (core_openNcps env rfl)]
    exact inv_openNcps h0 (hlcp'.trans hopen) (hipcp'.trans hipcp) (by rw [h6']; exact h6)
  · -- no result yet
    have hm : u.view.mark = false := Bool.eq_false_iff.mpr fun hm => hack ((mark_iff u).mp hm)
    have hclean : ∀ t : PppCcb, (codecCleanupPppCcb t).view = t.view := fun _ => rfl
    rw [if_neg hack, if_neg Bool.false_ne_true, hclean,
      view_of_core (pppFsm_move env _ .eUnknown u).core]
    exact hinv hm

/-- A Configure-Request of PAP refused: LCP's phase, and a Close under whatever protocol is
current. -/
theorem inv_papNak (h : s.view.Inv) (hphase : s.phase = authPhase) :
    ((s.enterPhase lcpPhase).closeMove .ppp).view.Inv := by
  obtain ⟨hlcp, hipcp, h6, -⟩ := h.sound.auth hphase
  have hne : lcpPhase ≠ authPhase ∧ lcpPhase ≠ ipcpPhase ∧ lcpPhase ≠ dataPhase := by decide
  have hw : s.view.ipcp.waiting = false := by
    rw [hipcp]
    rfl
  have hsound : (s.enterPhase lcpPhase).view.Sound :=
    ⟨h.sound.noStopping, h.sound.above, fun hp => absurd hp hne.1, fun _ _ => hne, h.sound.ipv6,
      fun hw' => absurd (hw'.symm.trans hw) (by decide), h.sound.shared, h.sound.own⟩
  have hinv : (s.enterPhase lcpPhase).view.Inv := ⟨hsound, h.armed⟩
  cases hcp : s.cpId with
  | lcp => exact inv_lcpClose hcp hinv.inv0 fun _ => hinv
  | ipcp =>
      have hmove : (s.enterPhase lcpPhase).closeMove .ppp = s.enterPhase lcpPhase := by
        unfold PppCcb.closeMove
        rw [show (s.enterPhase lcpPhase).cpId = .ipcp from hcp,
          show (s.enterPhase lcpPhase).state .ipcp = .sInit from hipcp]
      rw [hmove]
      exact hinv
  | ipv6cp =>
      unfold PppCcb.closeMove
      rw [show (s.enterPhase lcpPhase).cpId = .ipv6cp from hcp]
      have hq : ((s.enterPhase lcpPhase).state .ipv6cp).quiet = true := h6
      cases hst : (s.enterPhase lcpPhase).state .ipv6cp <;> rw [hst] at hq <;>
        first
          | exact absurd hq (by decide)
          | exact hinv
          | exact inv_rest_ipv6cp hinv.inv6 rfl (by decide) (Or.inl rfl)

theorem phase_closeMove (s : PppCcb) (tim : PppTimerId) :
    (s.closeMove tim).phase = s.phase ∨ (s.closeMove tim).phase = endPhase := by
  unfold PppCcb.closeMove
  split
  case h_1 =>
    split
    · exact Or.inr rfl
    · split <;> exact Or.inl rfl
  case h_2 => split <;> first | exact Or.inr rfl | exact Or.inl rfl
  case h_7 =>
    unfold PppCcb.layerDown
    split <;> exact Or.inl rfl
  all_goals exact Or.inl rfl

theorem held_decoded {payload : List (BitVec 8)} {r : Decoded} (h : s.view.Inv)
    (hkeep : payloadFits payload → FrameKeeps payload s) (hr : PppDecoded env payload s r) :
    PppHeld env r := by
  cases hr with
  | ignored => exact held_fail h
  | ipcpEarly hproto => exact held_fail h
  | ipv6cpEarly hproto => exact held_fail h
  | ipcp hfits hproto hphase => exact held_ipcp h hproto hphase (hkeep hfits)
  | ipv6cp hfits hproto henabled hphase => exact held_ipv6cp h hproto henabled hphase (hkeep hfits)
  | lcp hfits hproto => exact held_lcp h hproto (hkeep hfits)
  | authStay hphase =>
      refine held_auth h hphase rfl fun hm => ?_
      exact absurd ((h.sound.mark hphase).symm.trans hm) (by decide)
  | authResult hfits hproto hauth hphase =>
      refine held_auth h hphase rfl fun hm => (hkeep hfits).auth hphase ?_
      rw [mark_iff] at hm
      rcases hm with ⟨h1, h2⟩ | ⟨h1, h2⟩
      · exact Or.inl ⟨hproto.trans h1, h2⟩
      · exact Or.inr ⟨hproto.trans h1, h2⟩
  | papNak hphase =>
      have hview := view_of_core (pppFsm_move env .ppp .eClose (s.enterPhase lcpPhase)).core
      have hinv := inv_papNak h hphase
      have hphase' : (pppFsm env .ppp .eClose (s.enterPhase lcpPhase)).2.phase ≠ authPhase := by
        intro heq
        have hcore : (pppFsm env .ppp .eClose (s.enterPhase lcpPhase)).2.phase =
          ((s.enterPhase lcpPhase).closeMove .ppp).phase := congrArg PppView.phase hview
        have hne : lcpPhase ≠ authPhase ∧ endPhase ≠ authPhase := by decide
        rcases phase_closeMove (s.enterPhase lcpPhase) .ppp with hp | hp
        · exact hne.1 (hp.symm.trans (hcore.symm.trans heq))
        · exact hne.2 (hp.symm.trans (hcore.symm.trans heq))
      refine held_ok (fun hp => absurd hp hphase') ?_
      show (pppFsm env .ppp .eClose (s.enterPhase lcpPhase)).2.view.Inv
      rw [hview]
      exact hinv

/-! ### Steps -/

/-- Closing a session again stops the timer of the closing one. -/
def byeStops (s : PppCcb) : Prop :=
  (s.phase = lcpPhase ∨ s.phase = ipcpPhase ∨ s.phase = dataPhase) ∧ s.state .lcp = .sClosing

/-- A step that leaves no protocol waiting without a timer. -/
def Unstopped (s : PppCcb) : PppLabel → Prop
  | .disconnect => s.phase ≠ endPhase → s.pppProcessing = false → ¬ byeStops s
  | .ipv6Changed => isPppIpv6NeedRedial s.phase s.pppProcessing = true → ¬ byeStops s
  | .aliveTimer => s.pppAlive = true → lcpEchoMaxFail ≤ s.echoMissCount → ¬ byeStops s
  | .recv pkt _ _ => ForSession pkt s → payloadFits (framePayload pkt) →
      FrameKeeps (framePayload pkt) s
  | _ => True

/-- `PPP_bye` from LCP's phase on. -/
theorem inv_byeClose (hphase : s.phase = lcpPhase) (htim : s.ppp = none ∧ s.pppIpv6cp = none)
    (hlcp : s.state .lcp ≠ .sClosing ∧ s.state .lcp ≠ .sStopping) :
    (byeClose (pppFsm env) s).view.Inv := by
  unfold byeClose
  simp only
  generalize ht : (({ s with pppProcessing := true, cpId := .lcp }.setState .ipcp .sInit).setState
    .ipv6cp .sInit : PppCcb) = t
  have hview : t.view = ⟨lcpPhase, s.state .lcp, .sInit, .sInit, none, none, s.view.mark⟩ := by
    rw [← ht]
    show PppView.mk s.phase _ _ _ s.ppp s.pppIpv6cp _ = _
    rw [hphase, htim.1, htim.2]
    rfl
  have hne : lcpPhase ≠ authPhase ∧ lcpPhase ≠ ipcpPhase ∧ lcpPhase ≠ dataPhase := by decide
  have h0 : t.view.Inv0 := by
    rw [hview]
    refine ⟨⟨⟨hlcp.2, by simp, by simp⟩, fun _ => rfl, fun hp => absurd hp hne.1, fun _ _ => hne,
      fun _ _ _ => rfl, by simp [PppState.waiting], by simp, by simp⟩, ?_⟩
    exact PppView.armed_of_not_waiting rfl
  have hcp : t.cpId = .lcp := by rw [← ht]; rfl
  have hst : t.state .lcp = s.state .lcp := congrArg PppView.lcp hview
  rw [view_of_core (pppFsm_move env .ppp .eClose t).core]
  refine inv_lcpClose hcp h0 fun hidle => h0.inv ?_ ?_
  · show (t.state .lcp).waiting = false
    rw [hst] at hidle ⊢
    cases hs : s.state .lcp <;> rw [hs] at hidle <;>
      first
        | rfl
        | exact absurd hidle (by decide)
        | exact absurd hs hlcp.1
        | exact absurd hs hlcp.2
  · rw [hview]
    rfl

theorem inv_pppBye (h : s.view.Inv) (hbye : ¬ byeStops s) : (pppBye (pppFsm env) s).view.Inv := by
  have hclosing : s.phase = lcpPhase ∨ s.phase = ipcpPhase ∨ s.phase = dataPhase →
      s.state .lcp ≠ .sClosing ∧ s.state .lcp ≠ .sStopping :=
    fun hp => ⟨fun heq => hbye ⟨hp, heq⟩, h.sound.noStopping.1⟩
  unfold pppBye
  simp only
  split
  · exact inv_ended _
  split
  · exact inv_ended _
  split
  · rename_i hp
    exact inv_byeClose hp ⟨rfl, rfl⟩ (hclosing (Or.inl hp))
  split
  · rename_i hp
    exact inv_byeClose rfl ⟨rfl, rfl⟩ (hclosing (Or.inr hp.symm))
  · exact inv_ended _

theorem inv_pppDisconnect (h : s.view.Inv)
    (hbye : s.phase ≠ endPhase → s.pppProcessing = false → ¬ byeStops s) :
    (pppDisconnect env s).2.view.Inv := by
  unfold pppDisconnect
  split
  · exact h
  rename_i hend
  split
  · exact h
  rename_i hproc
  exact inv_pppBye h (hbye hend (Bool.eq_false_iff.mpr hproc))

/-- A restart timer's turn. -/
theorem inv_pppTimer (h : s.view.Inv) {cb : PppTimerCb} (htim : s.ppp = some cb) :
    (pppTimerCb env .ppp s cb).view.Inv := by
  rcases core_pppTimerCb env .ppp s cb with hcore | hcore
  · rw [view_of_core hcore]
    exact h
  rw [view_of_core hcore]
  -- the callback names the protocol, so the other one does not wait
  have hother : ∀ cp, cp ≠ .ipv6cp → cp ≠ cb.cp → (s.view.stateOf cp).waiting = false := by
    intro cp h6 hne
    refine Bool.eq_false_iff.mpr fun hw => ?_
    obtain ⟨cb', hcb', hcp⟩ := h.armed cp hw
    have hsame : s.view.timerOf cp = some cb := by
      cases cp
      · exact htim
      · exact htim
      · exact absurd rfl h6
    rw [hsame] at hcb'
    rw [← Option.some.inj hcb'] at hcp
    exact hne hcp.symm
  have h0 : ({ s with cpId := cb.cp }.stopTimer .ppp).view.Inv0 := h.inv0.stop
  have hshared : cb.cp ≠ .ipv6cp := h.sound.shared cb htim
  cases hcp : cb.cp with
  | lcp =>
      rw [hcp] at h0 hother
      exact inv_lcpExpired rfl h0 (hother .ipcp (by decide) (by decide))
  | ipcp =>
      rw [hcp] at h0 hother
      exact inv_ipcpExpired rfl h0 (hother .lcp (by decide) (by decide))
  | ipv6cp => exact absurd hcp hshared

theorem inv_ipv6cpTimer (h : s.view.Inv) {cb : PppTimerCb} (htim : s.pppIpv6cp = some cb) :
    (pppTimerCb env .pppIpv6cp s cb).view.Inv := by
  rcases core_pppTimerCb env .pppIpv6cp s cb with hcore | hcore
  · rw [view_of_core hcore]
    exact h
  have h6 : ({ s with cpId := cb.cp }.stopTimer .pppIpv6cp).view.Inv6 := h.inv6.stop
  rw [view_of_core hcore]
  exact inv_ipv6cpExpired (h.sound.own cb htim) h6 _

/-- A PADS starts LCP, whatever the session was at. -/
theorem inv_pads (h : s.view.Inv) (pkt : List (BitVec 8)) :
    ((padsBlock pkt s).openMove .ppp).view.Inv := by
  have hne : lcpPhase ≠ authPhase ∧ lcpPhase ≠ ipcpPhase ∧ lcpPhase ≠ dataPhase := by decide
  have hcp : (padsBlock pkt s).cpId = .lcp := rfl
  have hview : (padsBlock pkt s).view = { s.view with phase := lcpPhase } := rfl
  have hstate : (padsBlock pkt s).state .lcp = s.state .lcp := rfl
  -- below an LCP that is not open nothing waits for the phase
  have hinv : s.state .lcp ≠ .sOpened → (padsBlock pkt s).view.Inv := by
    intro hopen
    have hipcp : s.view.ipcp = .sInit := h.sound.above hopen
    rw [hview]
    refine ⟨⟨h.sound.noStopping, h.sound.above, fun hp => absurd hp hne.1, fun _ _ => hne,
      h.sound.ipv6, ?_, h.sound.shared, h.sound.own⟩, h.armed⟩
    intro hw
    rw [show PppView.ipcp { s.view with phase := lcpPhase } = .sInit from hipcp] at hw
    exact absurd hw (by decide)
  unfold PppCcb.openMove
  rw [hcp]
  cases hst : s.state .lcp <;> rw [hst] at hinv <;> simp only [hstate, hst]
  case sInit | sClosed | sStopped =>
    exact inv_restart_lcp hcp (hinv (by decide)).inv0 (by rw [hstate, hst]; rfl)
  case sClosing =>
    -- the timer goes on, but LCP no longer waits for it
    have hi := hinv (by decide)
    have hipcp : s.view.ipcp = .sInit := h.sound.above (by rw [show s.view.lcp = _ from hst]; decide)
    have hw : s.view.ipcp.waiting = false := by
      rw [hipcp]
      rfl
    refine PppView.Inv0.inv ⟨⟨⟨by simp [PppCcb.view], hi.sound.noStopping.2⟩, fun _ => hipcp,
      fun hp => absurd hp hne.1, fun _ _ => hne, fun _ _ hs => absurd rfl hs, ?_, h.sound.shared,
      h.sound.own⟩, h.armed .ipv6cp⟩ rfl hw
    intro hw'
    exact absurd (hw'.symm.trans hw) (by decide)
  case sStopping => exact absurd hst h.sound.noStopping.1
  case sOpened =>
    unfold PppCcb.dropMove
    rw [if_pos hcp]
    exact inv_ended _
  all_goals exact hinv (by decide)

theorem inv_decodePppoe (h : s.view.Inv) (env : PppEnv) (pkt : List (BitVec 8)) :
    (decodePppoe env pkt (discoveryPhase pkt s)).view.Inv := by
  by_cases hpads : framePppoeCode pkt = padsCode
  · rw [view_of_core (decodePppoe_pads hpads env s)]
    exact inv_pads h pkt
  have hphase : discoveryPhase pkt s = s := by
    unfold discoveryPhase
    rw [if_neg hpads]
  rw [hphase]
  unfold decodePppoe
  split
  · split <;> exact h
  split
  · unfold recvPadt pppBye
    exact inv_ended _
  · exact h

theorem inv_pppProcess {pkt : List (BitVec 8)} {d : Dhcp6} (h : s.view.Inv)
    (hkeep : ForSession pkt s → payloadFits (framePayload pkt) → FrameKeeps (framePayload pkt) s) :
    (pppProcess env pkt d s).2.view.Inv := by
  have hcame := pppProcess_handled env pkt d s
  generalize (pppProcess env pkt d s).2 = t at hcame
  cases hcame with
  | refused => exact h
  | dhcp6 =>
      have hview : (dhcp6WanInput d s).view = s.view := by
        unfold dhcp6WanInput
        split <;> rfl
      rw [hview]
      exact h
  | discovery hlen hmax hdis => exact inv_decodePppoe h env pkt
  | failed hses hr hst => exact (held_decoded h (hkeep hses) hr).1 hst
  | finished hses hr hst => exact (held_decoded h (hkeep hses) hr).2 hst
  | idle =>
      by_cases hphase : s.phase = authPhase
      · refine (held_auth h hphase rfl fun hm => ?_).2 rfl
        exact absurd ((h.sound.mark hphase).symm.trans hm) (by decide)
      · rw [view_pppFinish fun hp => absurd hp hphase]
        exact h

theorem inv_connect (h : s.view.Inv) : (pppConnect s).2.view.Inv := by
  unfold pppConnect
  split
  · exact h
  rename_i hend
  have hphase : s.phase = endPhase := Nat.le_zero.mp (Nat.le_of_not_lt hend)
  have hne : pppoePhase ≠ authPhase ∧ pppoePhase ≠ ipcpPhase ∧ pppoePhase ≠ dataPhase := by decide
  refine ⟨⟨h.sound.noStopping, h.sound.above, fun hp => absurd hp hne.1, fun _ _ => hne,
    h.sound.ipv6, ?_, h.sound.shared, h.sound.own⟩, h.armed⟩
  intro hw
  exact absurd (hphase.symm.trans (h.sound.ipcpWaits hw)) (by decide)

theorem inv_step (l : PppLabel) (h : s.view.Inv) (hl : Unstopped s l) :
    (pppStep mac s l).view.Inv := by
  cases l with
  | connect => exact inv_connect h
  | disconnect => exact inv_pppDisconnect h hl
  | forceDisable =>
      simp only [pppStep, fastrgForceTerminateHsi]
      split
      · exact h
      · exact inv_exitPpp s
  | ipv6Changed =>
      simp only [pppStep]
      split
      · rename_i hneed
        have hinv : (pppDisconnect ⟨mac, .success⟩ { s with redialPending := true }).2.view.Inv :=
          inv_pppDisconnect h fun _ _ => hl hneed
        unfold pppIpv6Redial
        simp only
        split <;> exact hinv
      · exact h
  | setIpv6Enable enable => exact h
  | applyConfig isUpdate enable =>
      simp only [pppStep, applyHsiConfig]
      split
      · exact PppView.inv_over endPhase _ (by decide)
      · exact h
  | disableCcb => exact PppView.inv_over notConfigured _ (by decide)
  | recv pkt dns d => exact inv_pppProcess h hl
  | pppTimer =>
      simp only [pppStep]
      cases htim : s.ppp with
      | none => exact h
      | some cb => exact inv_pppTimer h htim
  | ipv6cpTimer =>
      simp only [pppStep]
      cases htim : s.pppIpv6cp with
      | none => exact h
      | some cb => exact inv_ipv6cpTimer h htim
  | pppoeTimer =>
      simp only [pppStep, pppoeTimerCb]
      split
      · exact h
      · split
        · exact inv_exitPpp s
        · exact h
  | aliveTimer =>
      simp only [pppStep, pppKeepaliveCb]
      split
      · rename_i halive
        split
        · rename_i hmiss
          exact inv_pppBye h (hl halive hmiss)
        · exact h
      · exact h
  | dhcp6Timer d =>
      simp only [pppStep, dhcp6TimerCb]
      split
      · split <;> exact h
      · exact h

/-! ### Runs -/

/-- The restart timer that drives a protocol. -/
def PppCcb.restartTimer (s : PppCcb) : PppCp → Option PppTimerCb
  | .ipv6cp => s.pppIpv6cp
  | _ => s.ppp

/-- Whatever waits for the peer has its restart timer running, with a callback of its own. -/
def Retransmits (s : PppCcb) : Prop :=
  ∀ cp, (s.state cp).waiting = true → ∃ cb, s.restartTimer cp = some cb ∧ cb.cp = cp

theorem retransmits_of_inv (h : s.view.Inv) : Retransmits s := by
  intro cp hw
  obtain ⟨cb, hcb, hcp⟩ := h.armed cp (by cases cp <;> exact hw)
  refine ⟨cb, ?_, hcp⟩
  cases cp <;> exact hcb

/--
**Whatever waits is retransmitted.**  In every state a run leads to from the start of a
subscriber, by frames, timers, keepalive probes and commands in any order, each protocol that
waits for the peer has its restart timer running, if no step of the run stopped a timer
something was waiting for.
-/
theorem run_retransmits {rand : Nat → BitVec 32} {ls : List PppLabel}
    (h : Run (pppStep mac) Unstopped (pppInit rand) ls s) : Retransmits s := by
  refine retransmits_of_inv (Run.inv (fun s => s.view.Inv) (fun s l hs hl => inv_step l hs hl) h ?_)
  exact PppView.inv_over notConfigured false (by decide)

/-- The steps of a dial stop nothing. -/
theorem unstopped_dial (s : PppCcb) : ∀ l ∈ dialRun, Unstopped s l := by
  have hdis : ∀ (code : BitVec 8) (sid : BitVec 16), Unstopped s (recvDiscovery code sid) := by
    intro code sid hses
    exact absurd hses.ses (by simp [wireFrame, frameNextProto, be16At, ethPPppDis, ethPPppSes])
  intro l hl
  simp only [dialRun, List.mem_cons, List.not_mem_nil, or_false] at hl
  rcases hl with rfl | rfl | rfl | rfl
  · trivial
  · trivial
  · exact hdis _ _
  · exact hdis _ _

/-- A dial: LCP has sent its request, and its timer runs. -/
theorem run_retransmits_dial :
    (runOf dialRun).state .lcp = .sRequestSent ∧ Retransmits (runOf dialRun) := by
  refine ⟨by decide, ?_⟩
  have hrun : Run (pppStep 1) Unstopped (pppInit fun _ => 0) dialRun (runOf dialRun) :=
    Run.of_labels _ dialRun unstopped_dial
  exact run_retransmits hrun

/-- The first Configure-Ack of the peer stops the timer, and LCP waits without one. -/
def ackRun : List PppLabel := dialRun ++ [recvPpp lcpProtocol 2 1 []]

/-- So a peer that acknowledges, and whose own request is lost, is waited for without end. -/
theorem retransmits_lost : ¬ ∀ (mac : BitVec 48) (rand : Nat → BitVec 32) (ls : List PppLabel)
    (s : PppCcb), Run (pppStep mac) (fun _ _ => True) (pppInit rand) ls s → Retransmits s := by
  intro hall
  have hrun : Run (pppStep 1) (fun _ _ => True) (pppInit fun _ => 0) ackRun (runOf ackRun) :=
    run_runOf ackRun
  have hst : (runOf ackRun).state .lcp = .sAckReceived := by decide
  have htim : (runOf ackRun).ppp = none := by decide
  obtain ⟨cb, hcb, -⟩ := hall 1 _ ackRun _ hrun .lcp (by rw [hst]; rfl)
  have hsome : (runOf ackRun).ppp = some cb := hcb
  rw [htim] at hsome
  exact absurd hsome (by simp)

end FastRG
