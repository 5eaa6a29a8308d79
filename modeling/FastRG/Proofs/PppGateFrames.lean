/-
The gates of a session, along the frames, the timers and the commands.

A session is at rest or in progress.  At rest nothing is negotiated and both gates are shut; in
progress the gate of the data plane is open only over an LCP and an IPCP that are, in `DATA_PHASE`,
with a session number and an address.

A frame keeps this unless it is one of three that the decoders take too early: a PADS nobody has
asked for, the success of an authentication after LCP has gone down, and an answer to IPCP without
an address.
-/
import FastRG.Proofs.PppGates
import Mathlib.Data.List.TakeWhile

namespace FastRG

variable {env : PppEnv} {tim : PppTimerId} {s t : PppCcb} {pkt payload : List (BitVec 8)}

open PppGates (Kept Shuts)

namespace PppGates

variable {v w : PppGates}

/-- Nothing is in progress. -/
structure AtRest (v : PppGates) : Prop where
  pppBool : v.pppBool = false
  dpStartBool : v.dpStartBool = false
  sessionId : v.sessionId = 0
  lcp : v.lcp = .sInit
  ipcp : v.ipcp = .sInit
  phase : idlePhase v.phase = true

/-- A dial was asked for, and what has come of it supports the gate of the data plane. -/
structure Live (v : PppGates) : Prop where
  pppBool : v.pppBool = true
  phase : v.phase ≤ dataPhase
  above : v.Above
  addressed : v.Addressed
  opened : v.dpStartBool = true →
    v.phase = dataPhase ∧ v.lcp = .sOpened ∧ v.ipcp = .sOpened ∧ v.sessionId ≠ 0

def Sound (v : PppGates) : Prop := v.AtRest ∨ v.Live

theorem atRest_finished : AtRest finished := ⟨rfl, rfl, rfl, rfl, rfl, rfl⟩

theorem Live.gateOpened (h : Live v) : v.Opened := fun ho => ⟨(h.opened ho).2.1, (h.opened ho).2.2.1⟩

theorem Live.kept (h : Live v) (hk : Kept v w) : Live w := by
  refine ⟨hk.pppBool.trans h.pppBool, hk.phase h.phase, hk.above h.above, hk.addressed h.addressed, ?_⟩
  intro ho
  rcases hk.gate with hshut | rfl
  · rw [hshut] at ho
    cases ho
  · exact h.opened ho

theorem Live.shuts (h : Live v) (hk : Shuts v w) : Sound w := by
  cases hk with
  | finished hw =>
      rw [hw]
      exact Or.inl atRest_finished
  | kept hk => exact Or.inr (h.kept hk)

/-- IPCP comes up in a session that has a number. -/
theorem Live.up (h : Live v) (hsid : v.sessionId ≠ 0) (hup : Up v w) : Live w := by
  have hl : v.lcp = .sOpened := h.above hup.above
  rw [hup.gates]
  exact ⟨h.pppBool, Nat.le_refl _, fun _ => hl, fun _ => hup.addressed, fun _ => ⟨rfl, hl, rfl, hsid⟩⟩

/-- Another address, which is one where it has to be. -/
theorem Live.readdressed (h : Live v) {a : BitVec 32} (ha : v.acked = true → a ≠ 0) :
    Live { v with hsiIpv4 := a } :=
  ⟨h.pppBool, h.phase, h.above, ha, h.opened⟩

end PppGates

/-! ### Decoding leaves the gates alone -/

theorem gates_walkOpts {eff : Tlv → PppCcb → PppCcb} (heff : ∀ o s, (eff o s).gates = s.gates)
    (ok : Tlv → Bool) (s : PppCcb) (cp : PppCp) : (s.walkOpts cp ok eff).2.gates = s.gates :=
  Tlv.walk_inv (fun t => t.gates = s.gates) (fun o _ t ht => (heff o t).trans ht) rfl

theorem gates_rewrite (s : PppCcb) (cp : PppCp) (hdr : PppHdr) (opts : List (BitVec 8)) :
    (s.rewrite cp hdr opts).gates = s.gates := by
  cases cp <;> rfl

theorem gates_store (s : PppCcb) (cp : PppCp) (proto : BitVec 16) (hdr : PppHdr)
    (opts : List (BitVec 8)) : (s.store cp proto hdr opts).gates = s.gates := by
  cases cp <;> rfl

theorem gates_checkNakRej {eff : Tlv → NakRej → NakRej}
    (heff : ∀ o r, (eff o r).ccb.gates = r.ccb.gates) (cp : PppCp) (flag : BitVec 8)
    (ok : Tlv → Bool) (s : PppCcb) : (checkNakRej cp flag ok eff s).2.gates = s.gates := by
  have hwalk : (Tlv.walk ok eff (Tlv.split (s.opts cp)).1 (Tlv.split (s.opts cp)).2
      ⟨s, [], [], false⟩).2.ccb.gates = s.gates :=
    Tlv.walk_inv (fun r => r.ccb.gates = s.gates) (fun o _ r hr => (heff o r).trans hr) rfl
  unfold checkNakRej
  simp only
  split
  · rfl
  · split
    · exact (gates_rewrite _ _ _ _).trans hwalk
    · split
      · exact (gates_rewrite _ _ _ _).trans hwalk
      · exact (gates_rewrite _ _ _ _).trans hwalk

theorem gates_recvConfigRequest {check : BitVec 8 → PppCcb → CheckNakRej × PppCcb}
    {take : PppCcb → Bool × PppCcb} (hcheck : ∀ flag s, (check flag s).2.gates = s.gates)
    (htake : ∀ s, (take s).2.gates = s.gates) (cp : PppCp) (s : PppCcb) :
    (recvConfigRequest cp check take s).ccb.gates = s.gates := by
  unfold recvConfigRequest
  cases h1 : check configNakCode s with
  | mk b1 s1 =>
      have hs1 : s1.gates = s.gates := by
        rw [← hcheck configNakCode s, h1]
      cases b1 with
      | error => exact hs1
      | sendResponse => exact hs1
      | noAction =>
          simp only
          cases h2 : check configRejectCode s1 with
          | mk b2 s2 =>
              have hs2 : s2.gates = s.gates := by
                rw [← hs1, ← hcheck configRejectCode s1, h2]
              cases b2 with
              | error => exact hs2
              | sendResponse => exact hs2
              | noAction =>
                  simp only
                  cases h3 : take s2 with
                  | mk b3 s3 =>
                      have hs3 : s3.gates = s.gates := by
                        rw [← hs2, ← htake s2, h3]
                      cases b3 with
                      | false => exact hs3
                      | true => exact (gates_rewrite _ _ _ _).trans hs3

theorem gates_recvNakRej {take : Tlv → PppCcb → PppCcb} (htake : ∀ o s, (take o s).gates = s.gates)
    (cp : PppCp) (ok : Tlv → Bool) (s : PppCcb) :
    (recvNakRej cp ok take s).ccb.gates = s.gates := by
  have h := gates_walkOpts htake ok s cp
  unfold recvNakRej
  split
  · rfl
  · cases hw : s.walkOpts cp ok take with
    | mk b t =>
        rw [hw] at h
        cases b with
        | false => exact h
        | true => exact h

/-! ### The decoders -/

theorem gates_decodeLcp (tim : PppTimerId) (s : PppCcb) : (decodeLcp tim s).ccb.gates = s.gates := by
  have hcheck : ∀ flag s, (checkLcpNakRej flag s).2.gates = s.gates := by
    intro flag s
    unfold checkLcpNakRej
    split
    · refine gates_checkNakRej ?_ _ _ _ s
      intro o r
      unfold lcpNakBody
      simp only
      split
      · split <;> rfl
      · split
        · split
          · rfl
          · split <;> rfl
        · rfl
    · refine gates_checkNakRej ?_ _ _ _ s
      intro o r
      unfold lcpRejectBody
      split <;> rfl
  have hnak : ∀ o s, (lcpNakTake o s).gates = s.gates := by
    intro o s
    unfold lcpNakTake
    simp only
    split
    · rfl
    · split
      · split <;> rfl
      · split <;> rfl
  have hrej : ∀ o s, (lcpRejectTake o s).gates = s.gates := by
    intro o s
    unfold lcpRejectTake
    split
    · rfl
    · split
      · rfl
      · split <;> rfl
  unfold decodeLcp
  simp only
  split
  case h_1 =>
    split
    · rfl
    · exact gates_recvConfigRequest hcheck (fun _ => rfl) .lcp { s with echoMissCount := 0 }
  case h_2 =>
    split
    · rfl
    · split
      · rfl
      · split <;> rfl
  case h_3 => exact gates_recvNakRej hnak .lcp _ { s with echoMissCount := 0 }
  case h_4 => exact gates_recvNakRej hrej .lcp _ { s with echoMissCount := 0 }
  case h_8 => split <;> rfl
  case h_9 => split <;> rfl
  case h_10 => split <;> rfl
  all_goals rfl

theorem gates_ipv6cpTakes :
    (∀ flag s, (checkIpv6cpNakRej flag s).2.gates = s.gates) ∧
      (∀ o s, (ipv6cpRequestTake o s).gates = s.gates) ∧
      ∀ o s, (ipv6cpNakTake o s).gates = s.gates := by
  refine ⟨fun flag s => ?_, fun o s => ?_, fun o s => ?_⟩
  · unfold checkIpv6cpNakRej
    refine gates_checkNakRej (fun o r => ?_) _ _ _ s
    split
    · unfold ipv6cpNakBody
      simp only
      split <;> rfl
    · unfold ipv6cpRejectBody
      split <;> rfl
  · unfold ipv6cpRequestTake
    split <;> rfl
  · unfold ipv6cpNakTake
    split <;> rfl

/-- Decoding IPV6CP may close it, and then the frame is not handed to the automaton. -/
theorem shuts_decodeIpv6cp (env : PppEnv) (tim : PppTimerId) (hs : s.gates.Opened) :
    Shuts s.gates (decodeIpv6cp env tim s).ccb.gates ∧
      ((decodeIpv6cp env tim s).status = .success →
        (decodeIpv6cp env tim s).ccb.gates = s.gates) := by
  obtain ⟨hcheck, hreq, hnak⟩ := gates_ipv6cpTakes
  have hsame : ∀ d : Decoded, d.ccb.gates = s.gates → Shuts s.gates d.ccb.gates ∧
      (d.status = .success → d.ccb.gates = s.gates) := by
    intro d hd
    rw [hd]
    exact ⟨.kept (.refl _), fun _ => rfl⟩
  unfold decodeIpv6cp
  simp only
  split
  case h_1 =>
    exact hsame _ (gates_recvConfigRequest hcheck
      (fun s => gates_walkOpts hreq _ s .ipv6cp) .ipv6cp { s with echoMissCount := 0 })
  case h_2 =>
    split
    · exact hsame _ rfl
    · split
      · exact hsame _ rfl
      · exact hsame _ rfl
  case h_3 => exact hsame _ (gates_recvNakRej hnak .ipv6cp _ { s with echoMissCount := 0 })
  case h_4 =>
    unfold recvIpv6cpReject
    simp only
    split
    · exact hsame _ rfl
    · split
      · split
        · exact hsame _ rfl
        · refine ⟨?_, fun h => by cases h⟩
          exact shuts_pppFsm_close
            (s := { { s with echoMissCount := 0 }.setPending .ipv6cp false with cpId := .ipv6cp })
            env tim hs
      · split
        · exact hsame _ rfl
        · exact hsame _ rfl
  all_goals exact hsame _ rfl

/-! ### The address -/

/-- The addresses that IPCP options name. -/
def offered (os : List Tlv) : List (BitVec 32) :=
  (os.filter fun o => o.type = optIpAddress).map fun o => le32At o.val 0

/-- Taking over the options of an answer ends with the last address they name. -/
theorem gates_takeAnswer (os : List Tlv) (s : PppCcb) :
    (os.foldl (fun s o => ipcpAnswerTake o s) s).gates =
      { s.gates with hsiIpv4 := (offered os).getLastD s.params.hsiIpv4 } := by
  induction os generalizing s with
  | nil => rfl
  | cons o os ih =>
      rw [List.foldl_cons, ih]
      by_cases ho : o.type = optIpAddress
      · have hstep : ipcpAnswerTake o s =
            { s with params := { s.params with hsiIpv4 := le32At o.val 0 } } := if_pos ho
        have hoffer : offered (o :: os) = le32At o.val 0 :: offered os := by
          simp [offered, ho]
        rw [hstep, hoffer, List.getLastD_cons]
        rfl
      · have hgates : (ipcpAnswerTake o s).gates = s.gates := by
          unfold ipcpAnswerTake ipcpDnsTake
          rw [if_neg ho]
          split
          · rfl
          · split <;> rfl
        have hhsi : (ipcpAnswerTake o s).params.hsiIpv4 = s.params.hsiIpv4 :=
          congrArg PppGates.hsiIpv4 hgates
        have hoffer : offered (o :: os) = offered os := by
          simp [offered, ho]
        rw [hgates, hhsi, hoffer]

theorem gates_walkAnswer (ok : Tlv → Bool) (s : PppCcb) :
    (s.walkOpts .ipcp ok ipcpAnswerTake).2.gates =
      { s.gates with hsiIpv4 :=
          (offered ((Tlv.split (s.opts .ipcp)).1.takeWhile ok)).getLastD s.params.hsiIpv4 } := by
  unfold PppCcb.walkOpts
  rw [Tlv.walk_eq]
  exact gates_takeAnswer _ s

theorem getLastD_mem_or {α : Type} (l : List α) (a : α) : l.getLastD a = a ∨ l.getLastD a ∈ l := by
  cases l with
  | nil => exact Or.inl rfl
  | cons b l => exact Or.inr (by rw [List.getLastD_eq_getLast?]; simp [List.getLast?_eq_some_getLast])

/-- An answer to IPCP leaves an address: an Ack names one or finds one, and where one was
acknowledged already, none of those named is zero. -/
structure AnswerSafe (code : PppCode) (os : List Tlv) (v : PppGates) : Prop where
  ack : code = .configAck → (offered os).getLastD v.hsiIpv4 ≠ 0
  named : code = .configAck ∨ code = .configNak → v.acked = true → ∀ a ∈ offered os, a ≠ 0

instance (code : PppCode) (os : List Tlv) (v : PppGates) : Decidable (AnswerSafe code os v) :=
  decidable_of_iff ((code = .configAck → (offered os).getLastD v.hsiIpv4 ≠ 0) ∧
      (code = .configAck ∨ code = .configNak → v.acked = true → ∀ a ∈ offered os, a ≠ 0))
    ⟨fun h => ⟨h.1, h.2⟩, fun h => ⟨h.ack, h.named⟩⟩

/-- A walk over part of such an answer keeps an address that was acknowledged. -/
theorem AnswerSafe.walked {code : PppCode} {os : List Tlv} {v : PppGates}
    (h : AnswerSafe code os v) (hcode : code = .configAck ∨ code = .configNak) (hv : v.Addressed)
    (ok : Tlv → Bool) (hacked : v.acked = true) :
    (offered (os.takeWhile ok)).getLastD v.hsiIpv4 ≠ 0 := by
  rcases getLastD_mem_or (offered (os.takeWhile ok)) v.hsiIpv4 with hlast | hlast
  · rw [hlast]
    exact hv hacked
  · refine h.named hcode hacked _ ?_
    have hsub : offered (os.takeWhile ok) ⊆ offered os :=
      (((List.takeWhile_sublist ok).filter _).map _).subset
    exact hsub hlast

theorem decodeIpcp_ack (h : (decodeIpcp tim s).event = .eRecvConfigAck) :
    s.codeOf .ipcp = .configAck := by
  have hspec := decodeIpcp_spec tim s
  generalize decodeIpcp tim s = d at hspec h
  cases hspec with
  | fail h' => cases h
  | failAck hack hopts h' => cases h
  | ack hack h' => exact hack.1
  | termAck hcode h' => cases h
  | other hev hreq h' =>
      have hev' : PppEvent.eRecvConfigAck ∈ ncpEvents := h ▸ hev
      exact absurd hev' (by decide)

/-- Decoding changed the address at most, and kept one where there has to be one. -/
def Readdressed (s : PppCcb) (d : Decoded) : Prop :=
  ∃ a, d.ccb.gates = { s.gates with hsiIpv4 := a } ∧ (s.gates.acked = true → a ≠ 0) ∧
    (d.event = .eRecvConfigAck → a ≠ 0)

theorem readdressed_same {d : Decoded} (haddr : s.gates.Addressed) (hg : d.ccb.gates = s.gates)
    (hev : d.event ≠ .eRecvConfigAck) : Readdressed s d :=
  ⟨s.params.hsiIpv4, hg, haddr, fun h => absurd h hev⟩

theorem gates_ipcpTakes :
    (∀ flag s, (checkIpcpNakRej flag s).2.gates = s.gates) ∧
      (∀ o s, (ipcpRequestTake o s).gates = s.gates) ∧
      ∀ o s, (ipcpRejectTake o s).gates = s.gates := by
  refine ⟨fun flag s => ?_, fun o s => ?_, fun o s => ?_⟩
  · unfold checkIpcpNakRej
    split
    · refine gates_checkNakRej (fun o r => ?_) _ _ _ s
      unfold ipcpNakBody
      split <;> rfl
    · refine gates_checkNakRej (fun o r => ?_) _ _ _ s
      unfold ipcpRejectBody
      split <;> rfl
  · unfold ipcpRequestTake ipcpDnsTake
    split
    · rfl
    · split
      · rfl
      · split <;> rfl
  · unfold ipcpRejectTake
    split
    · rfl
    · split <;> rfl

/-- The loop over an answer, which may stop short of its end. -/
theorem walkAnswer_address {code : PppCode} (haddr : s.gates.Addressed)
    (hsafe : AnswerSafe code (Tlv.split (s.opts .ipcp)).1 s.gates)
    (hcode : code = .configAck ∨ code = .configNak) {b : Bool}
    (h : s.walkOpts .ipcp ipcpOptOk ipcpAnswerTake = (b, t)) :
    ∃ a, t.gates = { s.gates with hsiIpv4 := a } ∧ (s.gates.acked = true → a ≠ 0) ∧
      (b = true → code = .configAck → a ≠ 0) := by
  have hw := gates_walkAnswer ipcpOptOk s
  have hfst := walkOpts_fst s .ipcp ipcpOptOk ipcpAnswerTake
  rw [h] at hw hfst
  refine ⟨_, hw, hsafe.walked hcode haddr ipcpOptOk, ?_⟩
  intro hb hack
  -- an answer taken over as a whole ends with its last address
  have hall : (Tlv.split (s.opts .ipcp)).1.all ipcpOptOk = true := by
    have hok : s.optsOk .ipcp ipcpOptOk = true := hfst.symm.trans hb
    unfold PppCcb.optsOk at hok
    exact (Bool.and_eq_true_iff.mp hok).1
  rw [List.takeWhile_eq_self_iff.mpr (List.all_eq_true.mp hall)]
  exact hsafe.ack hack

theorem readdressed_decodeIpcp (tim : PppTimerId) (haddr : s.gates.Addressed)
    (hsafe : AnswerSafe (s.codeOf .ipcp) (Tlv.split (s.opts .ipcp)).1 s.gates) :
    Readdressed s (decodeIpcp tim s) := by
  obtain ⟨hcheck, hreq, hrej⟩ := gates_ipcpTakes
  have hev : s.codeOf .ipcp ≠ .configAck → (decodeIpcp tim s).event ≠ .eRecvConfigAck :=
    fun hcode hev => hcode (decodeIpcp_ack hev)
  have hcodeOf : s.codeOf .ipcp = pppCode (s.controlProtocol.get .ipcp).pppHdr.code := rfl
  unfold decodeIpcp at hev ⊢
  simp only at hev ⊢
  rw [← hcodeOf] at hev ⊢
  cases hcode : s.codeOf .ipcp <;> rw [hcode] at hev hsafe <;> simp only at hev ⊢
  case configRequest =>
    refine readdressed_same haddr ?_ (hev (by decide))
    exact gates_recvConfigRequest hcheck (fun s => gates_walkOpts hreq _ s .ipcp) .ipcp
      { s with echoMissCount := 0 }
  case configAck =>
    split
    · exact readdressed_same haddr rfl (fun h => by cases h)
    · cases h : (({ s with echoMissCount := 0 }.setPending .ipcp false).stopTimer tim).walkOpts .ipcp
          ipcpOptOk ipcpAnswerTake with
      | mk b t =>
          obtain ⟨a, hg, hacked, hdone⟩ := walkAnswer_address
            (s := ({ s with echoMissCount := 0 }.setPending .ipcp false).stopTimer tim) haddr hsafe
            (Or.inl rfl) h
          cases b with
          | false => exact ⟨a, hg, hacked, fun h => by cases h⟩
          | true => exact ⟨a, hg, hacked, fun _ => hdone rfl rfl⟩
  case configNak =>
    unfold recvNakRej
    split
    · exact readdressed_same haddr rfl (fun h => by cases h)
    · cases h : ({ s with echoMissCount := 0 } : PppCcb).walkOpts .ipcp ipcpOptOk ipcpAnswerTake with
      | mk b t =>
          obtain ⟨a, hg, hacked, hdone⟩ := walkAnswer_address
            (s := { s with echoMissCount := 0 }) haddr hsafe (Or.inr rfl) h
          cases b with
          | false => exact ⟨a, hg, hacked, fun h => by cases h⟩
          | true => exact ⟨a, hg, hacked, fun h => by cases h⟩
  case configReject =>
    refine readdressed_same haddr ?_ (hev (by decide))
    exact gates_recvNakRej hrej .ipcp _ { s with echoMissCount := 0 }
  all_goals exact readdressed_same haddr rfl (fun h => by cases h)

/-! ### Finishing a frame -/

/-- The result of an authentication is a success. -/
def authSuccess (proto : BitVec 16) (code : BitVec 8) : Bool :=
  (proto == papProtocol && code == papAck) || (proto == chapProtocol && code == chapSuccess)

/-- The slot of LCP holds the success of an authentication. -/
def PppCcb.authPassed (s : PppCcb) : Bool :=
  authSuccess (s.controlProtocol.get .lcp).pppProtocol (s.controlProtocol.get .lcp).pppHdr.code

theorem gates_unknown (env : PppEnv) (tim : PppTimerId) (s : PppCcb) :
    (pppFsm env tim .eUnknown s).2.gates = s.gates := by
  rw [gates_of_core (pppFsm_move env tim .eUnknown s).core]
  rw [pppMove_unknown]

/-- `check_auth_result`: it leaves the frame to the automaton, or ends or opens something. -/
theorem sound_checkAuthResult (env : PppEnv) (h : s.gates.Live)
    (hauth : s.phase = authPhase → s.authPassed = true → s.state .lcp = .sOpened) :
    checkAuthResult env s = (false, s) ∨
      (checkAuthResult env s).1 = true ∧ (checkAuthResult env s).2.gates.Sound := by
  unfold checkAuthResult
  simp only
  split
  · exact Or.inl rfl
  rename_i hphase
  split
  · exact Or.inr ⟨rfl, h.shuts (shuts_pppFsm_close (s := { s with cpId := .lcp }) env .ppp
      h.gateOpened)⟩
  split
  · rename_i hpass
    refine Or.inr ⟨rfl, Or.inr (h.kept ?_)⟩
    have hpassed : s.authPassed = true := by
      unfold PppCcb.authPassed authSuccess
      rcases hpass with ⟨h1, h2⟩ | ⟨h1, h2⟩
      · simp [h1, h2]
      · simp [h1, h2]
    rw [gates_of_core (core_openNcps env (rfl : s.core = s.core))]
    exact kept_openNcps env h.gateOpened (hauth (not_not.mp hphase) hpassed)
  · exact Or.inl rfl

theorem sound_pppFinish (env : PppEnv) {r : Decoded} (h : r.ccb.gates.Live) (hslot : Slotted r.ccb)
    (hev : r.event ∉ [.eUp, .eDown, .eOpen])
    (hsid : r.event ≠ .eUnknown → r.ccb.sessionId ≠ 0)
    (hack : r.event = .eRecvConfigAck → r.ccb.cpId = .ipcp → r.ccb.params.hsiIpv4 ≠ 0)
    (hauth : r.ccb.phase = authPhase → r.ccb.authPassed = true → r.ccb.state .lcp = .sOpened) :
    (pppFinish env r).gates.Sound := by
  have hclean : ∀ t : PppCcb, (codecCleanupPppCcb t).gates = t.gates := fun _ => rfl
  unfold pppFinish
  rcases sound_checkAuthResult env h hauth with hleft | ⟨hdone, hsound⟩
  · rw [hleft, if_neg Bool.false_ne_true, hclean]
    by_cases hunk : r.event = .eUnknown
    · rw [hunk, gates_unknown]
      exact Or.inr h
    · have hready : GateReady r.event r.ccb := by
        refine ⟨h.gateOpened, hslot, h.addressed, ?_, hack⟩
        intro hopen
        rw [hopen] at hev
        exact absurd hev (by decide)
      have hup : r.event ≠ .eUp := by
        intro hup
        rw [hup] at hev
        exact absurd hev (by decide)
      have hdown : r.event ≠ .eDown := by
        intro hdown
        rw [hdown] at hev
        exact absurd hev (by decide)
      rcases gated_pppFsm env (pppCpTimer r.ccb) hready hup hdown with hg | hg
      · exact h.shuts hg
      · exact Or.inr (h.up (hsid hunk) hg)
  · rw [if_pos hdone]
    exact hsound

/-- A frame that leads to no event finds nothing to do at rest. -/
theorem gates_pppFinish_rest (env : PppEnv) (h : s.gates.AtRest) :
    (pppFinish env (.ok .eUnknown s)).gates = s.gates := by
  have hphase : s.phase ≠ authPhase := by
    intro hp
    have hidle := h.phase
    rw [show s.gates.phase = s.phase from rfl, hp] at hidle
    exact absurd hidle (by decide)
  have hauth : checkAuthResult env s = (false, s) := by
    unfold checkAuthResult
    simp only [if_pos hphase]
  unfold pppFinish
  show (if (checkAuthResult env s).1 = true then (checkAuthResult env s).2 else
    codecCleanupPppCcb (pppFsm env (pppCpTimer (checkAuthResult env s).2) .eUnknown
      (checkAuthResult env s).2).2).gates = s.gates
  rw [hauth, if_neg Bool.false_ne_true]
  exact gates_unknown env (pppCpTimer s) s

/-! ### Decoded frames -/

theorem event_decodeLcp (tim : PppTimerId) (s : PppCcb) :
    (decodeLcp tim s).event ∉ [.eUp, .eDown, .eOpen] := by
  have hspec := decodeLcp_spec tim s
  generalize decodeLcp tim s = d at hspec
  cases hspec with
  | fail h => exact of_decide_eq_true rfl
  | request hev hphase h =>
      rcases hev with rfl | rfl
      · exact of_decide_eq_true rfl
      · exact of_decide_eq_true rfl
  | ack hack h => exact of_decide_eq_true rfl
  | termAck hcode h => exact of_decide_eq_true rfl
  | noIpv6 h => exact of_decide_eq_true rfl
  | other hev h =>
      rename_i ev t
      show ev ∉ _
      revert hev
      cases ev <;> decide

theorem event_ncp {ev : PppEvent} (h : ev ∈ ncpEvents) : ev ∉ [.eUp, .eDown, .eOpen] := by
  revert h
  cases ev <;> decide

theorem event_decodeIpcp (tim : PppTimerId) (s : PppCcb) :
    (decodeIpcp tim s).event ∉ [.eUp, .eDown, .eOpen] := by
  have hspec := decodeIpcp_spec tim s
  generalize decodeIpcp tim s = d at hspec
  cases hspec with
  | fail h => exact of_decide_eq_true rfl
  | failAck hack hopts h => exact of_decide_eq_true rfl
  | ack hack h => exact of_decide_eq_true rfl
  | termAck hcode h => exact of_decide_eq_true rfl
  | other hev hreq h => exact event_ncp hev

theorem event_decodeIpv6cp (env : PppEnv) (tim : PppTimerId) (s : PppCcb) :
    (decodeIpv6cp env tim s).event ∉ [.eUp, .eDown, .eOpen] := by
  have hspec := decodeIpv6cp_spec env tim s
  generalize decodeIpv6cp env tim s = d at hspec
  cases hspec with
  | fail h => exact of_decide_eq_true rfl
  | closed hcp h => exact of_decide_eq_true rfl
  | ack hack h => exact of_decide_eq_true rfl
  | termAck hcode h => exact of_decide_eq_true rfl
  | other hev hreq h => exact event_ncp hev

/-! ### Frames -/

/-- A success of authentication is at hand when a frame has been stored: the frame is one, or the
slot of LCP still holds one. -/
def passesAuth (pkt : List (BitVec 8)) (s : PppCcb) : Bool :=
  s.authPassed || (frameNextProto pkt == ethPPppSes && frameSessionId pkt == s.sessionId &&
    authSuccess (be16At (framePayload pkt) 0) (payloadHdr (framePayload pkt)).code)

/-- A frame the gates can bear: no PADS nobody has asked for, no success of authentication unless
LCP is open, and no answer to IPCP that leaves it without an address. -/
structure FrameSafe (pkt : List (BitVec 8)) (s : PppCcb) : Prop where
  pads : frameNextProto pkt = ethPPppDis → framePppoeCode pkt = padsCode → s.pppBool = true
  auth : s.phase = authPhase → passesAuth pkt s = true → s.state .lcp = .sOpened
  address : s.phase = ipcpPhase → frameNextProto pkt = ethPPppSes →
    frameSessionId pkt = s.sessionId → be16At (framePayload pkt) 0 = ipcpProtocol →
    AnswerSafe (pppCode (payloadHdr (framePayload pkt)).code)
      (Tlv.split (payloadData (framePayload pkt))).1 s.gates

instance (pkt : List (BitVec 8)) (s : PppCcb) : Decidable (FrameSafe pkt s) :=
  decidable_of_iff
    ((frameNextProto pkt = ethPPppDis → framePppoeCode pkt = padsCode → s.pppBool = true) ∧
      (s.phase = authPhase → passesAuth pkt s = true → s.state .lcp = .sOpened) ∧
      (s.phase = ipcpPhase → frameNextProto pkt = ethPPppSes →
        frameSessionId pkt = s.sessionId → be16At (framePayload pkt) 0 = ipcpProtocol →
        AnswerSafe (pppCode (payloadHdr (framePayload pkt)).code)
          (Tlv.split (payloadData (framePayload pkt))).1 s.gates))
    ⟨fun h => ⟨h.1, h.2.1, h.2.2⟩, fun h => ⟨h.pads, h.auth, h.address⟩⟩

theorem gates_storeFrame (s : PppCcb) (cp : PppCp) (payload : List (BitVec 8)) :
    (s.storeFrame cp payload).gates = s.gates := gates_store s cp _ _ _

theorem gates_select (d : Decoded) (cp : PppCp) : (d.select cp).ccb.gates = d.ccb.gates := by
  unfold Decoded.select
  split <;> rfl

theorem event_select (d : Decoded) (cp : PppCp) : (d.select cp).event = d.event := by
  unfold Decoded.select
  split <;> rfl

theorem cpId_select {d : Decoded} {cp : PppCp} (h : (d.select cp).status = .success) :
    (d.select cp).ccb.cpId = cp := by
  unfold Decoded.select at h ⊢
  by_cases herr : d.status = .error
  · rw [if_pos herr, herr] at h
    cases h
  · rw [if_neg herr]

/-- A Close enters no phase but the last. -/
theorem phase_close (env : PppEnv) (tim : PppTimerId) (s : PppCcb) :
    (pppFsm env tim .eClose s).2.phase = s.phase ∨
      (pppFsm env tim .eClose s).2.phase = endPhase := by
  have hmove : (s.closeMove tim).phase = s.phase ∨ (s.closeMove tim).phase = endPhase := by
    unfold PppCcb.closeMove
    split
    case h_1 =>
      split
      · exact Or.inr rfl
      · split <;> exact Or.inl rfl
    case h_2 =>
      split
      · exact Or.inr rfl
      · exact Or.inl rfl
    case h_7 =>
      unfold PppCcb.layerDown
      split <;> exact Or.inl rfl
    all_goals exact Or.inl rfl
  have hphase : (pppFsm env tim .eClose s).2.phase = (s.closeMove tim).phase :=
    congrArg PppGates.phase (gates_of_core (pppFsm_move env tim .eClose s).core)
  rw [hphase]
  exact hmove

/-- A PAP-Nak closes the session. -/
theorem sound_papNak (env : PppEnv) (h : s.gates.Live) (hphase : s.phase = authPhase) :
    (pppFsm env .ppp .eClose (s.enterPhase lcpPhase)).2.gates.Sound := by
  have hshut : s.gates.dpStartBool = false := by
    refine Bool.eq_false_iff.mpr fun ho => ?_
    have hdata := (h.opened ho).1
    rw [show s.gates.phase = s.phase from rfl, hphase] at hdata
    exact absurd hdata (by decide)
  have henter : (s.enterPhase lcpPhase).gates.Live := h.kept (PppGates.kept_phase hshut lcpPhase (by decide))
  exact henter.shuts (shuts_pppFsm_close env .ppp henter.gateOpened)

/-- A frame of the session, decoded and refused. -/
theorem sound_failed (h : s.gates.Live) (hsafe : FrameSafe pkt s) (hses : ForSession pkt s)
    {r : Decoded} (hr : PppDecoded env (framePayload pkt) s r) : r.ccb.gates.Sound := by
  have hstored : ∀ cp, (s.storeFrame cp (framePayload pkt)).gates.Live := by
    intro cp
    rw [gates_storeFrame]
    exact h
  cases hr with
  | ignored => exact Or.inr h
  | ipcpEarly hproto => exact Or.inr (hstored .ipcp)
  | ipv6cpEarly hproto => exact Or.inr (hstored .ipv6cp)
  | ipcp hfits hproto hphase =>
      have hanswer := hsafe.address hphase hses.ses hses.same hproto
      obtain ⟨a, hg, hacked, _⟩ := readdressed_decodeIpcp (s := s.storeFrame .ipcp (framePayload pkt))
        .ppp (hstored .ipcp).addressed hanswer
      rw [gates_select, hg]
      exact Or.inr ((hstored .ipcp).readdressed hacked)
  | ipv6cp hfits hproto henabled hphase =>
      rw [gates_select]
      exact (hstored .ipv6cp).shuts (shuts_decodeIpv6cp env .pppIpv6cp (hstored .ipv6cp).gateOpened).1
  | lcp hfits hproto =>
      rw [gates_select, gates_decodeLcp]
      exact Or.inr (hstored .lcp)
  | authStay hphase => exact Or.inr h
  | authResult hfits hproto hauth hphase =>
      refine Or.inr ?_
      show (s.storeAuth _ (payloadHdr (framePayload pkt))).gates.Live
      unfold PppCcb.storeAuth
      rw [gates_store]
      exact h
  | papNak hphase => exact sound_papNak env h hphase

theorem protos_decodeLcp (tim : PppTimerId) (s : PppCcb) : (decodeLcp tim s).ccb.protos = s.protos := by
  have hspec := decodeLcp_spec tim s
  generalize decodeLcp tim s = d at hspec
  cases hspec with
  | fail h => exact protos_of_outline h
  | request hev hphase h => exact protos_of_outline h
  | ack hack h => exact (protos_of_outline h).trans rfl
  | termAck hcode h => exact (protos_of_outline h).trans rfl
  | noIpv6 h => exact (protos_of_outline h).trans rfl
  | other hev h => exact protos_of_outline h

/-- After a frame of LCP its slot holds no result of an authentication. -/
theorem authPassed_decodeLcp (hproto : be16At payload 0 = lcpProtocol) :
    ((decodeLcp tim (s.storeFrame .lcp payload)).select .lcp).ccb.authPassed = false := by
  have hheld : ((decodeLcp tim (s.storeFrame .lcp payload)).select .lcp).ccb.protos.get .lcp =
      lcpProtocol := by
    have hselect : ∀ d : Decoded, (d.select .lcp).ccb.protos = d.ccb.protos := by
      intro d
      unfold Decoded.select
      split <;> rfl
    rw [hselect, protos_decodeLcp, ← hproto]
    rfl
  show authSuccess (PerCp.get (PppCcb.protos _) .lcp) _ = false
  rw [hheld]
  unfold authSuccess
  rw [show (lcpProtocol == papProtocol) = false from rfl,
    show (lcpProtocol == chapProtocol) = false from rfl]
  rfl

theorem status_of_select {d : Decoded} {cp : PppCp} (h : (d.select cp).status = .success) :
    d.status = .success := by
  unfold Decoded.select at h
  by_cases herr : d.status = .error
  · rw [if_pos herr] at h
    exact h
  · rw [if_neg herr] at h
    exact h

/-- A decoded frame that has changed the address at most is handed on. -/
theorem sound_handedOn (env : PppEnv) (h : s.gates.Live) (hsid : s.sessionId ≠ 0) {r : Decoded}
    {a : BitVec 32} (hg : r.ccb.gates = { s.gates with hsiIpv4 := a })
    (hacked : s.gates.acked = true → a ≠ 0) (hslot : Slotted r.ccb)
    (hev : r.event ∉ [.eUp, .eDown, .eOpen])
    (hack : r.event = .eRecvConfigAck → r.ccb.cpId = .ipcp → a ≠ 0)
    (hauth : s.phase = authPhase → r.ccb.authPassed = true → s.state .lcp = .sOpened) :
    (pppFinish env r).gates.Sound := by
  have hphase : r.ccb.phase = s.phase := congrArg PppGates.phase hg
  have hlcp : r.ccb.state .lcp = s.state .lcp := congrArg PppGates.lcp hg
  have hid : r.ccb.sessionId = s.sessionId := congrArg PppGates.sessionId hg
  have haddr : r.ccb.params.hsiIpv4 = a := congrArg PppGates.hsiIpv4 hg
  refine sound_pppFinish env (hg ▸ h.readdressed hacked) hslot hev ?_ ?_ ?_
  · intro _
    rw [hid]
    exact hsid
  · rw [haddr]
    exact hack
  · rw [hphase, hlcp]
    exact hauth

/-- A PAP-Nak that was decoded finds nothing more to do. -/
theorem sound_papNak_finished (env : PppEnv) (h : s.gates.Live) (hslot : Slotted s)
    (hphase : s.phase = authPhase) :
    (pppFinish env (.ok .eUnknown (pppFsm env .ppp .eClose (s.enterPhase lcpPhase)).2)).gates.Sound := by
  rcases sound_papNak env h hphase with hrest | hlive
  · rw [gates_pppFinish_rest env hrest]
    exact Or.inl hrest
  · refine sound_pppFinish env hlive (slotted_of_slots (s := s) hslot (slots_pppFsm env .ppp .eClose _))
      (of_decide_eq_true rfl) (fun hev => absurd rfl hev) (fun hev => by cases hev) ?_
    intro hauth
    rcases phase_close env .ppp (s.enterPhase lcpPhase) with hp | hp
    · have hp' : (pppFsm env .ppp .eClose (s.enterPhase lcpPhase)).2.phase = lcpPhase := hp
      exact absurd (hp'.symm.trans hauth) (by decide)
    · exact absurd (hp.symm.trans hauth) (by decide)

/-- A frame of the session, decoded and handed on. -/
theorem sound_finished (h : s.gates.Live) (hslot : Slotted s) (hsafe : FrameSafe pkt s)
    (hses : ForSession pkt s) {r : Decoded} (hr : PppDecoded env (framePayload pkt) s r)
    (hst : r.status = .success) : (pppFinish env r).gates.Sound := by
  have hslot' : Slotted r.ccb := slotted_decodePpp hslot hr
  cases hr with
  | ignored => cases hst
  | ipcpEarly hproto => cases hst
  | ipv6cpEarly hproto => cases hst
  | ipcp hfits hproto hphase =>
      have hanswer := hsafe.address hphase hses.ses hses.same hproto
      have haddr : (s.storeFrame .ipcp (framePayload pkt)).gates.Addressed := by
        rw [gates_storeFrame]
        exact h.addressed
      obtain ⟨a, hg, hacked, hack⟩ := readdressed_decodeIpcp
        (s := s.storeFrame .ipcp (framePayload pkt)) .ppp haddr hanswer
      refine sound_handedOn env h hses.live ((gates_select _ .ipcp).trans hg) hacked hslot' ?_ ?_ ?_
      · rw [event_select]
        exact event_decodeIpcp _ _
      · intro hev _
        rw [event_select] at hev
        exact hack hev
      · intro hauth
        rw [hphase] at hauth
        exact absurd hauth (by decide)
  | ipv6cp hfits hproto henabled hphase =>
      have hs : (s.storeFrame .ipv6cp (framePayload pkt)).gates.Opened := by
        rw [gates_storeFrame]
        exact h.gateOpened
      have hg := (shuts_decodeIpv6cp env .pppIpv6cp hs).2 (status_of_select hst)
      refine sound_handedOn env h hses.live ((gates_select _ .ipv6cp).trans hg) h.addressed hslot'
        ?_ ?_ ?_
      · rw [event_select]
        exact event_decodeIpv6cp _ _ _
      · intro _ hi
        rw [cpId_select hst] at hi
        cases hi
      · intro hauth
        rcases hphase with hp | hp
        · rw [hp] at hauth
          exact absurd hauth (by decide)
        · rw [hp] at hauth
          exact absurd hauth (by decide)
  | lcp hfits hproto =>
      have hg := gates_decodeLcp .ppp (s.storeFrame .lcp (framePayload pkt))
      refine sound_handedOn env h hses.live ((gates_select _ .lcp).trans hg) h.addressed hslot'
        ?_ ?_ ?_
      · rw [event_select]
        exact event_decodeLcp _ _
      · intro _ hi
        rw [cpId_select hst] at hi
        cases hi
      · intro _ hpass
        rw [authPassed_decodeLcp hproto] at hpass
        cases hpass
  | authStay hphase =>
      refine sound_handedOn env h hses.live (a := s.params.hsiIpv4) rfl h.addressed hslot
        (of_decide_eq_true rfl) (fun hev => by cases hev) ?_
      intro _ hpass
      refine hsafe.auth hphase ?_
      unfold passesAuth
      rw [show s.authPassed = true from hpass]
      rfl
  | authResult hfits hproto hauth hphase =>
      rename_i proto
      refine sound_handedOn env h hses.live (a := s.params.hsiIpv4) (gates_store s .lcp _ _ _)
        h.addressed hslot' (of_decide_eq_true rfl) (fun hev => by cases hev) ?_
      intro _ hpass
      refine hsafe.auth hphase ?_
      have hpass' : authSuccess proto (payloadHdr (framePayload pkt)).code = true := hpass
      unfold passesAuth
      rw [hproto, hses.ses, hses.same, hpass']
      simp
  | papNak hphase => exact sound_papNak_finished env h hslot hphase

/-- A PADS in a session that was asked for. -/
theorem sound_pads (env : PppEnv) (h : s.gates.Live) (hcode : framePppoeCode pkt = padsCode) :
    (decodePppoe env pkt (discoveryPhase pkt s)).gates.Sound := by
  rw [gates_of_core (decodePppoe_pads hcode env s)]
  by_cases hl : s.state .lcp = .sOpened
  · -- an LCP that is open goes down, and takes the session with it
    have hend : (padsBlock pkt s).openMove .ppp = (padsBlock pkt s).ended := by
      unfold PppCcb.openMove PppCcb.dropMove
      rw [show (padsBlock pkt s).state (padsBlock pkt s).cpId = .sOpened from hl]
      exact if_pos rfl
    rw [hend]
    exact Or.inl PppGates.atRest_finished
  · have hshut : ∀ ho : s.gates.dpStartBool = true, False := fun ho => hl (h.opened ho).2.1
    have hlive : (padsBlock pkt s).gates.Live :=
      ⟨h.pppBool, (by decide : lcpPhase ≤ dataPhase), h.above, h.addressed, fun ho => absurd ho hshut⟩
    exact hlive.shuts (shuts_openLcp hlive.gateOpened .ppp rfl)

theorem sound_discovery (env : PppEnv) (h : s.gates.Sound)
    (hpads : framePppoeCode pkt = padsCode → s.pppBool = true) :
    (decodePppoe env pkt (discoveryPhase pkt s)).gates.Sound := by
  by_cases hcode : framePppoeCode pkt = padsCode
  · rcases h with hrest | hlive
    · have hidle := hrest.pppBool
      rw [show s.gates.pppBool = s.pppBool from rfl, hpads hcode] at hidle
      cases hidle
    · exact sound_pads env hlive hcode
  · have hphase : discoveryPhase pkt s = s := if_neg hcode
    rw [hphase]
    unfold decodePppoe
    split
    · split
      · exact h
      · exact h
    · split
      · exact Or.inl PppGates.atRest_finished
      · exact h

/-- A frame keeps the gates sound. -/
theorem sound_recv (env : PppEnv) (h : s.gates.Sound) (hslot : Slotted s) (hsafe : FrameSafe pkt s)
    (d : Dhcp6) : (pppProcess env pkt d s).2.gates.Sound := by
  have hcame := pppProcess_handled env pkt d s
  generalize (pppProcess env pkt d s).2 = t at hcame
  have hlive : ForSession pkt s → s.gates.Live := by
    intro hses
    rcases h with hrest | hlive
    · exact absurd hrest.sessionId hses.live
    · exact hlive
  cases hcame with
  | refused => exact h
  | dhcp6 =>
      have hg : (dhcp6WanInput d s).gates = s.gates := by
        unfold dhcp6WanInput
        split <;> rfl
      rw [hg]
      exact h
  | discovery hlen hmax hdis => exact sound_discovery env h (hsafe.pads hdis)
  | failed hses hr hst => exact sound_failed (hlive hses) hsafe hses hr
  | finished hses hr hst => exact sound_finished (hlive hses) hslot hsafe hses hr hst
  | idle =>
      rcases h with hrest | hlive
      · rw [gates_pppFinish_rest env hrest]
        exact Or.inl hrest
      · refine sound_pppFinish env hlive hslot (of_decide_eq_true rfl) (fun hev => absurd rfl hev)
          (fun hev => by cases hev) ?_
        intro hphase hpass
        refine hsafe.auth hphase ?_
        unfold passesAuth
        rw [show s.authPassed = true from hpass]
        rfl

/-! ### Commands and timers -/

/-- A timer of IPV6CP that has run out leaves the gates alone. -/
theorem gates_expired_ipv6cp (env : PppEnv) (tim : PppTimerId) (h6 : s.cpId = .ipv6cp) :
    (pppMove env tim .eTimeoutCounterExpired s).gates = s.gates := by
  have hfinish : (s.finishMove tim).gates = s.gates := by
    unfold PppCcb.finishMove PppCcb.closeLower
    rw [if_neg (by rw [h6]; decide), if_pos (show (s.setState s.cpId .sInit).cpId = .ipv6cp from h6),
      h6]
    rfl
  have hgive : (s.giveUp tim).gates = s.gates := by
    unfold PppCcb.giveUp
    rw [if_pos h6]
    rfl
  cases hst : s.state s.cpId <;> simp only [pppMove, hst]
  case sClosing => exact hfinish
  case sStopping => exact hgive
  case sRequestSent => exact hgive
  case sAckReceived => exact hgive
  case sAckSent => exact hgive

/-- A timer that runs out at rest changes nothing. -/
theorem gates_pppTimerCb_rest (h : s.gates.AtRest) (env : PppEnv) (tim : PppTimerId)
    (cb : PppTimerCb) : (pppTimerCb env tim s cb).gates = s.gates := by
  have hsame : ∀ t : PppCcb, t.state t.cpId = .sInit →
      pppMove env tim .eTimeoutCounterExpired t = t := by
    intro t hst
    simp only [pppMove, hst]
  rcases core_pppTimerCb env tim s cb with hc | hc
  · rw [gates_of_core hc]
    rfl
  · rw [gates_of_core hc]
    cases hcp : cb.cp with
    | lcp =>
        have hinit : ({ s with cpId := .lcp }.stopTimer tim).state .lcp = .sInit := h.lcp
        rw [hsame _ hinit]
        rfl
    | ipcp =>
        have hinit : ({ s with cpId := .ipcp }.stopTimer tim).state .ipcp = .sInit := h.ipcp
        rw [hsame _ hinit]
        rfl
    | ipv6cp =>
        rw [gates_expired_ipv6cp env tim rfl]
        rfl

/-- `PPP_bye` of a session at rest. -/
theorem gates_pppBye_rest (h : s.gates.AtRest) (env : PppEnv) :
    (pppBye (pppFsm env) s).gates = .finished := by
  have hphase : s.phase = endPhase ∨ s.phase = notConfigured := idlePhase_cases h.phase
  unfold pppBye
  simp only [byeExit_eq]
  rw [show (byeStop s).phase = s.phase from rfl]
  rcases hphase with hp | hp
  · rw [if_pos hp]
    rfl
  · rw [hp]
    rfl

theorem sound_pppBye (h : s.gates.Sound) (env : PppEnv) : (pppBye (pppFsm env) s).gates.Sound := by
  rcases h with hrest | hlive
  · rw [gates_pppBye_rest hrest env]
    exact Or.inl PppGates.atRest_finished
  · exact hlive.shuts (shuts_pppBye env s)

theorem sound_pppDisconnect (h : s.gates.Sound) (env : PppEnv) :
    (pppDisconnect env s).2.gates.Sound := by
  unfold pppDisconnect
  split
  · exact h
  · split
    · exact h
    · exact sound_pppBye h env

theorem sound_pppTimerCb (h : s.gates.Sound) (env : PppEnv) (tim : PppTimerId) (cb : PppTimerCb) :
    (pppTimerCb env tim s cb).gates.Sound := by
  rcases h with hrest | hlive
  · rw [gates_pppTimerCb_rest hrest env tim cb]
    exact Or.inl hrest
  · exact hlive.shuts (shuts_pppTimerCb env tim hlive.gateOpened cb)

/-- A dial is asked for. -/
theorem sound_pppConnect (h : s.gates.Sound) : (pppConnect s).2.gates.Sound := by
  unfold pppConnect
  by_cases hphase : endPhase < s.phase
  · rw [if_pos hphase]
    exact h
  · rw [if_neg hphase]
    rcases h with hrest | hlive
    · refine Or.inr ⟨rfl, (by decide : pppoePhase ≤ dataPhase), ?_, ?_, ?_⟩
      · exact fun hi => absurd hrest.ipcp hi
      · intro hacked
        have hacked' : s.gates.acked = true := hacked
        unfold PppGates.acked at hacked'
        rw [hrest.ipcp] at hacked'
        cases hacked'
      · intro ho
        have hshut := hrest.dpStartBool
        rw [show s.gates.dpStartBool = true from ho] at hshut
        cases hshut
    · refine Or.inr ⟨rfl, (by decide : pppoePhase ≤ dataPhase), hlive.above, hlive.addressed, ?_⟩
      intro ho
      have hdata : s.phase = dataPhase := (hlive.opened ho).1
      rw [hdata] at hphase
      exact absurd (by decide) hphase

/-- What a step is asked for: a frame the gates can bear. -/
def PppLabel.gateSafe (s : PppCcb) : PppLabel → Prop
  | .recv pkt _ _ => FrameSafe pkt s
  | _ => True

/-- A step of a session keeps its gates sound. -/
theorem sound_pppStep (mac : BitVec 48) (h : s.gates.Sound) (hslot : Slotted s) {l : PppLabel}
    (hl : l.ofSession = true) (hsafe : l.gateSafe s) : (pppStep mac s l).gates.Sound := by
  cases l with
  | connect => exact sound_pppConnect h
  | disconnect => exact sound_pppDisconnect h _
  | forceDisable =>
      show (fastrgForceTerminateHsi s).gates.Sound
      unfold fastrgForceTerminateHsi
      split
      · exact h
      · exact Or.inl PppGates.atRest_finished
  | ipv6Changed =>
      have hdone := sound_pppDisconnect (s := { s with redialPending := true }) h ⟨mac, .success⟩
      simp only [pppStep, pppIpv6Redial]
      split
      · split
        · exact hdone
        · exact hdone
      · exact h
  | setIpv6Enable enable => exact h
  | applyConfig isUpdate enable => exact Bool.noConfusion hl
  | disableCcb => exact Bool.noConfusion hl
  | recv pkt dns d => exact sound_recv _ h hslot hsafe d
  | pppTimer =>
      simp only [pppStep]
      cases s.ppp with
      | none => exact h
      | some cb => exact sound_pppTimerCb h _ _ cb
  | ipv6cpTimer =>
      simp only [pppStep]
      cases s.pppIpv6cp with
      | none => exact h
      | some cb => exact sound_pppTimerCb h _ _ cb
  | pppoeTimer =>
      simp only [pppStep, pppoeTimerCb]
      split
      · exact h
      · split
        · exact Or.inl PppGates.atRest_finished
        · exact h
  | aliveTimer =>
      simp only [pppStep, pppKeepaliveCb]
      split
      · split
        · exact sound_pppBye h _
        · exact h
      · exact h
  | dhcp6Timer d =>
      simp only [pppStep, dhcp6TimerCb]
      split
      · split
        · exact h
        · exact h
      · exact h

end FastRG
