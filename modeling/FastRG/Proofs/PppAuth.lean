/-
Authentication: what `check_auth_result` acts on.

The answer of the peer is left in the slot of LCP and looked at after every frame that is decoded.
An answer that opens the network protocols leaves the phase, so it is not looked at again.  One
that closes LCP does not, and neither does rolling the phase back from DATA to AUTH find the slot
empty: from then on any frame that says nothing of its own has the old answer acted on again.

`AuthReady` is what keeps this from happening, and `authOnce_iff` says that nothing less does.
-/
import FastRG.Proofs.PppAuthUp
import FastRG.Proofs.PppGateFrames

namespace FastRG

variable {env : PppEnv} {tim : PppTimerId} {s t : PppCcb} {pkt payload : List (BitVec 8)}

/-! ### Answers -/

/-- What a frame of PAP or CHAP says of our credentials. -/
inductive AuthAnswer
  | accepted
  | failed
  | refused
  deriving DecidableEq

/-- A PAP-Ack or CHAP-Success, a CHAP-Failure, a PAP-Nak. -/
def authAnswer (proto : BitVec 16) (code : BitVec 8) : Option AuthAnswer :=
  if proto = papProtocol ∧ code = papAck ∨ proto = chapProtocol ∧ code = chapSuccess then
    some .accepted
  else if proto = chapProtocol ∧ code = chapFailure then some .failed
  else if proto = papProtocol ∧ code = papNak then some .refused
  else none

/-- The answer in the slot of LCP. -/
def PppCcb.heldAnswer (s : PppCcb) : Option AuthAnswer :=
  authAnswer (s.controlProtocol.get .lcp).pppProtocol (s.controlProtocol.get .lcp).pppHdr.code

/-- What `check_auth_result` does: nothing, open the network protocols, or close LCP. -/
inductive AuthAct
  | nothing
  | opens
  | closes
  deriving DecidableEq

def AuthAnswer.act : Option AuthAnswer → AuthAct
  | none => .nothing
  | some .accepted => .opens
  | some .failed => .closes
  | some .refused => .closes

def authAct (s : PppCcb) : AuthAct :=
  if s.phase = authPhase then AuthAnswer.act s.heldAnswer else .nothing

/-- The three ways through `check_auth_result`. -/
def AuthAct.run (env : PppEnv) (s : PppCcb) : AuthAct → Bool × PppCcb
  | .nothing => (false, s)
  | .opens => (true, openNcps env (pppFsm env) s)
  | .closes => (true, (pppFsm env .ppp .eClose { s with cpId := .lcp }).2)

theorem checkAuthResult_act (env : PppEnv) (s : PppCcb) :
    checkAuthResult env s = (authAct s).run env s := by
  unfold checkAuthResult authAct PppCcb.heldAnswer authAnswer
  simp only
  generalize (s.controlProtocol.get .lcp).pppProtocol = proto
  generalize (s.controlProtocol.get .lcp).pppHdr.code = code
  by_cases hphase : s.phase = authPhase
  · rw [if_neg (not_not.mpr hphase), if_pos hphase]
    by_cases hok : proto = papProtocol ∧ code = papAck ∨ proto = chapProtocol ∧ code = chapSuccess
    · have hno : ¬ ((proto = papProtocol ∧ code = papNak) ∨
          (proto = chapProtocol ∧ code = chapFailure)) := by
        rcases hok with ⟨rfl, rfl⟩ | ⟨rfl, rfl⟩ <;> decide
      rw [if_neg hno, if_pos hok, if_pos hok]
      rfl
    · by_cases hfail : proto = chapProtocol ∧ code = chapFailure
      · rw [if_pos (Or.inr hfail), if_neg hok, if_pos hfail]
        rfl
      · by_cases hnak : proto = papProtocol ∧ code = papNak
        · rw [if_pos (Or.inl hnak), if_neg hok, if_neg hfail, if_pos hnak]
          rfl
        · have hno : ¬ ((proto = papProtocol ∧ code = papNak) ∨
              (proto = chapProtocol ∧ code = chapFailure)) := fun h => h.elim hnak hfail
          rw [if_neg hno, if_neg hok, if_neg hok, if_neg hfail, if_neg hnak]
          rfl
  · rw [if_pos hphase, if_neg hphase]
    rfl

/-- Outside authentication, and with a frame of LCP in its slot, there is nothing to act on. -/
theorem authAct_phase (h : s.phase ≠ authPhase) : authAct s = .nothing := if_neg h

theorem heldAnswer_lcp (h : s.protos.lcp = lcpProtocol) : s.heldAnswer = none := by
  unfold PppCcb.heldAnswer authAnswer
  rw [show (s.controlProtocol.get .lcp).pppProtocol = lcpProtocol from h]
  rw [if_neg (by simp [lcpProtocol, papProtocol, chapProtocol]),
    if_neg (by simp [lcpProtocol, chapProtocol]), if_neg (by simp [lcpProtocol, papProtocol])]

theorem authAct_none (h : s.heldAnswer = none) : authAct s = .nothing := by
  unfold authAct
  rw [h]
  split <;> rfl

theorem authAct_auth (hphase : s.phase = authPhase) : authAct s = AuthAnswer.act s.heldAnswer :=
  if_pos hphase

/-! ### Frames that reach the check -/

/-- The block `ppp_process` hands to `check_auth_result`, if it comes to that. -/
def authChecked (env : PppEnv) (pkt : List (BitVec 8)) (s : PppCcb) : Option PppCcb :=
  if 24 ≤ pkt.length ∧ namesSession pkt = true ∧
      (s.sessionId = 0 ∨ frameSessionId pkt ≠ s.sessionId) then none
  else if 26 ≤ pkt.length ∧ frameNextProto pkt = ethPPppSes ∧
      be16At (framePayload pkt) 0 = pppIpv6Protocol then none
  else if (pppDecodeFrame env pkt s).status = .error then none
  else some (pppDecodeFrame env pkt s).ccb

/-- It is what the check is made on, and what the automaton goes on from. -/
theorem pppProcess_checked (d : Dhcp6) (h : authChecked env pkt s = some t) :
    (pppDecodeFrame env pkt s).ccb = t ∧ (pppDecodeFrame env pkt s).status ≠ .error ∧
      (pppProcess env pkt d s).2 = pppFinish env (pppDecodeFrame env pkt s) := by
  unfold authChecked at h
  split at h
  · cases h
  rename_i hsid
  split at h
  · cases h
  rename_i hdata
  split at h
  · cases h
  rename_i hst
  refine ⟨Option.some.inj h, hst, ?_⟩
  rw [pppProcess_decoded env d hsid hdata, if_neg hst]

/-- A frame of the session that carries an answer. -/
structure AuthFrame (pkt : List (BitVec 8)) (s : PppCcb) (a : AuthAnswer) : Prop where
  session : ForSession pkt s
  fits : payloadFits (framePayload pkt)
  answer : authAnswer (be16At (framePayload pkt) 0) (payloadHdr (framePayload pkt)).code = some a

/-- A frame that is checked and says nothing itself: one that is neither discovery nor session,
or one of PAP or CHAP that carries no answer, and not a challenge cut short. -/
def AuthSilent (pkt : List (BitVec 8)) (s : PppCcb) : Prop :=
  24 ≤ pkt.length ∧ pkt.length ≤ ethJumbo ∧ frameNextProto pkt ≠ ethPPppDis ∧
      frameNextProto pkt ≠ ethPPppSes ∨
    ForSession pkt s ∧ payloadFits (framePayload pkt) ∧
      (be16At (framePayload pkt) 0 = papProtocol ∨ be16At (framePayload pkt) 0 = chapProtocol) ∧
      authAnswer (be16At (framePayload pkt) 0) (payloadHdr (framePayload pkt)).code = none ∧
      ¬ (be16At (framePayload pkt) 0 = chapProtocol ∧
        (payloadHdr (framePayload pkt)).code = chapChallenge ∧
        ((payloadData (framePayload pkt)).length < 1 ∨
          (payloadData (framePayload pkt)).length - 1 <
            ((payloadData (framePayload pkt)).getD 0 0).toNat))

instance (pkt : List (BitVec 8)) (s : PppCcb) : Decidable (ForSession pkt s) :=
  decidable_of_iff (30 ≤ pkt.length ∧ pkt.length ≤ ethJumbo ∧ frameNextProto pkt = ethPPppSes ∧
      s.sessionId ≠ 0 ∧ frameSessionId pkt = s.sessionId)
    ⟨fun h => ⟨h.1, h.2.1, h.2.2.1, h.2.2.2.1, h.2.2.2.2⟩,
      fun h => ⟨h.len, h.max, h.ses, h.live, h.same⟩⟩

instance (payload : List (BitVec 8)) : Decidable (payloadFits payload) :=
  inferInstanceAs (Decidable (_ ∧ _))

instance (pkt : List (BitVec 8)) (s : PppCcb) (a : AuthAnswer) : Decidable (AuthFrame pkt s a) :=
  decidable_of_iff (ForSession pkt s ∧ payloadFits (framePayload pkt) ∧
      authAnswer (be16At (framePayload pkt) 0) (payloadHdr (framePayload pkt)).code = some a)
    ⟨fun h => ⟨h.1, h.2.1, h.2.2⟩, fun h => ⟨h.session, h.fits, h.answer⟩⟩

/-- The protocols an answer belongs to. -/
theorem authAnswer_proto {proto : BitVec 16} {code : BitVec 8} {a : AuthAnswer}
    (h : authAnswer proto code = some a) : proto = papProtocol ∨ proto = chapProtocol := by
  unfold authAnswer at h
  split at h
  · rename_i hok
    exact hok.imp And.left And.left
  · split at h
    · rename_i hfail
      exact Or.inr hfail.1
    · split at h
      · rename_i hnak
        exact Or.inl hnak.1
      · cases h

/-- A frame of PAP or CHAP for the session is handed to its decoder. -/
theorem pppDecodeFrame_auth (env : PppEnv) (hses : ForSession pkt s)
    (hfits : payloadFits (framePayload pkt)) :
    (be16At (framePayload pkt) 0 = papProtocol →
        pppDecodeFrame env pkt s = decodePap env (payloadHdr (framePayload pkt)) s) ∧
      (be16At (framePayload pkt) 0 = chapProtocol →
        pppDecodeFrame env pkt s =
          decodeChap (payloadHdr (framePayload pkt)) (payloadData (framePayload pkt)) s) := by
  have hlen := hses.len
  have hframe : pppDecodeFrame env pkt s = decodePpp env (framePayload pkt) s := by
    unfold pppDecodeFrame
    rw [if_neg (Nat.not_lt.mpr hses.max), if_neg (by omega), hses.ses, if_neg (by decide),
      if_pos rfl, if_neg (by omega)]
  have hnot : ¬ (be16At (framePayload pkt) 4).toNat < 4 := Nat.not_lt.mpr hfits.1
  have hroom : ¬ (framePayload pkt).length < 2 + (be16At (framePayload pkt) 4).toNat :=
    Nat.not_lt.mpr hfits.2
  refine ⟨?_, ?_⟩
  · intro hproto
    rw [hframe]
    unfold decodePpp
    simp only
    rw [if_neg hnot, if_neg hroom, hproto, if_neg (by decide),
      if_neg fun h => absurd h.1 (by decide), if_neg (by decide), if_pos rfl]
    rfl
  · intro hproto
    rw [hframe]
    unfold decodePpp
    simp only
    rw [if_neg hnot, if_neg hroom, hproto, if_neg (by decide),
      if_neg fun h => absurd h.1 (by decide), if_neg (by decide), if_neg (by decide), if_pos rfl]
    rfl

/-- It is turned away neither for its session nor as IPv6. -/
theorem authChecked_session (env : PppEnv) (hses : ForSession pkt s)
    (hproto : be16At (framePayload pkt) 0 = papProtocol ∨
      be16At (framePayload pkt) 0 = chapProtocol) :
    authChecked env pkt s =
      if (pppDecodeFrame env pkt s).status = .error then none
      else some (pppDecodeFrame env pkt s).ccb := by
  have hsid : ¬ (24 ≤ pkt.length ∧ namesSession pkt = true ∧
      (s.sessionId = 0 ∨ frameSessionId pkt ≠ s.sessionId)) := by
    intro h
    rcases h.2.2 with h0 | hne
    · exact hses.live h0
    · exact hne hses.same
  have hdata : ¬ (26 ≤ pkt.length ∧ frameNextProto pkt = ethPPppSes ∧
      be16At (framePayload pkt) 0 = pppIpv6Protocol) := by
    intro h
    rcases hproto with hp | hp
    · exact absurd (hp.symm.trans h.2.2) (by decide)
    · exact absurd (hp.symm.trans h.2.2) (by decide)
  unfold authChecked
  rw [if_neg hsid, if_neg hdata]

theorem ok_status_ne (ev : PppEvent) (s : PppCcb) : (Decoded.ok ev s).status ≠ .error := by
  show ¬ Status.success = .error
  decide

/-- The block a frame with an answer leaves for the check. -/
def PppCcb.told (s : PppCcb) (pkt : List (BitVec 8)) : PppCcb :=
  s.storeAuth (be16At (framePayload pkt) 0) (payloadHdr (framePayload pkt))

/-- The three kinds of frames in authentication, as they reach the check. -/
theorem authChecked_told (env : PppEnv) (hphase : s.phase = authPhase) {a : AuthAnswer}
    (h : AuthFrame pkt s a) (ha : a ≠ .refused) :
    pppDecodeFrame env pkt s = .ok .eUnknown (s.told pkt) ∧
      authChecked env pkt s = some (s.told pkt) ∧ authAct (s.told pkt) = AuthAnswer.act (some a) := by
  have hdecode : pppDecodeFrame env pkt s = .ok .eUnknown (s.told pkt) := by
    have hans := h.answer
    obtain ⟨hpap, hchap⟩ := pppDecodeFrame_auth env h.session h.fits
    unfold PppCcb.told
    unfold authAnswer at hans
    split at hans
    · rename_i hok
      rcases hok with ⟨hproto, hcode⟩ | ⟨hproto, hcode⟩
      · rw [hpap hproto, decodePap, if_neg (not_not.mpr hphase), if_pos hcode, hproto]
      · rw [hchap hproto, decodeChap, if_neg (not_not.mpr hphase), hcode, if_neg (by decide),
          if_pos rfl, hproto]
    · split at hans
      · rename_i hfail
        rw [hchap hfail.1, decodeChap, if_neg (not_not.mpr hphase), hfail.2, if_neg (by decide),
          if_neg (by decide), if_pos rfl, hfail.1]
      · split at hans
        · exact absurd (Option.some.inj hans).symm ha
        · cases hans
  refine ⟨hdecode, ?_, ?_⟩
  · rw [authChecked_session env h.session (authAnswer_proto h.answer), hdecode]
    exact if_neg (ok_status_ne _ _)
  · have hheld : (s.told pkt).heldAnswer = some a := h.answer
    rw [authAct_auth (s := s.told pkt) hphase, hheld]

theorem authChecked_refused (env : PppEnv) (hphase : s.phase = authPhase)
    (h : AuthFrame pkt s .refused) :
    pppDecodeFrame env pkt s =
        .ok .eUnknown (pppFsm env .ppp .eClose (s.enterPhase lcpPhase)).2 ∧
      authChecked env pkt s = some (pppFsm env .ppp .eClose (s.enterPhase lcpPhase)).2 ∧
      (pppFsm env .ppp .eClose (s.enterPhase lcpPhase)).2.phase ≠ authPhase ∧
      authAct (pppFsm env .ppp .eClose (s.enterPhase lcpPhase)).2 = .nothing := by
  have hnak : be16At (framePayload pkt) 0 = papProtocol ∧
      (payloadHdr (framePayload pkt)).code = papNak := by
    have hans := h.answer
    unfold authAnswer at hans
    split at hans
    · cases hans
    · split at hans
      · cases hans
      · split at hans
        · assumption
        · cases hans
  have hdecode : pppDecodeFrame env pkt s =
      .ok .eUnknown (pppFsm env .ppp .eClose (s.enterPhase lcpPhase)).2 := by
    rw [(pppDecodeFrame_auth env h.session h.fits).1 hnak.1, decodePap,
      if_neg (not_not.mpr hphase), hnak.2, if_neg (by decide), if_pos rfl]
  have hphase : (pppFsm env .ppp .eClose (s.enterPhase lcpPhase)).2.phase ≠ authPhase := by
    rcases phase_close env .ppp (s.enterPhase lcpPhase) with hp | hp
    · rw [hp]
      show ¬ lcpPhase = authPhase
      decide
    · rw [hp]
      decide
  refine ⟨hdecode, ?_, hphase, authAct_phase hphase⟩
  rw [authChecked_session env h.session (Or.inl hnak.1), hdecode]
  exact if_neg (ok_status_ne _ _)

theorem authChecked_silent (env : PppEnv) (hphase : s.phase = authPhase) (h : AuthSilent pkt s) :
    pppDecodeFrame env pkt s = .ok .eUnknown s ∧ authChecked env pkt s = some s := by
  rcases h with ⟨hlen, hmax, hdis, hses⟩ | ⟨hses, hfits, hproto, hans, hcut⟩
  · have hdecode : pppDecodeFrame env pkt s = .ok .eUnknown s := by
      unfold pppDecodeFrame
      rw [if_neg (Nat.not_lt.mpr hmax), if_neg (Nat.not_lt.mpr hlen), if_neg hdis, if_neg hses]
    have hnames : namesSession pkt = false := by simp [namesSession, hdis, hses]
    have hsid : ¬ (24 ≤ pkt.length ∧ namesSession pkt = true ∧
        (s.sessionId = 0 ∨ frameSessionId pkt ≠ s.sessionId)) := by simp [hnames]
    refine ⟨hdecode, ?_⟩
    unfold authChecked
    rw [if_neg hsid, if_neg fun h => hses h.2.1, hdecode]
    exact if_neg (ok_status_ne _ _)
  · have hdecode : pppDecodeFrame env pkt s = .ok .eUnknown s := by
      obtain ⟨hpap, hchap⟩ := pppDecodeFrame_auth env hses hfits
      unfold authAnswer at hans
      split at hans
      · cases hans
      rename_i hok
      split at hans
      · cases hans
      rename_i hfail
      split at hans
      · cases hans
      rename_i hnak
      rcases hproto with hp | hp
      · rw [hpap hp, decodePap, if_neg (not_not.mpr hphase), if_neg fun hc => hok (Or.inl ⟨hp, hc⟩),
          if_neg fun hc => hnak ⟨hp, hc⟩, enterPhase_self hphase]
        split <;> rfl
      · rw [hchap hp, decodeChap, if_neg (not_not.mpr hphase), enterPhase_self hphase]
        split
        · rename_i hc
          rw [if_neg fun h => hcut ⟨hp, hc, h⟩]
        · rw [if_neg fun hc => hok (Or.inr ⟨hp, hc⟩), if_neg fun hc => hfail ⟨hp, hc⟩]
    refine ⟨hdecode, ?_⟩
    rw [authChecked_session env hses hproto, hdecode]
    exact if_neg (ok_status_ne _ _)

/-! ### Whatever reaches the check -/

theorem phase_decodeIpcp (tim : PppTimerId) (s : PppCcb) :
    (decodeIpcp tim s).ccb.phase = s.phase := by
  have hspec := decodeIpcp_spec tim s
  generalize decodeIpcp tim s = d at hspec
  cases hspec with
  | fail h => exact phase_of_outline h
  | failAck hack hopts h => exact (phase_of_outline h).trans rfl
  | ack hack h => exact (phase_of_outline h).trans rfl
  | termAck hcode h => exact (phase_of_outline h).trans rfl
  | other hev hreq h => exact phase_of_outline h

theorem phase_decodeIpv6cp (env : PppEnv) (tim : PppTimerId) (s : PppCcb)
    (hst : (decodeIpv6cp env tim s).status ≠ .error) :
    (decodeIpv6cp env tim s).ccb.phase = s.phase := by
  have hspec := decodeIpv6cp_spec env tim s
  generalize decodeIpv6cp env tim s = d at hspec hst
  cases hspec with
  | fail h => exact absurd rfl hst
  | closed hcp h => exact absurd rfl hst
  | ack hack h => exact (phase_of_outline h).trans rfl
  | termAck hcode h => exact (phase_of_outline h).trans rfl
  | other hev hreq h => exact phase_of_outline h

/-- What the check is made after: a frame that says nothing, one with an answer, or one that leaves
no answer to be found. -/
inductive AuthHeard (pkt : List (BitVec 8)) (s : PppCcb) : Decoded → Prop
  | silent (h : AuthSilent pkt s) : AuthHeard pkt s (.ok .eUnknown s)
  | told {a : AuthAnswer} (h : AuthFrame pkt s a) (ha : a ≠ .refused) (hphase : s.phase = authPhase) :
      AuthHeard pkt s (.ok .eUnknown (s.told pkt))
  | quiet {r : Decoded} (hquiet : r.ccb.phase ≠ authPhase ∨ r.ccb.protos.lcp = lcpProtocol)
      (hlift : r.event.lifting → r.ccb.cpId = .lcp → r.ccb.protos.lcp = lcpProtocol) :
      AuthHeard pkt s r

/-- Nothing is taken for an answer unless the phase is right. -/
theorem authHeard_auth (env : PppEnv) (hses : ForSession pkt s)
    (hfits : payloadFits (framePayload pkt))
    (hproto : be16At (framePayload pkt) 0 = papProtocol ∨
      be16At (framePayload pkt) 0 = chapProtocol)
    (hst : (pppDecodeFrame env pkt s).status ≠ .error) :
    AuthHeard pkt s (pppDecodeFrame env pkt s) := by
  obtain ⟨hpap, hchap⟩ := pppDecodeFrame_auth env hses hfits
  have hphase : s.phase = authPhase := by
    by_contra hne
    rcases hproto with hp | hp
    · rw [hpap hp, decodePap, if_pos hne] at hst
      exact hst rfl
    · rw [hchap hp, decodeChap, if_pos hne] at hst
      exact hst rfl
  cases hans : authAnswer (be16At (framePayload pkt) 0) (payloadHdr (framePayload pkt)).code with
  | some a =>
      have hframe : AuthFrame pkt s a := ⟨hses, hfits, hans⟩
      by_cases ha : a = .refused
      · subst ha
        obtain ⟨hdecode, -, hleft, -⟩ := authChecked_refused env hphase hframe
        rw [hdecode]
        exact .quiet (Or.inl hleft) fun hev => by rcases hev with hev | hev <;> cases hev
      · rw [(authChecked_told env hphase hframe ha).1]
        exact .told hframe ha hphase
  | none =>
      have hsilent : AuthSilent pkt s := by
        refine Or.inr ⟨hses, hfits, hproto, hans, ?_⟩
        intro hcut
        rw [hchap hcut.1, decodeChap, if_neg (not_not.mpr hphase), if_pos hcut.2.1,
          if_pos hcut.2.2] at hst
        exact hst rfl
      rw [(authChecked_silent env hphase hsilent).1]
      exact .silent hsilent

/-- Any other frame of the session leaves no answer in the slot, or is out of phase. -/
theorem authHeard_other (hauth : ¬ (payloadFits payload ∧
      (be16At payload 0 = papProtocol ∨ be16At payload 0 = chapProtocol)))
    (hst : (decodePpp env payload s).status ≠ .error) :
    AuthHeard pkt s (decodePpp env payload s) := by
  unfold decodePpp at hst ⊢
  simp only at hst ⊢
  split at hst
  · exact absurd rfl hst
  rename_i hlen
  rw [if_neg hlen]
  split at hst
  · exact absurd rfl hst
  rename_i hroom
  rw [if_neg hroom]
  have hfits : payloadFits payload := ⟨Nat.le_of_not_lt hlen, Nat.le_of_not_lt hroom⟩
  split at hst
  · rename_i hproto
    rw [if_pos hproto]
    split at hst
    · exact absurd rfl hst
    rename_i hphase
    rw [if_neg hphase]
    have hipcp : s.phase = ipcpPhase := not_not.mp hphase
    obtain ⟨-, hsel⟩ := select_ok hst
    rw [hsel]
    refine .quiet (Or.inl ?_) fun _ hcp => by cases hcp
    show (decodeIpcp _ _).ccb.phase ≠ authPhase
    rw [phase_decodeIpcp]
    show ¬ s.phase = authPhase
    rw [hipcp]
    decide
  rename_i hipcp
  rw [if_neg hipcp]
  split at hst
  · rename_i hproto
    rw [if_pos hproto]
    split at hst
    · exact absurd rfl hst
    rename_i hphase
    rw [if_neg hphase]
    have hncp : ¬ (s.phase ≠ ipcpPhase ∧ s.phase ≠ dataPhase) := hphase
    obtain ⟨hok, hsel⟩ := select_ok hst
    rw [hsel]
    refine .quiet (Or.inl ?_) fun _ hcp => by cases hcp
    show (decodeIpv6cp env _ _).ccb.phase ≠ authPhase
    rw [phase_decodeIpv6cp env _ _ hok]
    show ¬ s.phase = authPhase
    intro hp
    rw [hp] at hncp
    exact hncp (by decide)
  rename_i hipv6cp
  rw [if_neg hipv6cp]
  split at hst
  · rename_i hproto
    rw [if_pos hproto]
    obtain ⟨-, hsel⟩ := select_ok hst
    rw [hsel]
    have hslot : (decodeLcp .ppp (s.storeFrame .lcp payload)).ccb.protos.lcp = lcpProtocol := by
      rw [protos_decodeLcp]
      exact hproto
    exact .quiet (Or.inr hslot) fun _ _ => hslot
  rename_i hlcp
  rw [if_neg hlcp]
  split at hst
  · rename_i hproto
    exact absurd ⟨hfits, Or.inl hproto⟩ hauth
  split at hst
  · rename_i hproto
    exact absurd ⟨hfits, Or.inr hproto⟩ hauth
  · exact absurd rfl hst

theorem authHeard_checked (h : authChecked env pkt s = some t) :
    AuthHeard pkt s (pppDecodeFrame env pkt s) := by
  obtain ⟨-, hst, -⟩ := pppProcess_checked ⟨false, false, false⟩ h
  have hsid : ¬ (24 ≤ pkt.length ∧ namesSession pkt = true ∧
      (s.sessionId = 0 ∨ frameSessionId pkt ≠ s.sessionId)) := by
    intro hsid
    rw [authChecked, if_pos hsid] at h
    cases h
  by_cases hmax : ethJumbo < pkt.length
  · rw [pppDecodeFrame, if_pos hmax] at hst
    exact absurd rfl hst
  by_cases hlen : pkt.length < 24
  · rw [pppDecodeFrame, if_neg hmax, if_pos hlen] at hst
    exact absurd rfl hst
  by_cases hdis : frameNextProto pkt = ethPPppDis
  · rw [pppDecodeFrame, if_neg hmax, if_neg hlen, if_pos hdis] at hst
    exact absurd rfl hst
  by_cases hses : frameNextProto pkt = ethPPppSes
  · by_cases hshort : pkt.length < 30
    · rw [pppDecodeFrame, if_neg hmax, if_neg hlen, if_neg hdis, if_pos hses, if_pos hshort] at hst
      exact absurd rfl hst
    have hsession : ForSession pkt s := by
      have hnames : namesSession pkt = true := by simp [namesSession, hses]
      have hin : ¬ (s.sessionId = 0 ∨ frameSessionId pkt ≠ s.sessionId) :=
        fun h => hsid ⟨Nat.le_of_not_lt hlen, hnames, h⟩
      exact ⟨Nat.le_of_not_lt hshort, Nat.le_of_not_lt hmax, hses, fun h => hin (Or.inl h),
        not_not.mp fun h => hin (Or.inr h)⟩
    by_cases hauth : payloadFits (framePayload pkt) ∧
        (be16At (framePayload pkt) 0 = papProtocol ∨ be16At (framePayload pkt) 0 = chapProtocol)
    · exact authHeard_auth env hsession hauth.1 hauth.2 hst
    have hframe : pppDecodeFrame env pkt s = decodePpp env (framePayload pkt) s := by
      rw [pppDecodeFrame, if_neg hmax, if_neg hlen, if_neg hdis, if_pos hses, if_neg hshort]
    rw [hframe] at hst ⊢
    exact authHeard_other hauth hst
  · have hdecode : pppDecodeFrame env pkt s = .ok .eUnknown s := by
      rw [pppDecodeFrame, if_neg hmax, if_neg hlen, if_neg hdis, if_neg hses]
    rw [hdecode]
    exact .silent (Or.inl ⟨Nat.le_of_not_lt hlen, Nat.le_of_not_lt hmax, hdis, hses⟩)

/-! ### Every step -/

theorem authFresh_phase (h : s.phase ≠ authPhase) : AuthFresh s := fun hup => absurd hup.1 h

/-- The check, on a block that was decoded: what it does not act on goes to the automaton. -/
theorem authFresh_finish {r : Decoded} (hfresh : AuthFresh s)
    (hr : AuthHeard pkt s r) (hslotted : Slotted r.ccb) : AuthFresh (pppFinish env r) := by
  have hclosed : AuthFresh (pppFsm env .ppp .eClose { r.ccb with cpId := .lcp }).2 := by
    intro hup
    exact absurd hup.2 (state_close_ne env rfl)
  unfold pppFinish
  rw [checkAuthResult_act]
  cases hact : authAct r.ccb with
  | opens => exact authFresh_openNcps env r.ccb
  | closes => exact hclosed
  | nothing =>
      have hdone : AuthFresh r.ccb ∧
          (r.event.lifting → r.ccb.cpId = .lcp → r.ccb.protos.lcp = lcpProtocol) := by
        cases hr with
        | silent h => exact ⟨hfresh, fun hev => by rcases hev with hev | hev <;> cases hev⟩
        | @told a h ha hphase =>
            -- an answer is acted on
            have hnone : AuthAnswer.act (some a) = .nothing :=
              (authChecked_told env hphase h ha).2.2.symm.trans hact
            cases a <;> cases hnone
        | quiet hquiet hlift =>
            refine ⟨?_, hlift⟩
            rcases hquiet with hp | hslot
            · exact authFresh_phase hp
            · exact fun _ => hslot
      have hrun := hdone.1.lifts (lifts_pppFsm env (pppCpTimer r.ccb) hslotted hdone.2)
      exact authFresh_same rfl (state_cleanup _ .lcp) rfl hrun

theorem authFresh_failed {r : Decoded} (hfresh : AuthFresh s)
    (hr : PppDecoded env payload s r) (hst : r.status = .error) : AuthFresh r.ccb := by
  cases hr with
  | ignored => exact hfresh
  | ipcpEarly hproto => exact authFresh_same rfl rfl rfl hfresh
  | ipv6cpEarly hproto => exact authFresh_same rfl rfl rfl hfresh
  | ipcp hfits hproto hphase =>
      refine authFresh_phase ?_
      have hsel : ((decodeIpcp .ppp (s.storeFrame .ipcp payload)).select .ipcp).ccb.phase =
          (decodeIpcp .ppp (s.storeFrame .ipcp payload)).ccb.phase := by
        unfold Decoded.select
        split <;> rfl
      rw [hsel, phase_decodeIpcp]
      show ¬ s.phase = authPhase
      rw [hphase]
      decide
  | ipv6cp hfits hproto henabled hphase =>
      have hstored : AuthFresh (s.storeFrame .ipv6cp payload) := authFresh_same rfl rfl rfl hfresh
      have hkeep : ∀ {t u : PppCcb}, t.outline .ipv6cp = u.outline .ipv6cp → AuthFresh u →
          AuthFresh t := by
        intro t u hout hu
        refine authFresh_same (phase_of_outline hout) ?_ ?_ hu
        · have hlcp : (t.outline .ipv6cp).state .lcp = (u.outline .ipv6cp).state .lcp := by
            rw [hout]
          exact hlcp
        · exact congrArg PerCp.lcp (protos_of_outline hout)
      have hspec := decodeIpv6cp_spec env .pppIpv6cp (s.storeFrame .ipv6cp payload)
      generalize decodeIpv6cp env .pppIpv6cp (s.storeFrame .ipv6cp payload) = d at hspec hst ⊢
      cases hspec with
      | fail h => exact hkeep h hstored
      | closed hcp h =>
          have hunder : AuthFresh { s.storeFrame .ipv6cp payload with cpId := .ipv6cp } :=
            authFresh_same rfl rfl rfl hstored
          exact (hkeep h hunder).lifts (lifts_pppFsm_close env _ _)
      | ack hack h => cases hst
      | termAck hcode h => cases hst
      | other hev hreq h => cases hst
  | lcp hfits hproto =>
      intro _
      have hsel : ((decodeLcp .ppp (s.storeFrame .lcp payload)).select .lcp).ccb.protos =
          (decodeLcp .ppp (s.storeFrame .lcp payload)).ccb.protos := by
        unfold Decoded.select
        split <;> rfl
      rw [hsel, protos_decodeLcp]
      exact hproto
  | authStay hphase => cases hst
  | authResult hfits hproto hauth hphase => cases hst
  | papNak hphase => cases hst

theorem authFresh_discovery (env : PppEnv) (pkt : List (BitVec 8)) (hfresh : AuthFresh s) :
    AuthFresh (decodePppoe env pkt (discoveryPhase pkt s)) := by
  by_cases hpads : framePppoeCode pkt = padsCode
  · have hentered : AuthFresh (padsBlock pkt s) := authFresh_phase (by
      show ¬ lcpPhase = authPhase
      decide)
    exact hentered.lifts ((lifts_openMove _ .ppp).of_core (decodePppoe_pads hpads env s))
  · have hphase : discoveryPhase pkt s = s := if_neg hpads
    rw [hphase]
    unfold decodePppoe
    rw [if_neg hpads]
    split
    · split
      · exact hfresh
      · exact authFresh_same rfl rfl rfl hfresh
    · split
      · unfold recvPadt
        refine AuthFresh.lifts ?_ (lifts_pppBye env _)
        exact authFresh_phase (by
          show ¬ endPhase = authPhase
          decide)
      · exact hfresh

/-- A frame that is decoded without a result. -/
theorem authFresh_decodeFailed (hfresh : AuthFresh s)
    (hst : (pppDecodeFrame env pkt s).status = .error) :
    AuthFresh (pppDecodeFrame env pkt s).ccb := by
  unfold pppDecodeFrame at hst ⊢
  split
  · exact hfresh
  rename_i hmax
  rw [if_neg hmax] at hst
  split
  · exact hfresh
  rename_i hlen
  rw [if_neg hlen] at hst
  split
  · exact authFresh_discovery env pkt hfresh
  rename_i hdis
  rw [if_neg hdis] at hst
  split
  · rename_i hses
    rw [if_pos hses] at hst
    split
    · exact hfresh
    · rename_i hshort
      rw [if_neg hshort] at hst
      exact authFresh_failed hfresh (decodePpp_decoded env _ s) hst
  · exact hfresh

theorem slotted_decodeFrame (hs : Slotted s) (hst : (pppDecodeFrame env pkt s).status ≠ .error) :
    Slotted (pppDecodeFrame env pkt s).ccb := by
  unfold pppDecodeFrame at hst ⊢
  split
  · exact hs
  rename_i hmax
  rw [if_neg hmax] at hst
  split
  · exact hs
  rename_i hlen
  rw [if_neg hlen] at hst
  split
  · rename_i hdis
    rw [if_pos hdis] at hst
    exact absurd rfl hst
  · split
    · split
      · exact hs
      · exact slotted_decodePpp hs (decodePpp_decoded env _ s)
    · exact hs

theorem authFresh_step (mac : BitVec 48) (l : PppLabel) (hs : Slotted s) (hfresh : AuthFresh s) :
    AuthFresh (pppStep mac s l) := by
  by_cases hl : ∃ pkt dns d, l = .recv pkt dns d
  · obtain ⟨pkt, dns, d, rfl⟩ := hl
    show AuthFresh (pppProcess ⟨mac, dns⟩ pkt d s).2
    by_cases hsid : 24 ≤ pkt.length ∧ namesSession pkt = true ∧
        (s.sessionId = 0 ∨ frameSessionId pkt ≠ s.sessionId)
    · rw [pppProcess, if_pos hsid]
      exact hfresh
    by_cases hdata : 26 ≤ pkt.length ∧ frameNextProto pkt = ethPPppSes ∧
        be16At (framePayload pkt) 0 = pppIpv6Protocol
    · rw [pppProcess, if_neg hsid, if_pos hdata]
      unfold dhcp6WanInput
      split
      · exact authFresh_same rfl rfl rfl hfresh
      · exact hfresh
    rw [pppProcess_decoded ⟨mac, dns⟩ d hsid hdata]
    split
    · rename_i hst
      exact authFresh_decodeFailed hfresh hst
    · rename_i hst
      have hchecked : authChecked ⟨mac, dns⟩ pkt s = some (pppDecodeFrame ⟨mac, dns⟩ pkt s).ccb := by
        rw [authChecked, if_neg hsid, if_neg hdata, if_neg hst]
      exact authFresh_finish hfresh (authHeard_checked hchecked) (slotted_decodeFrame hs hst)
  · refine hfresh.lifts (lifts_pppStep mac hs ?_)
    intro pkt dns d h
    exact hl ⟨pkt, dns, d, h⟩

/-- **The authentication is under way only with a frame of LCP in the slot.** -/
theorem run_authFresh {mac : BitVec 48} {rand : Nat → BitVec 32} {guard : PppCcb → PppLabel → Prop}
    {ls : List PppLabel} (h : Run (pppStep mac) guard (pppInit rand) ls s) : AuthFresh s := by
  have hinit : Run (pppStep mac) guard (pppInit rand) [] (pppInit rand) := .nil
  refine (Run.inv (fun s => Slotted s ∧ AuthFresh s) ?_ h ⟨run_slotted hinit, ?_⟩).2
  · intro s l hs _
    exact ⟨slotted_step mac l hs.1, authFresh_step mac l hs.1 hs.2⟩
  · exact authFresh_phase (by
      show ¬ notConfigured = authPhase
      decide)

/-! ### Once for each answer -/

/-- What `check_auth_result` does in the `ppp_process` call for a frame. -/
def authActs (env : PppEnv) (pkt : List (BitVec 8)) (s : PppCcb) : AuthAct :=
  ((authChecked env pkt s).map authAct).getD .nothing

/-- The protocols told to close, on account of the authentication, in the `ppp_process` call for a
frame: the one `cp_id` names, when the decoder meets a PAP-Nak, and LCP, when the check finds a
failure. -/
def authCloses (env : PppEnv) (pkt : List (BitVec 8)) (s : PppCcb) : List PppCp :=
  (if s.phase = authPhase ∧ AuthFrame pkt s .refused then [s.cpId] else []) ++
    (if authActs env pkt s = .closes then [.lcp] else [])

/-- The check acts only on the answer in the frame at hand, on a link that is up, and a failure
closes LCP, once. -/
structure AuthOnce (env : PppEnv) (pkt : List (BitVec 8)) (s : PppCcb) : Prop where
  opens : authActs env pkt s = .opens → AuthFrame pkt s .accepted ∧ s.authUp
  closes : authActs env pkt s = .closes → AuthFrame pkt s .failed ∧ s.authUp
  once : s.phase = authPhase → AuthFrame pkt s .refused ∨ AuthFrame pkt s .failed →
    authCloses env pkt s = [.lcp]

/-- In authentication, a verdict finds LCP up, a PAP-Nak finds `cp_id` at LCP, and with LCP down a
frame that says nothing finds no answer in the slot. -/
structure AuthReady (pkt : List (BitVec 8)) (s : PppCcb) : Prop where
  told : s.phase = authPhase → AuthFrame pkt s .accepted ∨ AuthFrame pkt s .failed →
    s.state .lcp = .sOpened
  refused : s.phase = authPhase → AuthFrame pkt s .refused → s.cpId = .lcp
  silent : s.phase = authPhase → s.state .lcp ≠ .sOpened → AuthSilent pkt s → s.heldAnswer = none

theorem authActs_some (h : authChecked env pkt s = some t) : authActs env pkt s = authAct t := by
  unfold authActs
  rw [h]
  rfl

theorem AuthFrame.unique {a b : AuthAnswer} (h : AuthFrame pkt s a) (h' : AuthFrame pkt s b) :
    a = b :=
  Option.some.inj (h.answer.symm.trans h'.answer)

/-- What the check does, it does for a verdict in the frame, or for one it finds. -/
theorem authActs_cases (env : PppEnv) (pkt : List (BitVec 8)) (s : PppCcb) :
    authActs env pkt s = .nothing ∨
      s.phase = authPhase ∧
        ((∃ a, a ≠ .refused ∧ AuthFrame pkt s a ∧
            authActs env pkt s = AuthAnswer.act (some a)) ∨
          AuthSilent pkt s ∧ authActs env pkt s = AuthAnswer.act s.heldAnswer) := by
  cases hchecked : authChecked env pkt s with
  | none =>
      refine Or.inl ?_
      unfold authActs
      rw [hchecked]
      rfl
  | some t =>
      rw [authActs_some hchecked, ← (pppProcess_checked ⟨false, false, false⟩ hchecked).1]
      have hheard := authHeard_checked hchecked
      generalize pppDecodeFrame env pkt s = r at hheard ⊢
      cases hheard with
      | silent h =>
          by_cases hphase : s.phase = authPhase
          · exact Or.inr ⟨hphase, Or.inr ⟨h, authAct_auth hphase⟩⟩
          · exact Or.inl (authAct_phase hphase)
      | @told a h ha hphase =>
          exact Or.inr ⟨hphase, Or.inl ⟨a, ha, h, (authChecked_told env hphase h ha).2.2⟩⟩
      | quiet hquiet hlift =>
          rcases hquiet with hp | hslot
          · exact Or.inl (authAct_phase hp)
          · exact Or.inl (authAct_none (heldAnswer_lcp hslot))

theorem authActs_told (env : PppEnv) (hphase : s.phase = authPhase) {a : AuthAnswer}
    (h : AuthFrame pkt s a) (ha : a ≠ .refused) : authActs env pkt s = AuthAnswer.act (some a) := by
  obtain ⟨-, hchecked, hact⟩ := authChecked_told env hphase h ha
  rw [authActs_some hchecked, hact]

theorem authActs_refused (env : PppEnv) (hphase : s.phase = authPhase)
    (h : AuthFrame pkt s .refused) : authActs env pkt s = .nothing := by
  obtain ⟨-, hchecked, -, hact⟩ := authChecked_refused env hphase h
  rw [authActs_some hchecked, hact]

theorem authActs_silent (env : PppEnv) (hphase : s.phase = authPhase) (h : AuthSilent pkt s) :
    authActs env pkt s = AuthAnswer.act s.heldAnswer := by
  rw [authActs_some (authChecked_silent env hphase h).2, authAct_auth hphase]

/-- What it finds in a silent frame's turn, it does not act on when ready. -/
theorem AuthReady.acts (hready : AuthReady pkt s) (hfresh : AuthFresh s) {act : AuthAct}
    (hact : act ≠ .nothing) (h : authActs env pkt s = act) :
    ∃ a, a ≠ .refused ∧ AuthFrame pkt s a ∧ act = AuthAnswer.act (some a) ∧ s.authUp := by
  rcases authActs_cases env pkt s with hno | ⟨hphase, ⟨a, ha, hframe, hdoes⟩ | ⟨hsilent, hdoes⟩⟩
  · exact absurd (h.symm.trans hno) hact
  · refine ⟨a, ha, hframe, h.symm.trans hdoes, hphase, hready.told hphase ?_⟩
    cases a with
    | accepted => exact Or.inl hframe
    | failed => exact Or.inr hframe
    | refused => exact absurd rfl ha
  · have hheld : s.heldAnswer = none := by
      by_cases hopen : s.state .lcp = .sOpened
      · exact heldAnswer_lcp (hfresh ⟨hphase, hopen⟩)
      · exact hready.silent hphase hopen hsilent
    rw [hheld] at hdoes
    exact absurd (h.symm.trans hdoes) hact

theorem AuthReady.once (hready : AuthReady pkt s) (hfresh : AuthFresh s) : AuthOnce env pkt s := by
  refine ⟨?_, ?_, ?_⟩
  · intro h
    obtain ⟨a, ha, hframe, hact, hup⟩ := hready.acts hfresh (by decide) h
    cases a with
    | accepted => exact ⟨hframe, hup⟩
    | failed => cases hact
    | refused => exact absurd rfl ha
  · intro h
    obtain ⟨a, ha, hframe, hact, hup⟩ := hready.acts hfresh (by decide) h
    cases a with
    | accepted => cases hact
    | failed => exact ⟨hframe, hup⟩
    | refused => exact absurd rfl ha
  · intro hphase hframe
    unfold authCloses
    rcases hframe with hrefused | hfailed
    · rw [if_pos ⟨hphase, hrefused⟩, authActs_refused env hphase hrefused,
        if_neg (by decide), hready.refused hphase hrefused]
      rfl
    · have hno : ¬ (s.phase = authPhase ∧ AuthFrame pkt s .refused) :=
        fun h => absurd (hfailed.unique h.2) (by decide)
      have hcloses : authActs env pkt s = .closes := authActs_told env hphase hfailed (by decide)
      rw [if_neg hno, hcloses, if_pos rfl]
      rfl

theorem AuthOnce.ready (honce : AuthOnce env pkt s) : AuthReady pkt s := by
  refine ⟨?_, ?_, ?_⟩
  · intro hphase hframe
    rcases hframe with hok | hfailed
    · exact (honce.opens (authActs_told env hphase hok (by decide))).2.2
    · exact (honce.closes (authActs_told env hphase hfailed (by decide))).2.2
  · intro hphase hrefused
    have hcloses := honce.once hphase (Or.inl hrefused)
    unfold authCloses at hcloses
    rw [if_pos ⟨hphase, hrefused⟩, authActs_refused env hphase hrefused,
      if_neg (by decide)] at hcloses
    exact (List.cons.inj hcloses).1
  · intro hphase hopen hsilent
    have hdoes := authActs_silent env hphase hsilent
    cases hheld : s.heldAnswer with
    | none => rfl
    | some a =>
        rw [hheld] at hdoes
        cases a with
        | accepted => exact absurd (honce.opens hdoes).2.2 hopen
        | failed => exact absurd (honce.closes hdoes).2.2 hopen
        | refused => exact absurd (honce.closes hdoes).2.2 hopen

/--
**Authentication results are consumed once, exactly when the check is ready for the frame.** In
every run, whatever was received, timed out or torn down before, the next frame is acted on for its
own answer only, on a link that is up and with one close for a failure, if and only if a verdict
finds LCP up, a PAP-Nak finds `cp_id` at LCP, and nothing else finds an old answer with LCP down.
-/
theorem authOnce_iff {mac : BitVec 48} {rand : Nat → BitVec 32} {ls : List PppLabel}
    (h : Run (pppStep mac) (fun _ _ => True) (pppInit rand) ls s) (pkt : List (BitVec 8))
    (dns : Status) : AuthOnce ⟨mac, dns⟩ pkt s ↔ AuthReady pkt s :=
  ⟨fun honce => honce.ready, fun hready => hready.once (run_authFresh h)⟩

/-- A CHAP frame of session 1, without a value. -/
def chapFrame (code : BitVec 8) : List (BitVec 8) :=
  wireFrame ethPPppSes 0 1 [0xc2, 0x23, code, 1, 0, 4]

/-- A CHAP-Success for a link that is up. -/
theorem authOnce_chapSuccess : AuthOnce ⟨1, .success⟩ (chapFrame chapSuccess) (runOf lcpRun) := by
  refine (authOnce_iff (run_runOf lcpRun) (chapFrame chapSuccess) .success).mpr ⟨?_, ?_, ?_⟩
  · intro _ _
    decide
  · intro _ h
    exact absurd h.answer (by decide)
  · intro _ hdown _
    exact absurd (by decide) hdown

/-- A CHAP-Failure, and after it a frame of CHAP that says nothing: LCP is told to close again. -/
theorem not_authOnce :
    ¬ ∀ (mac : BitVec 48) (rand : Nat → BitVec 32) (ls : List PppLabel) (s : PppCcb)
      (pkt : List (BitVec 8)) (dns : Status),
      Run (pppStep mac) (fun _ _ => True) (pppInit rand) ls s → AuthOnce ⟨mac, dns⟩ pkt s := by
  intro h
  have honce := h 1 (fun _ => 0) (lcpRun ++ [recvPpp chapProtocol chapFailure 1 []]) _ (chapFrame 9)
    .success (run_runOf _)
  have hclosed := honce.closes (by decide)
  exact absurd hclosed.1.answer (by decide)

end FastRG
