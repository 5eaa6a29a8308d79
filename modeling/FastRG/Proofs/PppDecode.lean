/-
What the decoders write, and what they do not.

A decoder of LCP, IPCP or IPV6CP takes over parameters, clears the pending flag of its
protocol, rewrites the stored frame, and may stop a timer.  `outline` forgets the first
three, so that a decoded frame either has the outline of the block it came to, or that
outline with one of the few other things done to it.  Each decoder has one such lemma, and
what the control thread does with a frame is followed through these.
-/
import FastRG.Proofs.PppSlots

namespace FastRG

variable {env : PppEnv} {tim : PppTimerId} {s t : PppCcb} {ev : PppEvent} {cp : PppCp}

def ControlProtocol.outline (c : ControlProtocol) : ControlProtocol :=
  { c.core with pppHdr := ⟨0, 0, 0⟩, pppOptions := [] }

/-- The core of a control block without parameters, and without the header and options stored
for one protocol. -/
def PppCcb.outline (cp : PppCp) (s : PppCcb) : PppCcb :=
  { s.core with
      params := ⟨0, 0, 0, 0, 0, 0, false, false, false, false, 0, 0, 0⟩
      controlProtocol := s.core.controlProtocol.set cp (s.controlProtocol.get cp).outline }

theorem phase_of_outline (h : t.outline cp = s.outline cp) : t.phase = s.phase := by
  have hphase : (t.outline cp).phase = (s.outline cp).phase := congrArg PppCcb.phase h
  exact hphase

@[simp] theorem outline_rewrite (s : PppCcb) (cp : PppCp) (hdr : PppHdr) (opts : List (BitVec 8)) :
    (s.rewrite cp hdr opts).outline cp = s.outline cp := by
  cases cp <;> rfl

/-- Taking over an option changes parameters only. -/
def Takes (cp : PppCp) (eff : Tlv → PppCcb → PppCcb) : Prop :=
  ∀ o s, (eff o s).outline cp = s.outline cp

theorem outline_walkOpts (ok : Tlv → Bool) {eff : Tlv → PppCcb → PppCcb} (heff : Takes cp eff)
    (s : PppCcb) (cp' : PppCp) : (s.walkOpts cp' ok eff).2.outline cp = s.outline cp :=
  Tlv.walk_inv (fun t => t.outline cp = s.outline cp) (fun o _ t ht => (heff o t).trans ht) rfl

/-- The options of a stored frame are a list, and a check accepts each of them. -/
def PppCcb.optsOk (s : PppCcb) (cp : PppCp) (ok : Tlv → Bool) : Bool :=
  (Tlv.split (s.opts cp)).1.all ok && (Tlv.split (s.opts cp)).2

theorem walkOpts_fst (s : PppCcb) (cp : PppCp) (ok : Tlv → Bool) (eff : Tlv → PppCcb → PppCcb) :
    (s.walkOpts cp ok eff).1 = s.optsOk cp ok := by
  unfold PppCcb.walkOpts
  rw [Tlv.walk_eq]
  rfl

theorem takes_lcpNak : Takes .lcp lcpNakTake := by
  intro o s
  unfold lcpNakTake
  split
  · rfl
  · split
    · simp only
      split <;> rfl
    · split <;> rfl

theorem takes_lcpReject : Takes .lcp lcpRejectTake := by
  intro o s
  unfold lcpRejectTake
  split
  · rfl
  · split
    · rfl
    · split <;> rfl

theorem takes_ipcpDns : Takes .ipcp ipcpDnsTake := by
  intro o s
  unfold ipcpDnsTake
  split
  · rfl
  · split <;> rfl

theorem takes_ipcpRequest : Takes .ipcp ipcpRequestTake := by
  intro o s
  unfold ipcpRequestTake
  split
  · rfl
  · exact takes_ipcpDns o s

theorem takes_ipcpAnswer : Takes .ipcp ipcpAnswerTake := by
  intro o s
  unfold ipcpAnswerTake
  split
  · rfl
  · exact takes_ipcpDns o s

theorem takes_ipcpReject : Takes .ipcp ipcpRejectTake := by
  intro o s
  unfold ipcpRejectTake
  split
  · rfl
  · split <;> rfl

theorem takes_ipv6cpRequest : Takes .ipv6cp ipv6cpRequestTake := by
  intro o s
  unfold ipv6cpRequestTake
  split <;> rfl

theorem takes_ipv6cpNak : Takes .ipv6cp ipv6cpNakTake := by
  intro o s
  unfold ipv6cpNakTake
  split <;> rfl

/-! ### Configure-Requests -/

/-- A body that changes parameters only. -/
def Judges (cp : PppCp) (eff : Tlv → NakRej → NakRej) : Prop :=
  ∀ o r, (eff o r).ccb.outline cp = r.ccb.outline cp

theorem outline_checkNakRej {ok : Tlv → Bool} {eff : Tlv → NakRej → NakRej} (heff : Judges cp eff)
    (flag : BitVec 8) (s : PppCcb) :
    (checkNakRej cp flag ok eff s).2.outline cp = s.outline cp := by
  have hwalk : (Tlv.walk ok eff (Tlv.split (s.opts cp)).1 (Tlv.split (s.opts cp)).2
      ⟨s, [], [], false⟩).2.ccb.outline cp = s.outline cp :=
    Tlv.walk_inv (fun r => r.ccb.outline cp = s.outline cp) (fun o _ r hr => (heff o r).trans hr) rfl
  unfold checkNakRej
  simp only
  split
  · rfl
  · split
    · rw [outline_rewrite]
      exact hwalk
    · split
      · rw [outline_rewrite]
        exact hwalk
      · rw [outline_rewrite]
        exact hwalk

theorem judges_lcpNak : Judges .lcp lcpNakBody := by
  intro o r
  unfold lcpNakBody
  split
  · split <;> rfl
  · split
    · simp only
      split
      · rfl
      · split <;> rfl
    · rfl

theorem judges_lcpReject : Judges .lcp lcpRejectBody := by
  intro o r
  unfold lcpRejectBody
  split <;> rfl

theorem judges_ipcpNak : Judges .ipcp ipcpNakBody := by
  intro o r
  unfold ipcpNakBody
  split <;> rfl

theorem judges_ipcpReject : Judges .ipcp ipcpRejectBody := by
  intro o r
  unfold ipcpRejectBody
  split <;> rfl

theorem judges_ipv6cp (flag : BitVec 8) :
    Judges .ipv6cp (if flag = configNakCode then ipv6cpNakBody else ipv6cpRejectBody) := by
  intro o r
  split
  · unfold ipv6cpNakBody
    simp only
    split <;> rfl
  · unfold ipv6cpRejectBody
    split <;> rfl

theorem outline_checkLcp (flag : BitVec 8) (s : PppCcb) :
    (checkLcpNakRej flag s).2.outline .lcp = s.outline .lcp := by
  unfold checkLcpNakRej
  split
  · exact outline_checkNakRej judges_lcpNak _ _
  · exact outline_checkNakRej judges_lcpReject _ _

theorem outline_checkIpcp (flag : BitVec 8) (s : PppCcb) :
    (checkIpcpNakRej flag s).2.outline .ipcp = s.outline .ipcp := by
  unfold checkIpcpNakRej
  split
  · exact outline_checkNakRej judges_ipcpNak _ _
  · exact outline_checkNakRej judges_ipcpReject _ _

theorem outline_checkIpv6cp (flag : BitVec 8) (s : PppCcb) :
    (checkIpv6cpNakRej flag s).2.outline .ipv6cp = s.outline .ipv6cp :=
  outline_checkNakRej (judges_ipv6cp flag) _ _

/-- A Configure-Request ends in one of two events, or in none. -/
theorem recvConfigRequest_spec {check : BitVec 8 → PppCcb → CheckNakRej × PppCcb}
    (take : PppCcb → Bool × PppCcb)
    (hcheck : ∀ flag s, (check flag s).2.outline cp = s.outline cp)
    (htake : ∀ s, (take s).2.outline cp = s.outline cp) (s : PppCcb) :
    ∃ t, t.outline cp = s.outline cp ∧
      (recvConfigRequest cp check take s = .fail t ∨
        recvConfigRequest cp check take s = .ok .eRecvGoodConfigRequest t ∨
        recvConfigRequest cp check take s = .ok .eRecvBadConfigRequest t) := by
  have hnak := hcheck configNakCode s
  unfold recvConfigRequest
  cases h1 : check configNakCode s with
  | mk r1 s1 =>
      rw [h1] at hnak
      cases r1 with
      | error => exact ⟨s1, hnak, Or.inl rfl⟩
      | sendResponse => exact ⟨s1, hnak, Or.inr (Or.inr rfl)⟩
      | noAction =>
          have hrej := hcheck configRejectCode s1
          simp only
          cases h2 : check configRejectCode s1 with
          | mk r2 s2 =>
              rw [h2] at hrej
              cases r2 with
              | error => exact ⟨s2, hrej.trans hnak, Or.inl rfl⟩
              | sendResponse => exact ⟨s2, hrej.trans hnak, Or.inr (Or.inr rfl)⟩
              | noAction =>
                  have hlast := htake s2
                  simp only
                  cases h3 : take s2 with
                  | mk r3 s3 =>
                      rw [h3] at hlast
                      have hout : s3.outline cp = s.outline cp := hlast.trans (hrej.trans hnak)
                      cases r3 with
                      | false => exact ⟨s3, hout, Or.inl rfl⟩
                      | true => exact ⟨_, (outline_rewrite s3 cp _ _).trans hout, Or.inr (Or.inl rfl)⟩

/-- A Configure-Nak or Configure-Reject: the event, or none. -/
theorem recvNakRej_spec (ok : Tlv → Bool) {take : Tlv → PppCcb → PppCcb} (htake : Takes cp take)
    (s : PppCcb) :
    ∃ t, t.outline cp = s.outline cp ∧
      (recvNakRej cp ok take s = .fail t ∨ recvNakRej cp ok take s = .ok .eRecvConfigNakRej t) := by
  have hwalk := outline_walkOpts ok htake s cp
  unfold recvNakRej
  split
  · exact ⟨s, rfl, Or.inl rfl⟩
  · cases h : s.walkOpts cp ok take with
    | mk b t =>
        rw [h] at hwalk
        cases b with
        | false => exact ⟨t, hwalk, Or.inl rfl⟩
        | true => exact ⟨t.setPending cp false, hwalk, Or.inr rfl⟩

/-! ### The three decoders -/

/-- The code of the frame stored for a protocol. -/
def PppCcb.codeOf (s : PppCcb) (cp : PppCp) : PppCode := pppCode (s.controlProtocol.get cp).pppHdr.code

/-- A Configure-Ack that `decode_lcp` accepts. -/
def lcpAcked (s : PppCcb) : Prop :=
  s.codeOf .lcp = .configAck ∧ s.phase = lcpPhase ∧ s.answersRequest .lcp = true ∧
    s.optsOk .lcp (lcpAckOk s.params.magicNum) = true

/-- What `decode_lcp` may come to. -/
inductive LcpDecoded (tim : PppTimerId) (s : PppCcb) : Decoded → Prop
  | fail {t : PppCcb} (h : t.outline .lcp = s.outline .lcp) : LcpDecoded tim s (.fail t)
  | request {ev : PppEvent} {t : PppCcb}
      (hev : ev = .eRecvGoodConfigRequest ∨ ev = .eRecvBadConfigRequest)
      (hphase : s.phase = lcpPhase) (h : t.outline .lcp = s.outline .lcp) :
      LcpDecoded tim s (.ok ev t)
  | ack {t : PppCcb} (hack : lcpAcked s) (h : t.outline .lcp = (s.stopTimer tim).outline .lcp) :
      LcpDecoded tim s (.ok .eRecvConfigAck t)
  | termAck {t : PppCcb} (hcode : s.codeOf .lcp = .terminAck)
      (h : t.outline .lcp = (s.stopTimer tim).outline .lcp) :
      LcpDecoded tim s (.ok .eRecvTerminateAck t)
  | noIpv6 {t : PppCcb} (h : t.outline .lcp = s.ipv6cpStop.outline .lcp) :
      LcpDecoded tim s (.ok .eRecvGoodCodeProtocolReject t)
  | other {ev : PppEvent} {t : PppCcb}
      (hev : ev ∈ [.eRecvConfigNakRej, .eRecvTerminateRequest, .eRecvGoodCodeProtocolReject,
        .eRecvBadCodeProtocolReject, .eRecvEchoRequest, .eRecvEchoReply, .eRecvUnknownCode])
      (h : t.outline .lcp = s.outline .lcp) : LcpDecoded tim s (.ok ev t)

theorem decodeLcp_spec (tim : PppTimerId) (s : PppCcb) : LcpDecoded tim s (decodeLcp tim s) := by
  have hnak : ∀ {take : Tlv → PppCcb → PppCcb}, Takes .lcp take → LcpDecoded tim s
      (recvNakRej .lcp (fun _ => true) take { s with echoMissCount := 0 }) := by
    intro take htake
    obtain ⟨t, hout, hd | hd⟩ := recvNakRej_spec (fun _ => true) htake
      { s with echoMissCount := 0 }
    · rw [hd]
      exact .fail hout
    · rw [hd]
      exact .other (by decide) hout
  unfold decodeLcp
  simp only
  split
  case h_1 =>
    split
    · exact .fail rfl
    · rename_i hphase
      obtain ⟨t, hout, hd | hd | hd⟩ := recvConfigRequest_spec (fun s => (true, s))
        outline_checkLcp (fun _ => rfl) { s with echoMissCount := 0 }
      · rw [hd]
        exact .fail hout
      · rw [hd]
        exact .request (Or.inl rfl) (not_not.mp hphase) hout
      · rw [hd]
        exact .request (Or.inr rfl) (not_not.mp hphase) hout
  case h_2 hcode =>
    split
    · exact .fail rfl
    rename_i hphase
    split
    · exact .fail rfl
    rename_i hans
    rw [walkOpts_fst]
    split
    · exact .fail rfl
    rename_i hopts
    simp only [Bool.not_eq_true', Bool.not_eq_false] at hans hopts
    exact .ack ⟨hcode, not_not.mp hphase, hans, hopts⟩ rfl
  case h_3 => exact hnak takes_lcpNak
  case h_4 => exact hnak takes_lcpReject
  case h_5 => exact .other (by decide) rfl
  case h_6 hcode => exact .termAck hcode rfl
  case h_7 => exact .other (by decide) rfl
  case h_8 =>
    split
    · exact .noIpv6 rfl
    · exact .other (by decide) rfl
  case h_9 =>
    split
    · exact .fail rfl
    · exact .other (by decide) rfl
  case h_10 =>
    split
    · exact .fail rfl
    · exact .other (by decide) rfl
  case h_11 => exact .other (by decide) rfl

/-- The events of a network protocol that leave its timer alone. -/
def ncpEvents : List PppEvent :=
  [.eRecvGoodConfigRequest, .eRecvBadConfigRequest, .eRecvConfigNakRej, .eRecvTerminateRequest,
    .eRecvGoodCodeProtocolReject, .eRecvUnknownCode]

/-- A Configure-Ack that `decode_ipcp` takes for the answer, before it looks at the options. -/
def ipcpAcked (s : PppCcb) : Prop := s.codeOf .ipcp = .configAck ∧ s.answersRequest .ipcp = true

/-- What `decode_ipcp` may come to. -/
inductive IpcpDecoded (tim : PppTimerId) (s : PppCcb) : Decoded → Prop
  | fail {t : PppCcb} (h : t.outline .ipcp = s.outline .ipcp) : IpcpDecoded tim s (.fail t)
  | failAck {t : PppCcb} (hack : ipcpAcked s)
      (hopts : s.optsOk .ipcp ipcpOptOk = false)
      (h : t.outline .ipcp = (s.stopTimer tim).outline .ipcp) : IpcpDecoded tim s (.fail t)
  | ack {t : PppCcb} (hack : ipcpAcked s)
      (h : t.outline .ipcp = (s.stopTimer tim).outline .ipcp) :
      IpcpDecoded tim s (.ok .eRecvConfigAck t)
  | termAck {t : PppCcb} (hcode : s.codeOf .ipcp = .terminAck)
      (h : t.outline .ipcp = (s.stopTimer tim).outline .ipcp) :
      IpcpDecoded tim s (.ok .eRecvTerminateAck t)
  | other {ev : PppEvent} {t : PppCcb} (hev : ev ∈ ncpEvents)
      (hreq : ev = .eRecvTerminateRequest → s.codeOf .ipcp = .terminRequest)
      (h : t.outline .ipcp = s.outline .ipcp) : IpcpDecoded tim s (.ok ev t)

theorem decodeIpcp_spec (tim : PppTimerId) (s : PppCcb) : IpcpDecoded tim s (decodeIpcp tim s) := by
  have hnak : ∀ {ok : Tlv → Bool} {take : Tlv → PppCcb → PppCcb}, Takes .ipcp take →
      IpcpDecoded tim s (recvNakRej .ipcp ok take { s with echoMissCount := 0 }) := by
    intro ok take htake
    obtain ⟨t, hout, hd | hd⟩ := recvNakRej_spec ok htake { s with echoMissCount := 0 }
    · rw [hd]
      exact .fail hout
    · rw [hd]
      exact .other (by decide) (by simp) hout
  unfold decodeIpcp
  simp only
  split
  case h_1 =>
    obtain ⟨t, hout, hd | hd | hd⟩ := recvConfigRequest_spec
      (fun s => s.walkOpts .ipcp ipcpOptOk ipcpRequestTake) outline_checkIpcp
      (fun s => outline_walkOpts ipcpOptOk takes_ipcpRequest s .ipcp) { s with echoMissCount := 0 }
    · rw [hd]
      exact .fail hout
    · rw [hd]
      exact .other (by decide) (by simp) hout
    · rw [hd]
      exact .other (by decide) (by simp) hout
  case h_2 hcode =>
    split
    · exact .fail rfl
    rename_i hans
    simp only [Bool.not_eq_true', Bool.not_eq_false] at hans
    have hack : ipcpAcked s := ⟨hcode, hans⟩
    have hwalk := outline_walkOpts ipcpOptOk takes_ipcpAnswer
      (({ s with echoMissCount := 0 }.setPending .ipcp false).stopTimer tim) .ipcp
    cases h : (({ s with echoMissCount := 0 }.setPending .ipcp false).stopTimer tim).walkOpts .ipcp
        ipcpOptOk ipcpAnswerTake with
    | mk b t =>
        rw [h] at hwalk
        cases b with
        | true => exact .ack hack hwalk
        | false =>
            refine .failAck hack ?_ hwalk
            have hfst := congrArg Prod.fst h
            rw [walkOpts_fst] at hfst
            exact hfst
  case h_3 => exact hnak takes_ipcpAnswer
  case h_4 => exact hnak takes_ipcpReject
  case h_5 hcode => exact .other (by decide) (fun _ => hcode) rfl
  case h_6 hcode => exact .termAck hcode rfl
  case h_7 => exact .other (by decide) (by simp) rfl
  case h_8 | h_9 | h_10 | h_11 => exact .other (by decide) (by simp) rfl

/-- A Configure-Ack that `decode_ipv6cp` accepts. -/
def ipv6cpAcked (s : PppCcb) : Prop :=
  s.codeOf .ipv6cp = .configAck ∧ s.answersRequest .ipv6cp = true ∧
    s.optsOk .ipv6cp ipv6cpOptOk = true

/-- What `decode_ipv6cp` may come to. -/
inductive Ipv6cpDecoded (env : PppEnv) (tim : PppTimerId) (s : PppCcb) : Decoded → Prop
  | fail {t : PppCcb} (h : t.outline .ipv6cp = s.outline .ipv6cp) : Ipv6cpDecoded env tim s (.fail t)
  | closed {t : PppCcb} (hcp : t.cpId = .ipv6cp)
      (h : t.outline .ipv6cp = { s with cpId := .ipv6cp }.outline .ipv6cp) :
      Ipv6cpDecoded env tim s (.fail (pppFsm env tim .eClose t).2)
  | ack {t : PppCcb} (hack : ipv6cpAcked s)
      (h : t.outline .ipv6cp = (s.stopTimer tim).outline .ipv6cp) :
      Ipv6cpDecoded env tim s (.ok .eRecvConfigAck t)
  | termAck {t : PppCcb} (hcode : s.codeOf .ipv6cp = .terminAck)
      (h : t.outline .ipv6cp = (s.stopTimer tim).outline .ipv6cp) :
      Ipv6cpDecoded env tim s (.ok .eRecvTerminateAck t)
  | other {ev : PppEvent} {t : PppCcb} (hev : ev ∈ ncpEvents)
      (hreq : ev = .eRecvTerminateRequest → s.codeOf .ipv6cp = .terminRequest)
      (h : t.outline .ipv6cp = s.outline .ipv6cp) : Ipv6cpDecoded env tim s (.ok ev t)

theorem recvIpv6cpReject_spec (env : PppEnv) (tim : PppTimerId) (s : PppCcb) :
    Ipv6cpDecoded env tim s (recvIpv6cpReject env tim { s with echoMissCount := 0 }) := by
  unfold recvIpv6cpReject
  simp only
  split
  · exact .fail rfl
  · split
    · split
      · exact .fail rfl
      · exact .closed rfl rfl
    · split
      · exact .other (by decide) (by simp) rfl
      · exact .fail rfl

theorem decodeIpv6cp_spec (env : PppEnv) (tim : PppTimerId) (s : PppCcb) :
    Ipv6cpDecoded env tim s (decodeIpv6cp env tim s) := by
  unfold decodeIpv6cp
  simp only
  split
  case h_1 =>
    obtain ⟨t, hout, hd | hd | hd⟩ := recvConfigRequest_spec
      (fun s => s.walkOpts .ipv6cp (fun _ => true) ipv6cpRequestTake) outline_checkIpv6cp
      (fun s => outline_walkOpts (fun _ => true) takes_ipv6cpRequest s .ipv6cp) { s with echoMissCount := 0 }
    · rw [hd]
      exact .fail hout
    · rw [hd]
      exact .other (by decide) (by simp) hout
    · rw [hd]
      exact .other (by decide) (by simp) hout
  case h_2 hcode =>
    split
    · exact .fail rfl
    rename_i hans
    rw [walkOpts_fst]
    split
    · exact .fail rfl
    rename_i hopts
    simp only [Bool.not_eq_true', Bool.not_eq_false] at hans hopts
    exact .ack ⟨hcode, hans, hopts⟩ rfl
  case h_3 =>
    obtain ⟨t, hout, hd | hd⟩ := recvNakRej_spec ipv6cpOptOk takes_ipv6cpNak
      { s with echoMissCount := 0 }
    · rw [hd]
      exact .fail hout
    · rw [hd]
      exact .other (by decide) (by simp) hout
  case h_4 => exact recvIpv6cpReject_spec env tim s
  case h_5 hcode => exact .other (by decide) (fun _ => hcode) rfl
  case h_6 hcode => exact .termAck hcode rfl
  case h_7 => exact .other (by decide) (by simp) rfl
  case h_8 | h_9 | h_10 | h_11 => exact .other (by decide) (by simp) rfl

end FastRG
