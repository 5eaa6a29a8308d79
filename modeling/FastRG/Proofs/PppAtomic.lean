/-
A frame that is refused changes nothing that was negotiated.

The decoders walk an option list that the peer has written, and take options over as they
go.  `decode_atomic` says when an `ERROR` leaves the parameters, the pending flags and the
restart timers as they were.  A Configure-Request of IPCP or IPV6CP is judged twice before
anything is taken over, so by then nothing can fail any more; that argument is
`checkNakRej_noAction`: a check that asks for no answer has left the options as they came, and has
found them in order.

One `ERROR` is no refusal.  A Configure-Reject of our Interface-Identifier leaves IPV6CP nothing
to negotiate, so the decoder closes it and returns `ERROR` to keep the automaton from being
run once more.

Nothing is said of a list that is refused after one of its options was taken over, nor of a
Configure-Ack of IPCP whose options are refused, which has by then been taken for received.
-/
import FastRG.Proofs.PppFrames
import Mathlib.Data.List.TakeWhile

namespace FastRG

variable {env : PppEnv} {tim : PppTimerId} {s t : PppCcb} {cp : PppCp}

/-- What negotiation has come to, and what it waits for. -/
structure SameNegotiation (s t : PppCcb) : Prop where
  params : t.params = s.params
  pending : t.configRequestPending = s.configRequestPending
  ppp : t.ppp = s.ppp
  pppIpv6cp : t.pppIpv6cp = s.pppIpv6cp

theorem SameNegotiation.refl (s : PppCcb) : SameNegotiation s s := ⟨rfl, rfl, rfl, rfl⟩

theorem same_rewrite (s : PppCcb) (cp : PppCp) (hdr : PppHdr) (opts : List (BitVec 8)) :
    SameNegotiation s (s.rewrite cp hdr opts) := ⟨rfl, rfl, rfl, rfl⟩

@[simp] theorem opts_rewrite (s : PppCcb) (cp : PppCp) (hdr : PppHdr) (opts : List (BitVec 8)) :
    (s.rewrite cp hdr opts).opts cp = opts := by
  cases cp <;> rfl

/-! ### Judging without consequence -/

/-- A body that goes over an option without putting it aside leaves it where it stands, and only
does so where `fine` holds. -/
def Passes (cp : PppCp) (fine : Tlv → Prop) (eff : Tlv → NakRej → NakRej) : Prop :=
  ∀ o r, (eff o r).needRes = false → r.needRes = false ∧ (eff o r).walked = r.walked ++ o.bytes ∧
    (eff o r).ccb.opts cp = r.ccb.opts cp ∧ fine o

theorem foldl_passes {fine : Tlv → Prop} {eff : Tlv → NakRej → NakRej} (heff : Passes cp fine eff)
    (os : List Tlv) (r : NakRej) (h : (os.foldl (fun r o => eff o r) r).needRes = false) :
    r.needRes = false ∧ (os.foldl (fun r o => eff o r) r).walked = r.walked ++ os.flatMap Tlv.bytes ∧
      (os.foldl (fun r o => eff o r) r).ccb.opts cp = r.ccb.opts cp ∧ ∀ o ∈ os, fine o := by
  induction os generalizing r with
  | nil => simpa using h
  | cons o os ih =>
      obtain ⟨hres, hwalked, hopts, hfine⟩ := ih (eff o r) h
      obtain ⟨hres', hwalked', hopts', hfine'⟩ := heff o r hres
      refine ⟨hres', ?_, hopts.trans hopts', ?_⟩
      · rw [List.foldl_cons, hwalked, hwalked', List.flatMap_cons, List.append_assoc]
      · intro o' ho'
        rcases List.mem_cons.mp ho' with rfl | hmem
        · exact hfine'
        · exact hfine o' hmem

/-- A check that asks for no answer has left the options as they came, and found them in
order. -/
theorem checkNakRej_noAction {fine : Tlv → Prop} {flag : BitVec 8} {ok : Tlv → Bool}
    {eff : Tlv → NakRej → NakRej} (heff : Passes cp fine eff)
    (h : (checkNakRej cp flag ok eff s).1 = .noAction) :
    (checkNakRej cp flag ok eff s).2.opts cp = s.opts cp ∧ (s.opts cp).length ≤ pppMsgBufLen ∧
      s.optsOk cp ok = true ∧ ∀ o ∈ (Tlv.split (s.opts cp)).1, fine o := by
  unfold checkNakRej at h ⊢
  simp only at h ⊢
  by_cases hlen : pppMsgBufLen < (s.opts cp).length
  · rw [if_pos hlen] at h
    exact absurd h (by simp)
  rw [if_neg hlen] at h ⊢
  rw [Tlv.walk_eq] at h ⊢
  by_cases hdone : s.optsOk cp ok = true
  · obtain ⟨hall, hwf⟩ := Bool.and_eq_true_iff.mp hdone
    have hwhile : (Tlv.split (s.opts cp)).1.takeWhile ok = (Tlv.split (s.opts cp)).1 :=
      List.takeWhile_eq_self_iff.mpr (List.all_eq_true.mp hall)
    simp only [hall, hwf, hwhile, Bool.and_self, Bool.not_true, Bool.false_eq_true, if_false] at h ⊢
    cases hres : ((Tlv.split (s.opts cp)).1.foldl (fun r o => eff o r) ⟨s, [], [], false⟩).needRes with
    | true =>
        rw [hres] at h
        exact absurd h (by simp)
    | false =>
        obtain ⟨-, hwalked, -, hfine⟩ := foldl_passes heff _ _ hres
        refine ⟨?_, Nat.le_of_not_lt hlen, hdone, hfine⟩
        simp only [Bool.false_eq_true, if_false, opts_rewrite, hwalked, List.nil_append,
          Tlv.split_bytes hwf, List.drop_length, List.append_nil]
  · have hnot : ((Tlv.split (s.opts cp)).1.all ok && (Tlv.split (s.opts cp)).2) = false := by
      simpa [PppCcb.optsOk] using hdone
    simp only [hnot, Bool.not_false, if_true] at h
    exact absurd h (by simp)

/-- A check fails for the length of the list or for what is in it. -/
theorem checkNakRej_error {flag : BitVec 8} {ok : Tlv → Bool} {eff : Tlv → NakRej → NakRej}
    (hlen : (s.opts cp).length ≤ pppMsgBufLen) (hopts : s.optsOk cp ok = true) :
    (checkNakRej cp flag ok eff s).1 ≠ .error := by
  unfold checkNakRej
  simp only
  have hall : ((Tlv.split (s.opts cp)).1.all ok && (Tlv.split (s.opts cp)).2) = true := hopts
  rw [if_neg (Nat.not_lt.mpr hlen), Tlv.walk_eq]
  simp only [hall, Bool.not_true, Bool.false_eq_true, if_false]
  split <;> simp

/-- A body that changes only the options leaves everything negotiated as it was, as far as it
goes. -/
theorem checkNakRej_same {flag : BitVec 8} {ok : Tlv → Bool} {eff : Tlv → NakRej → NakRej}
    (heff : ∀ o ∈ (Tlv.split (s.opts cp)).1.takeWhile ok, ∀ r, (eff o r).ccb = r.ccb) :
    SameNegotiation s (checkNakRej cp flag ok eff s).2 := by
  have hwalk : (Tlv.walk ok eff (Tlv.split (s.opts cp)).1 (Tlv.split (s.opts cp)).2
      ⟨s, [], [], false⟩).2.ccb = s :=
    Tlv.walk_inv (fun r => r.ccb = s) (fun o ho r hr => (heff o ho r).trans hr) rfl
  unfold checkNakRej
  simp only
  split
  · exact SameNegotiation.refl s
  · rw [hwalk]
    split
    · exact same_rewrite s cp _ _
    · split
      · exact same_rewrite s cp _ _
      · exact same_rewrite s cp _ _

/-! ### Configure-Requests -/

/-- A Configure-Request whose second check and last loop cannot fail is refused by the first
check. -/
theorem recvConfigRequest_refused {check : BitVec 8 → PppCcb → CheckNakRej × PppCcb}
    {take : PppCcb → Bool × PppCcb}
    (hsecond : (check configNakCode s).1 = .noAction →
      (check configRejectCode (check configNakCode s).2).1 ≠ .error)
    (hlast : (check configNakCode s).1 = .noAction →
      (check configRejectCode (check configNakCode s).2).1 = .noAction →
        (take (check configRejectCode (check configNakCode s).2).2).1 = true)
    (h : (recvConfigRequest cp check take s).status = .error) :
    (recvConfigRequest cp check take s).ccb = (check configNakCode s).2 := by
  unfold recvConfigRequest at h ⊢
  cases h1 : check configNakCode s with
  | mk r1 s1 =>
      rw [h1] at h hsecond hlast
      cases r1 with
      | error => rfl
      | sendResponse => exact absurd h (by simp [Decoded.ok])
      | noAction =>
          simp only at h hsecond hlast ⊢
          cases h2 : check configRejectCode s1 with
          | mk r2 s2 =>
              rw [h2] at h hsecond hlast
              cases r2 with
              | error => exact absurd rfl (hsecond trivial)
              | sendResponse => exact absurd h (by simp [Decoded.ok])
              | noAction =>
                  simp only at h hlast
                  cases h3 : take s2 with
                  | mk r3 s3 =>
                      have hr3 : r3 = true := by
                        rw [h3] at hlast
                        exact hlast trivial trivial
                      rw [h3, hr3] at h
                      exact absurd h (by simp [Decoded.ok])

theorem passes_lcpNak : Passes .lcp (fun _ => True) lcpNakBody := by
  intro o r h
  unfold lcpNakBody at h ⊢
  split
  · rename_i hmru
    rw [if_pos hmru] at h
    split
    · rename_i hbytes
      rw [if_pos hbytes] at h
      exact absurd h (by simp [NakRej.keep])
    · rename_i hbytes
      rw [if_neg hbytes] at h
      exact ⟨h, rfl, rfl, trivial⟩
  · rename_i hmru
    rw [if_neg hmru] at h
    split
    · rename_i hauth
      rw [if_pos hauth] at h
      simp only at h ⊢
      split
      · rename_i hsame
        rw [if_pos hsame] at h
        exact ⟨h, rfl, rfl, trivial⟩
      · rename_i hsame
        rw [if_neg hsame] at h
        split
        · rename_i hknown
          rw [if_pos hknown] at h
          exact ⟨h, rfl, rfl, trivial⟩
        · rename_i hknown
          rw [if_neg hknown] at h
          exact absurd h (by simp [NakRej.keep])
    · rename_i hauth
      rw [if_neg hauth] at h
      exact ⟨h, rfl, rfl, trivial⟩

/-- The other bodies either pass an option or put it aside. -/
theorem passes_ite {fine : Tlv → Prop} (aside : Tlv → NakRej → Prop)
    [∀ o r, Decidable (aside o r)] (kept : Tlv → NakRej → Tlv)
    (hfine : ∀ o r, ¬ aside o r → fine o) :
    Passes cp fine fun o r => if aside o r then r.keep o (kept o r) else r.pass o := by
  intro o r h
  by_cases ha : aside o r
  · simp only [if_pos ha] at h
    exact absurd h (by simp [NakRej.keep])
  · simp only [if_neg ha] at h ⊢
    exact ⟨h, rfl, rfl, hfine o r ha⟩

theorem passes_ipcpNak : Passes .ipcp (fun _ => True) ipcpNakBody :=
  passes_ite (fun o _ => o.type = optIpAddress ∧ o.val.getD 0 0 = 0) (fun o _ => o) fun _ _ _ => trivial

/-- A Configure-Request of IPCP that needs no Reject has addresses in it only. -/
theorem passes_ipcpReject : Passes .ipcp (fun o => o.type = optIpAddress) ipcpRejectBody :=
  passes_ite (fun o _ => o.type ≠ optIpAddress) (fun o _ => o) fun _ _ h => not_not.mp h

theorem passes_ipv6cpNak : Passes .ipv6cp (fun _ => True) ipv6cpNakBody :=
  passes_ite (fun o r => o.type = optInterfaceId ∧
      (be64At o.val 0 = 0 ∨ be64At o.val 0 = r.ccb.params.ipv6cpLocalIid))
    (fun o r => { o with val := (iidBytes r.ccb.params.ipv6cpLocalIid).take 7 ++
      [r.ccb.params.ipv6cpLocalIid.extractLsb' 0 8 + 1] }) fun _ _ _ => trivial

/-- The check of an option in the loop that judges a Configure-Request of LCP. -/
def lcpRequestOk (o : Tlv) : Bool := !((o.type == optMru || o.type == optAuth) && o.val.length < 2)

theorem optsOk_true (h : s.optsOk cp ok = true) : s.optsOk cp (fun _ => true) = true := by
  obtain ⟨-, hwf⟩ := Bool.and_eq_true_iff.mp h
  unfold PppCcb.optsOk
  rw [hwf]
  simp

theorem optsOk_of_opts {ok : Tlv → Bool} (h : t.opts cp = s.opts cp) :
    t.optsOk cp ok = s.optsOk cp ok := by
  unfold PppCcb.optsOk
  rw [h]

/-- A Configure-Request of LCP that is refused: what the peer asked for authentication by
then stays taken over, and nothing else is. -/
theorem lcpRequest_same
    (hauth : ∀ o ∈ (Tlv.split (s.opts .lcp)).1.takeWhile lcpRequestOk, o.type ≠ optAuth)
    (h : (recvConfigRequest .lcp checkLcpNakRej (fun s => (true, s)) s).status = .error) :
    SameNegotiation s (recvConfigRequest .lcp checkLcpNakRej (fun s => (true, s)) s).ccb := by
  have hnak : checkLcpNakRej configNakCode = checkNakRej .lcp configNakCode lcpRequestOk lcpNakBody := rfl
  rw [recvConfigRequest_refused ?_ (fun _ _ => rfl) h, hnak]
  · refine checkNakRej_same fun o ho r => ?_
    unfold lcpNakBody
    split
    · split <;> rfl
    · rw [if_neg (hauth o ho)]
      rfl
  · intro hno
    rw [hnak] at hno ⊢
    obtain ⟨hopts, hlen, hok, -⟩ := checkNakRej_noAction passes_lcpNak hno
    refine checkNakRej_error (by rw [hopts]; exact hlen) ?_
    rw [optsOk_of_opts hopts]
    exact optsOk_true hok

theorem ipcpRequest_same
    (h : (recvConfigRequest .ipcp checkIpcpNakRej
      (fun s => s.walkOpts .ipcp ipcpOptOk ipcpRequestTake) s).status = .error) :
    SameNegotiation s (recvConfigRequest .ipcp checkIpcpNakRej
      (fun s => s.walkOpts .ipcp ipcpOptOk ipcpRequestTake) s).ccb := by
  have hnak : checkIpcpNakRej configNakCode = checkNakRej .ipcp configNakCode
      (fun o => !(o.type == optIpAddress && o.val.length < 4)) ipcpNakBody := rfl
  have hrej : checkIpcpNakRej configRejectCode =
      checkNakRej .ipcp configRejectCode (fun _ => true) ipcpRejectBody := rfl
  rw [recvConfigRequest_refused ?_ ?_ h, hnak]
  · refine checkNakRej_same fun o ho r => ?_
    unfold ipcpNakBody
    split <;> rfl
  · intro hno
    rw [hnak] at hno ⊢
    obtain ⟨hopts, hlen, hok, -⟩ := checkNakRej_noAction passes_ipcpNak hno
    rw [hrej]
    refine checkNakRej_error (by rw [hopts]; exact hlen) ?_
    rw [optsOk_of_opts hopts]
    exact optsOk_true hok
  · intro hno hno'
    rw [hnak] at hno hno' ⊢
    rw [hrej] at hno' ⊢
    obtain ⟨hopts, -, hok, -⟩ := checkNakRej_noAction passes_ipcpNak hno
    obtain ⟨hopts', -, -, hip⟩ := checkNakRej_noAction passes_ipcpReject hno'
    -- all that is left is addresses, and the first check has seen that they have four bytes
    rw [walkOpts_fst, optsOk_of_opts (hopts'.trans hopts)]
    rw [hopts] at hip
    obtain ⟨hall, hwf⟩ := Bool.and_eq_true_iff.mp hok
    refine Bool.and_eq_true_iff.mpr ⟨List.all_eq_true.mpr ?_, hwf⟩
    intro o ho
    have hfour := List.all_eq_true.mp hall o ho
    simp only [ipcpOptOk, hip o ho] at hfour ⊢
    exact hfour

theorem ipv6cpRequest_same
    (h : (recvConfigRequest .ipv6cp checkIpv6cpNakRej
      (fun s => s.walkOpts .ipv6cp (fun _ => true) ipv6cpRequestTake) s).status = .error) :
    SameNegotiation s (recvConfigRequest .ipv6cp checkIpv6cpNakRej
      (fun s => s.walkOpts .ipv6cp (fun _ => true) ipv6cpRequestTake) s).ccb := by
  have hnak : checkIpv6cpNakRej configNakCode =
      checkNakRej .ipv6cp configNakCode ipv6cpOptOk ipv6cpNakBody := rfl
  have hrej : checkIpv6cpNakRej configRejectCode =
      checkNakRej .ipv6cp configRejectCode ipv6cpOptOk ipv6cpRejectBody := rfl
  have hpass : Passes .ipv6cp (fun _ => True) ipv6cpRejectBody :=
    passes_ite (fun o _ => o.type ≠ optInterfaceId) (fun o _ => o)
      fun _ _ _ => trivial
  rw [recvConfigRequest_refused ?_ ?_ h, hnak]
  · refine checkNakRej_same fun o ho r => ?_
    unfold ipv6cpNakBody
    simp only
    split <;> rfl
  · intro hno
    rw [hnak] at hno ⊢
    obtain ⟨hopts, hlen, hok, -⟩ := checkNakRej_noAction passes_ipv6cpNak hno
    rw [hrej]
    refine checkNakRej_error (by rw [hopts]; exact hlen) ?_
    rw [optsOk_of_opts hopts]
    exact hok
  · intro hno hno'
    rw [hnak] at hno hno' ⊢
    rw [hrej] at hno' ⊢
    obtain ⟨hopts, -, hok, -⟩ := checkNakRej_noAction passes_ipv6cpNak hno
    obtain ⟨hopts', -, -, -⟩ := checkNakRej_noAction hpass hno'
    rw [walkOpts_fst, optsOk_of_opts (hopts'.trans hopts)]
    exact optsOk_true hok

/-! ### Answers -/

/-- A Configure-Nak or Configure-Reject that is refused, when no option before the refused one
is taken over. -/
theorem recvNakRej_same {ok : Tlv → Bool} {take : Tlv → PppCcb → PppCcb}
    (htake : s.answersRequest cp = true → ∀ o ∈ (Tlv.split (s.opts cp)).1.takeWhile ok,
      ∀ t, take o t = t)
    (h : (recvNakRej cp ok take s).status = .error) :
    SameNegotiation s (recvNakRej cp ok take s).ccb := by
  unfold recvNakRej at h ⊢
  by_cases hans : s.answersRequest cp = true
  · rw [hans] at h ⊢
    have hwalk : (s.walkOpts cp ok take).2 = s :=
      Tlv.walk_inv (fun t => t = s) (fun o ho t ht => (htake hans o ho t).trans ht) rfl
    cases hres : s.walkOpts cp ok take with
    | mk b t =>
        rw [hres] at h hwalk
        cases b with
        | true => exact absurd h (by simp [Decoded.ok])
        | false =>
            have ht : t = s := hwalk
            rw [ht]
            exact SameNegotiation.refl s
  · rw [Bool.not_eq_true] at hans
    rw [hans]
    exact SameNegotiation.refl s

/-- The options a decoder takes over from a Configure-Nak or Configure-Reject. -/
def takesOver : PppCp → PppCode → Tlv → Bool
  | .lcp, .configNak, o =>
      o.type == optMagicNum || (o.type == optAuth || o.type == optMru) && 2 ≤ o.val.length
  | .lcp, .configReject, o => o.type == optAuth || o.type == optMru || o.type == optMagicNum
  | .ipcp, .configNak, o =>
      o.type == optIpAddress || o.type == optPrimaryDns || o.type == optSecondaryDns
  | .ipcp, .configReject, o => o.type == optPrimaryDns || o.type == optSecondaryDns
  | .ipv6cp, .configNak, o => o.type == optInterfaceId
  | _, _, _ => false

theorem takesOver_lcpNak (o : Tlv) : takesOver .lcp .configNak o =
    (o.type == optMagicNum || (o.type == optAuth || o.type == optMru) && 2 ≤ o.val.length) := rfl

theorem takesOver_lcpReject (o : Tlv) : takesOver .lcp .configReject o =
    (o.type == optAuth || o.type == optMru || o.type == optMagicNum) := rfl

theorem takesOver_ipcpNak (o : Tlv) : takesOver .ipcp .configNak o =
    (o.type == optIpAddress || o.type == optPrimaryDns || o.type == optSecondaryDns) := rfl

theorem takesOver_ipcpReject (o : Tlv) : takesOver .ipcp .configReject o =
    (o.type == optPrimaryDns || o.type == optSecondaryDns) := rfl

theorem takesOver_ipv6cpNak (o : Tlv) : takesOver .ipv6cp .configNak o =
    (o.type == optInterfaceId) := rfl

/-- The check those loops make on each option. -/
def answerOk : PppCp → PppCode → Tlv → Bool
  | .ipcp, .configNak => ipcpOptOk
  | .ipv6cp, .configNak => ipv6cpOptOk
  | _, _ => fun _ => true

/-- By the time the list is refused, something in it has been taken over. -/
inductive TakenEarly (s : PppCcb) : PppCp → Prop
  | request (hcode : s.codeOf .lcp = .configRequest) (hphase : s.phase = lcpPhase) {o : Tlv}
      (ho : o ∈ (Tlv.split (s.opts .lcp)).1.takeWhile lcpRequestOk) (hauth : o.type = optAuth) :
      TakenEarly s .lcp
  | answer {cp : PppCp} (hcode : s.codeOf cp = .configNak ∨ s.codeOf cp = .configReject)
      (hans : s.answersRequest cp = true) {o : Tlv}
      (ho : o ∈ (Tlv.split (s.opts cp)).1.takeWhile (answerOk cp (s.codeOf cp)))
      (htakes : takesOver cp (s.codeOf cp) o = true) : TakenEarly s cp
  | ack (hack : ipcpAcked s) : TakenEarly s .ipcp

theorem takes_nothing {code : PppCode} (hcode : s.codeOf cp = code)
    (hnak : code = .configNak ∨ code = .configReject) (hearly : ¬ TakenEarly s cp)
    (hans : s.answersRequest cp = true) :
    ∀ o ∈ (Tlv.split (s.opts cp)).1.takeWhile (answerOk cp code), takesOver cp code o = false := by
  subst hcode
  intro o ho
  cases h : takesOver cp (s.codeOf cp) o with
  | false => rfl
  | true => exact absurd (.answer hnak hans ho h) hearly

theorem lcpNakTake_none {o : Tlv} (h : takesOver .lcp .configNak o = false) (t : PppCcb) :
    lcpNakTake o t = t := by
  simp only [takesOver_lcpNak, Bool.or_eq_false_iff, Bool.and_eq_false_iff, beq_eq_false_iff_ne,
    decide_eq_false_iff_not] at h
  unfold lcpNakTake
  rw [if_neg ?_, if_neg ?_, if_neg h.1]
  · intro ⟨hmru, hlen⟩
    exact h.2.elim (fun hne => hne.2 hmru) fun hlt => hlt hlen
  · intro ⟨hauth, hlen⟩
    exact h.2.elim (fun hne => hne.1 hauth) fun hlt => hlt hlen

theorem lcpRejectTake_none {o : Tlv} (h : takesOver .lcp .configReject o = false) (t : PppCcb) :
    lcpRejectTake o t = t := by
  simp only [takesOver_lcpReject, Bool.or_eq_false_iff, beq_eq_false_iff_ne] at h
  unfold lcpRejectTake
  rw [if_neg h.1.1, if_neg h.1.2, if_neg h.2]

theorem ipcpAnswerTake_none {o : Tlv} (h : takesOver .ipcp .configNak o = false) (t : PppCcb) :
    ipcpAnswerTake o t = t := by
  simp only [takesOver_ipcpNak, Bool.or_eq_false_iff, beq_eq_false_iff_ne] at h
  unfold ipcpAnswerTake ipcpDnsTake
  rw [if_neg h.1.1, if_neg h.1.2, if_neg h.2]

theorem ipcpRejectTake_none {o : Tlv} (h : takesOver .ipcp .configReject o = false) (t : PppCcb) :
    ipcpRejectTake o t = t := by
  simp only [takesOver_ipcpReject, Bool.or_eq_false_iff, beq_eq_false_iff_ne] at h
  unfold ipcpRejectTake
  rw [if_neg h.1, if_neg h.2]

theorem ipv6cpNakTake_none {o : Tlv} (h : takesOver .ipv6cp .configNak o = false) (t : PppCcb) :
    ipv6cpNakTake o t = t := by
  simp only [takesOver_ipv6cpNak, beq_eq_false_iff_ne] at h
  unfold ipv6cpNakTake
  rw [if_neg h]

/-! ### The three decoders -/

/-- An `ERROR` leaves what was negotiated. -/
def Atomic (s : PppCcb) (d : Decoded) : Prop := d.status = .error → SameNegotiation s d.ccb

theorem atomic_ok (s t : PppCcb) (ev : PppEvent) : Atomic s (.ok ev t) :=
  fun h => absurd h (by simp [Decoded.ok])

theorem atomic_fail (s : PppCcb) : Atomic s (.fail s) := fun _ => SameNegotiation.refl s

/-- The echo counter is no part of it. -/
theorem Atomic.of_echo {d : Decoded} (h : Atomic { s with echoMissCount := 0 } d) : Atomic s d :=
  fun herr => ⟨(h herr).params, (h herr).pending, (h herr).ppp, (h herr).pppIpv6cp⟩

theorem decodeLcp_atomic (tim : PppTimerId) (hearly : ¬ TakenEarly s .lcp) :
    Atomic s (decodeLcp tim s) := by
  unfold decodeLcp
  refine Atomic.of_echo ?_
  simp only
  split
  case h_1 hcode =>
    split
    · exact atomic_fail _
    · rename_i hphase
      refine lcpRequest_same ?_
      intro o ho hauth
      exact hearly (.request hcode (not_not.mp hphase) ho hauth)
  case h_2 =>
    split
    · exact atomic_fail _
    · split
      · exact atomic_fail _
      · split
        · exact atomic_fail _
        · exact atomic_ok _ _ _
  case h_3 hcode =>
    refine recvNakRej_same ?_
    intro hans o ho t
    exact lcpNakTake_none (takes_nothing (s := s) hcode (Or.inl rfl) hearly hans o ho) t
  case h_4 hcode =>
    refine recvNakRej_same ?_
    intro hans o ho t
    exact lcpRejectTake_none (takes_nothing (s := s) hcode (Or.inr rfl) hearly hans o ho) t
  case h_8 => split <;> exact atomic_ok _ _ _
  case h_9 =>
    split
    · exact atomic_fail _
    · exact atomic_ok _ _ _
  case h_10 =>
    split
    · exact atomic_fail _
    · exact atomic_ok _ _ _
  all_goals exact atomic_ok _ _ _

theorem decodeIpcp_atomic (tim : PppTimerId) (hearly : ¬ TakenEarly s .ipcp) :
    Atomic s (decodeIpcp tim s) := by
  unfold decodeIpcp
  refine Atomic.of_echo ?_
  simp only
  split
  case h_1 => exact ipcpRequest_same
  case h_2 hcode =>
    split
    · exact atomic_fail _
    · rename_i hans
      simp only [Bool.not_eq_true', Bool.not_eq_false] at hans
      exact absurd (.ack ⟨hcode, hans⟩) hearly
  case h_3 hcode =>
    refine recvNakRej_same ?_
    intro hans o ho t
    exact ipcpAnswerTake_none (takes_nothing (s := s) hcode (Or.inl rfl) hearly hans o ho) t
  case h_4 hcode =>
    refine recvNakRej_same ?_
    intro hans o ho t
    exact ipcpRejectTake_none (takes_nothing (s := s) hcode (Or.inr rfl) hearly hans o ho) t
  all_goals exact atomic_ok _ _ _

/-- A Configure-Reject of our Interface-Identifier. -/
def RejectsIid (s : PppCcb) : Prop :=
  s.codeOf .ipv6cp = .configReject ∧ s.answersRequest .ipv6cp = true ∧
    ∃ o, (Tlv.split (s.opts .ipv6cp)).1.find? (fun o => o.type == optInterfaceId) = some o ∧
      o.val.length = 8

/-- The block that is closed then: the request is no longer pending. -/
def iidRejected (s : PppCcb) : PppCcb :=
  { ({ s with echoMissCount := 0 } : PppCcb).setPending .ipv6cp false with cpId := .ipv6cp }

theorem decodeIpv6cp_atomic (env : PppEnv) (tim : PppTimerId) (hearly : ¬ TakenEarly s .ipv6cp)
    (hiid : ¬ RejectsIid s) : Atomic s (decodeIpv6cp env tim s) := by
  unfold decodeIpv6cp
  refine Atomic.of_echo ?_
  simp only
  split
  case h_1 => exact ipv6cpRequest_same
  case h_2 =>
    split
    · exact atomic_fail _
    · split
      · exact atomic_fail _
      · exact atomic_ok _ _ _
  case h_3 hcode =>
    refine recvNakRej_same ?_
    intro hans o ho t
    exact ipv6cpNakTake_none (takes_nothing (s := s) hcode (Or.inl rfl) hearly hans o ho) t
  case h_4 hcode =>
    unfold recvIpv6cpReject
    split
    · exact atomic_fail _
    · rename_i hans
      simp only [Bool.not_eq_true', Bool.not_eq_false] at hans
      simp only
      split
      · rename_i o hfind
        split
        · exact atomic_fail _
        · rename_i hlen
          exact absurd ⟨hcode, hans, o, hfind, not_not.mp hlen⟩ hiid
      · split
        · exact atomic_ok _ _ _
        · exact atomic_fail _
  all_goals exact atomic_ok _ _ _

/-- The rejected Interface-Identifier: IPV6CP is closed. -/
theorem decodeIpv6cp_iid (env : PppEnv) (tim : PppTimerId) (hiid : RejectsIid s) :
    decodeIpv6cp env tim s = .fail (pppFsm env tim .eClose (iidRejected s)).2 := by
  obtain ⟨hcode, hans, o, hfind, hlen⟩ := hiid
  have hcode' : pppCode (s.controlProtocol.get .ipv6cp).pppHdr.code = .configReject := hcode
  have hans' : ({ s with echoMissCount := 0 } : PppCcb).answersRequest .ipv6cp = true := hans
  have hfind' : (Tlv.split (({ s with echoMissCount := 0 } : PppCcb).opts .ipv6cp)).1.find?
      (fun o => o.type == optInterfaceId) = some o := hfind
  unfold decodeIpv6cp
  simp only [hcode']
  unfold recvIpv6cpReject
  simp only [hans', hfind', Bool.not_true, Bool.false_eq_true, if_false, hlen, ne_eq, not_true]
  rfl

/-! ### Closing IPV6CP -/

theorem pending_runPlain {F : PppFsm} {l : List PppAction}
    (hl : ∀ a ∈ l, a = .initRestartTermin ∨ a = .sendTerminateRequest) (s : PppCcb) :
    (runPlain env F tim l s).configRequestPending = s.configRequestPending := by
  induction l generalizing s with
  | nil => rfl
  | cons a rest ih =>
      have hrest := ih (fun b hb => hl b (List.mem_cons_of_mem a hb))
        (runAction env F tim s.tick a).2
      refine hrest.trans ?_
      have hc : s.tick.timerCounter s.cpId ≠ 0 := timerCounter_tick s
      rcases hl a List.mem_cons_self with rfl | rfl
      · rfl
      · simp only [runAction, sendTerminateRequest, cpId_tick, hc, if_false]
        rfl

theorem plain_of_terminating {l : List PppAction}
    (hl : ∀ a ∈ l, a = .initRestartTermin ∨ a = .sendTerminateRequest) : ∀ a ∈ l, a.plain := by
  intro a ha
  rcases hl a ha with rfl | rfl <;> rfl

/-- A Close whose row only starts termination. -/
theorem pending_close_plain {st next : PppState} {l : List PppAction} (hst : s.state s.cpId = st)
    (hrow : pppRow s.cpId st .eClose = some ⟨st, .eClose, next, l⟩)
    (hl : ∀ a ∈ l, a = .initRestartTermin ∨ a = .sendTerminateRequest) :
    (pppFsm env tim .eClose s).2.configRequestPending = s.configRequestPending := by
  subst hst
  obtain ⟨i, hr, hrun⟩ := pppFsm_row env tim hrow
  rw [pppFsm_run, hrun, runHdl_plain env (pppFsm env) tim (s.setState s.cpId next) i 0 10 hr
    (plain_of_terminating hl) ((tbl_rows s.cpId) _ (pppRow_mem hrow).1).1]
  exact pending_runPlain hl _

/-- A Close whose row takes the layer down or finishes it first. -/
theorem pending_close_head {st next : PppState} {a : PppAction} {l : List PppAction}
    (hst : s.state s.cpId = st)
    (hrow : pppRow s.cpId st .eClose = some ⟨st, .eClose, next, a :: l⟩)
    (hl : ∀ b ∈ l, b = .initRestartTermin ∨ b = .sendTerminateRequest)
    (hact : ∃ t, runAction env (pppFsm env) tim (s.setState s.cpId next).tick a = (.success, t) ∧
      t.cpId = s.cpId ∧
        (cp ≠ .ipv6cp → t.configRequestPending.get cp = s.configRequestPending.get cp)) :
    cp ≠ .ipv6cp → (pppFsm env tim .eClose s).2.configRequestPending.get cp =
      s.configRequestPending.get cp := by
  subst hst
  intro hcp
  obtain ⟨t, hact, hkeep, hpend⟩ := hact
  obtain ⟨i, hr, hrun⟩ := pppFsm_row env tim hrow
  have hlen := ((tbl_rows s.cpId) _ (pppRow_mem hrow).1).1
  have hhead : pppHdl (s.setState s.cpId next).cpId i 0 = some a := by simp [pppHdl, hr]
  have hr' : (pppFsmTbl t.cpId)[i]? = some ⟨s.state s.cpId, .eClose, next, a :: l⟩ := by
    rw [hkeep]
    exact hr
  have htail := runHdl_plain env (pppFsm env) tim t i 1 9 hr' (plain_of_terminating hl)
    (Nat.le_of_succ_le_succ hlen)
  rw [pppFsm_run, hrun, runHdl_some hhead hact, htail]
  show (runPlain env (pppFsm env) tim l t).configRequestPending.get cp = _
  rw [pending_runPlain hl]
  exact hpend hcp

/-- Closing IPV6CP touches no pending flag but its own. -/
theorem pending_close_ipv6cp (h6 : s.cpId = .ipv6cp) (hcp : cp ≠ .ipv6cp) :
    (pppFsm env tim .eClose s).2.configRequestPending.get cp = s.configRequestPending.get cp := by
  have hrow : ∀ {st row}, pppRow .ipv6cp st .eClose = row → pppRow s.cpId st .eClose = row := by
    intro st row h
    rw [h6]
    exact h
  cases hst : s.state s.cpId
  case sStarting =>
    refine pending_close_head hst (hrow rfl) (by simp) ?_ hcp
    refine ⟨(s.setState s.cpId .sInit).tick.ipv6cpStop, ?_, rfl, ?_⟩
    · simp [runAction, createCloseToLowerLayer, h6]
    · intro hcp
      cases cp
      · rfl
      · rfl
      · exact absurd rfl hcp
  case sOpened =>
    refine pending_close_head hst (hrow rfl) (by simp) ?_ hcp
    have hclosing : ((s.setState s.cpId .sClosing).tick.ipv6Down).state .ipv6cp = .sClosing := by
      have h := state_setState_self s s.cpId .sClosing
      rw [h6] at h ⊢
      rw [state_ipv6Down, state_tick]
      exact h
    -- in S_CLOSING the layer's own Close does nothing
    have hnest : (pppFsm env tim .eClose (s.setState s.cpId .sClosing).tick.ipv6Down).2.configRequestPending
        = s.configRequestPending := by
      have hst' : ((s.setState s.cpId .sClosing).tick.ipv6Down).state s.cpId = .sClosing := by
        rw [h6] at hclosing ⊢
        exact hclosing
      have hrow' : pppRow s.cpId .sClosing .eClose = some ⟨.sClosing, .eClose, .sClosing, []⟩ := by
        rw [h6]
        rfl
      exact (pending_close_plain (s := (s.setState s.cpId .sClosing).tick.ipv6Down) hst' hrow'
        (by simp)).trans rfl
    refine ⟨(pppFsm env tim .eClose (s.setState s.cpId .sClosing).tick.ipv6Down).2, ?_, ?_, ?_⟩
    · simp [runAction, thisLayerDown, h6]
    · rw [cpId_of_core (pppFsm_move env tim .eClose _).core]
      exact cpId_closeMove _ tim
    · intro _
      rw [hnest]
  case sInit | sClosed | sStopped | sClosing | sStopping =>
    rw [pending_close_plain hst (hrow rfl) (by simp)]
  case sRequestSent | sAckReceived | sAckSent =>
    rw [pending_close_plain hst (hrow rfl) (by simp)]

/-- It touches nothing that was negotiated, and not the timer LCP and IPCP share. -/
theorem close_ipv6cp_keeps (env : PppEnv) (h6 : s.cpId = .ipv6cp) :
    (pppFsm env .pppIpv6cp .eClose s).2.params = s.params ∧
      (pppFsm env .pppIpv6cp .eClose s).2.ppp = s.ppp := by
  have hcore := (pppFsm_move env .pppIpv6cp .eClose s).core
  have hparams : (pppFsm env .pppIpv6cp .eClose s).2.params =
      (s.closeMove .pppIpv6cp).params := by
    have h := congrArg PppCcb.params hcore
    exact h
  have hppp : (pppFsm env .pppIpv6cp .eClose s).2.ppp =
      (s.closeMove .pppIpv6cp).ppp := by
    have h := congrArg PppCcb.ppp hcore
    exact h
  rw [hparams, hppp]
  unfold PppCcb.closeMove
  rw [layerDown_ipv6cp h6, h6]
  split <;> exact ⟨rfl, rfl⟩

/-- A Configure-Nak for another identifier, while IPCP waits for the answer to its first
request. -/
def strayNak : PppCcb :=
  (runOf ncpRun).store .ipcp ipcpProtocol ⟨3, 77, 0x0a00⟩ [3, 6, 10, 0, 0, 9]

end FastRG
