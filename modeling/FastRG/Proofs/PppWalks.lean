/-
The option walks touch nothing outside their buffers, and end.

Each loop of the checks and of the decoders is one of those of `OptWalk`, with what it makes of an
option shown to be what the model makes of it.  What is copied out is no longer than what has been
gone over, which is no longer than the temporary.

The loop without a check runs after two that had one, and those have asked for no answer: by
`checkNakRej_noAction` the options are then still as they were stored, and in order.

With as many rounds as the options have bytes, what comes out is what the decoders of the model
give.
-/
import FastRG.Proofs.OptWalk
import FastRG.Proofs.PppAtomic

namespace FastRG

/-! ### What each loop makes of an option -/

theorem passes_lcpReject : Passes .lcp (fun _ => True) lcpRejectBody :=
  passes_ite (fun o _ => o.type ≠ optMagicNum ∧ o.type ≠ optMru ∧ o.type ≠ optAuth) (fun o _ => o)
    fun _ _ _ => trivial

theorem passes_ipv6cpReject : Passes .ipv6cp (fun _ => True) ipv6cpRejectBody :=
  passes_ite (fun o _ => o.type ≠ optInterfaceId) (fun o _ => o) fun _ _ _ => trivial

theorem getD_take {l : List (BitVec 8)} {i n : Nat} (h : i < n) :
    (l.take n).getD i 0 = l.getD i 0 := by
  rw [List.getD_eq_getElem?_getD, List.getD_eq_getElem?_getD, List.getElem?_take_of_lt h]

theorem be16At_take {l : List (BitVec 8)} {i n : Nat} (h : i + 2 ≤ n) :
    be16At (l.take n) i = be16At l i := by
  unfold be16At
  rw [getD_take (by omega), getD_take (by omega)]

theorem le32At_take {l : List (BitVec 8)} {i n : Nat} (h : i + 4 ≤ n) :
    le32At (l.take n) i = le32At l i := by
  unfold le32At
  rw [be16At_take (by omega), be16At_take (by omega)]

theorem be64At_take {l : List (BitVec 8)} {i n : Nat} (h : i + 8 ≤ n) :
    be64At (l.take n) i = be64At l i := by
  unfold be64At be48At
  rw [be16At_take (by omega), be16At_take (by omega), be16At_take (by omega),
    be16At_take (by omega)]

theorem noWidth_le (o : Tlv) : noWidth o.type (o.val.length + 2) ≤ o.val.length := Nat.zero_le _

theorem lcpNakWidth_le (o : Tlv) : lcpNakWidth o.type (o.val.length + 2) ≤ o.val.length := by
  unfold lcpNakWidth
  split <;> omega

theorem lcpAckWidth_le (o : Tlv) : lcpAckWidth o.type (o.val.length + 2) ≤ o.val.length := by
  unfold lcpAckWidth
  split <;> omega

theorem ipcpNakWidth_le (o : Tlv) : ipcpNakWidth o.type (o.val.length + 2) ≤ o.val.length := by
  unfold ipcpNakWidth
  split <;> omega

theorem ipcpWidth_le (o : Tlv) : ipcpWidth o.type (o.val.length + 2) ≤ o.val.length := by
  unfold ipcpWidth
  split <;> omega

theorem ipv6cpNakWidth_le (o : Tlv) : ipv6cpNakWidth o.type (o.val.length + 2) ≤ o.val.length := by
  unfold ipv6cpNakWidth
  split <;> omega

/-- The length byte counts the two bytes before the value. -/
theorem length_beq (o : Tlv) (k : Nat) : (o.val.length + 2 == k + 2) = (o.val.length == k) := by
  rw [Bool.eq_iff_iff, beq_iff_eq, beq_iff_eq]
  omega

theorem judge_lcpAck (magicNum : BitVec 32) (o : Tlv) (s : PppCcb) :
    lcpAckJudge magicNum (viewOf lcpAckWidth o) s =
      (lcpAckOk magicNum o, if lcpAckOk magicNum o then s else s) := by
  unfold lcpAckJudge lcpAckOk viewOf
  rw [ite_self]
  by_cases htype : o.type = optMagicNum
  · by_cases hlen : o.val.length = 4
    · unfold lcpAckWidth
      rw [if_pos ⟨htype, by omega⟩, le32At_take (by omega)]
      simp only [hlen, htype]
      rfl
    · have hno : (o.val.length == 4) = false := by simpa using hlen
      have hno' : (o.val.length + 2 == 6) = false := by
        rw [← hno]
        exact length_beq o 4
      simp only [hno, hno', Bool.false_and]
  · have hno : (o.type == optMagicNum) = false := by simpa using htype
    simp only [hno, Bool.not_false, Bool.true_or]

theorem judge_lcpNak (o : Tlv) (s : PppCcb) :
    lcpNakJudge (viewOf lcpNakWidth o) s = (true, if true then lcpNakTake o s else s) := by
  unfold lcpNakJudge lcpNakTake viewOf
  simp only [if_true]
  by_cases hlook : (o.type = optMru ∨ o.type = optAuth) ∧ 4 ≤ o.val.length + 2
  · have hwidth : lcpNakWidth o.type (o.val.length + 2) = 2 := if_pos hlook
    have hlen : 2 ≤ o.val.length := by omega
    have hlen' : 4 ≤ o.val.length + 2 := by omega
    rw [hwidth, be16At_take (by omega)]
    simp only [hlen, hlen', and_true]
  · -- neither of the two options that carry a value to look at
    have hauth : ¬ (o.type = optAuth ∧ 4 ≤ o.val.length + 2) := fun h => hlook ⟨Or.inr h.1, h.2⟩
    have hmru : ¬ (o.type = optMru ∧ 4 ≤ o.val.length + 2) := fun h => hlook ⟨Or.inl h.1, h.2⟩
    have hauth' : ¬ (o.type = optAuth ∧ 2 ≤ o.val.length) := fun h => hauth ⟨h.1, by omega⟩
    have hmru' : ¬ (o.type = optMru ∧ 2 ≤ o.val.length) := fun h => hmru ⟨h.1, by omega⟩
    rw [if_neg hauth, if_neg hmru, if_neg hauth', if_neg hmru']

theorem judge_lcpReject (o : Tlv) (s : PppCcb) :
    lcpRejectJudge (viewOf noWidth o) s = (true, if true then lcpRejectTake o s else s) := rfl

/-- The loops of IPCP look at an address only where `ipcpOptOk` has found it long enough. -/
theorem judge_ipcp {take : Tlv → PppCcb → PppCcb}
    (haddr : ∀ (o : Tlv) v s, (isIpcpAddress o.type = true → le32At v 0 = le32At o.val 0) →
      take ⟨o.type, v⟩ s = take o s) (o : Tlv) (s : PppCcb) :
    ipcpJudge take (viewOf ipcpWidth o) s = (ipcpOptOk o, if ipcpOptOk o then take o s else s) := by
  have hok : ipcpOptOk o = !(isIpcpAddress o.type && decide (o.val.length < 4)) := rfl
  unfold ipcpJudge viewOf
  simp only
  by_cases hshort : isIpcpAddress o.type = true ∧ o.val.length + 2 < 6
  · have hrefuse : ipcpOptOk o = false := by
      rw [hok, hshort.1, decide_eq_true (by omega)]
      rfl
    rw [if_pos hshort, hrefuse]
    rfl
  · have htake : ipcpOptOk o = true := by
      rw [hok]
      cases haddr' : isIpcpAddress o.type with
      | false => rfl
      | true =>
          have hfour : ¬ o.val.length < 4 := fun hlt => hshort ⟨haddr', by omega⟩
          rw [decide_eq_false hfour]
          rfl
    rw [if_neg hshort, htake, if_pos rfl, haddr o _ s]
    intro haddr'
    have hlong : 6 ≤ o.val.length + 2 := by
      by_contra hlt
      exact hshort ⟨haddr', by omega⟩
    unfold ipcpWidth
    rw [if_pos ⟨haddr', hlong⟩, le32At_take (by omega)]

theorem ipcpRequestTake_congr (o : Tlv) (v : List (BitVec 8)) (s : PppCcb)
    (h : isIpcpAddress o.type = true → le32At v 0 = le32At o.val 0) :
    ipcpRequestTake ⟨o.type, v⟩ s = ipcpRequestTake o s := by
  unfold ipcpRequestTake ipcpDnsTake
  simp only
  split
  · rename_i hip
    rw [h (by rw [hip]; rfl)]
  split
  · rename_i hdns
    rw [h (by rw [hdns]; rfl)]
  split
  · rename_i hdns
    rw [h (by rw [hdns]; rfl)]
  · rfl

theorem ipcpAnswerTake_congr (o : Tlv) (v : List (BitVec 8)) (s : PppCcb)
    (h : isIpcpAddress o.type = true → le32At v 0 = le32At o.val 0) :
    ipcpAnswerTake ⟨o.type, v⟩ s = ipcpAnswerTake o s := by
  unfold ipcpAnswerTake ipcpDnsTake
  simp only
  split
  · rename_i hip
    rw [h (by rw [hip]; rfl)]
  split
  · rename_i hdns
    rw [h (by rw [hdns]; rfl)]
  split
  · rename_i hdns
    rw [h (by rw [hdns]; rfl)]
  · rfl

theorem judge_ipcpReject (o : Tlv) (s : PppCcb) :
    ipcpRejectJudge (viewOf noWidth o) s = (true, if true then ipcpRejectTake o s else s) := rfl

theorem viewOk_viewOf (width : BitVec 8 → Nat → Nat) (o : Tlv) :
    ipv6cpViewOk (viewOf width o) = ipv6cpOptOk o := by
  have hlen : (o.val.length + 2 != 10) = (o.val.length != 8) := by
    unfold bne
    rw [show (10 : Nat) = 8 + 2 from rfl, length_beq]
  unfold ipv6cpViewOk ipv6cpOptOk viewOf
  simp only [hlen]

theorem judge_ipv6cpAck (o : Tlv) (s : PppCcb) :
    ipv6cpAckJudge (viewOf noWidth o) s = (ipv6cpOptOk o, if ipv6cpOptOk o then s else s) := by
  unfold ipv6cpAckJudge
  rw [viewOk_viewOf, ite_self]

/-- An Interface-Identifier in order has its eight bytes looked at. -/
theorem val_viewOf_iid {o : Tlv} (hok : ipv6cpOptOk o = true) (htype : o.type = optInterfaceId) :
    be64At (viewOf ipv6cpNakWidth o).val 0 = be64At o.val 0 := by
  have hlen : o.val.length = 8 := by simpa [ipv6cpOptOk, htype] using hok
  have hwidth : ipv6cpNakWidth o.type (o.val.length + 2) = 8 := if_pos ⟨htype, by omega⟩
  show be64At (o.val.take (ipv6cpNakWidth o.type (o.val.length + 2))) 0 = _
  rw [hwidth, be64At_take (by omega)]

theorem judge_ipv6cpNak (o : Tlv) (s : PppCcb) :
    ipv6cpNakJudge (viewOf ipv6cpNakWidth o) s =
      (ipv6cpOptOk o, if ipv6cpOptOk o then ipv6cpNakTake o s else s) := by
  unfold ipv6cpNakJudge
  rw [viewOk_viewOf]
  cases hok : ipv6cpOptOk o with
  | false => rfl
  | true =>
      unfold ipv6cpNakTake
      by_cases htype : o.type = optInterfaceId
      · have hview : (viewOf ipv6cpNakWidth o).type = optInterfaceId := htype
        rw [if_neg (by simp), if_pos rfl, if_pos hview, if_pos htype, val_viewOf_iid hok htype]
      · have hview : ¬ (viewOf ipv6cpNakWidth o).type = optInterfaceId := htype
        rw [if_neg (by simp), if_pos rfl, if_neg hview, if_neg htype]

/-- What is left where the loop of a Configure-Reject of IPV6CP stops. -/
def ipv6cpRejected (env : PppEnv) (tim : PppTimerId) (o : Tlv) (s : PppCcb) : PppCcb :=
  if o.val.length ≠ 8 then s
  else (pppFsm env tim .eClose { s.setPending .ipv6cp false with cpId := .ipv6cp }).2

theorem judge_ipv6cpReject (env : PppEnv) (tim : PppTimerId) (o : Tlv) (s : PppCcb) :
    ipv6cpRejectJudge env tim (viewOf noWidth o) s =
      (!(o.type == optInterfaceId),
        if !(o.type == optInterfaceId) then s else ipv6cpRejected env tim o s) := by
  unfold ipv6cpRejectJudge
  rw [viewOk_viewOf]
  unfold ipv6cpOptOk ipv6cpRejected
  by_cases htype : o.type = optInterfaceId
  · have hview : (viewOf noWidth o).type = optInterfaceId := htype
    by_cases hlen : o.val.length = 8
    · simp [htype, hview, hlen]
    · simp [htype, hlen]
  · have hview : ¬ (viewOf noWidth o).type = optInterfaceId := htype
    simp [htype, hview]

/-! ### The loops that judge a Configure-Request -/

/-- How the byte-by-byte state of a check matches that of the model. -/
structure SameJudging (opts pre : List (BitVec 8)) (m : NakRejAcc) (r : NakRej) : Prop where
  ccb : m.ccb = r.ccb
  cursor : AtCursor opts pre m.opts
  walked : r.walked = pre
  tmpBuf : m.tmpBuf = r.tmpBuf
  length : m.length = BitVec.ofNat 16 (4 + r.tmpBuf.length)
  needRes : m.needRes = r.needRes
  room : r.tmpBuf.length ≤ pre.length

section Judges

variable {opts pre rest : List (BitVec 8)} {m : NakRejAcc} {r : NakRej} {o : Tlv}

theorem SameJudging.pass (h : SameJudging opts pre m r)
    (hopt : opts.drop pre.length = o.bytes ++ rest) :
    SameJudging opts (pre ++ o.bytes) m (r.pass o) := by
  refine ⟨h.ccb, AtCursor.next hopt rfl ?_, ?_, h.tmpBuf, h.length, h.needRes, ?_⟩
  · rw [← hopt]
    exact h.cursor.buf_eq
  · show r.walked ++ o.bytes = pre ++ o.bytes
    rw [h.walked]
  · show r.tmpBuf.length ≤ (pre ++ o.bytes).length
    have hroom := h.room
    rw [List.length_append]
    omega

/-- An option copied out, whatever of it has been rewritten. -/
theorem SameJudging.keep (o' kept : Tlv) (h : SameJudging opts pre m r)
    (hopt : opts.drop pre.length = o.bytes ++ rest) (hlen : o'.val.length = o.val.length)
    (hkept : kept.val.length = o.val.length) :
    SameJudging opts (pre ++ o'.bytes)
      { m with
        opts := pre ++ (o'.bytes ++ rest)
        tmpBuf := m.tmpBuf ++ kept.bytes
        length := m.length + BitVec.ofNat 16 (o.val.length + 2)
        needRes := true } (r.keep o' kept) := by
  refine ⟨h.ccb, AtCursor.next hopt hlen rfl, ?_, ?_, ?_, rfl, ?_⟩
  · show r.walked ++ o'.bytes = pre ++ o'.bytes
    rw [h.walked]
  · show m.tmpBuf ++ kept.bytes = r.tmpBuf ++ kept.bytes
    rw [h.tmpBuf]
  · show m.length + BitVec.ofNat 16 (o.val.length + 2) =
      BitVec.ofNat 16 (4 + (r.tmpBuf ++ kept.bytes).length)
    rw [h.length, List.length_append, bytes_length, hkept, ← BitVec.ofNat_add, Nat.add_assoc]
  · show (r.tmpBuf ++ kept.bytes).length ≤ (pre ++ o'.bytes).length
    have hroom := h.room
    rw [List.length_append, List.length_append, bytes_length, bytes_length, hlen, hkept]
    omega

/-- What is asked of the body of a check, at an option that is in order. -/
def JudgesAt (opts : List (BitVec 8)) (body : Nat → NakRejAcc → Access PppBuf (Bool × NakRejAcc))
    (ok : Tlv → Bool) (eff : Tlv → NakRej → NakRej) : Prop :=
  ∀ pre (o : Tlv) rest m r, SameJudging opts pre m r → opts.drop pre.length = o.bytes ++ rest →
    o.val.length + 2 < 256 →
    Access.Within (bufSize opts.length) (body pre.length m) ∧
      ∃ (m' : NakRejAcc) (o' : Tlv), (body pre.length m).val = (ok o, m') ∧
        if ok o then o'.val.length = o.val.length ∧ SameJudging opts (pre ++ o'.bytes) m' (eff o r)
        else m' = m

theorem JudgesAt.follows {body : Nat → NakRejAcc → Access PppBuf (Bool × NakRejAcc)}
    {ok : Tlv → Bool} {eff : Tlv → NakRej → NakRej} (h : JudgesAt opts body ok eff) :
    Follows opts NakRejAcc.opts body ok eff (SameJudging opts)
      fun _ m r => ∃ pre, SameJudging opts pre m r := by
  refine ⟨fun pre m r hR => hR.cursor, ?_, ?_, ?_⟩
  · intro pre o rest m r hR hopt hval
    exact (h pre o rest m r hR hopt hval).1
  · intro pre o rest m r hR hopt hval hok
    obtain ⟨-, m', o', hm', hgo⟩ := h pre o rest m r hR hopt hval
    rw [hok] at hm' hgo
    rw [if_pos rfl] at hgo
    exact ⟨m', o', hm', hgo.1, hgo.2⟩
  · intro pre o rest m r hR hopt hval hok
    obtain ⟨-, m', o', hm', hstop⟩ := h pre o rest m r hR hopt hval
    rw [hok] at hm' hstop
    rw [if_neg Bool.false_ne_true] at hstop
    exact ⟨m', hm', pre, hstop ▸ hR⟩

/-! ### Copying and rewriting -/

/-- The option that the cursor is at, as it now stands. -/
theorem option_at {mem : List (BitVec 8)} (hbuf : mem = pre ++ (o.bytes ++ rest))
    (hval : o.val.length + 2 < 256) :
    (mem.getD (pre.length + 1) 0).toNat = o.val.length + 2 ∧
      (mem.drop pre.length).take (o.val.length + 2) = o.bytes := by
  refine ⟨?_, ?_⟩
  · rw [hbuf]
    unfold Tlv.bytes
    simp [List.getD_eq_getElem?_getD]
    omega
  · rw [hbuf, List.drop_left]
    exact List.take_left' rfl

theorem setWidth_length {b : BitVec 8} {n : Nat} (h : b.toNat = n) :
    b.setWidth 16 = BitVec.ofNat 16 n := by
  subst h
  exact BitVec.eq_of_toNat_eq (by simp)

theorem val_copyOut (hbuf : m.opts = pre ++ (o.bytes ++ rest)) (hval : o.val.length + 2 < 256) :
    (m.copyOut pre.length).val = { m with
      tmpBuf := m.tmpBuf ++ o.bytes
      length := m.length + BitVec.ofNat 16 (o.val.length + 2)
      needRes := true } := by
  obtain ⟨hlen, htake⟩ := option_at hbuf hval
  unfold NakRejAcc.copyOut
  simp only [Access.val_bind, Access.val_u8, Access.val_bytes, Access.val_pure]
  rw [setWidth_length hlen, hlen, htake]

theorem within_copyOut (hbuf : m.opts = pre ++ (o.bytes ++ rest)) (hval : o.val.length + 2 < 256)
    (hin : pre.length + (o.val.length + 2) ≤ opts.length)
    (hroom : m.tmpBuf.length + (o.val.length + 2) ≤ pppMsgBufLen) :
    Access.Within (bufSize opts.length) (m.copyOut pre.length) := by
  obtain ⟨hlen, -⟩ := option_at hbuf hval
  have hsize : bufSize opts.length .options = opts.length := rfl
  have htmp : bufSize opts.length .tmpBuf = pppMsgBufLen := rfl
  unfold NakRejAcc.copyOut
  refine Access.within_bind (Access.within_u8 (by omega)) ?_
  rw [Access.val_u8, hlen]
  refine Access.within_bind (Access.within_bytes (by omega)) ?_
  exact Access.within_bind (Access.within_put (by omega)) (Access.within_pure _)

theorem val_copyOutWith {val : List (BitVec 8)} (hbuf : m.opts = pre ++ (o.bytes ++ rest))
    (hval : o.val.length + 2 < 256) (hlen : val.length = o.val.length) :
    (m.copyOutWith pre.length val).val = { m with
      tmpBuf := m.tmpBuf ++ Tlv.bytes { o with val := val }
      length := m.length + BitVec.ofNat 16 (o.val.length + 2)
      needRes := true } := by
  obtain ⟨hbyte, htake⟩ := option_at hbuf hval
  unfold NakRejAcc.copyOutWith
  simp only [Access.val_bind, Access.val_u8, Access.val_bytes, Access.val_pure]
  rw [setWidth_length hbyte, hbyte, htake]
  unfold Tlv.bytes
  rw [hlen]
  rfl

theorem within_copyOutWith {val : List (BitVec 8)} (hbuf : m.opts = pre ++ (o.bytes ++ rest))
    (hval : o.val.length + 2 < 256) (hlen : val.length = o.val.length)
    (hin : pre.length + (o.val.length + 2) ≤ opts.length)
    (hroom : m.tmpBuf.length + (o.val.length + 2) ≤ pppMsgBufLen) :
    Access.Within (bufSize opts.length) (m.copyOutWith pre.length val) := by
  obtain ⟨hbyte, -⟩ := option_at hbuf hval
  have hsize : bufSize opts.length .options = opts.length := rfl
  have htmp : bufSize opts.length .tmpBuf = pppMsgBufLen := rfl
  unfold NakRejAcc.copyOutWith
  refine Access.within_bind (Access.within_u8 (by omega)) ?_
  rw [Access.val_u8, hbyte]
  refine Access.within_bind (Access.within_bytes (by omega)) ?_
  refine Access.within_bind (Access.within_put (by omega)) ?_
  exact Access.within_bind (Access.within_put (by omega)) (Access.within_pure _)

theorem withHead_length {o : Tlv} (b0 b1 : BitVec 8) (h : 2 ≤ o.val.length) :
    (withHead o b0 b1).val.length = o.val.length := by
  show (b0 :: b1 :: o.val.drop 2).length = o.val.length
  rw [List.length_cons, List.length_cons, List.length_drop]
  omega

theorem val_setHead (b0 b1 : BitVec 8) (hbuf : m.opts = pre ++ (o.bytes ++ rest))
    (h : 2 ≤ o.val.length) :
    (m.setHead pre.length b0 b1).val =
      { m with opts := pre ++ ((withHead o b0 b1).bytes ++ rest) } := by
  obtain ⟨v0, tail, hv0⟩ := List.exists_cons_of_length_pos (by omega : 0 < o.val.length)
  rw [hv0] at h
  simp only [List.length_cons] at h
  obtain ⟨v1, tail, rfl⟩ := List.exists_cons_of_length_pos (by omega : 0 < tail.length)
  have hset : (m.opts.set (pre.length + 2) b0).set (pre.length + 3) b1 =
      pre ++ ((withHead o b0 b1).bytes ++ rest) := by
    rw [hbuf]
    unfold Tlv.bytes withHead
    simp [hv0, List.set_append_right]
  show { m with opts := (m.opts.set (pre.length + 2) b0).set (pre.length + 3) b1 } = _
  rw [hset]

/-- Room in the temporary for an option, as it is ahead of the cursor. -/
theorem SameJudging.fits (h : SameJudging opts pre m r)
    (hopt : opts.drop pre.length = o.bytes ++ rest) (hmax : opts.length ≤ pppMsgBufLen) :
    pre.length + (o.val.length + 2) ≤ opts.length ∧
      m.tmpBuf.length + (o.val.length + 2) ≤ pppMsgBufLen := by
  obtain ⟨-, -, -, hin⟩ := drop_option h.cursor hopt
  have hroom := h.room
  rw [h.tmpBuf]
  exact ⟨hin, by omega⟩

/-- An option that is copied out as it stands. -/
theorem SameJudging.copied (h : SameJudging opts pre m r)
    (hopt : opts.drop pre.length = o.bytes ++ rest)
    (hval : o.val.length + 2 < 256) (hmax : opts.length ≤ pppMsgBufLen) :
    Access.Within (bufSize opts.length) (m.copyOut pre.length) ∧
      SameJudging opts (pre ++ o.bytes) (m.copyOut pre.length).val (r.keep o o) := by
  have hbuf : m.opts = pre ++ (o.bytes ++ rest) := by
    rw [← hopt]
    exact h.cursor.buf_eq
  obtain ⟨hin, hroom⟩ := h.fits hopt hmax
  refine ⟨within_copyOut hbuf hval hin hroom, ?_⟩
  rw [val_copyOut hbuf hval]
  have hkeep := h.keep o o hopt rfl rfl
  rw [← hbuf] at hkeep
  exact hkeep

/-- An option that is first rewritten and then copied out. -/
theorem SameJudging.rewritten (b0 b1 : BitVec 8) (h : SameJudging opts pre m r)
    (hopt : opts.drop pre.length = o.bytes ++ rest) (hval : o.val.length + 2 < 256)
    (hmax : opts.length ≤ pppMsgBufLen) (htwo : 2 ≤ o.val.length) :
    Access.Within (bufSize opts.length) (m.setHead pre.length b0 b1) ∧
      Access.Within (bufSize opts.length)
        ((m.setHead pre.length b0 b1).val.copyOut pre.length) ∧
      SameJudging opts (pre ++ (withHead o b0 b1).bytes)
        ((m.setHead pre.length b0 b1).val.copyOut pre.length).val
        (r.keep (withHead o b0 b1) (withHead o b0 b1)) := by
  have hbuf : m.opts = pre ++ (o.bytes ++ rest) := by
    rw [← hopt]
    exact h.cursor.buf_eq
  have hlen := withHead_length b0 b1 htwo
  obtain ⟨hin, hroom⟩ := h.fits hopt hmax
  have hsize : bufSize opts.length .options = opts.length := rfl
  refine ⟨Access.within_bind (Access.within_put (by omega)) (Access.within_pure _), ?_, ?_⟩
  · rw [val_setHead b0 b1 hbuf htwo]
    refine within_copyOut (o := withHead o b0 b1) rfl (by omega) (by omega) ?_
    rw [hlen]
    exact hroom
  · rw [val_setHead b0 b1 hbuf htwo, val_copyOut (o := withHead o b0 b1) rfl (by omega), hlen]
    exact h.keep _ _ hopt hlen hlen

theorem SameJudging.setCcb (h : SameJudging opts pre m r) (c : PppCcb) :
    SameJudging opts pre { m with ccb := c } { r with ccb := c } :=
  ⟨rfl, h.cursor, h.walked, h.tmpBuf, h.length, h.needRes, h.room⟩

/-- A body that looks at its option and then acts on what it has seen. -/
theorem JudgesAt.ofLook {width : BitVec 8 → Nat → Nat} {ok : Tlv → Bool}
    {eff : Tlv → NakRej → NakRej}
    {act : Nat → NakRejAcc → OptView → Access PppBuf (Bool × NakRejAcc)}
    (hw : ∀ o : Tlv, width o.type (o.val.length + 2) ≤ o.val.length)
    (h : ∀ pre (o : Tlv) rest m r, SameJudging opts pre m r →
      opts.drop pre.length = o.bytes ++ rest → o.val.length + 2 < 256 →
      Access.Within (bufSize opts.length) (act pre.length m (viewOf width o)) ∧
        ∃ (m' : NakRejAcc) (o' : Tlv), (act pre.length m (viewOf width o)).val = (ok o, m') ∧
          if ok o then
            o'.val.length = o.val.length ∧ SameJudging opts (pre ++ o'.bytes) m' (eff o r)
          else m' = m) :
    JudgesAt opts (fun cur m => lookAt m.opts width cur >>= act cur m) ok eff := by
  intro pre o rest m r hR hopt hval
  have hview := val_lookAt hR.cursor hopt hval (hw o)
  obtain ⟨hin, hact⟩ := h pre o rest m r hR hopt hval
  rw [← hview] at hin hact
  exact ⟨Access.within_bind (within_lookAt hR.cursor hopt hval (hw o)) hin, hact⟩

theorem lcpRequestOk_eq (o : Tlv) :
    lcpRequestOk o = !decide ((o.type = optMru ∨ o.type = optAuth) ∧ o.val.length < 2) := by
  unfold lcpRequestOk
  rw [Bool.eq_iff_iff]
  simp

theorem judgesAt_lcpNak (hmax : opts.length ≤ pppMsgBufLen) :
    JudgesAt opts lcpNakBodyAcc lcpRequestOk lcpNakBody := by
  refine JudgesAt.ofLook lcpNakWidth_le ?_
  intro pre o rest m r hR hopt hval
  have htype : (viewOf lcpNakWidth o).type = o.type := rfl
  have hlen : (viewOf lcpNakWidth o).length = o.val.length + 2 := rfl
  rw [htype, hlen]
  by_cases hshort : (o.type = optMru ∨ o.type = optAuth) ∧ o.val.length < 2
  · have hok : lcpRequestOk o = false := by
      rw [lcpRequestOk_eq, decide_eq_true hshort]
      rfl
    rw [if_pos ⟨hshort.1, by omega⟩, hok]
    exact ⟨Access.within_pure _, m, o, rfl, rfl⟩
  have hok : lcpRequestOk o = true := by
    rw [lcpRequestOk_eq, decide_eq_false hshort]
    rfl
  rw [if_neg (fun h => hshort ⟨h.1, by omega⟩), hok]
  simp only [if_true]
  unfold lcpNakBody
  -- both options that are looked into have the two bytes that are looked at
  have htwo : o.type = optMru ∨ o.type = optAuth →
      2 ≤ o.val.length ∧ (viewOf lcpNakWidth o).val = o.val.take 2 := by
    intro hlook
    have htwo : 2 ≤ o.val.length := by
      by_contra hlt
      exact hshort ⟨hlook, by omega⟩
    have hwidth : lcpNakWidth o.type (o.val.length + 2) = 2 := if_pos ⟨hlook, by omega⟩
    refine ⟨htwo, ?_⟩
    show o.val.take (lcpNakWidth o.type (o.val.length + 2)) = o.val.take 2
    rw [hwidth]
  by_cases hmru : o.type = optMru
  · obtain ⟨hlong, hseen⟩ := htwo (Or.inl hmru)
    rw [if_pos hmru, if_pos hmru, hseen, getD_take (by omega), getD_take (by omega)]
    by_cases hother : o.val.getD 0 0 ≠ pppMruHighByte ∨ o.val.getD 1 0 ≠ pppMruLowByte
    · rw [if_pos hother, if_pos hother]
      obtain ⟨hset, hcopy, hkept⟩ :=
        hR.rewritten pppMruHighByte pppMruLowByte hopt hval hmax hlong
      exact ⟨Access.within_bind hset (Access.within_bind hcopy (Access.within_pure _)), _, _, rfl,
        withHead_length _ _ hlong, hkept⟩
    · rw [if_neg hother, if_neg hother]
      exact ⟨Access.within_pure _, m, o, rfl, rfl, hR.pass hopt⟩
  rw [if_neg hmru, if_neg hmru]
  by_cases hauth : o.type = optAuth
  · obtain ⟨hlong, hseen⟩ := htwo (Or.inr hauth)
    rw [if_pos hauth, if_pos hauth, hseen, be16At_take (by omega)]
    have hR₁ := hR.setCcb
      { m.ccb with params := { m.ccb.params with peerRequiresAuth := true } }
    rw [← hR.ccb]
    simp only
    by_cases hsame : be16At o.val 0 = m.ccb.params.authMethod
    · rw [if_pos hsame, if_pos hsame]
      exact ⟨Access.within_pure _, _, o, rfl, rfl, hR₁.pass hopt⟩
    rw [if_neg hsame, if_neg hsame]
    by_cases hknown : be16At o.val 0 = papProtocol ∨ be16At o.val 0 = chapProtocol
    · rw [if_pos hknown, if_pos hknown]
      exact ⟨Access.within_pure _, _, o, rfl, rfl, (hR₁.setCcb _).pass hopt⟩
    · rw [if_neg hknown, if_neg hknown]
      obtain ⟨hset, hcopy, hkept⟩ :=
        (hR₁.setCcb { m.ccb with params := { m.ccb.params with
          peerRequiresAuth := true, authMethod := papProtocol } }).rewritten 0xc0 0x23 hopt hval
            hmax hlong
      exact ⟨Access.within_bind hset (Access.within_bind hcopy (Access.within_pure _)), _, _, rfl,
        withHead_length _ _ hlong, hkept⟩
  · rw [if_neg hauth, if_neg hauth]
    exact ⟨Access.within_pure _, m, o, rfl, rfl, hR.pass hopt⟩

/-- The check of an option in the loop that judges a Configure-Request of IPCP. -/
def ipcpRequestOk (o : Tlv) : Bool := !(o.type == optIpAddress && o.val.length < 4)

theorem judgesAt_ipcpNak (hmax : opts.length ≤ pppMsgBufLen) :
    JudgesAt opts ipcpNakBodyAcc ipcpRequestOk ipcpNakBody := by
  refine JudgesAt.ofLook ipcpNakWidth_le ?_
  intro pre o rest m r hR hopt hval
  have htype : (viewOf ipcpNakWidth o).type = o.type := rfl
  have hlen : (viewOf ipcpNakWidth o).length = o.val.length + 2 := rfl
  rw [htype, hlen]
  unfold ipcpNakBody
  by_cases hip : o.type = optIpAddress
  · rw [if_pos hip]
    by_cases hshort : o.val.length + 2 < 6
    · have hok : ipcpRequestOk o = false := by
        unfold ipcpRequestOk
        rw [hip, decide_eq_true (by omega)]
        rfl
      rw [if_pos hshort, hok]
      exact ⟨Access.within_pure _, m, o, rfl, rfl⟩
    · have hok : ipcpRequestOk o = true := by
        unfold ipcpRequestOk
        rw [decide_eq_false (by omega), Bool.and_false]
        rfl
      have hwidth : ipcpNakWidth o.type (o.val.length + 2) = 1 := if_pos ⟨hip, by omega⟩
      have hseen : (viewOf ipcpNakWidth o).val.getD 0 0 = o.val.getD 0 0 := by
        show (o.val.take (ipcpNakWidth o.type (o.val.length + 2))).getD 0 0 = _
        rw [hwidth, getD_take (by omega)]
      rw [if_neg hshort, hok, hseen]
      by_cases hzero : o.val.getD 0 0 = 0
      · rw [if_pos hzero, if_pos ⟨hip, hzero⟩]
        obtain ⟨hcopy, hkept⟩ := hR.copied hopt hval hmax
        exact ⟨Access.within_bind hcopy (Access.within_pure _), _, o, rfl, rfl, hkept⟩
      · rw [if_neg hzero, if_neg fun h => hzero h.2]
        exact ⟨Access.within_pure _, m, o, rfl, rfl, hR.pass hopt⟩
  · have hok : ipcpRequestOk o = true := by
      unfold ipcpRequestOk
      rw [beq_eq_false_iff_ne.mpr hip]
      rfl
    rw [if_neg hip, hok, if_neg fun h => hip h.1]
    exact ⟨Access.within_pure _, m, o, rfl, rfl, hR.pass hopt⟩

theorem judgesAt_ipv6cpNak (hmax : opts.length ≤ pppMsgBufLen) :
    JudgesAt opts ipv6cpNakBodyAcc ipv6cpOptOk ipv6cpNakBody := by
  refine JudgesAt.ofLook ipv6cpNakWidth_le ?_
  intro pre o rest m r hR hopt hval
  simp only [viewOk_viewOf]
  unfold ipv6cpNakBody
  cases hok : ipv6cpOptOk o with
  | false => exact ⟨Access.within_pure _, m, o, rfl, rfl⟩
  | true =>
      have htype : (viewOf ipv6cpNakWidth o).type = o.type := rfl
      rw [htype, ← hR.ccb]
      simp only [Bool.not_true, Bool.false_eq_true, if_false]
      by_cases hiid : o.type = optInterfaceId
      · have hlen : o.val.length = 8 := by simpa [ipv6cpOptOk, hiid] using hok
        rw [val_viewOf_iid hok hiid]
        by_cases haside : o.type = optInterfaceId ∧
            (be64At o.val 0 = 0 ∨ be64At o.val 0 = m.ccb.params.ipv6cpLocalIid)
        · rw [if_pos haside, if_pos haside]
          have hbuf : m.opts = pre ++ (o.bytes ++ rest) := by
            rw [← hopt]
            exact hR.cursor.buf_eq
          obtain ⟨hin, hroom⟩ := hR.fits hopt hmax
          have hiidLen : ((iidBytes m.ccb.params.ipv6cpLocalIid).take 7 ++
              [m.ccb.params.ipv6cpLocalIid.extractLsb' 0 8 + 1]).length = o.val.length := by
            rw [hlen]
            rfl
          refine ⟨Access.within_bind (within_copyOutWith hbuf hval hiidLen hin hroom)
            (Access.within_pure _), _, o, rfl, rfl, ?_⟩
          rw [val_copyOutWith hbuf hval hiidLen]
          have hkeep := hR.keep o { o with
            val := (iidBytes m.ccb.params.ipv6cpLocalIid).take 7 ++
              [m.ccb.params.ipv6cpLocalIid.extractLsb' 0 8 + 1] } hopt rfl hiidLen
          rw [← hbuf] at hkeep
          exact hkeep
        · rw [if_neg haside, if_neg haside]
          exact ⟨Access.within_pure _, m, o, rfl, rfl, hR.pass hopt⟩
      · rw [if_neg fun h => hiid h.1, if_neg fun h => hiid h.1]
        exact ⟨Access.within_pure _, m, o, rfl, rfl, hR.pass hopt⟩

theorem judgesAt_reject {known : BitVec 8 → Bool} {okView : OptView → Bool} {ok : Tlv → Bool}
    {eff : Tlv → NakRej → NakRej} (hmax : opts.length ≤ pppMsgBufLen)
    (hok : ∀ o, okView (viewOf noWidth o) = ok o)
    (heff : ∀ (o : Tlv) r, eff o r = if known o.type then r.pass o else r.keep o o) :
    JudgesAt opts (rejectBodyAcc noWidth okView known) ok eff := by
  intro pre o rest m r hR hopt hval
  have hview := val_lookAt hR.cursor hopt hval (noWidth_le o)
  have hlook := within_lookAt hR.cursor hopt hval (noWidth_le o)
  obtain ⟨hin, hkept⟩ := hR.copied hopt hval hmax
  have htype : (viewOf noWidth o).type = o.type := rfl
  unfold rejectBodyAcc
  refine ⟨Access.within_bind hlook ?_, ?_⟩
  · refine Access.within_ite (fun _ => Access.within_pure _) fun _ => ?_
    refine Access.within_ite (fun _ => Access.within_pure _) fun _ => ?_
    exact Access.within_bind hin (Access.within_pure _)
  · rw [Access.val_bind, hview, hok, htype]
    cases hok' : ok o with
    | false => exact ⟨m, o, rfl, rfl⟩
    | true =>
        cases hknown : known o.type with
        | true =>
            refine ⟨m, o, rfl, rfl, ?_⟩
            rw [heff, hknown]
            exact hR.pass hopt
        | false =>
            refine ⟨(m.copyOut pre.length).val, o, rfl, rfl, ?_⟩
            rw [heff, hknown]
            exact hkept

end Judges

/-! ### The checks -/

section Checks

variable {s : PppCcb} {cp : PppCp}

/-- A check goes through its loop as the model does, and what it copies back it has copied out. -/
theorem safely_checkNakRej {flag : BitVec 8} {fill : Bool} {ok : Tlv → Bool}
    {eff : Tlv → NakRej → NakRej} {body : Nat → NakRejAcc → Access PppBuf (Bool × NakRejAcc)}
    (hbody : (s.opts cp).length ≤ pppMsgBufLen → JudgesAt (s.opts cp) body ok eff)
    {rounds : Nat} (hrounds : (s.opts cp).length ≤ rounds) :
    Safely (s.opts cp).length
      (checkNakRejAcc cp flag fill body rounds ((s.opts cp).length + 4) s)
      (checkNakRej cp flag ok eff s) := by
  unfold checkNakRejAcc checkNakRej
  simp only
  by_cases hlong : pppMsgBufLen < (s.opts cp).length
  · rw [if_pos (by omega), if_pos hlong]
    exact Safely.done _
  rw [if_neg (by omega), if_neg hlong]
  have hmax := Nat.le_of_not_lt hlong
  have hbuf : pppMsgBufLen = 128 := rfl
  have hsize : bufSize (s.opts cp).length .options = (s.opts cp).length := rfl
  have htmp : bufSize (s.opts cp).length .tmpBuf = pppMsgBufLen := rfl
  have hstart : SameJudging (s.opts cp) [] ⟨s, s.opts cp, [], 4, false⟩ ⟨s, [], [], false⟩ :=
    ⟨rfl, AtCursor.start _, rfl, rfl, rfl, rfl, Nat.le_refl _⟩
  obtain ⟨hin, hval⟩ := optWalk_start (hbody hmax).follows (by omega) hstart rounds
  obtain ⟨m, hm, hend⟩ := hval hrounds
  obtain ⟨pre, hJ⟩ : ∃ pre, SameJudging (s.opts cp) pre m
      (Tlv.walk ok eff (Tlv.split (s.opts cp)).1 (Tlv.split (s.opts cp)).2
        ⟨s, [], [], false⟩).2 := by
    rcases hend with ⟨-, h⟩ | ⟨-, -, h⟩
    · exact h
    · exact h
  generalize Tlv.walk ok eff (Tlv.split (s.opts cp)).1 (Tlv.split (s.opts cp)).2
    ⟨s, [], [], false⟩ = w at hm hJ ⊢
  have hroom := hJ.room
  have hinside := hJ.cursor.inside
  -- nothing wraps around in `ppp_hdr->length`
  have hcount : m.length.toNat - 4 = m.tmpBuf.length := by
    rw [hJ.length, hJ.tmpBuf, BitVec.toNat_ofNat, Nat.mod_eq_of_lt (by omega)]
    omega
  have hopts : m.opts = w.2.walked ++ (s.opts cp).drop w.2.walked.length := by
    rw [hJ.walked]
    exact hJ.cursor.buf_eq
  refine ⟨?_, ?_⟩
  · refine Access.within_bind (Access.within_put (by omega)) ?_
    refine Access.within_bind (Access.within_bytes ?_) ?_
    · split <;> omega
    refine Access.within_bind (Access.within_put ?_) ?_
    · rw [Access.val_bytes, List.length_take, List.length_drop]
      split <;> omega
    refine Access.within_andThen hin fun r hr => ?_
    obtain rfl := Option.some.inj (hm.symm.trans hr)
    refine Access.within_ite (fun _ => Access.within_pure _) fun _ => ?_
    refine Access.within_ite (fun _ => ?_) fun _ => Access.within_pure _
    have htmpLen : m.tmpBuf.length = w.2.tmpBuf.length := by rw [hJ.tmpBuf]
    refine Access.within_bind (Access.within_bytes ?_) ?_
    · rw [hcount]
      omega
    refine Access.within_bind (Access.within_put ?_) (Access.within_pure _)
    rw [hcount]
    omega
  · rw [Access.val_bind, Access.val_bind, Access.val_bind, Access.val_andThen, hm, Option.bind_some]
    cases hdone : w.1 with
    | false =>
        simp only [Bool.not_false, if_true, Access.val_pure]
        rw [hopts, hJ.ccb, hJ.length]
    | true =>
        simp only [Bool.not_true, Bool.false_eq_true, if_false, Access.val_ite, Access.val_bind,
          Access.val_bytes, Access.val_pure, hcount]
        rw [hJ.needRes, hJ.ccb, hJ.length, hJ.tmpBuf, hopts]
        cases w.2.needRes with
        | false => rfl
        | true => simp only [if_true, List.drop_zero, List.take_length]

theorem safely_checkLcpNakRej (flag : BitVec 8) {rounds : Nat}
    (hrounds : (s.opts .lcp).length ≤ rounds) :
    Safely (s.opts .lcp).length
      (checkLcpNakRejAcc rounds ((s.opts .lcp).length + 4) flag s) (checkLcpNakRej flag s) := by
  unfold checkLcpNakRejAcc checkLcpNakRej
  by_cases hflag : flag = configNakCode
  · rw [if_pos hflag, if_pos hflag]
    exact safely_checkNakRej judgesAt_lcpNak hrounds
  · rw [if_neg hflag, if_neg hflag]
    refine safely_checkNakRej (fun hmax => judgesAt_reject hmax (fun _ => rfl) fun o r => ?_)
      hrounds
    unfold lcpRejectBody
    by_cases hknown : o.type = optMagicNum ∨ o.type = optMru ∨ o.type = optAuth
    · rw [if_neg (by tauto), if_pos (by simpa [or_assoc] using hknown)]
    · rw [if_pos (by tauto), if_neg (by simpa [or_assoc] using hknown)]

theorem safely_checkIpcpNakRej (flag : BitVec 8) {rounds : Nat}
    (hrounds : (s.opts .ipcp).length ≤ rounds) :
    Safely (s.opts .ipcp).length
      (checkIpcpNakRejAcc rounds ((s.opts .ipcp).length + 4) flag s) (checkIpcpNakRej flag s) := by
  unfold checkIpcpNakRejAcc checkIpcpNakRej
  by_cases hflag : flag = configNakCode
  · rw [if_pos hflag, if_pos hflag]
    exact safely_checkNakRej judgesAt_ipcpNak hrounds
  · rw [if_neg hflag, if_neg hflag]
    refine safely_checkNakRej (fun hmax => judgesAt_reject hmax (fun _ => rfl) fun o r => ?_)
      hrounds
    unfold ipcpRejectBody
    by_cases hknown : o.type = optIpAddress
    · rw [if_neg (not_not.mpr hknown), if_pos (beq_iff_eq.mpr hknown)]
    · rw [if_pos hknown, if_neg (by simpa using hknown)]

theorem safely_checkIpv6cpNakRej (flag : BitVec 8) {rounds : Nat}
    (hrounds : (s.opts .ipv6cp).length ≤ rounds) :
    Safely (s.opts .ipv6cp).length
      (checkIpv6cpNakRejAcc rounds ((s.opts .ipv6cp).length + 4) flag s)
      (checkIpv6cpNakRej flag s) := by
  unfold checkIpv6cpNakRejAcc checkIpv6cpNakRej
  by_cases hflag : flag = configNakCode
  · rw [if_pos hflag, if_pos hflag]
    exact safely_checkNakRej judgesAt_ipv6cpNak hrounds
  · rw [if_neg hflag, if_neg hflag]
    refine safely_checkNakRej
      (fun hmax => judgesAt_reject hmax (viewOk_viewOf noWidth) fun o r => ?_) hrounds
    unfold ipv6cpRejectBody
    by_cases hknown : o.type = optInterfaceId
    · rw [if_neg (not_not.mpr hknown), if_pos (beq_iff_eq.mpr hknown)]
    · rw [if_pos hknown, if_neg (by simpa using hknown)]

end Checks

/-! ### The decoders -/

section Decoders

variable {s : PppCcb} {cp : PppCp}

theorem opts_walkOpts {ok : Tlv → Bool} {eff : Tlv → PppCcb → PppCcb}
    (heff : ∀ o s, (eff o s).opts cp = s.opts cp) (s : PppCcb) :
    (s.walkOpts cp ok eff).2.opts cp = s.opts cp :=
  Tlv.walk_inv (fun t => t.opts cp = s.opts cp) (fun o _ t ht => (heff o t).trans ht) rfl

theorem safely_walk {width : BitVec 8 → Nat → Nat} {judge : OptView → PppCcb → Bool × PppCcb}
    {ok : Tlv → Bool} {eff : Tlv → PppCcb → PppCcb}
    (hw : ∀ o : Tlv, width o.type (o.val.length + 2) ≤ o.val.length)
    (hjudge : ∀ (o : Tlv) s, judge (viewOf width o) s = (ok o, if ok o then eff o s else s))
    (hL : (s.opts cp).length + 4 < 65536) {rounds : Nat} (hrounds : (s.opts cp).length ≤ rounds) :
    Safely (s.opts cp).length (s.walkAcc cp width judge rounds ((s.opts cp).length + 4))
      (s.walkOpts cp ok eff) := by
  obtain ⟨hin, hval⟩ := walkAcc_eq hw hjudge hL rounds
  exact ⟨hin, hval hrounds⟩

/-- A Configure-Request, given what its checks and its last loop do. -/
theorem safely_recvConfigRequest
    {check : BitVec 8 → PppCcb → Access PppBuf (Option (CheckNakRej × PppCcb))}
    {checked : BitVec 8 → PppCcb → CheckNakRej × PppCcb}
    {take : PppCcb → Access PppBuf (Option (Bool × PppCcb))} {taken : PppCcb → Bool × PppCcb}
    (hcheck : ∀ flag t, t.opts cp = s.opts cp →
      Safely (s.opts cp).length (check flag t) (checked flag t))
    (hsame : ∀ flag t, flag = configNakCode ∨ flag = configRejectCode →
      (checked flag t).1 = .noAction → (checked flag t).2.opts cp = t.opts cp)
    (htake : ∀ t, t.opts cp = s.opts cp → (checked configNakCode s).1 = .noAction →
      Safely (s.opts cp).length (take t) (taken t) ∧ (taken t).2.opts cp = t.opts cp) :
    Safely (s.opts cp).length
      (recvConfigRequestAcc cp check take ((s.opts cp).length + 4) s)
      (recvConfigRequest cp checked taken s) := by
  unfold recvConfigRequestAcc recvConfigRequest
  refine (hcheck configNakCode s rfl).andThen ?_
  have hsame₁ := hsame configNakCode s (Or.inl rfl)
  cases h₁ : checked configNakCode s with
  | mk r₁ s₁ =>
      rw [h₁] at hsame₁
      cases r₁ with
      | error => exact Safely.done _
      | sendResponse => exact Safely.done _
      | noAction =>
          have hopts₁ : s₁.opts cp = s.opts cp := hsame₁ rfl
          simp only
          refine (hcheck configRejectCode s₁ hopts₁).andThen ?_
          have hsame₂ := hsame configRejectCode s₁ (Or.inr rfl)
          cases h₂ : checked configRejectCode s₁ with
          | mk r₂ s₂ =>
              rw [h₂] at hsame₂
              cases r₂ with
              | error => exact Safely.done _
              | sendResponse => exact Safely.done _
              | noAction =>
                  have hopts₂ : s₂.opts cp = s.opts cp := (hsame₂ rfl).trans hopts₁
                  obtain ⟨hsafe, hopts₃⟩ := htake s₂ hopts₂ (by rw [h₁])
                  simp only
                  refine hsafe.andThen ?_
                  cases h₃ : taken s₂ with
                  | mk r₃ s₃ =>
                      rw [h₃] at hopts₃
                      have hopts : s₃.opts cp = s.opts cp := hopts₃.trans hopts₂
                      cases r₃ with
                      | false => exact Safely.done _
                      | true =>
                          simp only [hopts]
                          exact Safely.done _

theorem safely_recvNakRej {width : BitVec 8 → Nat → Nat}
    {judge : OptView → PppCcb → Bool × PppCcb} {ok : Tlv → Bool} {eff : Tlv → PppCcb → PppCcb}
    (hw : ∀ o : Tlv, width o.type (o.val.length + 2) ≤ o.val.length)
    (hjudge : ∀ (o : Tlv) s, judge (viewOf width o) s = (ok o, if ok o then eff o s else s))
    (hL : (s.opts cp).length + 4 < 65536) {rounds : Nat} (hrounds : (s.opts cp).length ≤ rounds) :
    Safely (s.opts cp).length (recvNakRejAcc cp width judge rounds ((s.opts cp).length + 4) s)
      (recvNakRej cp ok eff s) := by
  unfold recvNakRejAcc recvNakRej
  by_cases hans : (!s.answersRequest cp) = true
  · rw [if_pos hans, if_pos hans]
    exact Safely.done _
  · rw [if_neg hans, if_neg hans]
    refine (safely_walk hw hjudge hL hrounds).andThen ?_
    cases s.walkOpts cp ok eff with
    | mk b t =>
        cases b with
        | false => exact Safely.done _
        | true => exact Safely.done _

/-- `decode_lcp`, byte by byte. -/
theorem safely_decodeLcp (tim : PppTimerId) (hL : (s.opts .lcp).length + 4 < 65536) {rounds : Nat}
    (hrounds : (s.opts .lcp).length ≤ rounds) :
    Safely (s.opts .lcp).length (decodeLcpAcc tim rounds ((s.opts .lcp).length + 4) s)
      (decodeLcp tim s) := by
  obtain ⟨t, ht⟩ : ∃ t : PppCcb, t = { s with echoMissCount := 0 } := ⟨_, rfl⟩
  have hopts : t.opts .lcp = s.opts .lcp := by rw [ht]; rfl
  unfold decodeLcpAcc decodeLcp
  rw [← ht, ← hopts]
  rw [← hopts] at hL hrounds
  simp only
  cases pppCode (t.controlProtocol.get .lcp).pppHdr.code with
  | configRequest =>
      simp only
      split
      · exact Safely.done _
      refine safely_recvConfigRequest (fun flag u hu => ?_) (fun flag u hflag hno => ?_)
        fun u _ _ => ⟨Safely.done _, rfl⟩
      · rw [← hu] at hrounds ⊢
        exact safely_checkLcpNakRej flag hrounds
      · rcases hflag with rfl | rfl
        · exact (checkNakRej_noAction passes_lcpNak hno).1
        · exact (checkNakRej_noAction passes_lcpReject hno).1
  | configAck =>
      simp only
      split
      · exact Safely.done _
      split
      · exact Safely.done _
      have hkept : t.walkOpts .lcp (lcpAckOk t.params.magicNum) (fun _ s => s) =
          ((t.walkOpts .lcp (lcpAckOk t.params.magicNum) (fun _ s => s)).1, t) := by
        refine Prod.ext rfl ?_
        exact Tlv.walk_inv (fun u => u = t) (fun _ _ _ hu => hu) rfl
      refine (safely_walk lcpAckWidth_le (judge_lcpAck t.params.magicNum) hL hrounds).andThen ?_
      rw [hkept]
      cases (t.walkOpts .lcp (lcpAckOk t.params.magicNum) (fun _ s => s)).1 with
      | false => exact Safely.done _
      | true => exact Safely.done _
  | configNak => exact safely_recvNakRej lcpNakWidth_le judge_lcpNak hL hrounds
  | configReject => exact safely_recvNakRej noWidth_le judge_lcpReject hL hrounds
  | terminRequest => exact Safely.done _
  | terminAck => exact Safely.done _
  | codeReject => exact Safely.done _
  | protoReject =>
      have hsize : bufSize (t.opts .lcp).length .options = (t.opts .lcp).length := rfl
      refine ⟨Access.within_bind (Access.within_bytes ?_) (Access.within_pure _), ?_⟩
      · split <;> omega
      · simp only [Access.val_bind, Access.val_bytes, Access.val_pure, List.drop_zero]
        by_cases htwo : 2 ≤ (t.opts .lcp).length
        · rw [if_pos (show 6 ≤ (t.opts .lcp).length + 4 by omega), be16At_take (by omega)]
          congr 1
          by_cases hproto : be16At (t.opts .lcp) 0 = ipv6cpProtocol
          · rw [if_pos ⟨by omega, hproto⟩, if_pos ⟨htwo, hproto⟩]
          · rw [if_neg fun h => hproto h.2, if_neg fun h => hproto h.2]
        · have hno : ¬ 6 ≤ (t.opts .lcp).length + 4 := by omega
          simp only [hno, htwo, false_and, if_false]
  | echoRequest =>
      simp only
      split
      · exact Safely.done _
      · exact Safely.done _
  | echoReply =>
      simp only
      split
      · exact Safely.done _
      · exact Safely.done _
  | other => exact Safely.done _

theorem opts_ipcpRequestTake (o : Tlv) (s : PppCcb) :
    (ipcpRequestTake o s).opts .ipcp = s.opts .ipcp := by
  unfold ipcpRequestTake ipcpDnsTake
  split
  · rfl
  split
  · rfl
  split <;> rfl

/-- `decode_ipcp`, byte by byte. -/
theorem safely_decodeIpcp (tim : PppTimerId) (hL : (s.opts .ipcp).length + 4 < 65536)
    {rounds : Nat} (hrounds : (s.opts .ipcp).length ≤ rounds) :
    Safely (s.opts .ipcp).length (decodeIpcpAcc tim rounds ((s.opts .ipcp).length + 4) s)
      (decodeIpcp tim s) := by
  obtain ⟨t, ht⟩ : ∃ t : PppCcb, t = { s with echoMissCount := 0 } := ⟨_, rfl⟩
  have hopts : t.opts .ipcp = s.opts .ipcp := by rw [ht]; rfl
  unfold decodeIpcpAcc decodeIpcp
  rw [← ht, ← hopts]
  rw [← hopts] at hL hrounds
  simp only
  cases pppCode (t.controlProtocol.get .ipcp).pppHdr.code with
  | configRequest =>
      refine safely_recvConfigRequest (fun flag u hu => ?_) (fun flag u hflag hno => ?_)
        fun u hu _ => ?_
      · rw [← hu] at hrounds ⊢
        exact safely_checkIpcpNakRej flag hrounds
      · rcases hflag with rfl | rfl
        · exact (checkNakRej_noAction passes_ipcpNak hno).1
        · exact (checkNakRej_noAction passes_ipcpReject hno).1
      · rw [← hu] at hL hrounds ⊢
        exact ⟨safely_walk ipcpWidth_le (judge_ipcp ipcpRequestTake_congr) hL hrounds,
          opts_walkOpts opts_ipcpRequestTake u⟩
  | configAck =>
      simp only
      split
      · exact Safely.done _
      have hacked : ((t.setPending .ipcp false).stopTimer tim).opts .ipcp = t.opts .ipcp := by
        cases tim <;> rfl
      generalize (t.setPending .ipcp false).stopTimer tim = u at hacked ⊢
      rw [← hacked] at hL hrounds ⊢
      refine (safely_walk ipcpWidth_le (judge_ipcp ipcpAnswerTake_congr) hL hrounds).andThen ?_
      cases u.walkOpts .ipcp ipcpOptOk ipcpAnswerTake with
      | mk b v =>
          cases b with
          | false => exact Safely.done _
          | true => exact Safely.done _
  | configNak =>
      exact safely_recvNakRej ipcpWidth_le (judge_ipcp ipcpAnswerTake_congr) hL hrounds
  | configReject => exact safely_recvNakRej noWidth_le judge_ipcpReject hL hrounds
  | terminRequest => exact Safely.done _
  | terminAck => exact Safely.done _
  | codeReject => exact Safely.done _
  | protoReject => exact Safely.done _
  | echoRequest => exact Safely.done _
  | echoReply => exact Safely.done _
  | other => exact Safely.done _

theorem opts_ipv6cpRequestTake (o : Tlv) (s : PppCcb) :
    (ipv6cpRequestTake o s).opts .ipv6cp = s.opts .ipv6cp := by
  unfold ipv6cpRequestTake
  split <;> rfl

theorem length_le_bytes (os : List Tlv) : os.length ≤ (os.flatMap Tlv.bytes).length := by
  induction os with
  | nil => exact Nat.le_refl _
  | cons o os ih =>
      rw [List.flatMap_cons, List.length_append, List.length_cons, bytes_length]
      omega

/-- The loop that takes over a Configure-Request of IPV6CP, once the options are known to be in
order. -/
theorem safely_ipv6cpRequest (hok : s.optsOk .ipv6cp ipv6cpOptOk = true)
    (hL : (s.opts .ipv6cp).length + 4 < 65536) {rounds : Nat}
    (hrounds : (s.opts .ipv6cp).length ≤ rounds) :
    Safely (s.opts .ipv6cp).length
      ((optWalkUnchecked (s.opts .ipv6cp) (ipv6cpRequestBodyAcc (s.opts .ipv6cp))
        ((s.opts .ipv6cp).length + 4) rounds 4 0 s).andThen fun s => pure (some (true, s)))
      (s.walkOpts .ipv6cp (fun _ => true) ipv6cpRequestTake) := by
  obtain ⟨hall, hwf⟩ := Bool.and_eq_true_iff.mp hok
  have hbytes := Tlv.split_bytes hwf
  have hwalk : s.walkOpts .ipv6cp (fun _ => true) ipv6cpRequestTake =
      (true, (Tlv.split (s.opts .ipv6cp)).1.foldl (fun s o => ipv6cpRequestTake o s) s) := by
    unfold PppCcb.walkOpts
    rw [Tlv.walk_eq, hwf, List.takeWhile_eq_self_iff.mpr fun _ _ => rfl]
    simp
  rw [hwalk]
  refine Safely.andThen (safely_optWalkUnchecked (fun o => ipv6cpOptOk o = true) hL ?_
    (Tlv.split (s.opts .ipv6cp)).1 [] s rounds (AtCursor.start _) hbytes.symm ?_ ?_)
    (Safely.done _)
  · intro pre o rest t hcur hopt hval hfine
    have hlen : o.type = optInterfaceId → o.val.length = 8 := by
      intro hiid
      simpa [ipv6cpOptOk, hiid] using hfine
    have hw : ipv6cpRequestWidth o.type (o.val.length + 2) ≤ o.val.length := by
      unfold ipv6cpRequestWidth
      split
      · rename_i hiid
        rw [hlen hiid]
      · exact Nat.zero_le _
    refine ⟨Access.within_bind (within_lookAt hcur hopt hval hw) (Access.within_pure _), ?_⟩
    unfold ipv6cpRequestBodyAcc ipv6cpRequestTake
    rw [Access.val_bind, val_lookAt hcur hopt hval hw, Access.val_pure]
    unfold viewOf ipv6cpRequestWidth
    by_cases hiid : o.type = optInterfaceId
    · simp only [if_pos hiid]
      rw [be64At_take (by omega)]
    · simp only [if_neg hiid]
  · intro o ho
    exact ⟨Tlv.val_length_of_splitN _ _ ho, List.all_eq_true.mp hall o ho⟩
  · have hle := length_le_bytes (Tlv.split (s.opts .ipv6cp)).1
    rw [hbytes] at hle
    omega

/-- A Configure-Reject of IPV6CP. -/
theorem safely_ipv6cpReject (env : PppEnv) (tim : PppTimerId)
    (hL : (s.opts .ipv6cp).length + 4 < 65536) {rounds : Nat}
    (hrounds : (s.opts .ipv6cp).length ≤ rounds) :
    Safely (s.opts .ipv6cp).length
      (recvNakRejAcc .ipv6cp noWidth (ipv6cpRejectJudge env tim) rounds
        ((s.opts .ipv6cp).length + 4) s)
      (recvIpv6cpReject env tim s) := by
  unfold recvNakRejAcc recvIpv6cpReject
  by_cases hans : (!s.answersRequest .ipv6cp) = true
  · rw [if_pos hans, if_pos hans]
    exact Safely.done _
  rw [if_neg hans, if_neg hans]
  obtain ⟨hin, hval⟩ := walkAcc_spec (ipv6cpRejected env tim) noWidth_le
    (judge_ipv6cpReject env tim) hL rounds
  obtain ⟨s', hs', hend⟩ := hval hrounds
  refine Safely.andThen ⟨hin, hs'⟩ ?_
  have hkept : (s.walkOpts .ipv6cp (fun o => !(o.type == optInterfaceId)) fun _ s => s).2 = s :=
    Tlv.walk_inv (fun u => u = s) (fun _ _ _ hu => hu) rfl
  have hfst := walkOpts_fst s .ipv6cp (fun o => !(o.type == optInterfaceId)) fun _ s => s
  unfold PppCcb.optsOk at hfst
  simp only [Bool.not_not] at hend
  simp only
  rcases hend with ⟨hall, hsame⟩ | ⟨o, hfind, hstop⟩
  · -- no Interface-Identifier is rejected
    have hnone :
        (Tlv.split (s.opts .ipv6cp)).1.find? (fun o => o.type == optInterfaceId) = none := by
      rw [List.find?_eq_none]
      intro o ho
      simpa using List.all_eq_true.mp hall o ho
    rw [hnone, hfst, hall, hsame, hkept]
    cases (Tlv.split (s.opts .ipv6cp)).2 with
    | false => exact Safely.done _
    | true => exact Safely.done _
  · have hsome :
        (Tlv.split (s.opts .ipv6cp)).1.all (fun o => !(o.type == optInterfaceId)) = false := by
      rw [List.all_eq_false]
      exact ⟨o, List.mem_of_find?_eq_some hfind, by simpa using List.find?_some hfind⟩
    rw [hfind, hfst, hsome, hstop, hkept]
    unfold ipv6cpRejected
    simp only [Bool.false_and, Bool.false_eq_true, if_false]
    split
    · exact Safely.done _
    · exact Safely.done _

/-- `decode_ipv6cp`, byte by byte. -/
theorem safely_decodeIpv6cp (env : PppEnv) (tim : PppTimerId)
    (hL : (s.opts .ipv6cp).length + 4 < 65536) {rounds : Nat}
    (hrounds : (s.opts .ipv6cp).length ≤ rounds) :
    Safely (s.opts .ipv6cp).length
      (decodeIpv6cpAcc env tim rounds ((s.opts .ipv6cp).length + 4) s)
      (decodeIpv6cp env tim s) := by
  obtain ⟨t, ht⟩ : ∃ t : PppCcb, t = { s with echoMissCount := 0 } := ⟨_, rfl⟩
  have hopts : t.opts .ipv6cp = s.opts .ipv6cp := by rw [ht]; rfl
  unfold decodeIpv6cpAcc decodeIpv6cp
  rw [← ht, ← hopts]
  rw [← hopts] at hL hrounds
  simp only
  cases pppCode (t.controlProtocol.get .ipv6cp).pppHdr.code with
  | configRequest =>
      refine safely_recvConfigRequest (fun flag u hu => ?_) (fun flag u hflag hno => ?_)
        fun u hu hno => ?_
      · rw [← hu] at hrounds ⊢
        exact safely_checkIpv6cpNakRej flag hrounds
      · rcases hflag with rfl | rfl
        · exact (checkNakRej_noAction passes_ipv6cpNak hno).1
        · exact (checkNakRej_noAction passes_ipv6cpReject hno).1
      · have hok : u.optsOk .ipv6cp ipv6cpOptOk = true := by
          rw [optsOk_of_opts hu]
          exact (checkNakRej_noAction passes_ipv6cpNak hno).2.2.1
        rw [← hu] at hL hrounds ⊢
        exact ⟨safely_ipv6cpRequest hok hL hrounds, opts_walkOpts opts_ipv6cpRequestTake u⟩
  | configAck =>
      simp only
      split
      · exact Safely.done _
      have hkept : t.walkOpts .ipv6cp ipv6cpOptOk (fun _ s => s) =
          ((t.walkOpts .ipv6cp ipv6cpOptOk (fun _ s => s)).1, t) := by
        refine Prod.ext rfl ?_
        exact Tlv.walk_inv (fun u => u = t) (fun _ _ _ hu => hu) rfl
      refine (safely_walk noWidth_le judge_ipv6cpAck hL hrounds).andThen ?_
      rw [hkept]
      cases (t.walkOpts .ipv6cp ipv6cpOptOk (fun _ s => s)).1 with
      | false => exact Safely.done _
      | true => exact Safely.done _
  | configNak => exact safely_recvNakRej ipv6cpNakWidth_le judge_ipv6cpNak hL hrounds
  | configReject => exact safely_ipv6cpReject env tim hL hrounds
  | terminRequest => exact Safely.done _
  | terminAck => exact Safely.done _
  | codeReject => exact Safely.done _
  | protoReject => exact Safely.done _
  | echoRequest => exact Safely.done _
  | echoReply => exact Safely.done _
  | other => exact Safely.done _

/-- The checks and the decoder of a protocol, as the model has them. -/
def checked (cp : PppCp) (flag : BitVec 8) (s : PppCcb) : CheckNakRej × PppCcb :=
  match cp with
  | .lcp => checkLcpNakRej flag s
  | .ipcp => checkIpcpNakRej flag s
  | .ipv6cp => checkIpv6cpNakRej flag s

def decoded (env : PppEnv) (cp : PppCp) (tim : PppTimerId) (s : PppCcb) : Decoded :=
  match cp with
  | .lcp => decodeLcp tim s
  | .ipcp => decodeIpcp tim s
  | .ipv6cp => decodeIpv6cp env tim s

end Decoders

/--
**Walking the options of a stored frame is safe.**  Whatever bytes are stored for a protocol, and
whatever the code of the frame: with as many rounds as there are bytes the loops of its checks and
of its decoder are through, with the result that the model gives; every byte they look at or rewrite
lies inside the stored options; and what they copy out and back lies inside the temporary of
`PPP_MSG_BUF_LEN` bytes and inside the options.
-/
theorem ppp_walks_safe (env : PppEnv) (cp : PppCp) (tim : PppTimerId) (s : PppCcb)
    (pppHdrLen : BitVec 16) (hstored : (s.opts cp).length + 4 = pppHdrLen.toNat) (rounds : Nat)
    (hrounds : (s.opts cp).length ≤ rounds) :
    (∀ flag, Safely (s.opts cp).length (checkAcc cp rounds pppHdrLen.toNat flag s)
        (checked cp flag s)) ∧
      Safely (s.opts cp).length (decodeAcc env cp tim rounds pppHdrLen.toNat s)
        (decoded env cp tim s) := by
  have hL : (s.opts cp).length + 4 < 65536 := by
    rw [hstored]
    exact pppHdrLen.isLt
  rw [← hstored]
  cases cp with
  | lcp =>
      exact ⟨fun flag => safely_checkLcpNakRej flag hrounds, safely_decodeLcp tim hL hrounds⟩
  | ipcp =>
      exact ⟨fun flag => safely_checkIpcpNakRej flag hrounds, safely_decodeIpcp tim hL hrounds⟩
  | ipv6cp =>
      exact ⟨fun flag => safely_checkIpv6cpNakRej flag hrounds,
        safely_decodeIpv6cp env tim hL hrounds⟩

/-- A Configure-Request of IPV6CP with its Interface-Identifier goes through both checks and the
loop without one. -/
theorem ppp_walks_safe_request :
    Safely 10 (decodeAcc ⟨1, .success⟩ .ipv6cp .pppIpv6cp 10 14
        ((pppInit fun _ => 1).store .ipv6cp ipv6cpProtocol ⟨1, 7, 0x0e00⟩
          [1, 10, 2, 0, 0, 0xff, 0xfe, 0, 0, 1]))
      (decoded ⟨1, .success⟩ .ipv6cp .pppIpv6cp
        ((pppInit fun _ => 1).store .ipv6cp ipv6cpProtocol ⟨1, 7, 0x0e00⟩
          [1, 10, 2, 0, 0, 0xff, 0xfe, 0, 0, 1])) :=
  (ppp_walks_safe ⟨1, .success⟩ .ipv6cp .pppIpv6cp
    ((pppInit fun _ => 1).store .ipv6cp ipv6cpProtocol ⟨1, 7, 0x0e00⟩
      [1, 10, 2, 0, 0, 0xff, 0xfe, 0, 0, 1]) 14 rfl 10 (Nat.le_refl 10)).2

end FastRG
