/-
One client, one slot, one entry.

The server finds a client's slot by its MAC and takes the first entry that is the client's or
free, so a hole that a released client has left can be taken before the slot the client
already has.  And decoding may search the pool: the index then leaves the slot unless the
slot's own entry will do.  `searchMacs` lists the MACs that decoding looks up, and
`StaysAt` says that each of these searches finds the slot's entry open, or nothing; the index
stays at the slot exactly then.  In runs whose packets find no hole and stay, a client has one
slot, and the automaton runs on it.
-/
import FastRG.Proofs.DhcpUsable

namespace FastRG

variable {hz now : Nat} {ccb ccb' : DhcpCcb} {mac : BitVec 48} {own cur i j : Nat}

/-! ### Searches -/

/-- The MACs that a walk over the options has looked up in the pool, in order: the sender's
for a RELEASE, and for a REQUEST that is in order the one it gives. -/
def lookups (own : Nat) (ccb : DhcpCcb) : OptWalk → List (BitVec 48)
  | .done => []
  | .malformed => []
  | .opt off rest =>
      if ccb.pkt.opt off = dhcpOptIspId then []
      else if ccb.pkt.opt off = dhcpOptMsgType then
        if ccb.pkt.optVal off 0 = dhcpMsgRequest then
          (if (requestScan ccb own).1 = .ok then [(requestScan ccb own).2.2] else []) ++
            lookups own (requestScan ccb own).2.1 rest
        else if ccb.pkt.optVal off 0 = dhcpMsgRelease then ccb.pkt.srcMac :: lookups own ccb rest
        else lookups own ccb rest
      else lookups own ccb rest

/-- The MACs that decoding a packet looks up. -/
def searchMacs (ccb : DhcpCcb) (own : Nat) (pkt : DhcpPkt) : List (BitVec 48) :=
  if pkt.dgramLen.toNat < udpHdrLen + dhcpHdrLen then []
  else if swap32 pkt.hdr.magicCookie ≠ dhcpMagicCookie then []
  else lookups own { ccb with pkt := pkt } pkt.walk

/-- Each search, in turn, finds the slot's own entry open, or nothing in the window. -/
def StaysAt (own : Nat) (ccb : DhcpCcb) : List (BitVec 48) → Prop
  | [] => True
  | mac :: rest =>
      (ccb.OpenTo mac own ∧ StaysAt own (ccb.modUser own (·.take mac)) rest) ∨
        ((∀ k, k < ccb.perLanUserPoolLen → ¬ ccb.OpenTo mac k) ∧ StaysAt own ccb rest)

/-- What a search goes by: the addresses in use and those that must not be leased. -/
structure SamePool (s t : DhcpCcb) : Prop where
  len : t.perLanUserPoolLen = s.perLanUserPoolLen
  use : SameUse s t
  reserved : ∀ i, (t.user i).reserved = (s.user i).reserved

theorem SamePool.openTo_iff {s t : DhcpCcb} (h : SamePool s t) :
    t.OpenTo mac i ↔ s.OpenTo mac i := by
  simp only [DhcpCcb.OpenTo, (h.use i).1, (h.use i).2, h.reserved i]

theorem SamePool.take {s t : DhcpCcb} (h : SamePool s t) (k : Nat) (mac : BitVec 48) :
    SamePool (s.modUser k (·.take mac)) (t.modUser k (·.take mac)) := by
  refine ⟨h.len, h.use.modUser_take k mac, fun i => ?_⟩
  by_cases hi : i = k
  · subst hi
    simpa [PerLanUser.take] using h.reserved i
  · simpa [hi] using h.reserved i

theorem SamePool.staysAt_iff {s t : DhcpCcb} (h : SamePool s t) (macs : List (BitVec 48)) :
    StaysAt own t macs ↔ StaysAt own s macs := by
  induction macs generalizing s t with
  | nil => exact Iff.rfl
  | cons mac rest ih =>
      simp only [StaysAt, h.openTo_iff, ih (h.take own mac), ih h, h.len]

/-- What the options are read against, apart from the pool. -/
structure SameScan (s t : DhcpCcb) : Prop where
  pkt : t.pkt = s.pkt
  serverIp : t.dhcpServerIp = s.dhcpServerIp
  poolStart : t.poolStart = s.poolStart
  poolEnd : t.poolEnd = s.poolEnd
  mask : t.subnetMask = s.subnetMask

theorem SameScan.acceptable {s t : DhcpCcb} (h : SameScan s t) (ip : BitVec 32) :
    dhcpIpAcceptable t ip = dhcpIpAcceptable s ip := by
  simp only [dhcpIpAcceptable, dhcpInSubnet, h.serverIp, h.mask, h.poolStart, h.poolEnd]

theorem SameScan.renewWalk {s t : DhcpCcb} (h : SameScan s t) (w : OptWalk) :
    renewWalk t w = renewWalk s w := by
  induction w with
  | done => rfl
  | malformed => rfl
  | opt off rest ih => simp only [FastRG.renewWalk, ih, h.pkt, h.serverIp]

theorem SameScan.selectWalk {s t : DhcpCcb} (h : SameScan s t) (mac : BitVec 48) (ur : BitVec 32)
    (w : OptWalk) : selectWalk t mac ur w = selectWalk s mac ur w := by
  induction w generalizing mac ur with
  | done => rfl
  | malformed => rfl
  | opt off rest ih => simp only [FastRG.selectWalk, ih, h.pkt, h.serverIp, h.acceptable]

/-- The first half of a REQUEST does not look at the pool. -/
theorem SameScan.requestScan {s t : DhcpCcb} (h : SameScan s t) (own : Nat) :
    (requestScan t own).1 = (requestScan s own).1 ∧
      (requestScan t own).2.2 = (requestScan s own).2.2 ∧
      SameScan (requestScan s own).2.1 (requestScan t own).2.1 := by
  unfold FastRG.requestScan
  rw [h.pkt]
  by_cases hci : s.pkt.hdr.clientIp = rteIpv4Any
  · simp only [hci, ne_eq, not_true_eq_false, if_false, h.selectWalk]
    refine ⟨trivial, trivial, ?_⟩
    exact ⟨by simp only [setHdrIps, h.pkt], h.serverIp, h.poolStart, h.poolEnd, h.mask⟩
  by_cases hacc : dhcpIpAcceptable s s.pkt.hdr.clientIp = true
  · have hset : SameScan
        ((setHdrIps s 0 s.pkt.hdr.clientIp).modUser own ({ · with timeoutSecs := leaseTimeout }))
        ((setHdrIps t 0 s.pkt.hdr.clientIp).modUser own ({ · with timeoutSecs := leaseTimeout })) :=
      ⟨by simp only [DhcpCcb.modUser_pkt, setHdrIps, h.pkt], h.serverIp, h.poolStart, h.poolEnd,
        h.mask⟩
    simp only [hci, h.acceptable, hacc, ne_eq, not_false_eq_true, not_true_eq_false, if_true,
      if_false]
    exact ⟨by rw [hset.pkt, hset.renewWalk], by rw [hset.pkt], hset⟩
  · simp only [hci, h.acceptable, hacc, ne_eq, not_false_eq_true, if_true, Bool.false_eq_true]
    exact ⟨trivial, trivial, h⟩

theorem SameScan.lookups {s t : DhcpCcb} (h : SameScan s t) (own : Nat) (w : OptWalk) :
    lookups own t w = lookups own s w := by
  induction w generalizing s t with
  | done => rfl
  | malformed => rfl
  | opt off rest ih =>
      obtain ⟨hverdict, hmac, hscan⟩ := h.requestScan own
      simp only [FastRG.lookups, h.pkt, hverdict, hmac, ih hscan, ih h]

theorem SameScan.of_take (ccb : DhcpCcb) (k : Nat) (mac : BitVec 48) :
    SameScan ccb (ccb.modUser k (·.take mac)) := ⟨rfl, rfl, rfl, rfl, rfl⟩

theorem SameScan.trans {s t u : DhcpCcb} (h : SameScan s t) (h' : SameScan t u) : SameScan s u :=
  ⟨h'.pkt.trans h.pkt, h'.serverIp.trans h.serverIp, h'.poolStart.trans h.poolStart,
    h'.poolEnd.trans h.poolEnd, h'.mask.trans h.mask⟩

/-! ### Where the index goes -/

theorem scanPool_eq_none {l : List Nat} (h : scanPool ccb mac l = none) :
    ∀ k ∈ l, ¬ ccb.OpenTo mac k := by
  induction l with
  | nil => simp
  | cons k rest ih =>
      unfold scanPool at h
      cases hset : checkAndSetSinglePoolEntry ccb k mac with
      | some c => simp [hset] at h
      | none =>
          simp only [hset] at h
          intro k' hk'
          rcases List.mem_cons.mp hk' with rfl | hk'
          · exact (checkAndSet_eq_none ccb k' mac).mp hset
          · exact ih h k' hk'

/-- A search whose own entry will do takes that, and leaves the index alone. -/
theorem checkPool_open (hopen : ccb.OpenTo mac own) :
    checkPool ccb own cur mac = some (ccb.modUser own (·.take mac), cur) := by
  unfold checkPool
  obtain ⟨hr, hfree⟩ := hopen
  by_cases hu : (ccb.user own).used = true
  · rcases hfree with hfree | hm
    · rw [hu] at hfree
      cases hfree
    · rw [modUser_eq_self (take_of_open hu hm)]
      simp [hr, hu, hm]
  · simp [hr, hu]

/-- A search that finds nothing has tried every entry of the window. -/
theorem checkPool_none (hcur : cur < ccb.perLanUserPoolLen)
    (h : checkPool ccb own cur mac = none) :
    ∀ k, k < ccb.perLanUserPoolLen → ¬ ccb.OpenTo mac k := by
  have hscan : scanPool ccb mac (List.range' cur (ccb.perLanUserPoolLen - cur) ++
      List.range (max cur ccb.perLanUserPoolLen)) = none := by
    unfold checkPool at h
    simp only at h
    split at h
    · cases h
    · split at h
      · cases h
      · exact h
  intro k hk
  refine scanPool_eq_none hscan k ?_
  rw [List.mem_append, List.mem_range'_1, List.mem_range]
  omega

/-- What a search comes to when it is told where the index stands. -/
theorem search_cur_iff (hown : own < ccb.perLanUserPoolLen) (hcur : cur < ccb.perLanUserPoolLen)
    {macs : List (BitVec 48)} {st : DhcpCcb × Nat}
    (hst : st = (checkPool ccb own cur mac).getD (ccb, cur)) :
    (st.2 = own ∧ StaysAt own st.1 macs) ↔ (cur = own ∧ StaysAt own ccb (mac :: macs)) := by
  subst hst
  by_cases hopen : ccb.OpenTo mac own
  · rw [checkPool_open hopen]
    have hnot : ¬ ∀ k, k < ccb.perLanUserPoolLen → ¬ ccb.OpenTo mac k :=
      fun hall => hall own hown hopen
    simp only [StaysAt, hopen, hnot, Option.getD_some, true_and, false_and, or_false]
  · cases hpool : checkPool ccb own cur mac with
    | some r =>
        obtain ⟨c, k⟩ := r
        rcases checkPool_eq_some hpool with ⟨hopen', -⟩ | ⟨-, hscan⟩
        · exact absurd hopen' hopen
        · -- the scan has ended at another entry
          obtain ⟨hk, -, pre, post, hl, -⟩ := scanPool_eq_some hscan
          have hlt : k < ccb.perLanUserPoolLen := lt_of_mem_tried hcur (by rw [hl]; simp)
          have hne : k ≠ own := fun heq => hopen (heq ▸ hk)
          have hnot : ¬ ∀ k, k < ccb.perLanUserPoolLen → ¬ ccb.OpenTo mac k :=
            fun hall => hall k hlt hk
          simp only [StaysAt, hopen, hnot, hne, Option.getD_some, false_and, or_self, and_false]
    | none =>
        have hall := checkPool_none hcur hpool
        simp only [StaysAt, hopen, Option.getD_none, false_and, false_or]
        exact ⟨fun h => ⟨h.1, hall, h.2⟩, fun h => ⟨h.1, h.2.2⟩⟩

theorem SamePool.of_kept (hkept : ccb.Kept own ccb') (huse : SameUse ccb ccb') :
    SamePool ccb ccb' :=
  ⟨hkept.len, huse, fun i => (hkept.entry i).reserved⟩

theorem SamePool.of_requestScan (ccb : DhcpCcb) (own : Nat) :
    SamePool ccb (requestScan ccb own).2.1 :=
  .of_kept (requestScan_kept ccb own) (.of_requestScan ccb own)

theorem SamePool.stopTimer (ccb : DhcpCcb) (own : Nat) :
    SamePool ccb (ccb.modUser own ({ · with timer := none })) :=
  .of_kept (kept_stopTimer ccb own) (.stopTimer ccb own)

/-- Where a REQUEST leaves the pool and the index. -/
theorem decodeRequest_pool (ccb : DhcpCcb) (own cur : Nat) :
    (decodeRequest ccb own cur).2 =
      if (requestScan ccb own).1 = .ok then
        (checkPool (requestScan ccb own).2.1 own cur (requestScan ccb own).2.2).getD
          ((requestScan ccb own).2.1, cur)
      else ((requestScan ccb own).2.1, cur) := by
  unfold decodeRequest
  obtain ⟨verdict, scanned, mac⟩ := requestScan ccb own
  cases verdict with
  | error => rfl
  | bad => rfl
  | ok =>
      simp only [if_true]
      cases checkPool scanned own cur mac with
      | none => rfl
      | some r => rfl

/-- The MACs that one message type looks up. -/
def msgLookups (own : Nat) (ccb : DhcpCcb) (t : BitVec 8) : List (BitVec 48) :=
  if t = dhcpMsgRequest then
    if (requestScan ccb own).1 = .ok then [(requestScan ccb own).2.2] else []
  else if t = dhcpMsgRelease then [ccb.pkt.srcMac]
  else []

/-- A REQUEST moves the index exactly when its search does. -/
theorem decodeRequest_cur_iff {macs : List (BitVec 48)}
    (hown : own < ccb.perLanUserPoolLen) (hcur : cur < ccb.perLanUserPoolLen) :
    ((decodeRequest ccb own cur).2.2 = own ∧ StaysAt own (decodeRequest ccb own cur).2.1 macs) ↔
      (cur = own ∧ StaysAt own ccb (msgLookups own ccb dhcpMsgRequest ++ macs)) := by
  have hpool := decodeRequest_pool ccb own cur
  have hscan := SamePool.of_requestScan ccb own
  rw [← hscan.staysAt_iff]
  by_cases hok : (requestScan ccb own).1 = .ok
  · rw [if_pos hok] at hpool
    have hmacs : msgLookups own ccb dhcpMsgRequest = [(requestScan ccb own).2.2] := by
      simp [msgLookups, hok]
    rw [hmacs]
    exact search_cur_iff (by rw [hscan.len]; exact hown) (by rw [hscan.len]; exact hcur) hpool
  · rw [if_neg hok] at hpool
    have hmacs : msgLookups own ccb dhcpMsgRequest = [] := by
      simp [msgLookups, hok]
    rw [hmacs, hpool]
    exact Iff.rfl

/-- The other message types leave the pool and the index alone. -/
theorem decodeMsgType_else {st : DecodeSt} {t : BitVec 8} (hreq : t ≠ dhcpMsgRequest)
    (hrel : t ≠ dhcpMsgRelease) :
    (decodeMsgType own st t).ccb = st.ccb ∧ (decodeMsgType own st t).cur = st.cur := by
  unfold decodeMsgType
  by_cases hdisc : t = dhcpMsgDiscover
  · rw [if_pos hdisc]
    exact ⟨rfl, rfl⟩
  rw [if_neg hdisc, if_neg hreq, if_neg hrel]
  by_cases hdecl : t = dhcpMsgDecline
  · rw [if_pos hdecl]
    by_cases hacc : declineAccepted st.ccb st.cur = true
    · rw [if_pos hacc]
      exact ⟨rfl, rfl⟩
    · rw [if_neg hacc]
      exact ⟨rfl, rfl⟩
  rw [if_neg hdecl]
  by_cases hinf : t = dhcpMsgInform
  · rw [if_pos hinf]
    exact ⟨rfl, rfl⟩
  · rw [if_neg hinf]
    exact ⟨rfl, rfl⟩

/-- A RELEASE leaves behind what its search comes to. -/
theorem decodeMsgType_release (own : Nat) (st : DecodeSt) :
    ((decodeMsgType own st dhcpMsgRelease).ccb, (decodeMsgType own st dhcpMsgRelease).cur) =
      (checkPool st.ccb own st.cur st.ccb.pkt.srcMac).getD (st.ccb, st.cur) := by
  unfold decodeMsgType
  rw [if_neg (by decide), if_neg (by decide), if_pos rfl]
  cases checkPool st.ccb own st.cur st.ccb.pkt.srcMac with
  | none => rfl
  | some r => rfl

/-- One message type moves the index exactly when its search does. -/
theorem decodeMsgType_cur_iff {st : DecodeSt} {t : BitVec 8} {macs : List (BitVec 48)}
    (hown : own < st.ccb.perLanUserPoolLen) (hcur : st.cur < st.ccb.perLanUserPoolLen) :
    ((decodeMsgType own st t).cur = own ∧ StaysAt own (decodeMsgType own st t).ccb macs) ↔
      (st.cur = own ∧ StaysAt own st.ccb (msgLookups own st.ccb t ++ macs)) := by
  by_cases hreq : t = dhcpMsgRequest
  · subst hreq
    have hdec : decodeMsgType own st dhcpMsgRequest =
        ⟨(decodeRequest st.ccb own st.cur).2.1.modUser own ({ · with timer := none }),
          (decodeRequest st.ccb own st.cur).2.2, (decodeRequest st.ccb own st.cur).1⟩ := rfl
    rw [hdec, ← decodeRequest_cur_iff hown hcur]
    simp only [(SamePool.stopTimer _ own).staysAt_iff]
  by_cases hrel : t = dhcpMsgRelease
  · subst hrel
    exact search_cur_iff hown hcur (decodeMsgType_release own st)
  · obtain ⟨hccb, hcur'⟩ : (decodeMsgType own st t).ccb = st.ccb ∧
      (decodeMsgType own st t).cur = st.cur := decodeMsgType_else hreq hrel
    have hmacs : msgLookups own st.ccb t = [] := by simp [msgLookups, hreq, hrel]
    rw [hmacs, hccb, hcur']
    exact Iff.rfl

/-- What is read against afterwards is what a REQUEST leaves of it. -/
theorem decodeMsgType_scan (own : Nat) (st : DecodeSt) (t : BitVec 8) :
    SameScan (if t = dhcpMsgRequest then (requestScan st.ccb own).2.1 else st.ccb)
      (decodeMsgType own st t).ccb := by
  by_cases hreq : t = dhcpMsgRequest
  · subst hreq
    rw [if_pos rfl]
    have hdec : (decodeMsgType own st dhcpMsgRequest).ccb =
        (decodeRequest st.ccb own st.cur).2.1.modUser own ({ · with timer := none }) := rfl
    rw [hdec]
    have hstop : SameScan (decodeRequest st.ccb own st.cur).2.1
        ((decodeRequest st.ccb own st.cur).2.1.modUser own ({ · with timer := none })) :=
      ⟨rfl, rfl, rfl, rfl, rfl⟩
    refine SameScan.trans ?_ hstop
    rcases decodeRequest_cases st.ccb own st.cur with ⟨ev, -, heq⟩ | ⟨-, ccb, cur, hpool, heq⟩
    · rw [heq]
      exact ⟨rfl, rfl, rfl, rfl, rfl⟩
    · obtain ⟨k, -, rfl, -⟩ := checkPool_takes hpool
      rw [heq]
      exact .of_take _ k _
  rw [if_neg hreq]
  by_cases hrel : t = dhcpMsgRelease
  · subst hrel
    have hst := congrArg Prod.fst (decodeMsgType_release own st)
    simp only at hst
    rw [hst]
    cases hpool : checkPool st.ccb own st.cur st.ccb.pkt.srcMac with
    | none => exact ⟨rfl, rfl, rfl, rfl, rfl⟩
    | some r =>
        obtain ⟨c, j⟩ := r
        obtain ⟨k, -, rfl, -⟩ := checkPool_takes hpool
        exact .of_take _ k _
  · rw [(decodeMsgType_else hreq hrel).1]
    exact ⟨rfl, rfl, rfl, rfl, rfl⟩

theorem lookups_msgType {off : Nat} {rest : OptWalk} (hisp : ccb.pkt.opt off ≠ dhcpOptIspId)
    (hmsg : ccb.pkt.opt off = dhcpOptMsgType) :
    lookups own ccb (.opt off rest) = msgLookups own ccb (ccb.pkt.optVal off 0) ++
      lookups own (if ccb.pkt.optVal off 0 = dhcpMsgRequest then (requestScan ccb own).2.1 else ccb)
        rest := by
  rw [lookups, if_neg hisp, if_pos hmsg]
  by_cases hreq : ccb.pkt.optVal off 0 = dhcpMsgRequest
  · simp [msgLookups, hreq]
  · by_cases hrel : ccb.pkt.optVal off 0 = dhcpMsgRelease
    · simp [msgLookups, hrel, show dhcpMsgRelease ≠ dhcpMsgRequest by decide]
    · simp [msgLookups, hreq, hrel]

/-- A walk moves the index exactly when one of its searches does. -/
theorem decodeWalk_cur_iff {st : DecodeSt} {w : OptWalk} (hown : own < st.ccb.perLanUserPoolLen)
    (hcur : st.cur < st.ccb.perLanUserPoolLen) :
    (decodeWalk own st w).2.2 = own ↔
      (st.cur = own ∧ StaysAt own st.ccb (lookups own st.ccb w)) := by
  induction w generalizing st with
  | done => simp only [decodeWalk, lookups, StaysAt, and_true]
  | malformed => simp only [decodeWalk, lookups, StaysAt, and_true]
  | opt off rest ih =>
      by_cases hisp : st.ccb.pkt.opt off = dhcpOptIspId
      · simp only [decodeWalk, lookups, hisp, if_true, StaysAt, and_true]
      by_cases hmsg : st.ccb.pkt.opt off = dhcpOptMsgType
      · obtain ⟨hw, hcur'⟩ := (decodeMsgType_step own st (st.ccb.pkt.optVal off 0)).within hown hcur
        rw [lookups_msgType hisp hmsg, ← decodeMsgType_cur_iff hown hcur,
          ← (decodeMsgType_scan own st _).lookups own rest, ← ih (hw.lt hown) hcur']
        rw [decodeWalk, if_neg hisp, if_pos hmsg]
      · simp only [decodeWalk, lookups, hisp, hmsg, if_false]
        exact ih hown hcur

/-- **Where the index goes.**  Decoding a packet leaves the index at the client's slot exactly
when each of its searches finds the slot's own entry open, or nothing. -/
theorem dhcpDecode_cur_iff (ccb : DhcpCcb) (pkt : DhcpPkt) (hown : own < ccb.perLanUserPoolLen) :
    (dhcpDecode ccb own pkt).2.2 = own ↔ StaysAt own ccb (searchMacs ccb own pkt) := by
  have hscan : SameScan { ccb with pkt := pkt } (decodeStart ccb own pkt) := ⟨rfl, rfl, rfl, rfl, rfl⟩
  have hpool : SamePool ccb (decodeStart ccb own pkt) := by
    refine ⟨rfl, fun i => ?_, fun i => ?_⟩
    · by_cases hi : i = own
      · simp [decodeStart, hi, DhcpCcb.user, DhcpCcb.modUser]
      · simp [decodeStart, hi, DhcpCcb.user, DhcpCcb.modUser]
    · by_cases hi : i = own
      · simp [decodeStart, hi, DhcpCcb.user, DhcpCcb.modUser]
      · simp [decodeStart, hi, DhcpCcb.user, DhcpCcb.modUser]
  unfold dhcpDecode searchMacs
  by_cases hlen : pkt.dgramLen.toNat < udpHdrLen + dhcpHdrLen
  · simp only [hlen, if_true, StaysAt]
  by_cases hcookie : swap32 pkt.hdr.magicCookie ≠ dhcpMagicCookie
  · rw [if_neg hlen, if_pos hcookie, if_neg hlen, if_pos hcookie]
    simp only [StaysAt]
  · rw [if_neg hlen, if_neg hcookie, if_neg hlen, if_neg hcookie]
    rw [← hscan.lookups own, ← hpool.staysAt_iff]
    have h : (decodeWalk own ⟨decodeStart ccb own pkt, own, none⟩ pkt.walk).2.2 = own ↔
        (own = own ∧ StaysAt own (decodeStart ccb own pkt)
          (lookups own (decodeStart ccb own pkt) pkt.walk)) := decodeWalk_cur_iff hown hown
    simp only [true_and] at h
    exact h

/-! ### Slots -/

/-- One entry before and after: its client stays, or there is none afterwards. -/
def PerLanUser.Vacates (e e' : PerLanUser) : Prop :=
  (e'.lanUserUsed = e.lanUserUsed ∧ e'.lanMac = e.lanMac) ∨ e'.lanMac = zeroMac

theorem PerLanUser.Vacates.refl (e : PerLanUser) : e.Vacates e := Or.inl ⟨rfl, rfl⟩

theorem PerLanUser.Vacates.trans {e e' e'' : PerLanUser} (h : e.Vacates e')
    (h' : e'.Vacates e'') : e.Vacates e'' := by
  rcases h' with ⟨hu', hm'⟩ | hzero
  · rcases h with ⟨hu, hm⟩ | hzero
    · exact Or.inl ⟨hu'.trans hu, hm'.trans hm⟩
    · exact Or.inr (hm'.trans hzero)
  · exact Or.inr hzero

/-- The pool before and after a step that takes no slot. -/
def DhcpCcb.Vacates (ccb ccb' : DhcpCcb) : Prop := ∀ i, (ccb.user i).Vacates (ccb'.user i)

namespace DhcpCcb.Vacates

theorem refl (ccb : DhcpCcb) : ccb.Vacates ccb := fun _ => .refl _

theorem trans {ccb'' : DhcpCcb} (h : ccb.Vacates ccb') (h' : ccb'.Vacates ccb'') :
    ccb.Vacates ccb'' := fun i => (h i).trans (h' i)

theorem of_kept (h : ccb.Kept own ccb') : ccb.Vacates ccb' :=
  fun i => Or.inl ⟨(h.entry i).lanUserUsed, (h.entry i).lanMac⟩

theorem modUser {f : PerLanUser → PerLanUser} (hf : (ccb.user i).Vacates (f (ccb.user i))) :
    ccb.Vacates (ccb.modUser i f) := by
  intro j
  by_cases hj : j = i
  · subst hj
    simpa using hf
  · simpa [hj] using PerLanUser.Vacates.refl _

theorem release (ccb : DhcpCcb) (i : Nat) :
    ccb.Vacates (ccb.modUser i PerLanUser.releaseLanUser) := .modUser (Or.inr rfl)

theorem setState (ccb : DhcpCcb) (i : Nat) (st : DhcpState) :
    ccb.Vacates (FastRG.setState ccb i st) := .modUser (Or.inl ⟨rfl, rfl⟩)

end DhcpCcb.Vacates

theorem pickFrom_vacates {l : List Nat} {ip : BitVec 32}
    (h : pickFrom ccb mac l = some (ccb', ip)) : ccb.Vacates ccb' := by
  obtain ⟨k, -, -, -, hcase⟩ := pickFrom_cases h
  rcases hcase with ⟨rfl, -⟩ | ⟨-, rfl⟩
  · exact .refl _
  · exact .modUser (Or.inl ⟨rfl, rfl⟩)

/-- The automaton takes no slot. -/
theorem FsmStep.vacates {ev : DhcpEvent} {d : DhcpDone} (h : FsmStep hz now ccb i ev (some d)) :
    ccb.Vacates d.ccb := by
  cases h with
  | noRow _ => exact .refl ccb
  | offerFailed => exact .setState ccb i _
  | offered hpick =>
      refine ((DhcpCcb.Vacates.setState ccb i .offerSent).trans (pickFrom_vacates hpick)).trans ?_
      exact .modUser (Or.inl ⟨rfl, rfl⟩)
  | acked _ hack =>
      obtain ⟨buf, -, heq⟩ := ack_eq_modUser hz now hack
      simp only [heq]
      exact .modUser (Or.inl ⟨rfl, rfl⟩)
  | naked _ => exact .setState ccb i _
  | nakReleased _ => exact (DhcpCcb.Vacates.setState ccb i _).trans (.release _ i)
  | informed _ => exact .setState ccb i _
  | released => exact (DhcpCcb.Vacates.setState ccb i _).trans (.release _ i)
  | conflicted => exact (DhcpCcb.Vacates.setState ccb i _).trans (.modUser (Or.inr rfl))

/-- A timer takes no slot. -/
theorem dhcpTimerFire_vacates (hz now : Nat) (ccb : DhcpCcb) (i : Nat) :
    ccb.Vacates (dhcpTimerFire hz now ccb i) := by
  rcases dhcpTimerFire_cases hz now ccb i with heq | ⟨t, -, -, heq | heq⟩
  · rw [heq]
    exact .refl ccb
  · rw [heq]
    exact .modUser (Or.inl ⟨rfl, rfl⟩)
  · rw [heq]
    exact .release ccb i

/-- Once its slot has been taken, a packet takes no other. -/
theorem dhcpdAt_vacates {pkt : DhcpPkt} {slot : Nat} {d : DhcpdDone}
    (hslot : slot < ccb.perLanUserPoolLen) (h : dhcpdAt hz now ccb pkt slot = some d) :
    (claimed hz now ccb pkt slot).Vacates d.ccb := by
  obtain ⟨ev, hdec, -⟩ := dhcpDecode_decoding (claimed hz now ccb pkt slot) pkt hslot
  have hstart : (claimed hz now ccb pkt slot).Vacates
      (decodeStart (claimed hz now ccb pkt slot) slot pkt) := by
    intro i
    by_cases hi : i = slot
    · simp [decodeStart, DhcpCcb.user, DhcpCcb.modUser, hi, PerLanUser.Vacates]
    · simp [decodeStart, DhcpCcb.user, DhcpCcb.modUser, hi, PerLanUser.Vacates]
  have hdec' := hstart.trans (.of_kept hdec.kept)
  obtain ⟨dec, c, cur, hres, hcase⟩ := dhcpdAt_cases h
  rw [hres] at hdec'
  rcases hcase with ⟨-, ret, rfl⟩ | ⟨e, r, -, hfsm, hr⟩
  · exact hdec'.trans (.release _ cur)
  · have hstep := dhcpFsm_step hz now c cur e
    rw [hfsm] at hstep
    rcases hr with ⟨-, rfl⟩ | ⟨-, rfl⟩
    · exact (hdec'.trans hstep.vacates).trans (.release _ cur)
    · exact hdec'.trans hstep.vacates

/-- A new window takes no slot: every entry it touches is left without a client. -/
theorem dhcpPoolInit_vacates (ccb : DhcpCcb) (serverIp ipStart ipEnd mask : BitVec 32) :
    ccb.Vacates (dhcpPoolInitByUser ccb serverIp ipStart ipEnd mask).2 := by
  unfold dhcpPoolInitByUser
  by_cases hlong : (dhcpPoolLen ipStart ipEnd).toNat > dhcpMaxPoolSizePerUser
  · simp only [hlong, if_true]
    exact .refl ccb
  · simp only [hlong, if_false]
    intro i
    by_cases hmax : i < max ccb.perLanUserPoolLen (dhcpPoolLen ipStart ipEnd).toNat
    · simp only [DhcpCcb.user, hmax, if_true]
      exact Or.inr rfl
    · have hold : ¬ i < ccb.perLanUserPoolLen := by omega
      simp only [DhcpCcb.user, hmax, hold, if_false]
      exact .refl _

/-- A client has one slot, and an entry without a client has no MAC. -/
structure OneSlot (ccb : DhcpCcb) : Prop where
  one : ∀ i j, (ccb.user i).lanUserUsed = true → (ccb.user j).lanUserUsed = true →
    (ccb.user i).lanMac = (ccb.user j).lanMac → (ccb.user i).lanMac ≠ zeroMac → i = j
  free : ∀ i, (ccb.user i).lanUserUsed = false → (ccb.user i).lanMac = zeroMac

theorem OneSlot.vacates (h : OneSlot ccb) (hv : ccb.Vacates ccb') : OneSlot ccb' := by
  refine ⟨fun i j hi hj heq hne => ?_, fun i hi => ?_⟩
  · rcases hv i with ⟨hui, hmi⟩ | hzero
    · rcases hv j with ⟨huj, hmj⟩ | hzero
      · refine h.one i j (hui ▸ hi) (huj ▸ hj) ?_ (hmi ▸ hne)
        rw [← hmi, ← hmj]
        exact heq
      · exact absurd (heq.trans hzero) hne
    · exact absurd hzero hne
  · rcases hv i with ⟨hui, hmi⟩ | hzero
    · rw [hmi]
      exact h.free i (hui ▸ hi)
    · exact hzero

/-- The entry taken for a client's slot is the one the client has, if it has one. -/
def NoHole (ccb : DhcpCcb) (mac : BitVec 48) (slot : Nat) : Prop :=
  mac ≠ zeroMac → ∀ j, j < ccb.perLanUserPoolLen → (ccb.user j).lanUserUsed = true →
    (ccb.user j).lanMac = mac → j = slot

theorem OneSlot.claimed {pkt : DhcpPkt} {slot : Nat} (h : OneSlot ccb) (hb : Bounded ccb)
    (hhole : NoHole ccb pkt.srcMac slot) : OneSlot (claimed hz now ccb pkt slot) := by
  have hself : (FastRG.claimed hz now ccb pkt slot).user slot =
      ((ccb.user slot).claim pkt.srcMac).watch hz now := DhcpCcb.user_modUser_self ..
  have hother : ∀ k, k ≠ slot → (FastRG.claimed hz now ccb pkt slot).user k = ccb.user k :=
    fun k hk => DhcpCcb.user_modUser_of_ne _ _ hk
  by_cases hmac : pkt.srcMac = (ccb.user slot).lanMac
  · -- the entry has the client already
    refine h.vacates fun k => ?_
    by_cases hk : k = slot
    · rw [hk, hself]
      exact Or.inl ⟨by simp [PerLanUser.claim, PerLanUser.watch, hmac],
        by simp [PerLanUser.claim, PerLanUser.watch, hmac]⟩
    · rw [hother k hk]
      exact .refl _
  have hmine : ((FastRG.claimed hz now ccb pkt slot).user slot).lanMac = pkt.srcMac ∧
      ((FastRG.claimed hz now ccb pkt slot).user slot).lanUserUsed = true := by
    rw [hself]
    exact ⟨by simp [PerLanUser.claim, PerLanUser.watch, hmac],
      by simp [PerLanUser.claim, PerLanUser.watch, hmac]⟩
  -- no other entry has it
  have honly : ∀ k, k ≠ slot → (ccb.user k).lanUserUsed = true → pkt.srcMac ≠ zeroMac →
      (ccb.user k).lanMac ≠ pkt.srcMac := by
    intro k hk hu hne heq
    by_cases hlt : k < ccb.perLanUserPoolLen
    · exact hk (hhole hne k hlt hu heq)
    · have hnone := (hb k (by omega)).lanUserUsed
      rw [hu] at hnone
      cases hnone
  refine ⟨fun i j hi hj heq hne => ?_, fun i hi => ?_⟩
  · by_cases his : i = slot
    · by_cases hjs : j = slot
      · rw [his, hjs]
      · rw [his, hmine.1] at heq hne
        rw [hother j hjs] at hj heq
        exact absurd heq.symm (honly j hjs hj hne)
    · by_cases hjs : j = slot
      · rw [hjs, hmine.1] at heq
        rw [heq] at hne
        rw [hother i his] at hi heq
        exact absurd heq (honly i his hi hne)
      · rw [hother i his] at hi heq hne
        rw [hother j hjs] at hj heq
        exact h.one i j hi hj heq hne
  · by_cases his : i = slot
    · rw [his, hmine.2] at hi
      cases hi
    · rw [hother i his] at hi ⊢
      exact h.free i hi

/-! ### Coherence -/

/--
A packet the server takes in finds no free slot before the one its sender has, and each
search of the pool that it makes finds its slot's entry open, or nothing in the window.
-/
def Coherent (ccb : DhcpCcb) : DhcpLabel → Prop
  | .packet _ pkt => ccb.dhcpBool = true → pkt.truncated = false →
      ∀ slot, IsSlot ccb pkt.srcMac slot →
        NoHole ccb pkt.srcMac slot ∧ StaysAt slot ccb (searchMacs ccb slot pkt)
  | _ => True

/-- What the server does with a packet it takes in, and with any other. -/
theorem dhcpd_taken {pkt : DhcpPkt} {d : DhcpdDone} (h : dhcpd hz now ccb pkt = some d) :
    d = ⟨.drop, ccb, none⟩ ∨ ccb.dhcpBool = true ∧ pkt.truncated = false ∧
      ∃ slot, IsSlot ccb pkt.srcMac slot ∧ dhcpdAt hz now ccb pkt slot = some d := by
  by_cases hon : ccb.dhcpBool = true
  · by_cases htr : pkt.truncated = true
    · simp [dhcpd, hon, htr] at h
      exact Or.inl h.symm
    · rcases dhcpd_some h with hdrop | hslot
      · exact Or.inl hdrop
      · exact Or.inr ⟨hon, by simpa using htr, hslot⟩
  · simp [dhcpd, hon] at h
    exact Or.inl h.symm

theorem OneSlot.step (h : OneSlot ccb) (hb : Bounded ccb) (l : DhcpLabel) (hl : Coherent ccb l) :
    OneSlot (dhcpStep hz ccb l) := by
  cases l with
  | packet now pkt =>
      show OneSlot (((dhcpd hz now ccb pkt).map (·.ccb)).getD ccb)
      cases hd : dhcpd hz now ccb pkt with
      | none => exact h
      | some d =>
          rcases dhcpd_taken hd with rfl | ⟨hon, htr, slot, hslot, hat⟩
          · exact h
          · have hclaim : OneSlot (FastRG.claimed hz now ccb pkt slot) :=
              h.claimed hb (hl hon htr slot hslot).1
            exact hclaim.vacates (dhcpdAt_vacates hslot.1 hat)
  | timer now i => exact h.vacates (dhcpTimerFire_vacates hz now ccb i)
  | applyConfig serverIp ipStart ipEnd mask =>
      show OneSlot (dhcpApplyConfig ccb serverIp ipStart ipEnd mask)
      unfold dhcpApplyConfig
      cases dhcpValidatePoolRange serverIp ipStart ipEnd mask with
      | error => exact h
      | success => exact h.vacates (dhcpPoolInit_vacates ccb serverIp ipStart ipEnd mask)
  | dns conf => exact ⟨h.one, h.free⟩
  | onOff on => exact ⟨h.one, h.free⟩
  | disable =>
      refine h.vacates fun i => ?_
      by_cases hi : i < ccb.perLanUserPoolLen
      · simp only [DhcpCcb.user, dhcpStep, dhcpdDisableCcb, hi, if_true]
        exact Or.inr rfl
      · simp only [DhcpCcb.user, dhcpStep, dhcpdDisableCcb, hi, if_false]
        exact .refl _

theorem dhcpInitByUser_oneSlot : OneSlot dhcpInitByUser := by
  refine OneSlot.vacates ?_ (dhcpPoolInit_vacates dhcpBlank 0 0 0 0)
  refine ⟨fun i j hi => ?_, fun i _ => rfl⟩
  simp [dhcpBlank, DhcpCcb.user, perLanUserBlank] at hi

/-- Where `dhcpd` runs `dhcp_fsm` for a packet: the pool as decoding leaves it, and the index. -/
def dhcpdFsmAt (hz now : Nat) (ccb : DhcpCcb) (pkt : DhcpPkt) : Option (DhcpCcb × Nat) :=
  if ¬ ccb.dhcpBool then none
  else if pkt.truncated then none
  else
    match pickSlot ccb pkt.srcMac with
    | none => none
    | some slot =>
        match dhcpDecode (claimed hz now ccb pkt slot) slot pkt with
        | (.event _, c, cur) => some (c, cur)
        | _ => none

/-- The entry is the packet's: it is the slot whose timer has been armed for the packet's
sender, and it points at the packet's header. -/
structure OnItsEntry (hz now : Nat) (ccb : DhcpCcb) (pkt : DhcpPkt) (c : DhcpCcb) (cur : Nat) :
    Prop where
  slot : pickSlot ccb pkt.srcMac = some cur
  timer : ((claimed hz now ccb pkt cur).user cur).timer =
    some ⟨.releaseLanUser, now + leaseTimeout * 2 * hz⟩
  client : (c.user cur).lanMac = pkt.srcMac
  dhcpHdr : (c.user cur).dhcpHdr = some pkt.buf

/-- What decoding leaves at the slot is the client's, and points at the packet. -/
theorem dhcpDecode_slot (hz now : Nat) (pkt : DhcpPkt) {slot : Nat}
    (hslot : slot < ccb.perLanUserPoolLen) :
    (((dhcpDecode (claimed hz now ccb pkt slot) slot pkt).2.1.user slot).lanMac = pkt.srcMac) ∧
      ((dhcpDecode (claimed hz now ccb pkt slot) slot pkt).2.1.user slot).dhcpHdr =
        some pkt.buf := by
  obtain ⟨ev, hdec, -⟩ := dhcpDecode_decoding (claimed hz now ccb pkt slot) pkt hslot
  have hkept := hdec.kept.entry slot
  have hclaim : ((claimed hz now ccb pkt slot).user slot).lanMac = pkt.srcMac := by
    rw [show (claimed hz now ccb pkt slot).user slot = ((ccb.user slot).claim pkt.srcMac).watch hz now
      from DhcpCcb.user_modUser_self ..]
    by_cases hmac : pkt.srcMac = (ccb.user slot).lanMac
    · simp [PerLanUser.claim, PerLanUser.watch, hmac]
    · simp [PerLanUser.claim, PerLanUser.watch, hmac]
  refine ⟨?_, ?_⟩
  · rw [hkept.lanMac, ← hclaim]
    simp [decodeStart, DhcpCcb.user, DhcpCcb.modUser]
  · rw [hkept.dhcpHdr]
    simp [decodeStart, DhcpCcb.user, DhcpCcb.modUser]

theorem dhcpdFsmAt_some {pkt : DhcpPkt} {c : DhcpCcb}
    (h : dhcpdFsmAt hz now ccb pkt = some (c, cur)) :
    ccb.dhcpBool = true ∧ pkt.truncated = false ∧ ∃ slot, pickSlot ccb pkt.srcMac = some slot ∧
      (dhcpDecode (claimed hz now ccb pkt slot) slot pkt).2 = (c, cur) := by
  unfold dhcpdFsmAt at h
  by_cases hon : ccb.dhcpBool = true
  · by_cases htr : pkt.truncated = true
    · simp [hon, htr] at h
    · cases hslot : pickSlot ccb pkt.srcMac with
      | none => simp [hon, htr, hslot] at h
      | some slot =>
          refine ⟨hon, by simpa using htr, slot, rfl, ?_⟩
          obtain ⟨dec, c', cur', hres⟩ : ∃ dec c' cur',
              dhcpDecode (claimed hz now ccb pkt slot) slot pkt = (dec, c', cur') := ⟨_, _, _, rfl⟩
          cases dec with
          | error => simp [hon, htr, hslot, hres] at h
          | noEvent => simp [hon, htr, hslot, hres] at h
          | event e =>
              simp [hon, htr, hslot, hres] at h
              rw [hres, h.1, h.2]
  · simp [hon] at h

/-- Claiming the slot and pointing it at the packet change nothing a search goes by. -/
theorem samePool_claimed (hz now : Nat) (ccb : DhcpCcb) (pkt : DhcpPkt) (slot : Nat) :
    SamePool ccb (claimed hz now ccb pkt slot) := by
  have hkeep : ∀ k, ((claimed hz now ccb pkt slot).user k).used = (ccb.user k).used ∧
      ((claimed hz now ccb pkt slot).user k).poolMac = (ccb.user k).poolMac ∧
      ((claimed hz now ccb pkt slot).user k).reserved = (ccb.user k).reserved := by
    intro k
    by_cases hk : k = slot
    · subst hk
      obtain ⟨-, -, hres, -, hu, hm⟩ := claim_kept_fields (ccb.user k) pkt.srcMac hz now
      rw [show (claimed hz now ccb pkt k).user k = ((ccb.user k).claim pkt.srcMac).watch hz now
        from DhcpCcb.user_modUser_self ..]
      exact ⟨hu, hm, hres⟩
    · rw [show (claimed hz now ccb pkt slot).user k = ccb.user k from
        DhcpCcb.user_modUser_of_ne _ _ hk]
      exact ⟨rfl, rfl, rfl⟩
  exact ⟨rfl, fun k => ⟨(hkeep k).1, (hkeep k).2.1⟩, fun k => (hkeep k).2.2⟩

theorem searchMacs_claimed (hz now : Nat) (ccb : DhcpCcb) (pkt : DhcpPkt) (slot : Nat) :
    searchMacs (claimed hz now ccb pkt slot) slot pkt = searchMacs ccb slot pkt := by
  have hscan : SameScan { ccb with pkt := pkt } { claimed hz now ccb pkt slot with pkt := pkt } :=
    ⟨rfl, rfl, rfl, rfl, rfl⟩
  unfold searchMacs
  rw [hscan.lookups slot pkt.walk]

/--
**Clients are coherent.**  In every run in which no packet finds a free slot before the one its
sender has, and each search of the pool finds the slot's own entry open or nothing, every
client has at most one slot; and wherever such a packet makes `dhcpd` run the automaton, it
runs on the sender's slot, which was armed for it and points at the packet.
-/
theorem clients_coherent {ls : List DhcpLabel} {s : DhcpCcb} (h : DhcpRun hz Coherent ls s) :
    OneSlot s ∧ ∀ now pkt c cur, Coherent s (.packet now pkt) →
      dhcpdFsmAt hz now s pkt = some (c, cur) → OnItsEntry hz now s pkt c cur := by
  have hinv : Bounded s ∧ OneSlot s := by
    refine Run.inv (fun s => Bounded s ∧ OneSlot s) ?_ h
      ⟨dhcpInitByUser_bounded, dhcpInitByUser_oneSlot⟩
    intro s l hs hl
    exact ⟨hs.1.step l, hs.2.step hs.1 l hl⟩
  refine ⟨hinv.2, fun now pkt c cur hpkt hat => ?_⟩
  obtain ⟨hon, htr, slot, hslot, hdec⟩ := dhcpdFsmAt_some hat
  have hisSlot := isSlot_of_pickSlot hslot
  have hstays := (hpkt hon htr slot hisSlot).2
  have hlt : slot < (claimed hz now s pkt slot).perLanUserPoolLen := hisSlot.1
  have hcur : cur = slot := by
    have hiff := dhcpDecode_cur_iff (claimed hz now s pkt slot) pkt hlt
    rw [searchMacs_claimed, (samePool_claimed hz now s pkt slot).staysAt_iff, hdec] at hiff
    exact hiff.mpr hstays
  subst hcur
  obtain ⟨hclient, hhdr⟩ := dhcpDecode_slot hz now pkt hisSlot.1
  rw [hdec] at hclient hhdr
  refine ⟨hslot, ?_, hclient, hhdr⟩
  rw [show (claimed hz now s pkt cur).user cur = ((s.user cur).claim pkt.srcMac).watch hz now
    from DhcpCcb.user_modUser_self ..]
  rfl

/-- A client that asks for an address of an unused pool. -/
theorem clients_coherent_first :
    OneSlot (servedTo [clientPkt 1 0 (askFor 5)]) ∧
      ∃ c, dhcpdFsmAt 1 1 (servedTo []) (clientPkt 1 0 (askFor 5)) = some (c, 0) ∧
        OnItsEntry 1 1 (servedTo []) (clientPkt 1 0 (askFor 5)) c 0 := by
  have hfirst : ∀ now, Coherent (servedTo []) (.packet now (clientPkt 1 0 (askFor 5))) := by
    intro now _ _ slot hslot
    have hzero : IsSlot (servedTo []) 1 0 := isSlot_of_pickSlot (by decide)
    obtain rfl := hslot.unique hzero
    refine ⟨fun _ j hj hu => ?_, ?_⟩
    · have hnone : ∀ k, k < 9 → ((servedTo []).user k).lanUserUsed = false := by decide
      rw [hnone j hj] at hu
      cases hu
    · have hmacs : searchMacs (servedTo []) 0 (clientPkt 1 0 (askFor 5)) = [1] := by decide
      rw [hmacs]
      exact Or.inl ⟨⟨by decide, Or.inl (by decide)⟩, trivial⟩
  have hconf : DhcpRun 1 Coherent [servedConf] (dhcpStep 1 dhcpInitByUser servedConf) :=
    Run.single servedConf trivial
  have hup : DhcpRun 1 Coherent (served []) (servedTo []) :=
    hconf.append (Run.single (DhcpLabel.onOff true) trivial)
  have hrun : DhcpRun 1 Coherent (served [clientPkt 1 0 (askFor 5)])
      (servedTo [clientPkt 1 0 (askFor 5)]) :=
    hup.append (Run.single (DhcpLabel.packet 1 (clientPkt 1 0 (askFor 5))) (hfirst 1))
  obtain ⟨r, hr⟩ := Option.isSome_iff_exists.mp
    (show (dhcpdFsmAt 1 1 (servedTo []) (clientPkt 1 0 (askFor 5))).isSome = true by decide)
  obtain ⟨c, cur⟩ := r
  have hcur : cur = 0 := by
    have hzero : (dhcpdFsmAt 1 1 (servedTo []) (clientPkt 1 0 (askFor 5))).map (·.2) = some 0 := by
      decide
    rw [hr] at hzero
    exact Option.some.inj hzero
  subst hcur
  exact ⟨(clients_coherent hrun).1, c, hr, (clients_coherent hup).2 1 _ c 0 (hfirst 1) hr⟩

/-- A RELEASE. -/
def releaseMsg : List (BitVec 8) := [53, 1, 7, 255]

/-- A window from 192.168.0.255, which must not be leased, to 192.168.1.10. -/
def reservedFirst : List DhcpLabel :=
  [.applyConfig (swap32 0xc0a80101) (swap32 0xc0a800ff) (swap32 0xc0a8010a) (swap32 0xffff0000),
    .onOff true]

/-- The second of two clients sends again when the first has gone, and has two slots then.
And a client whose slot has an address that must not be leased has the automaton run on another
entry, which points at no packet. -/
theorem not_clients_coherent :
    (∃ s, DhcpRun 1 (fun _ _ => True) (served [clientPkt 1 0 (askFor 5), clientPkt 2 0 (askFor 6),
        clientPkt 1 0 releaseMsg, clientPkt 2 0 (askFor 6)]) s ∧
      (s.user 0).lanUserUsed = true ∧ (s.user 0).lanMac = 2 ∧
      (s.user 1).lanUserUsed = true ∧ (s.user 1).lanMac = 2) ∧
    ∃ s, DhcpRun 1 (fun _ _ => True) reservedFirst s ∧
      pickSlot s 1 = some 0 ∧
      (dhcpdFsmAt 1 1 s (clientPkt 1 0 (askFor 5))).map (·.2) = some 2 ∧
      (dhcpdFsmAt 1 1 s (clientPkt 1 0 (askFor 5))).map (fun r => (r.1.user r.2).dhcpHdr) =
        some none := by
  refine ⟨⟨_, run_servedTo _, ?_, ?_, ?_, ?_⟩, _, Run.of_labels _ _ fun _ _ _ => trivial, ?_, ?_, ?_⟩
  · decide
  · decide
  · decide
  · decide
  · decide
  · decide
  · decide

end FastRG
