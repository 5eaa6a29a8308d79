/-
What comes of decoding a packet.

A packet may carry any number of message types, and each REQUEST or RELEASE among them
searches the pool again, under a MAC that the packet gives.  `MsgStep` is what one of
them can do.  From it follow the three things the server relies on afterwards: which
address is in `yiaddr` when a REQUEST has been found good (`AckAddr`), that the entry
decoding has settled on is then in use, and, when a client gives no MAC but its own,
that this entry is where a single search ends (`Placed`).
-/
import FastRG.Proofs.DhcpPool

namespace FastRG

variable {ccb ccb' : DhcpCcb} {mac : BitVec 48} {own cur i j : Nat}

/-! ### What the options of a packet say -/

/-- The offsets a walk visits. -/
def OptWalk.offs : OptWalk → List Nat
  | .done => []
  | .malformed => []
  | .opt off rest => off :: rest.offs

theorem OptWalk.head_mem_offs (off : Nat) (rest : OptWalk) : off ∈ (opt off rest).offs :=
  List.mem_cons_self

theorem OptWalk.tail_mem_offs {off o : Nat} {rest : OptWalk} (h : o ∈ rest.offs) :
    o ∈ (opt off rest).offs := List.mem_cons_of_mem off h

namespace DhcpPkt

/-- The packet has an option of a type, at an offset. -/
def HasOpt (pkt : DhcpPkt) (t : BitVec 8) (off : Nat) : Prop :=
  off ∈ pkt.walk.offs ∧ pkt.opt off = t

/-- The packet has a message type option that says `t`. -/
def HasMsg (pkt : DhcpPkt) (t : BitVec 8) : Prop :=
  ∃ off, pkt.HasOpt dhcpOptMsgType off ∧ pkt.optVal off 0 = t

/-- The packet gives a MAC: the sender's, or one in a client identifier. -/
def GivesMac (pkt : DhcpPkt) (mac : BitVec 48) : Prop :=
  mac = pkt.srcMac ∨ ∃ off, pkt.HasOpt dhcpOptClientId off ∧ mac = pkt.optMac off

/-- The packet asks for an address: in `ciaddr`, or in an option. -/
def Names (pkt : DhcpPkt) (ip : BitVec 32) : Prop :=
  (pkt.hdr.clientIp ≠ rteIpv4Any ∧ ip = pkt.hdr.clientIp) ∨
    ∃ off, pkt.HasOpt dhcpOptRequestIp off ∧ ip = pkt.optU32 off

/-- The packet asks for no address. -/
def NamesNone (pkt : DhcpPkt) : Prop :=
  pkt.hdr.clientIp = rteIpv4Any ∧ ∀ off, ¬ pkt.HasOpt dhcpOptRequestIp off

end DhcpPkt

/-- An address a packet can be acknowledged with: an acceptable one that it asks for, or
the one that happens to be in its `yiaddr` when it asks for none. -/
def AckAddr (ccb : DhcpCcb) (pkt : DhcpPkt) (ip : BitVec 32) : Prop :=
  (pkt.Names ip ∧ dhcpIpAcceptable ccb ip = true) ∨ (pkt.NamesNone ∧ ip = pkt.hdr.urClientIp)

/-- One option of a REQUEST without a `ciaddr`, when they are all in order: it gives a MAC,
or an acceptable address, or says nothing. -/
theorem selectWalk_opt {ur : BitVec 32} {off : Nat} {rest : OptWalk}
    (h : (selectWalk ccb mac ur (.opt off rest)).verdict = .ok) :
    ∃ mac' ur', selectWalk ccb mac ur (.opt off rest) = selectWalk ccb mac' ur' rest ∧
      ((ccb.pkt.opt off = dhcpOptClientId ∧ mac' = ccb.pkt.optMac off ∧ ur' = ur) ∨
        (ccb.pkt.opt off = dhcpOptRequestIp ∧ mac' = mac ∧ ur' = ccb.pkt.optU32 off ∧
          dhcpIpAcceptable ccb ur' = true) ∨
        (ccb.pkt.opt off ≠ dhcpOptRequestIp ∧ mac' = mac ∧ ur' = ur)) := by
  by_cases hcid : ccb.pkt.opt off = dhcpOptClientId
  · by_cases hlen : ccb.pkt.optLen off < 7
    · simp [selectWalk, hcid, hlen] at h
    by_cases hhw : ccb.pkt.optVal off 0 = dhcpHwTypeEthernet
    · exact ⟨_, _, by simp [selectWalk, hcid, hlen, hhw], Or.inl ⟨hcid, rfl, rfl⟩⟩
    · simp [selectWalk, hcid, hlen, hhw] at h
  by_cases hreq : ccb.pkt.opt off = dhcpOptRequestIp
  · rw [selectWalk, if_neg hcid, if_pos hreq] at h ⊢
    by_cases hlen : ccb.pkt.optLen off = 4
    · rw [if_neg (not_not.mpr hlen)] at h ⊢
      by_cases hacc : dhcpIpAcceptable ccb (ccb.pkt.optU32 off) = true
      · rw [if_neg (not_not.mpr hacc)]
        exact ⟨_, _, rfl, Or.inr (Or.inl ⟨hreq, rfl, rfl, hacc⟩)⟩
      · rw [if_pos hacc] at h
        cases h
    · rw [if_pos hlen] at h
      cases h
  · rw [selectWalk, if_neg hcid, if_neg hreq] at h ⊢
    refine ⟨mac, ur, ?_, Or.inr (Or.inr ⟨hreq, rfl, rfl⟩)⟩
    by_cases hsid : ccb.pkt.opt off = dhcpOptServerId
    · rw [if_pos hsid] at h ⊢
      by_cases hlen : ccb.pkt.optLen off = 4
      · rw [if_neg (not_not.mpr hlen)] at h ⊢
        by_cases hsrv : ccb.pkt.optU32 off = ccb.dhcpServerIp
        · rw [if_neg (not_not.mpr hsrv)]
        · rw [if_pos hsrv] at h
          cases h
      · rw [if_pos hlen] at h
        cases h
    · rw [if_neg hsid]

/-- The MAC a REQUEST without a `ciaddr` is looked up under. -/
theorem selectWalk_mac {ur : BitVec 32} {w : OptWalk}
    (h : (selectWalk ccb mac ur w).verdict = .ok) :
    (selectWalk ccb mac ur w).mac = mac ∨
      ∃ off ∈ w.offs, ccb.pkt.opt off = dhcpOptClientId ∧
        (selectWalk ccb mac ur w).mac = ccb.pkt.optMac off := by
  induction w generalizing mac ur with
  | done => exact Or.inl rfl
  | malformed => simp [selectWalk] at h
  | opt off rest ih =>
      obtain ⟨mac', ur', heq, hcase⟩ := selectWalk_opt h
      rw [heq] at h ⊢
      rcases ih h with hmac | ⟨o, ho, hty, hmac⟩
      · rcases hcase with ⟨hty, hmac', -⟩ | ⟨-, hmac', -⟩ | ⟨-, hmac', -⟩
        · exact Or.inr ⟨off, OptWalk.head_mem_offs off rest, hty, by rw [hmac, hmac']⟩
        · exact Or.inl (by rw [hmac, hmac'])
        · exact Or.inl (by rw [hmac, hmac'])
      · exact Or.inr ⟨o, OptWalk.tail_mem_offs ho, hty, hmac⟩

/-- The `yiaddr` that a REQUEST without a `ciaddr` leaves in the buffer. -/
theorem selectWalk_urClientIp {ur : BitVec 32} {w : OptWalk}
    (h : (selectWalk ccb mac ur w).verdict = .ok) :
    ((selectWalk ccb mac ur w).urClientIp = ur ∧
        ∀ off ∈ w.offs, ccb.pkt.opt off ≠ dhcpOptRequestIp) ∨
      ∃ off ∈ w.offs, ccb.pkt.opt off = dhcpOptRequestIp ∧
        (selectWalk ccb mac ur w).urClientIp = ccb.pkt.optU32 off ∧
        dhcpIpAcceptable ccb (ccb.pkt.optU32 off) = true := by
  induction w generalizing mac ur with
  | done => exact Or.inl ⟨rfl, by simp [OptWalk.offs]⟩
  | malformed => simp [selectWalk] at h
  | opt off rest ih =>
      obtain ⟨mac', ur', heq, hcase⟩ := selectWalk_opt h
      rw [heq] at h ⊢
      rcases ih h with ⟨hur, hno⟩ | ⟨o, ho, hrest⟩
      · have hskip : ccb.pkt.opt off ≠ dhcpOptRequestIp →
            ∀ o ∈ (OptWalk.opt off rest).offs, ccb.pkt.opt o ≠ dhcpOptRequestIp := by
          intro hoff o ho
          rcases List.mem_cons.mp ho with rfl | ho
          · exact hoff
          · exact hno o ho
        rcases hcase with ⟨hty, -, hur'⟩ | ⟨hty, -, hur', hacc⟩ | ⟨hty, -, hur'⟩
        · exact Or.inl ⟨by rw [hur, hur'], hskip (by rw [hty]; decide)⟩
        · exact Or.inr ⟨off, OptWalk.head_mem_offs off rest, hty, by rw [hur, hur'], hur' ▸ hacc⟩
        · exact Or.inl ⟨by rw [hur, hur'], hskip hty⟩
      · exact Or.inr ⟨o, OptWalk.tail_mem_offs ho, hrest⟩

/-! ### REQUEST -/

theorem requestScan_kept (ccb : DhcpCcb) (own : Nat) : ccb.Kept own (requestScan ccb own).2.1 := by
  unfold requestScan
  by_cases hci : ccb.pkt.hdr.clientIp = rteIpv4Any
  · simp only [hci, ne_eq, not_true_eq_false, if_false]
    exact .setHdrIps ..
  by_cases hacc : dhcpIpAcceptable ccb ccb.pkt.hdr.clientIp = true
  · simp only [hci, hacc, ne_eq, not_false_eq_true, not_true_eq_false, if_true, if_false]
    refine .trans (.setHdrIps ..) (.modUser ?_ fun _ => rfl)
    exact ⟨rfl, rfl, rfl, rfl, rfl, rfl, rfl, fun h => ⟨h, rfl⟩⟩
  · simp only [hci, hacc, ne_eq, not_false_eq_true, if_true]
    exact .refl own ccb

/-- Before the pool is searched, nothing is taken. -/
theorem requestScan_user (ccb : DhcpCcb) (own i : Nat) :
    (((requestScan ccb own).2.1.user i).used = (ccb.user i).used) ∧
      ((requestScan ccb own).2.1.user i).poolMac = (ccb.user i).poolMac := by
  unfold requestScan
  by_cases hci : ccb.pkt.hdr.clientIp = rteIpv4Any
  · simp only [hci, ne_eq, not_true_eq_false, if_false]
    exact ⟨rfl, rfl⟩
  by_cases hacc : dhcpIpAcceptable ccb ccb.pkt.hdr.clientIp = true
  · simp only [hci, hacc, ne_eq, not_false_eq_true, not_true_eq_false, if_true, if_false,
      DhcpCcb.user_modUser]
    by_cases hi : i = own
    · simp only [hi, if_true]
      exact ⟨rfl, rfl⟩
    · simp only [hi, if_false]
      exact ⟨rfl, rfl⟩
  · simp [hci, hacc]

/-- The MAC a REQUEST is looked up under is one that the packet gives. -/
theorem requestScan_mac (h : (requestScan ccb own).1 = .ok) :
    ccb.pkt.GivesMac (requestScan ccb own).2.2 := by
  unfold requestScan at h ⊢
  by_cases hci : ccb.pkt.hdr.clientIp = rteIpv4Any
  · simp only [hci, ne_eq, not_true_eq_false, if_false] at h ⊢
    rcases selectWalk_mac h with hmac | ⟨off, hoff, hty, hmac⟩
    · exact Or.inl hmac
    · exact Or.inr ⟨off, ⟨hoff, hty⟩, hmac⟩
  by_cases hacc : dhcpIpAcceptable ccb ccb.pkt.hdr.clientIp = true
  · simp only [hci, hacc, ne_eq, not_false_eq_true, not_true_eq_false, if_true, if_false]
    exact Or.inl rfl
  · simp [hci, hacc] at h

/-- How the two addresses of the header can have been rewritten, when the packet was `pkt`:
a `ciaddr` is used once and then gone. -/
structure HdrFrom (ccb : DhcpCcb) (pkt : DhcpPkt) (hdr : DhcpHdr) : Prop where
  clientIp : hdr.clientIp = pkt.hdr.clientIp ∨ hdr.clientIp = rteIpv4Any
  urClientIp : (∀ off, ¬ pkt.HasOpt dhcpOptRequestIp off) →
    (hdr.clientIp = pkt.hdr.clientIp ∧ hdr.urClientIp = pkt.hdr.urClientIp) ∨
      (pkt.hdr.clientIp ≠ rteIpv4Any ∧ dhcpIpAcceptable ccb pkt.hdr.clientIp = true ∧
        hdr.clientIp = rteIpv4Any ∧ hdr.urClientIp = pkt.hdr.clientIp)

/-- A walk without the option that asks for an address does not touch `yiaddr`. -/
theorem selectWalk_urClientIp_of_none {ur : BitVec 32} {w : OptWalk}
    (hno : ∀ off ∈ w.offs, ccb.pkt.opt off ≠ dhcpOptRequestIp) :
    (selectWalk ccb mac ur w).urClientIp = ur := by
  induction w generalizing mac with
  | done => rfl
  | malformed => rfl
  | opt off rest ih =>
      have hrest : ∀ mac', (selectWalk ccb mac' ur rest).urClientIp = ur :=
        fun mac' => ih (fun o ho => hno o (OptWalk.tail_mem_offs ho))
      have hoff : ccb.pkt.opt off ≠ dhcpOptRequestIp := hno off (OptWalk.head_mem_offs off rest)
      rw [selectWalk, if_neg hoff]
      split
      · split
        · rfl
        · split
          · rfl
          · exact hrest _
      · split
        · split
          · rfl
          · split
            · rfl
            · exact hrest _
        · exact hrest _

/-- A REQUEST that is in order leaves an address in `yiaddr` that the packet can be
acknowledged with. -/
theorem requestScan_ackAddr {s : DhcpCcb} (hkept : s.Kept own ccb)
    (hfrom : HdrFrom s s.pkt ccb.pkt.hdr) (h : (requestScan ccb own).1 = .ok) :
    AckAddr s s.pkt (requestScan ccb own).2.1.pkt.hdr.urClientIp := by
  unfold requestScan at h ⊢
  by_cases hci : ccb.pkt.hdr.clientIp = rteIpv4Any
  · simp only [hci, ne_eq, not_true_eq_false, if_false] at h ⊢
    rcases selectWalk_urClientIp h with ⟨hur, hno⟩ | ⟨off, hoff, hty, hur, hacc⟩
    · have hnone : ∀ off, ¬ s.pkt.HasOpt dhcpOptRequestIp off := by
        intro off hopt
        refine hno off ?_ ?_
        · rw [hkept.walk]; exact hopt.1
        · rw [hkept.opt]; exact hopt.2
      simp only [setHdrIps, hur]
      rcases hfrom.urClientIp hnone with ⟨hci', hur'⟩ | ⟨hci', hacc, -, hur'⟩
      · exact Or.inr ⟨⟨by rw [← hci', hci], hnone⟩, hur'⟩
      · rw [hur']
        exact Or.inl ⟨Or.inl ⟨hci', rfl⟩, hacc⟩
    · simp only [setHdrIps, hur]
      rw [hkept.optU32] at hacc ⊢
      rw [hkept.acceptable] at hacc
      rw [hkept.walk] at hoff
      rw [hkept.opt] at hty
      exact Or.inl ⟨Or.inr ⟨off, ⟨hoff, hty⟩, rfl⟩, hacc⟩
  by_cases hacc : dhcpIpAcceptable ccb ccb.pkt.hdr.clientIp = true
  · simp only [hci, hacc, ne_eq, not_false_eq_true, not_true_eq_false, if_true, if_false,
      DhcpCcb.modUser_pkt, setHdrIps]
    rw [hkept.acceptable] at hacc
    rcases hfrom.clientIp with heq | hzero
    · rw [heq] at hacc hci ⊢
      exact Or.inl ⟨Or.inl ⟨hci, rfl⟩, hacc⟩
    · exact absurd hzero hci
  · simp [hci, hacc] at h

/-- Whatever comes of a REQUEST, the header stays one that came from the packet. -/
theorem requestScan_hdrFrom {s : DhcpCcb} (hkept : s.Kept own ccb)
    (hfrom : HdrFrom s s.pkt ccb.pkt.hdr) :
    HdrFrom s s.pkt (requestScan ccb own).2.1.pkt.hdr := by
  unfold requestScan
  by_cases hci : ccb.pkt.hdr.clientIp = rteIpv4Any
  · simp only [hci, ne_eq, not_true_eq_false, if_false, setHdrIps]
    refine ⟨Or.inr rfl, fun hnone => ?_⟩
    have hur : (selectWalk ccb ccb.pkt.srcMac ccb.pkt.hdr.urClientIp ccb.pkt.walk).urClientIp =
        ccb.pkt.hdr.urClientIp := by
      refine selectWalk_urClientIp_of_none fun off hoff hty => hnone off ⟨?_, ?_⟩
      · rw [← hkept.walk]; exact hoff
      · rw [← hkept.opt]; exact hty
    rw [hur]
    have hold := hfrom.urClientIp hnone
    rw [hci] at hold
    exact hold
  by_cases hacc : dhcpIpAcceptable ccb ccb.pkt.hdr.clientIp = true
  · simp only [hci, hacc, ne_eq, not_false_eq_true, not_true_eq_false, if_true, if_false,
      DhcpCcb.modUser_pkt, setHdrIps]
    refine ⟨Or.inr rfl, fun _ => Or.inr ?_⟩
    rw [hkept.acceptable] at hacc
    rcases hfrom.clientIp with heq | hzero
    · rw [heq] at hacc hci ⊢
      exact ⟨hci, hacc, rfl, rfl⟩
    · exact absurd hzero hci
  · simp only [hci, hacc, ne_eq, not_false_eq_true, if_true]
    exact hfrom

/-! ### One message type -/

/-- What one message type option does, of a client whose slot is `own`. -/
inductive MsgStep (own : Nat) (st : DecodeSt) (t : BitVec 8) : DecodeSt → Prop
  | event (ev : Option DhcpEvent) (hev : ev = st.event ∨ ev ≠ some .goodRequest) :
      MsgStep own st t { st with event := ev }
  | release {ccb : DhcpCcb} {cur : Nat} (ht : t = dhcpMsgRelease)
      (hpool : checkPool st.ccb own st.cur st.ccb.pkt.srcMac = some (ccb, cur)) :
      MsgStep own st t ⟨ccb, cur, some .release⟩
  | refused (ev : Option DhcpEvent) (hev : ev ≠ some .goodRequest) :
      MsgStep own st t
        ⟨(requestScan st.ccb own).2.1.modUser own ({ · with timer := none }), st.cur, ev⟩
  | granted {ccb : DhcpCcb} {cur : Nat} (ht : t = dhcpMsgRequest)
      (hok : (requestScan st.ccb own).1 = .ok)
      (hpool : checkPool (requestScan st.ccb own).2.1 own st.cur (requestScan st.ccb own).2.2 =
        some (ccb, cur)) :
      MsgStep own st t ⟨ccb.modUser own ({ · with timer := none }), cur, some .goodRequest⟩

/-- A REQUEST is refused with nothing taken, or granted where the search ends. -/
theorem decodeRequest_cases (ccb : DhcpCcb) (own cur : Nat) :
    (∃ ev, ev ≠ some .goodRequest ∧
      decodeRequest ccb own cur = (ev, (requestScan ccb own).2.1, cur)) ∨
    ((requestScan ccb own).1 = .ok ∧ ∃ ccb' cur',
      checkPool (requestScan ccb own).2.1 own cur (requestScan ccb own).2.2 = some (ccb', cur') ∧
        decodeRequest ccb own cur = (some .goodRequest, ccb', cur')) := by
  unfold decodeRequest
  obtain ⟨verdict, scanned, mac⟩ := requestScan ccb own
  cases verdict with
  | error => exact Or.inl ⟨none, by simp, rfl⟩
  | bad => exact Or.inl ⟨some .badRequest, by simp, rfl⟩
  | ok =>
      cases hpool : checkPool scanned own cur mac with
      | none => exact Or.inl ⟨some .badRequest, by simp, by simp [hpool]⟩
      | some r => exact Or.inr ⟨rfl, r.1, r.2, rfl, by simp [hpool]⟩

theorem decodeMsgType_step (own : Nat) (st : DecodeSt) (t : BitVec 8) :
    MsgStep own st t (decodeMsgType own st t) := by
  unfold decodeMsgType
  by_cases hdisc : t = dhcpMsgDiscover
  · rw [if_pos hdisc]
    exact .event _ (Or.inr (by simp))
  rw [if_neg hdisc]
  by_cases hreq : t = dhcpMsgRequest
  · rw [if_pos hreq]
    rcases decodeRequest_cases st.ccb own st.cur with ⟨ev, hev, heq⟩ | ⟨hok, ccb, cur, hpool, heq⟩
    · rw [heq]
      exact .refused ev hev
    · rw [heq]
      exact .granted hreq hok hpool
  rw [if_neg hreq]
  by_cases hrel : t = dhcpMsgRelease
  · rw [if_pos hrel]
    cases hpool : checkPool st.ccb own st.cur st.ccb.pkt.srcMac with
    | none => exact .event st.event (Or.inl rfl)
    | some r => exact .release hrel hpool
  rw [if_neg hrel]
  by_cases hdecl : t = dhcpMsgDecline
  · rw [if_pos hdecl]
    by_cases hacc : declineAccepted st.ccb st.cur = true
    · rw [if_pos hacc]
      exact .event _ (Or.inr (by simp))
    · rw [if_neg hacc]
      exact .event st.event (Or.inl rfl)
  rw [if_neg hdecl]
  by_cases hinf : t = dhcpMsgInform
  · rw [if_pos hinf]
    exact .event _ (Or.inr (by simp))
  · rw [if_neg hinf]
    exact .event st.event (Or.inl rfl)

/-- Stopping the slot's timer is something decoding may do. -/
theorem kept_stopTimer (ccb : DhcpCcb) (own : Nat) :
    ccb.Kept own (ccb.modUser own ({ · with timer := none })) := by
  refine .modUser ?_ fun h => absurd rfl h
  exact ⟨rfl, rfl, rfl, rfl, rfl, rfl, rfl, fun h => ⟨h, rfl⟩⟩

theorem MsgStep.kept {st st' : DecodeSt} {t : BitVec 8} (h : MsgStep own st t st') :
    st.ccb.Kept own st'.ccb := by
  cases h with
  | event ev hev => exact .refl own _
  | release ht hpool => exact checkPool_kept hpool
  | refused ev hev => exact (requestScan_kept ..).trans (kept_stopTimer ..)
  | granted ht hok hpool =>
      exact ((requestScan_kept ..).trans (checkPool_kept hpool)).trans (kept_stopTimer ..)

/-- What every message type option of a walk keeps, the walk keeps. -/
theorem decodeWalk_inv (I : DecodeSt → Prop) (pkt : DhcpPkt) {w : OptWalk} {st : DecodeSt}
    (hpkt : ∀ st, I st → ∀ off, st.ccb.pkt.opt off = pkt.opt off)
    (hstep : ∀ st st', I st → ∀ off ∈ w.offs, pkt.opt off = dhcpOptMsgType →
      MsgStep own st (pkt.optVal off 0) st' → I st')
    (hst : I st) :
    ∃ ev, I ⟨(decodeWalk own st w).2.1, (decodeWalk own st w).2.2, ev⟩ ∧
      ∀ e, (decodeWalk own st w).1 = .event e → ev = some e := by
  induction w generalizing st with
  | done =>
      refine ⟨st.event, hst, ?_⟩
      intro e he
      unfold decodeWalk at he
      cases hev : st.event with
      | none => simp [hev, DhcpDecoded.ofEvent] at he
      | some e' => simpa [hev, DhcpDecoded.ofEvent] using he
  | malformed => exact ⟨st.event, hst, by simp [decodeWalk]⟩
  | opt off rest ih =>
      have hrest : ∀ st st', I st → ∀ o ∈ rest.offs, pkt.opt o = dhcpOptMsgType →
          MsgStep own st (pkt.optVal o 0) st' → I st' :=
        fun st st' h o ho => hstep st st' h o (OptWalk.tail_mem_offs ho)
      unfold decodeWalk
      by_cases hisp : st.ccb.pkt.opt off = dhcpOptIspId
      · rw [if_pos hisp]
        exact ⟨st.event, hst, by simp⟩
      rw [if_neg hisp]
      by_cases hmsg : st.ccb.pkt.opt off = dhcpOptMsgType
      · rw [if_pos hmsg]
        have hval : st.ccb.pkt.optVal off 0 = pkt.optVal off 0 := hpkt st hst _
        have hty : pkt.opt off = dhcpOptMsgType := by rw [← hpkt st hst off]; exact hmsg
        rw [hval]
        refine ih hrest (hstep st _ hst off (OptWalk.head_mem_offs off rest) hty ?_)
        exact decodeMsgType_step own st _
      · rw [if_neg hmsg]
        exact ih hrest hst

/-! ### The whole packet -/

/-- The packet searches the pool. -/
def DhcpPkt.Searches (pkt : DhcpPkt) : Prop :=
  pkt.HasMsg dhcpMsgRequest ∨ pkt.HasMsg dhcpMsgRelease

/-- Where the index of a packet that found the pool as `s` can be: at the client's slot, or
moved to an entry that was free or is the client's. -/
def CurFrom (s : DhcpCcb) (own : Nat) (ccb : DhcpCcb) (cur : Nat) : Prop :=
  cur = own ∨ cur < s.perLanUserPoolLen ∧ (ccb.user cur).used = true ∧ s.pkt.Searches ∧
    ((s.user cur).used = false ∨ s.pkt.GivesMac (s.user cur).poolMac)

/-- Where decoding stands, of a packet that found the pool as `s`. -/
structure Decoding (s : DhcpCcb) (own : Nat) (st : DecodeSt) : Prop where
  kept : s.Kept own st.ccb
  hdr : HdrFrom s s.pkt st.ccb.pkt.hdr
  cur : CurFrom s own st.ccb st.cur
  good : st.event = some .goodRequest → (st.ccb.user st.cur).used = true ∧
    s.pkt.HasMsg dhcpMsgRequest ∧ AckAddr s s.pkt st.ccb.pkt.hdr.urClientIp

/-- The index stays in the window. -/
theorem Decoding.cur_lt {s : DhcpCcb} {st : DecodeSt} (h : Decoding s own st)
    (hown : own < s.perLanUserPoolLen) : st.cur < st.ccb.perLanUserPoolLen := by
  rw [h.kept.len]
  rcases h.cur with heq | ⟨hlt, -⟩
  · exact heq ▸ hown
  · exact hlt

/-- An entry that would do when it was taken was free before, or the client's. -/
theorem DhcpCcb.Kept.openTo {s : DhcpCcb} (hkept : s.Kept own ccb) (hopen : ccb.OpenTo mac i) :
    (s.user i).used = false ∨ mac = (s.user i).poolMac := by
  by_cases hu : (s.user i).used = true
  · obtain ⟨hu', hm⟩ := (hkept.entry i).used hu
    rcases hopen.2 with hfree | hmac
    · rw [hu'] at hfree
      cases hfree
    · exact Or.inr (hmac.trans hm)
  · exact Or.inl (by simpa using hu)

theorem DhcpCcb.Kept.givesMac {s : DhcpCcb} (hkept : s.Kept own ccb) (h : ccb.pkt.GivesMac mac) :
    s.pkt.GivesMac mac := by
  rcases h with h | ⟨off, ⟨hoff, hty⟩, hmac⟩
  · exact Or.inl (h.trans hkept.srcMac)
  · rw [hkept.walk] at hoff
    rw [hkept.opt] at hty
    rw [hkept.optMac] at hmac
    exact Or.inr ⟨off, ⟨hoff, hty⟩, hmac⟩

/-- A search moves the index only to an entry that was free or the client's, and leaves
the entry it ends at in use. -/
theorem checkPool_cur {s : DhcpCcb} (hown : own < s.perLanUserPoolLen) (hkept : s.Kept own ccb)
    (hmsg : s.pkt.Searches) (hmac : s.pkt.GivesMac mac) (hcur : CurFrom s own ccb cur)
    (h : checkPool ccb own cur mac = some (ccb', j)) :
    (ccb'.user j).used = true ∧ CurFrom s own ccb' j := by
  rcases checkPool_eq_some h with ⟨hopen, rfl, rfl⟩ | ⟨-, hscan⟩
  · rcases hcur with rfl | ⟨hlt, hu, -, hwhose⟩
    · exact ⟨by simp [PerLanUser.take], Or.inl rfl⟩
    · have hu' := (((kept_take hopen : ccb.Kept own _).entry j).used hu).1
      exact ⟨hu', Or.inr ⟨hlt, hu', hmsg, hwhose⟩⟩
  · obtain ⟨hopen, rfl, pre, post, hl, -⟩ := scanPool_eq_some hscan
    have hmem : j ∈ List.range' cur (ccb.perLanUserPoolLen - cur) ++
        List.range (max cur ccb.perLanUserPoolLen) := by rw [hl]; simp
    have hlen : cur < ccb.perLanUserPoolLen := by
      rw [hkept.len]
      rcases hcur with rfl | ⟨hlt, -⟩
      · exact hown
      · exact hlt
    rw [List.mem_append, List.mem_range'_1, List.mem_range] at hmem
    refine ⟨by simp [PerLanUser.take], Or.inr ⟨by rw [← hkept.len]; omega,
      by simp [PerLanUser.take], hmsg, ?_⟩⟩
    rcases hkept.openTo hopen with hfree | hm
    · exact Or.inl hfree
    · exact Or.inr (hm ▸ hmac)

/-- Every message type option keeps what decoding relies on. -/
theorem Decoding.step {s : DhcpCcb} {st st' : DecodeSt} {off : Nat}
    (hown : own < s.perLanUserPoolLen) (h : Decoding s own st)
    (hoff : s.pkt.HasOpt dhcpOptMsgType off)
    (hstep : MsgStep own st (s.pkt.optVal off 0) st') : Decoding s own st' := by
  have hkept := hstep.kept
  cases hstep with
  | event ev hev =>
      refine ⟨h.kept, h.hdr, h.cur, fun hgood => ?_⟩
      rcases hev with heq | hne
      · exact h.good (heq ▸ hgood)
      · exact absurd hgood hne
  | release ht hpool =>
      have hmsg : s.pkt.Searches := Or.inr ⟨off, hoff, ht⟩
      have hmac : s.pkt.GivesMac st.ccb.pkt.srcMac := Or.inl h.kept.srcMac
      obtain ⟨-, hcur⟩ := checkPool_cur hown h.kept hmsg hmac h.cur hpool
      obtain ⟨k, hopen, hccb, -⟩ := checkPool_takes hpool
      refine ⟨h.kept.trans hkept, ?_, hcur, by simp⟩
      rw [hccb]
      exact h.hdr
  | refused ev hev =>
      refine ⟨h.kept.trans hkept, requestScan_hdrFrom h.kept h.hdr, ?_,
        fun hgood => absurd hgood hev⟩
      rcases h.cur with heq | ⟨hlt, hu, hmsg, hwhose⟩
      · exact Or.inl heq
      · exact Or.inr ⟨hlt, ((hkept.entry st.cur).used hu).1, hmsg, hwhose⟩
  | granted ht hok hpool =>
      have hscan := h.kept.trans (requestScan_kept st.ccb own)
      have hmsg : s.pkt.Searches := Or.inl ⟨off, hoff, ht⟩
      have hmac := h.kept.givesMac (requestScan_mac hok)
      have hcur : CurFrom s own (requestScan st.ccb own).2.1 st.cur := by
        unfold CurFrom
        rw [(requestScan_user st.ccb own st.cur).1]
        exact h.cur
      obtain ⟨hu, hcur'⟩ := checkPool_cur hown hscan hmsg hmac hcur hpool
      obtain ⟨k, hopen, hccb, -⟩ := checkPool_takes hpool
      have hpkt := congrArg DhcpCcb.pkt hccb
      have hu' := (((kept_stopTimer _ own).entry _).used hu).1
      refine ⟨h.kept.trans hkept, ?_, ?_, fun _ => ⟨hu', ⟨off, hoff, ht⟩, ?_⟩⟩
      · rw [DhcpCcb.modUser_pkt, hpkt]
        exact requestScan_hdrFrom h.kept h.hdr
      · rcases hcur' with heq | ⟨hlt, -, hwhose⟩
        · exact Or.inl heq
        · exact Or.inr ⟨hlt, hu', hwhose⟩
      · rw [DhcpCcb.modUser_pkt, hpkt]
        exact requestScan_ackAddr h.kept h.hdr hok

/-- The pool as decoding finds it: the packet is in place, and the slot points at it. -/
def decodeStart (ccb : DhcpCcb) (own : Nat) (pkt : DhcpPkt) : DhcpCcb :=
  { ccb with pkt := pkt }.modUser own ({ · with dhcpHdr := some pkt.buf })

/-- Everything decoding does, it does by message type options. -/
theorem dhcpDecode_inv (I : DecodeSt → Prop) (ccb : DhcpCcb) (own : Nat) (pkt : DhcpPkt)
    (hpkt : ∀ st, I st → ∀ off, st.ccb.pkt.opt off = pkt.opt off)
    (hstep : ∀ st st' off, I st → pkt.HasOpt dhcpOptMsgType off →
      MsgStep own st (pkt.optVal off 0) st' → I st')
    (hst : I ⟨decodeStart ccb own pkt, own, none⟩) :
    ∃ ev, I ⟨(dhcpDecode ccb own pkt).2.1, (dhcpDecode ccb own pkt).2.2, ev⟩ ∧
      ∀ e, (dhcpDecode ccb own pkt).1 = .event e → ev = some e := by
  unfold dhcpDecode
  by_cases hlen : pkt.dgramLen.toNat < udpHdrLen + dhcpHdrLen
  · rw [if_pos hlen]
    exact ⟨none, hst, by simp⟩
  by_cases hcookie : swap32 pkt.hdr.magicCookie = dhcpMagicCookie
  · rw [if_neg hlen, if_neg (not_not.mpr hcookie)]
    refine decodeWalk_inv I pkt hpkt ?_ hst
    intro st st' h off hoff hty
    exact hstep st st' off h ⟨hoff, hty⟩
  · rw [if_neg hlen, if_pos hcookie]
    exact ⟨none, hst, by simp⟩

/-- What decoding comes to. -/
theorem dhcpDecode_decoding (ccb : DhcpCcb) (pkt : DhcpPkt) (hown : own < ccb.perLanUserPoolLen) :
    ∃ ev, Decoding (decodeStart ccb own pkt) own
        ⟨(dhcpDecode ccb own pkt).2.1, (dhcpDecode ccb own pkt).2.2, ev⟩ ∧
      ∀ e, (dhcpDecode ccb own pkt).1 = .event e → ev = some e := by
  refine dhcpDecode_inv _ ccb own pkt ?_ ?_ ?_
  · intro st h off
    exact h.kept.opt off
  · intro st st' off h hoff hstep
    exact h.step hown hoff hstep
  · refine ⟨.refl own _, ⟨Or.inl rfl, fun _ => Or.inl ⟨rfl, rfl⟩⟩, Or.inl rfl, by simp⟩

/-! ### A client that gives no MAC but its own -/

/-- The same addresses are in use, for the same MACs. -/
def SameUse (s t : DhcpCcb) : Prop :=
  ∀ i, (t.user i).used = (s.user i).used ∧ (t.user i).poolMac = (s.user i).poolMac

/-- Nothing has been taken, or the entry where a search from the slot ends. -/
def Placed (s : DhcpCcb) (mac : BitVec 48) (own : Nat) (st : DecodeSt) : Prop :=
  (st.cur = own ∧ st.event ≠ some .goodRequest ∧ SameUse s st.ccb) ∨
    (s.FirstOpen mac own st.cur ∧ SameUse (s.modUser st.cur (·.take mac)) st.ccb)

theorem SameUse.trans {s t u : DhcpCcb} (h : SameUse s t) (h' : SameUse t u) : SameUse s u :=
  fun i => ⟨(h' i).1.trans (h i).1, (h' i).2.trans (h i).2⟩

/-- What will do depends only on the addresses in use. -/
theorem SameUse.openTo_iff {s t : DhcpCcb} (h : SameUse s t) (hkept : s.Kept own t) :
    t.OpenTo mac i ↔ s.OpenTo mac i := by
  simp only [DhcpCcb.OpenTo, (h i).1, (h i).2, (hkept.entry i).reserved]

theorem SameUse.firstOpen {s t : DhcpCcb} (h : SameUse s t) (hkept : s.Kept own t)
    (hfirst : t.FirstOpen mac own j) : s.FirstOpen mac own j := by
  have hiff : ∀ k, t.OpenTo mac k ↔ s.OpenTo mac k := fun k => h.openTo_iff hkept
  simpa only [DhcpCcb.FirstOpen, hiff, hkept.len] using hfirst

theorem SameUse.modUser_take {s t : DhcpCcb} (h : SameUse s t) (k : Nat) (mac : BitVec 48) :
    SameUse (s.modUser k (·.take mac)) (t.modUser k (·.take mac)) := by
  intro i
  by_cases hi : i = k
  · subst hi; simp [PerLanUser.take]
  · simp [hi, h i]

/-- A search under the client's MAC, from where earlier ones have left the index. -/
theorem Placed.search {s : DhcpCcb} {st : DecodeSt}
    (hown : own < s.perLanUserPoolLen) (hkept : s.Kept own st.ccb) (h : Placed s mac own st)
    (hpool : checkPool st.ccb own st.cur mac = some (ccb', j)) :
    s.FirstOpen mac own j ∧ SameUse (s.modUser j (·.take mac)) ccb' := by
  rcases h with ⟨hcur, -, hsame⟩ | ⟨hfirst, hsame⟩
  · -- the first search
    rw [hcur] at hpool
    rcases checkPool_eq_some hpool with ⟨hopen, rfl, rfl⟩ | ⟨-, hscan⟩
    · refine ⟨?_, hsame.modUser_take _ _⟩
      exact ⟨hown, (hsame.openTo_iff hkept).mp hopen, Or.inl ⟨Nat.le_refl _,
        fun k hle hlt => absurd hlt (Nat.not_lt.mpr hle)⟩⟩
    · obtain ⟨hfirst, rfl⟩ := scanPool_first (by rw [hkept.len]; exact hown) hscan
      exact ⟨hsame.firstOpen hkept hfirst, hsame.modUser_take _ _⟩
  · -- an earlier one has taken the entry, and it still will do
    have htaken : st.ccb.OpenTo mac st.cur := by
      refine ⟨?_, Or.inr ?_⟩
      · rw [(hkept.entry _).reserved]; exact hfirst.2.1.1
      · rw [(hsame st.cur).2]; simp [PerLanUser.take]
    have hagain : SameUse st.ccb (st.ccb.modUser st.cur (·.take mac)) := by
      have hself : st.ccb.modUser st.cur (·.take mac) = st.ccb := by
        refine modUser_eq_self (take_of_open ?_ ?_)
        · rw [(hsame st.cur).1]; simp [PerLanUser.take]
        · rw [(hsame st.cur).2]; simp [PerLanUser.take]
      rw [hself]
      exact fun i => ⟨rfl, rfl⟩
    have hlen : st.cur < st.ccb.perLanUserPoolLen := by rw [hkept.len]; exact hfirst.1
    rcases checkPool_eq_some hpool with ⟨hopen, rfl, rfl⟩ | ⟨-, hscan⟩
    · by_cases heq : st.cur = own
      · rw [← heq]
        exact ⟨heq ▸ hfirst, hsame.trans (heq ▸ hagain)⟩
      · -- the slot itself would have come first
        have hslot : s.OpenTo mac own := by
          have hs := hsame own
          simp only [DhcpCcb.user_modUser_of_ne _ _ (Ne.symm heq)] at hs
          simpa only [DhcpCcb.OpenTo, hs.1, hs.2, (hkept.entry own).reserved] using hopen
        rcases hfirst.2.2 with ⟨hge, hbefore⟩ | ⟨hlt, hafter, -⟩
        · exact absurd hslot (hbefore own (Nat.le_refl _) (by omega))
        · exact absurd hslot (hafter own (Nat.le_refl _) hown)
    · have hj : j = st.cur := by
        rw [show st.ccb.perLanUserPoolLen - st.cur =
          (st.ccb.perLanUserPoolLen - st.cur - 1) + 1 by omega, List.range'_succ] at hscan
        simp only [List.cons_append, scanPool,
          (checkAndSet_eq_some st.ccb st.cur mac).mpr ⟨htaken, rfl⟩, Option.some.injEq,
          Prod.mk.injEq] at hscan
        exact hscan.2.symm
      subst hj
      obtain ⟨-, rfl, -⟩ := scanPool_eq_some hscan
      exact ⟨hfirst, hsame.trans hagain⟩

theorem SameUse.of_requestScan (ccb : DhcpCcb) (own : Nat) :
    SameUse ccb (requestScan ccb own).2.1 :=
  fun i => requestScan_user ccb own i

theorem SameUse.stopTimer (ccb : DhcpCcb) (own : Nat) :
    SameUse ccb (ccb.modUser own ({ · with timer := none })) := by
  intro i
  by_cases hi : i = own
  · subst hi; simp
  · simp [hi]

/-- Every message type option keeps the index where one search ends. -/
theorem Placed.step {s : DhcpCcb} {st st' : DecodeSt} {t : BitVec 8}
    (hown : own < s.perLanUserPoolLen) (hkept : s.Kept own st.ccb)
    (hmac : ∀ mac, s.pkt.GivesMac mac → mac = s.pkt.srcMac)
    (h : Placed s s.pkt.srcMac own st) (hstep : MsgStep own st t st') :
    Placed s s.pkt.srcMac own st' := by
  cases hstep with
  | event ev hev =>
      rcases h with ⟨hcur, hne, hsame⟩ | hplaced
      · refine Or.inl ⟨hcur, ?_, hsame⟩
        rcases hev with heq | hne'
        · exact heq ▸ hne
        · exact hne'
      · exact Or.inr hplaced
  | release ht hpool =>
      rw [hkept.srcMac] at hpool
      exact Or.inr (h.search hown hkept hpool)
  | refused ev hev =>
      have hsame' := (SameUse.of_requestScan st.ccb own).trans (.stopTimer _ own)
      rcases h with ⟨hcur, -, hsame⟩ | ⟨hfirst, hsame⟩
      · exact Or.inl ⟨hcur, hev, hsame.trans hsame'⟩
      · exact Or.inr ⟨hfirst, hsame.trans hsame'⟩
  | granted ht hok hpool =>
      have hscan := hkept.trans (requestScan_kept st.ccb own)
      rw [hmac _ (hkept.givesMac (requestScan_mac hok))] at hpool
      have hplaced : Placed s s.pkt.srcMac own ⟨(requestScan st.ccb own).2.1, st.cur, st.event⟩ := by
        rcases h with ⟨hcur, hne, hsame⟩ | ⟨hfirst, hsame⟩
        · exact Or.inl ⟨hcur, hne, hsame.trans (.of_requestScan _ _)⟩
        · exact Or.inr ⟨hfirst, hsame.trans (.of_requestScan _ _)⟩
      obtain ⟨hfirst, hsame⟩ := hplaced.search hown hscan hpool
      exact Or.inr ⟨hfirst, hsame.trans (.stopTimer _ _)⟩

/-- Where a good REQUEST ends, of a client that gives no MAC but its own. -/
theorem dhcpDecode_placed (ccb : DhcpCcb) (pkt : DhcpPkt) (hown : own < ccb.perLanUserPoolLen)
    (hmac : ∀ mac, pkt.GivesMac mac → mac = pkt.srcMac)
    (hgood : (dhcpDecode ccb own pkt).1 = .event .goodRequest) :
    (decodeStart ccb own pkt).FirstOpen pkt.srcMac own (dhcpDecode ccb own pkt).2.2 ∧
      ((dhcpDecode ccb own pkt).2.1.user (dhcpDecode ccb own pkt).2.2).poolMac = pkt.srcMac := by
  let s := decodeStart ccb own pkt
  obtain ⟨ev, ⟨-, hplaced⟩, hev⟩ := dhcpDecode_inv
    (fun st => s.Kept own st.ccb ∧ Placed s s.pkt.srcMac own st) ccb own pkt
    (fun st h off => h.1.opt off)
    (fun st st' off h _ hstep => ⟨h.1.trans (hstep.kept), h.2.step hown h.1 hmac hstep⟩)
    ⟨.refl own _, Or.inl ⟨rfl, by simp, fun i => ⟨rfl, rfl⟩⟩⟩
  rcases hplaced with ⟨-, hne, -⟩ | ⟨hfirst, hsame⟩
  · exact absurd (hev _ hgood) hne
  · refine ⟨hfirst, ?_⟩
    rw [(hsame _).2]
    simp only [DhcpCcb.user_modUser_self]
    rfl

end FastRG
