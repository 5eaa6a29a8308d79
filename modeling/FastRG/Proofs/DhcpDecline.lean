/-
A declined address.

A DECLINE names an address in an option, and what the server puts out of use is the entry
that its sender's slot is: `markIpConflicted` leaves it in use, for the zero MAC, under a
timer.  `Quarantined` says that of one entry.  Nothing that names another MAC takes it,
and its timer is the only thing that can end it.  That the address is then handed out to
nobody is another matter, because an acknowledgement gives the address that was asked
for, whichever entry it is recorded at.
-/
import FastRG.Proofs.DhcpLease

namespace FastRG

variable {hz now till : Nat} {ccb ccb' : DhcpCcb} {mac : BitVec 48} {own cur i j k : Nat}
  {x : BitVec 32}

/-! ### A valid DECLINE -/

/-- The options end before they run past the field. -/
def OptWalk.wellFormed : OptWalk → Bool
  | .done => true
  | .malformed => false
  | .opt _ rest => rest.wellFormed

/-- A DECLINE of an address, as a client should send it: one message type, this server's id,
the address once or more and no other, and no vendor class. -/
structure ValidDecline (ccb : DhcpCcb) (pkt : DhcpPkt) (x : BitVec 32) : Prop where
  whole : pkt.truncated = false
  long : udpHdrLen + dhcpHdrLen ≤ pkt.dgramLen.toNat
  cookie : swap32 pkt.hdr.magicCookie = dhcpMagicCookie
  formed : pkt.walk.wellFormed = true
  decline : pkt.HasMsg dhcpMsgDecline
  only : ∀ t, pkt.HasMsg t → t = dhcpMsgDecline
  noIspId : ∀ off, ¬ pkt.HasOpt dhcpOptIspId off
  serverId : ∃ off, pkt.HasOpt dhcpOptServerId off ∧ pkt.optLen off = 4 ∧
    pkt.optU32 off = ccb.dhcpServerIp
  names : ∃ off, pkt.HasOpt dhcpOptRequestIp off
  namesOnly : ∀ off, pkt.HasOpt dhcpOptRequestIp off → pkt.optLen off = 4 ∧ pkt.optU32 off = x
  inSubnet : x ≠ 0 ∧ dhcpInSubnet ccb x = true

/-- The address that a DECLINE is read to name. -/
theorem declineWalk_names {ip : BitVec 32} {has : Bool} {w : OptWalk}
    (hall : ∀ off ∈ w.offs, ccb.pkt.opt off = dhcpOptRequestIp →
      ccb.pkt.optLen off = 4 ∧ ccb.pkt.optU32 off = x)
    (hone : ip = x ∨ ∃ off ∈ w.offs, ccb.pkt.opt off = dhcpOptRequestIp) :
    (declineWalk ccb ip has w).1 = x := by
  induction w generalizing ip has with
  | done =>
      rcases hone with hip | ⟨off, hoff, -⟩
      · exact hip
      · simp [OptWalk.offs] at hoff
  | malformed =>
      rcases hone with hip | ⟨off, hoff, -⟩
      · exact hip
      · simp [OptWalk.offs] at hoff
  | opt off rest ih =>
      have hrest : ∀ o ∈ rest.offs, ccb.pkt.opt o = dhcpOptRequestIp →
          ccb.pkt.optLen o = 4 ∧ ccb.pkt.optU32 o = x :=
        fun o ho => hall o (List.mem_cons_of_mem off ho)
      -- the address stands already, or is named later on
      have hskip : ccb.pkt.opt off ≠ dhcpOptRequestIp →
          ip = x ∨ ∃ o ∈ rest.offs, ccb.pkt.opt o = dhcpOptRequestIp := by
        intro hne
        rcases hone with hip | ⟨o, ho, hty⟩
        · exact Or.inl hip
        · rcases List.mem_cons.mp ho with rfl | ho
          · exact absurd hty hne
          · exact Or.inr ⟨o, ho, hty⟩
      unfold declineWalk
      by_cases hsrv : ccb.pkt.opt off = dhcpOptServerId
      · rw [if_pos hsrv]
        exact ih hrest (hskip (by rw [hsrv]; decide))
      rw [if_neg hsrv]
      by_cases hreq : ccb.pkt.opt off = dhcpOptRequestIp
      · obtain ⟨hlen, hx⟩ := hall off List.mem_cons_self hreq
        rw [if_pos ⟨hreq, hlen⟩]
        exact ih hrest (Or.inl hx)
      · rw [if_neg fun h => hreq h.1]
        exact ih hrest (hskip hreq)

/-- Whether a DECLINE is read to be for this server. -/
theorem declineWalk_serverId {ip : BitVec 32} {has : Bool} {w : OptWalk}
    (hone : has = true ∨ ∃ off ∈ w.offs, ccb.pkt.opt off = dhcpOptServerId ∧
      ccb.pkt.optLen off = 4 ∧ ccb.pkt.optU32 off = ccb.dhcpServerIp) :
    (declineWalk ccb ip has w).2 = true := by
  induction w generalizing ip has with
  | done =>
      rcases hone with hhas | ⟨off, hoff, -⟩
      · exact hhas
      · simp [OptWalk.offs] at hoff
  | malformed =>
      rcases hone with hhas | ⟨off, hoff, -⟩
      · exact hhas
      · simp [OptWalk.offs] at hoff
  | opt off rest ih =>
      have hskip : ccb.pkt.opt off ≠ dhcpOptServerId → has = true ∨ ∃ o ∈ rest.offs,
          ccb.pkt.opt o = dhcpOptServerId ∧ ccb.pkt.optLen o = 4 ∧
            ccb.pkt.optU32 o = ccb.dhcpServerIp := by
        intro hne
        rcases hone with hhas | ⟨o, ho, hty, hid⟩
        · exact Or.inl hhas
        · rcases List.mem_cons.mp ho with rfl | ho
          · exact absurd hty hne
          · exact Or.inr ⟨o, ho, hty, hid⟩
      unfold declineWalk
      by_cases hsrv : ccb.pkt.opt off = dhcpOptServerId
      · rw [if_pos hsrv]
        refine ih ?_
        rcases hone with hhas | ⟨o, ho, hty, hid⟩
        · exact Or.inl (by simp [hhas])
        · rcases List.mem_cons.mp ho with rfl | ho
          · exact Or.inl (by simp [hid])
          · exact Or.inr ⟨o, ho, hty, hid⟩
      rw [if_neg hsrv]
      by_cases hreq : ccb.pkt.opt off = dhcpOptRequestIp ∧ ccb.pkt.optLen off = 4
      · rw [if_pos hreq]
        exact ih (hskip hsrv)
      · rw [if_neg hreq]
        exact ih (hskip hsrv)

/-- A walk whose message types all say DECLINE, when DECLINEs are accepted. -/
theorem decodeWalk_decline {st : DecodeSt} {w : OptWalk} (hformed : w.wellFormed = true)
    (hisp : ∀ off ∈ w.offs, st.ccb.pkt.opt off ≠ dhcpOptIspId)
    (honly : ∀ off ∈ w.offs, st.ccb.pkt.opt off = dhcpOptMsgType →
      st.ccb.pkt.optVal off 0 = dhcpMsgDecline)
    (hacc : declineAccepted st.ccb st.cur = true)
    (hone : st.event = some .decline ∨ ∃ off ∈ w.offs, st.ccb.pkt.opt off = dhcpOptMsgType) :
    decodeWalk own st w = (.event .decline, st.ccb, st.cur) := by
  induction w generalizing st with
  | done =>
      rcases hone with hev | ⟨off, hoff, -⟩
      · simp [decodeWalk, hev, DhcpDecoded.ofEvent]
      · simp [OptWalk.offs] at hoff
  | malformed => simp [OptWalk.wellFormed] at hformed
  | opt off rest ih =>
      have hisp' : ∀ o ∈ rest.offs, st.ccb.pkt.opt o ≠ dhcpOptIspId :=
        fun o ho => hisp o (List.mem_cons_of_mem off ho)
      have honly' : ∀ o ∈ rest.offs, st.ccb.pkt.opt o = dhcpOptMsgType →
          st.ccb.pkt.optVal o 0 = dhcpMsgDecline :=
        fun o ho => honly o (List.mem_cons_of_mem off ho)
      unfold decodeWalk
      rw [if_neg (hisp off List.mem_cons_self)]
      by_cases hmsg : st.ccb.pkt.opt off = dhcpOptMsgType
      · rw [if_pos hmsg, honly off List.mem_cons_self hmsg]
        have hev : decodeMsgType own st dhcpMsgDecline = { st with event := some .decline } := by
          simp [decodeMsgType, hacc, dhcpMsgDecline, dhcpMsgDiscover, dhcpMsgRequest,
            dhcpMsgRelease]
        rw [hev]
        exact ih hformed hisp' honly' hacc (Or.inl rfl)
      · rw [if_neg hmsg]
        refine ih hformed hisp' honly' hacc ?_
        rcases hone with hev | ⟨o, ho, hty⟩
        · exact Or.inl hev
        · rcases List.mem_cons.mp ho with rfl | ho
          · exact absurd hty hmsg
          · exact Or.inr ⟨o, ho, hty⟩

/-- A valid DECLINE from a slot with an address in use is one, and it changes nothing by itself. -/
theorem dhcpDecode_decline {pkt : DhcpPkt} (h : ValidDecline ccb pkt x)
    (hown : own < ccb.perLanUserPoolLen) (hused : (ccb.user own).used = true) :
    dhcpDecode ccb own pkt = (.event .decline, decodeStart ccb own pkt, own) := by
  have hwalk : (decodeStart ccb own pkt).pkt = pkt := rfl
  have hserver : (decodeStart ccb own pkt).dhcpServerIp = ccb.dhcpServerIp := rfl
  have hmask : (decodeStart ccb own pkt).subnetMask = ccb.subnetMask := rfl
  have hlen : (decodeStart ccb own pkt).perLanUserPoolLen = ccb.perLanUserPoolLen := rfl
  have hacc : declineAccepted (decodeStart ccb own pkt) own = true := by
    have hip : (declineWalk (decodeStart ccb own pkt) 0 false pkt.walk).1 = x := by
      refine declineWalk_names ?_ (Or.inr ?_)
      · intro off hoff hty
        exact h.namesOnly off ⟨hoff, hty⟩
      · obtain ⟨off, hoff, hty⟩ := h.names
        exact ⟨off, hoff, hty⟩
    have hid : (declineWalk (decodeStart ccb own pkt) 0 false pkt.walk).2 = true := by
      refine declineWalk_serverId (Or.inr ?_)
      obtain ⟨off, ⟨hoff, hty⟩, hid⟩ := h.serverId
      exact ⟨off, hoff, hty, hid⟩
    have hpool : isClientInPool (decodeStart ccb own pkt) pkt.srcMac own = true := by
      unfold isClientInPool
      rw [List.any_eq_true]
      refine ⟨own, ?_, ?_⟩
      · rw [List.mem_append, List.mem_range'_1, hlen]
        exact Or.inl (by omega)
      · have huser : ((decodeStart ccb own pkt).user own).used = (ccb.user own).used := by
          simp [decodeStart, DhcpCcb.user, DhcpCcb.modUser]
        rw [huser, hused, Bool.true_or]
    unfold declineAccepted
    simp only [hwalk, hip, hid, hpool, Bool.true_and, Bool.and_true, Bool.and_eq_true,
      decide_eq_true_eq]
    exact h.inSubnet
  unfold dhcpDecode
  rw [if_neg (Nat.not_lt.mpr h.long), if_neg (not_not.mpr h.cookie)]
  refine decodeWalk_decline h.formed ?_ ?_ hacc (Or.inr ?_)
  · intro off hoff hty
    exact h.noIspId off ⟨hoff, hty⟩
  · intro off hoff hty
    exact h.only _ ⟨off, ⟨hoff, hty⟩, rfl⟩
  · obtain ⟨off, ⟨hoff, hty⟩, -⟩ := h.decline
    exact ⟨off, hoff, hty⟩

/-! ### An entry put out of use -/

/-- An entry of the window that is in use for the zero MAC, until its timer releases it. -/
structure Quarantined (ccb : DhcpCcb) (k : Nat) (x : BitVec 32) (till : Nat) : Prop where
  lt : k < ccb.perLanUserPoolLen
  ipAddr : (ccb.user k).ipAddr = x
  used : (ccb.user k).used = true
  lanUserUsed : (ccb.user k).lanUserUsed = true
  lanMac : (ccb.user k).lanMac = zeroMac
  poolMac : (ccb.user k).poolMac = zeroMac
  timer : (ccb.user k).timer = some ⟨.releaseLanUser, till⟩

namespace Quarantined

/-- Nothing that leaves the entry as it is ends it. -/
theorem of_user_eq (h : Quarantined ccb k x till)
    (hlen : ccb'.perLanUserPoolLen = ccb.perLanUserPoolLen) (heq : ccb'.user k = ccb.user k) :
    Quarantined ccb' k x till := by
  refine ⟨by rw [hlen]; exact h.lt, ?_, ?_, ?_, ?_, ?_, ?_⟩
  · rw [heq]; exact h.ipAddr
  · rw [heq]; exact h.used
  · rw [heq]; exact h.lanUserUsed
  · rw [heq]; exact h.lanMac
  · rw [heq]; exact h.poolMac
  · rw [heq]; exact h.timer

theorem modUser_of_ne (h : Quarantined ccb k x till) (hik : i ≠ k) (f : PerLanUser → PerLanUser) :
    Quarantined (ccb.modUser i f) k x till :=
  h.of_user_eq rfl (DhcpCcb.user_modUser_of_ne ccb f (Ne.symm hik))

/-- It is nobody's slot. -/
theorem ne_slot (h : Quarantined ccb k x till) (hmac : mac ≠ zeroMac) {slot : Nat}
    (hslot : IsSlot ccb mac slot) : slot ≠ k := by
  intro heq
  subst heq
  rcases hslot.2.1 with hm | hfree
  · exact hmac (hm.trans h.lanMac)
  · rw [h.lanUserUsed] at hfree
    cases hfree

/-- Decoding a packet for another slot leaves it alone, and does not come to it. -/
theorem decoded (h : Quarantined ccb k x till) {pkt : DhcpPkt} {slot : Nat}
    (hmacs : ∀ mac, pkt.GivesMac mac → mac ≠ zeroMac) (hslot : IsSlot ccb pkt.srcMac slot) :
    Quarantined (dhcpDecode (claimed hz now ccb pkt slot) slot pkt).2.1 k x till ∧
      (dhcpDecode (claimed hz now ccb pkt slot) slot pkt).2.2 ≠ k := by
  have hne : slot ≠ k := h.ne_slot (hmacs _ (Or.inl rfl)) hslot
  have hstart : Quarantined (decodeStart (claimed hz now ccb pkt slot) slot pkt) k x till :=
    h.of_user_eq rfl (decodeStart_user_of_ne (Ne.symm hne))
  obtain ⟨ev, hst, -⟩ := dhcpDecode_decoding (claimed hz now ccb pkt slot) pkt hslot.1
  have hkept := hst.kept.entry k
  obtain ⟨hused, hpool⟩ := hkept.used hstart.used
  refine ⟨⟨?_, ?_, hused, ?_, ?_, hpool.trans hstart.poolMac, ?_⟩, ?_⟩
  · exact hst.kept.len ▸ hstart.lt
  · exact hkept.ipAddr.trans hstart.ipAddr
  · exact hkept.lanUserUsed.trans hstart.lanUserUsed
  · exact hkept.lanMac.trans hstart.lanMac
  · exact (hst.kept.timer k (Ne.symm hne)).trans hstart.timer
  · intro hcur
    rcases hst.cur with heq | ⟨-, -, -, hfree | hgives⟩
    · exact hne (heq.symm.trans hcur)
    · rw [hcur, hstart.used] at hfree
      cases hfree
    · rw [hcur] at hgives
      exact hmacs _ hgives hstart.poolMac

/-- It is nobody's address to be offered. -/
theorem ne_picked (h : Quarantined ccb k x till) (hmac : mac ≠ zeroMac) {l : List Nat}
    {ip : BitVec 32} (hpick : pickFrom ccb mac l = some (ccb', ip)) :
    Quarantined ccb' k x till ∧ ∃ j ∈ l, j ≠ k ∧ ip = (ccb.user j).ipAddr := by
  obtain ⟨j, hj, -, hip, hcase⟩ := pickFrom_cases hpick
  rcases hcase with ⟨rfl, hm⟩ | ⟨hfree, rfl⟩
  · refine ⟨h, j, hj, fun hjk => ?_, hip⟩
    subst hjk
    exact hmac (hm.trans h.poolMac)
  · have hjk : j ≠ k := by
      intro hjk
      subst hjk
      rw [h.used] at hfree
      cases hfree
    exact ⟨h.modUser_of_ne hjk _, j, hj, hjk, hip⟩

/-- The automaton leaves it alone when it runs on another entry. -/
theorem fsmStep (h : Quarantined ccb k x till) (hik : i ≠ k) (hmac : ccb.pkt.srcMac ≠ zeroMac)
    {ev : DhcpEvent} {d : DhcpDone} (hstep : FsmStep hz now ccb i ev (some d)) :
    Quarantined d.ccb k x till := by
  have hset : ∀ st, Quarantined (setState ccb i st) k x till := fun st => h.modUser_of_ne hik _
  cases hstep with
  | noRow _ => exact h
  | offerFailed => exact hset _
  | offered hpick => exact ((hset _).ne_picked hmac hpick).1.modUser_of_ne hik _
  | acked _ hack =>
      obtain ⟨buf, -, heq⟩ := ack_eq_modUser hz now hack
      simp only [heq]
      exact h.modUser_of_ne hik _
  | naked _ => exact hset _
  | nakReleased _ => exact (hset _).modUser_of_ne hik _
  | informed _ => exact hset _
  | released => exact (hset _).modUser_of_ne hik _
  | conflicted => exact (hset _).modUser_of_ne hik _

theorem packet (h : Quarantined ccb k x till) {pkt : DhcpPkt}
    (hmacs : ∀ mac, pkt.GivesMac mac → mac ≠ zeroMac) :
    Quarantined (dhcpStep hz ccb (.packet now pkt)) k x till := by
  show Quarantined (((dhcpd hz now ccb pkt).map (·.ccb)).getD ccb) k x till
  cases hd : dhcpd hz now ccb pkt with
  | none => exact h
  | some d =>
      rcases dhcpd_some hd with rfl | ⟨slot, hslot, hat⟩
      · exact h
      · obtain ⟨hdec, hcur⟩ :
            Quarantined (dhcpDecode (claimed hz now ccb pkt slot) slot pkt).2.1 k x till ∧
              (dhcpDecode (claimed hz now ccb pkt slot) slot pkt).2.2 ≠ k := h.decoded hmacs hslot
        obtain ⟨ev, hst, -⟩ := dhcpDecode_decoding (claimed hz now ccb pkt slot) pkt hslot.1
        have hsrc := hst.kept.srcMac
        obtain ⟨dec, c, cur, hres, hcase⟩ := dhcpdAt_cases hat
        rw [hres] at hdec hcur hsrc
        rcases hcase with ⟨-, ret, rfl⟩ | ⟨e, r, -, hfsm, hr⟩
        · exact hdec.modUser_of_ne hcur _
        · have hstep := dhcpFsm_step hz now c cur e
          rw [hfsm] at hstep
          have hmac : c.pkt.srcMac ≠ zeroMac := by
            rw [hsrc]
            exact hmacs _ (Or.inl rfl)
          have hafter := hdec.fsmStep hcur hmac hstep
          rcases hr with ⟨-, rfl⟩ | ⟨-, rfl⟩
          · exact hafter.modUser_of_ne hcur _
          · exact hafter

/-- A timer that runs before the entry's is due leaves it alone. -/
theorem timerFire (h : Quarantined ccb k x till) (hnow : now < till) :
    Quarantined (dhcpTimerFire hz now ccb i) k x till := by
  rcases dhcpTimerFire_cases hz now ccb i with heq | ⟨t, ht, hdue, heq⟩
  · rw [heq]
    exact h
  have hik : i ≠ k := by
    intro hik
    subst hik
    rw [h.timer] at ht
    obtain rfl := Option.some.inj ht
    exact absurd hdue (Nat.not_le.mpr hnow)
  rcases heq with heq | heq
  · rw [heq]
    exact h.modUser_of_ne hik _
  · rw [heq]
    exact h.modUser_of_ne hik _

end Quarantined

/-- What may happen while an address is out of use: no packet gives the zero MAC, no REQUEST asks
for the address, no timer runs later than that, and the pool is not set up again. -/
def Meanwhile (till : Nat) (x : BitVec 32) (ccb : DhcpCcb) : DhcpLabel → Prop
  | .packet _ pkt => (∀ mac, pkt.GivesMac mac → mac ≠ zeroMac) ∧
      (pkt.HasMsg dhcpMsgRequest → ¬ AckAddr ccb pkt x)
  | .timer now _ => now < till
  | .applyConfig .. => False
  | .disable => False
  | _ => True

theorem Quarantined.step (h : Quarantined ccb k x till) (l : DhcpLabel)
    (hl : Meanwhile till x ccb l) : Quarantined (dhcpStep hz ccb l) k x till := by
  cases l with
  | packet now pkt => exact h.packet hl.1
  | timer now i => exact h.timerFire hl
  | applyConfig serverIp ipStart ipEnd mask => exact absurd hl id
  | dns conf => exact h.of_user_eq rfl rfl
  | onOff on => exact h.of_user_eq rfl rfl
  | disable => exact absurd hl id

/-- The automaton hands it out to nobody, unless a REQUEST asks for it. -/
theorem FsmStep.handsOut_ne {ev : DhcpEvent} {d : DhcpDone} {reply : DhcpReply}
    (hinv : DhcpInv ccb) (hq : Quarantined ccb k x till) (hi : i < ccb.perLanUserPoolLen)
    (hmac : ccb.pkt.srcMac ≠ zeroMac) (hik : i ≠ k)
    (hack : ev = .goodRequest → ccb.pkt.hdr.urClientIp ≠ x)
    (h : FsmStep hz now ccb i ev (some d)) (hreply : d.reply = some reply) :
    ¬ HandsOut reply x := by
  intro hout
  cases h with
  | noRow _ => cases hreply
  | offerFailed => cases hreply
  | offered hpick =>
      obtain rfl := Option.some.inj hreply
      obtain ⟨body, hbody, hx, -⟩ := hout
      obtain ⟨-, rfl⟩ := dhcpReply_body hbody
      have hset : ccb.Calm (setState ccb i .offerSent) := .setState ccb i (by simp)
      have hq' : Quarantined (setState ccb i .offerSent) k x till := hq.modUser_of_ne hik _
      obtain ⟨-, j, hj, hjk, hip⟩ := hq'.ne_picked hmac hpick
      have hlt : j < (setState ccb i .offerSent).perLanUserPoolLen := by
        refine lt_of_mem_tried ?_ hj
        exact hi
      refine hjk ((hinv.calm hset).ipAddr_inj hlt hq'.lt ?_)
      rw [hq'.ipAddr, ← hip]
      exact hx.symm
  | acked hev hsend =>
      obtain rfl := Option.some.inj hreply
      obtain ⟨buf, -, -, rfl⟩ := sendDhcpAck_some hsend
      obtain ⟨body, hbody, hx, -⟩ := hout
      obtain ⟨hbuf, rfl⟩ := dhcpReply_body hbody
      have hur : ((setState ccb i .ackSent).hdrAt buf).urClientIp = ccb.pkt.hdr.urClientIp := by
        simp only [DhcpCcb.hdrAt, hbuf, if_true]
        rfl
      exact hack hev (hur.symm.trans hx.symm)
  | naked hsend => exact absurd hout (Option.some.inj hreply ▸ sendDhcpNak_handsOut hsend)
  | nakReleased hsend => exact absurd hout (Option.some.inj hreply ▸ sendDhcpNak_handsOut hsend)
  | informed hsend => exact absurd hout (Option.some.inj hreply ▸ sendDhcpAckInform_handsOut hsend)
  | released => cases hreply
  | conflicted => cases hreply

/-! ### The DECLINE itself -/

/-- A client that declines an address from the entry that has it: its slot is the entry with the
address, and holds its lease of the address and no other lease. -/
structure DeclinesItsEntry (ccb : DhcpCcb) (mac : BitVec 48) (x : BitVec 32) (slot : Nat) :
    Prop where
  on : ccb.dhcpBool = true
  found : pickSlot ccb mac = some slot
  state : (ccb.user slot).state = .ackSent
  ipAddr : (ccb.user slot).ipAddr = x
  holds : (mac, x) ∈ (ccb.user slot).acked
  only : ∀ p ∈ (ccb.user slot).acked, p = (mac, x)

/-- All that a valid DECLINE does is put its sender's slot out of use. -/
theorem dhcpStep_decline {pkt : DhcpPkt} {slot : Nat} (hinv : DhcpInv ccb)
    (h : ValidDecline ccb pkt x) (hentry : DeclinesItsEntry ccb pkt.srcMac x slot) :
    dhcpStep hz ccb (.packet now pkt) =
      (setState (decodeStart (claimed hz now ccb pkt slot) slot pkt) slot .init).modUser slot
        (markIpConflicted hz now) := by
  have hslot := (isSlot_of_pickSlot hentry.found).1
  have hvalid : ValidDecline (claimed hz now ccb pkt slot) pkt x :=
    ⟨h.whole, h.long, h.cookie, h.formed, h.decline, h.only, h.noIspId, h.serverId, h.names,
      h.namesOnly, h.inSubnet⟩
  have hused : ((claimed hz now ccb pkt slot).user slot).used = true := by
    rw [claimed, DhcpCcb.user_modUser_self, (claim_kept_fields _ _ hz now).2.2.2.2.1]
    exact hinv.leased slot hentry.state
  have hdec := dhcpDecode_decline hvalid hslot hused
  have hstate : ((decodeStart (claimed hz now ccb pkt slot) slot pkt).user slot).state =
      .ackSent := by
    rw [(decodeStart_user hz now ccb pkt slot slot).1]
    exact hentry.state
  have hrow : dhcpFindRow .ackSent .decline =
      some ⟨.ackSent, .decline, .init, [.markIpConflicted]⟩ := by decide
  have hat : dhcpdAt hz now ccb pkt slot = some ⟨.toLan,
      (setState (decodeStart (claimed hz now ccb pkt slot) slot pkt) slot .init).modUser slot
        (markIpConflicted hz now), none⟩ := by
    unfold dhcpdAt
    simp only
    rw [show (ccb.modUser slot fun e => (e.claim pkt.srcMac).watch hz now) =
      claimed hz now ccb pkt slot from rfl, hdec]
    simp only [dhcpFsm, hstate, hrow, runHandlers, DhcpHandler.run]
    rfl
  show ((dhcpd hz now ccb pkt).map (·.ccb)).getD ccb = _
  have hd : dhcpd hz now ccb pkt = dhcpdAt hz now ccb pkt slot := by
    simp [dhcpd, hentry.on, h.whole, hentry.found]
  rw [hd, hat]
  rfl

/-- Every other entry is left as it was. -/
theorem dhcpStep_decline_of_ne {pkt : DhcpPkt} {slot : Nat} (hinv : DhcpInv ccb)
    (h : ValidDecline ccb pkt x) (hentry : DeclinesItsEntry ccb pkt.srcMac x slot)
    (hi : i ≠ slot) : (dhcpStep hz ccb (.packet now pkt)).user i = ccb.user i := by
  rw [dhcpStep_decline hinv h hentry, DhcpCcb.user_modUser_of_ne _ _ hi, setState,
    DhcpCcb.user_modUser_of_ne _ _ hi, decodeStart_user_of_ne hi]

/-- And the slot is out of use for six minutes. -/
theorem quarantined_decline {pkt : DhcpPkt} {slot : Nat} (hinv : DhcpInv ccb)
    (h : ValidDecline ccb pkt x) (hentry : DeclinesItsEntry ccb pkt.srcMac x slot) :
    Quarantined (dhcpStep hz ccb (.packet now pkt)) slot x (now + 360 * hz) := by
  have hslot := (isSlot_of_pickSlot hentry.found).1
  rw [dhcpStep_decline hinv h hentry]
  refine ⟨hslot, ?_, ?_, ?_, ?_, ?_, ?_⟩
  · rw [DhcpCcb.user_modUser_self]
    show ((setState (decodeStart (claimed hz now ccb pkt slot) slot pkt) slot .init).user
      slot).ipAddr = x
    rw [setState, DhcpCcb.user_modUser_self]
    exact (decodeStart_user hz now ccb pkt slot slot).2.1.trans hentry.ipAddr
  · rw [DhcpCcb.user_modUser_self]; rfl
  · rw [DhcpCcb.user_modUser_self]; rfl
  · rw [DhcpCcb.user_modUser_self]; rfl
  · rw [DhcpCcb.user_modUser_self]; rfl
  · rw [DhcpCcb.user_modUser_self]; rfl

/--
**A declined address is out of use.**  Whatever has happened since set-up, when a client
declines an address from the entry that has it, no other entry and no other lease changes;
and for six minutes, as long as no packet gives the zero MAC, no REQUEST asks for the address
and the pool is not set up again, the address is handed out to nobody.
-/
theorem declined_quarantined {ls : List DhcpLabel} {s : DhcpCcb}
    (h : DhcpRun hz (fun _ _ => True) ls s) {pkt : DhcpPkt} {slot : Nat}
    (hvalid : ValidDecline s pkt x) (hentry : DeclinesItsEntry s pkt.srcMac x slot) :
    (∀ i, (s.user i).ipAddr ≠ x →
      (dhcpStep hz s (.packet now pkt)).user i = s.user i) ∧
    (∀ n y, Holds s n y → (n, y) ≠ (pkt.srcMac, x) →
      Holds (dhcpStep hz s (.packet now pkt)) n y) ∧
    ∀ ls' t, Run (dhcpStep hz) (Meanwhile (now + 360 * hz) x)
        (dhcpStep hz s (.packet now pkt)) ls' t →
      ∀ now' pkt' reply, Meanwhile (now + 360 * hz) x t (.packet now' pkt') →
        dhcpdSends hz now' t pkt' = some reply → ¬ HandsOut reply x := by
  refine ⟨fun i hi => ?_, fun n y hholds hne => ?_, ?_⟩
  · refine dhcpStep_decline_of_ne h.inv hvalid hentry fun heq => ?_
    subst heq
    exact hi hentry.ipAddr
  · obtain ⟨i, hi⟩ := hholds
    refine ⟨i, ?_⟩
    have hother : i ≠ slot := by
      intro heq
      subst heq
      exact hne (hentry.only _ hi)
    rw [dhcpStep_decline_of_ne h.inv hvalid hentry hother]
    exact hi
  · intro ls' t hrun now' pkt' reply hl hsent
    have hafter : DhcpInv t ∧ Quarantined t slot x (now + 360 * hz) := by
      refine Run.inv (fun t => DhcpInv t ∧ Quarantined t slot x (now + 360 * hz)) ?_ hrun
        ⟨h.inv.step _, quarantined_decline h.inv hvalid hentry⟩
      intro t l ht hl
      exact ⟨ht.1.step l, ht.2.step l hl⟩
    obtain ⟨hinv, hq⟩ := hafter
    obtain ⟨slot', e, c, cur, d, hslot', hdec, hfsm, hreply⟩ := dhcpdSends_some hsent
    obtain ⟨ev, hst, hev⟩ := dhcpDecode_decoding (claimed hz now' t pkt' slot') pkt' hslot'.1
    obtain ⟨hqdec, hcur⟩ : Quarantined (dhcpDecode (claimed hz now' t pkt' slot') slot' pkt').2.1
          slot x (now + 360 * hz) ∧
        (dhcpDecode (claimed hz now' t pkt' slot') slot' pkt').2.2 ≠ slot := hq.decoded hl.1 hslot'
    rw [hdec] at hst hev hqdec hcur
    have hlt : cur < c.perLanUserPoolLen := hst.cur_lt hslot'.1
    have hcalm := (calm_decodeStart hz now' t pkt' slot').trans (.of_kept hst.kept)
    have hstep := dhcpFsm_step hz now' c cur e
    rw [hfsm] at hstep
    have hmac : c.pkt.srcMac ≠ zeroMac := by
      rw [hst.kept.srcMac]
      exact hl.1 _ (Or.inl rfl)
    refine hstep.handsOut_ne (hinv.calm hcalm) hqdec hlt hmac hcur ?_ hreply
    intro hgood hx
    obtain ⟨-, hmsg, hack⟩ := hst.good (by rw [hev e rfl, hgood])
    exact hl.2 hmsg (hx ▸ hack)

/-- A DECLINE of 192.168.1.`n`. -/
def declineMsg (n : BitVec 8) : List (BitVec 8) :=
  [53, 1, 4, 50, 4, 192, 168, 1, n, 54, 4, 192, 168, 1, 1, 255]

set_option maxRecDepth 4000 in
theorem declineMsg_valid {pkts : List DhcpPkt} {mac : BitVec 48} {n : BitVec 8}
    (hserver : (servedTo pkts).dhcpServerIp = swap32 0xc0a80101)
    (hx : (clientPkt mac 0 (declineMsg n)).optU32 3 = x)
    (hsubnet : x ≠ 0 ∧ dhcpInSubnet (servedTo pkts) x = true) :
    ValidDecline (servedTo pkts) (clientPkt mac 0 (declineMsg n)) x := by
  have hoffs : (clientPkt mac 0 (declineMsg n)).walk.offs = [0, 3, 9] := rfl
  have hopt : ∀ t off, (clientPkt mac 0 (declineMsg n)).HasOpt t off →
      (off = 0 ∧ t = 53) ∨ (off = 3 ∧ t = 50) ∨ (off = 9 ∧ t = 54) := by
    intro t off ⟨hoff, hty⟩
    rw [hoffs] at hoff
    simp only [List.mem_cons, List.not_mem_nil, or_false] at hoff
    rcases hoff with rfl | rfl | rfl
    · exact Or.inl ⟨rfl, hty.symm⟩
    · exact Or.inr (Or.inl ⟨rfl, hty.symm⟩)
    · exact Or.inr (Or.inr ⟨rfl, hty.symm⟩)
  have hmem : 0 ∈ (clientPkt mac 0 (declineMsg n)).walk.offs ∧
      3 ∈ (clientPkt mac 0 (declineMsg n)).walk.offs ∧
      9 ∈ (clientPkt mac 0 (declineMsg n)).walk.offs := by
    rw [hoffs]
    simp
  have hlong : udpHdrLen + dhcpHdrLen ≤ (BitVec.ofNat 16 264).toNat := by decide
  refine ⟨rfl, hlong, swap32_swap32 _, rfl, ⟨0, ⟨hmem.1, rfl⟩, rfl⟩, ?_, ?_, ?_, ?_, ?_, hsubnet⟩
  · intro t ⟨off, hoff, hval⟩
    rcases hopt _ _ hoff with ⟨rfl, -⟩ | ⟨-, hty⟩ | ⟨-, hty⟩
    · exact hval.symm
    · exact absurd hty (by decide)
    · exact absurd hty (by decide)
  · intro off hoff
    rcases hopt _ _ hoff with ⟨-, hty⟩ | ⟨-, hty⟩ | ⟨-, hty⟩
    · exact absurd hty (by decide)
    · exact absurd hty (by decide)
    · exact absurd hty (by decide)
  · exact ⟨9, ⟨hmem.2.2, rfl⟩, rfl, hserver.symm⟩
  · exact ⟨3, hmem.2.1, rfl⟩
  · intro off hoff
    rcases hopt _ _ hoff with ⟨-, hty⟩ | ⟨rfl, -⟩ | ⟨-, hty⟩
    · exact absurd hty (by decide)
    · exact ⟨rfl, hx⟩
    · exact absurd hty (by decide)

/-- A client declines the first address of the window, and the next client, which asks for
another, is not given it. -/
theorem declined_quarantined_first :
    ∃ reply, dhcpdSends 1 2 (dhcpStep 1 (servedTo [clientPkt 1 0 (askFor 2)])
        (.packet 1 (clientPkt 1 0 (declineMsg 2)))) (clientPkt 2 0 (askFor 3)) = some reply ∧
      ¬ HandsOut reply (swap32 0xc0a80102) := by
  obtain ⟨reply, hsent⟩ := Option.isSome_iff_exists.mp
    (show (dhcpdSends 1 2 (dhcpStep 1 (servedTo [clientPkt 1 0 (askFor 2)])
      (.packet 1 (clientPkt 1 0 (declineMsg 2)))) (clientPkt 2 0 (askFor 3))).isSome = true
      by decide)
  have hvalid : ValidDecline (servedTo [clientPkt 1 0 (askFor 2)])
      (clientPkt 1 0 (declineMsg 2)) (swap32 0xc0a80102) :=
    declineMsg_valid (by decide) (by decide) ⟨by decide, by decide⟩
  have hentry : DeclinesItsEntry (servedTo [clientPkt 1 0 (askFor 2)]) 1 (swap32 0xc0a80102) 0 := by
    have hacked : ((servedTo [clientPkt 1 0 (askFor 2)]).user 0).acked =
        [(1, swap32 0xc0a80102)] := by decide
    refine ⟨by decide, by decide, by decide, by decide, by decide, ?_⟩
    intro p hp
    rw [hacked] at hp
    exact List.mem_singleton.mp hp
  refine ⟨reply, hsent, ?_⟩
  refine (declined_quarantined (run_servedTo _) hvalid hentry).2.2 [] _ .nil 2 _ reply ?_
    hsent
  have hoffs : (clientPkt 2 0 (askFor 3)).walk.offs = [0, 3] := by decide
  refine ⟨?_, ?_⟩
  · intro mac hmac
    rcases hmac with rfl | ⟨off, ⟨hoff, hty⟩, -⟩
    · decide
    · rw [hoffs] at hoff
      simp only [List.mem_cons, List.not_mem_nil, or_false] at hoff
      rcases hoff with rfl | rfl
      · exact absurd hty (by decide)
      · exact absurd hty (by decide)
  · intro _ hack
    rcases hack with ⟨⟨hci, -⟩ | ⟨off, ⟨hoff, hty⟩, hip⟩, -⟩ | ⟨hnone, -⟩
    · exact absurd rfl hci
    · rw [hoffs] at hoff
      simp only [List.mem_cons, List.not_mem_nil, or_false] at hoff
      rcases hoff with rfl | rfl
      · exact absurd hty (by decide)
      · exact absurd hip (by decide)
    · exact absurd ⟨by decide, by decide⟩ (hnone.2 3)

/-- A client declines its address, and the next client asks for it and is acknowledged it.  And
when a client has been acknowledged another address than its slot's, its DECLINE puts the slot's
address out of use. -/
theorem not_declined_quarantined :
    (∃ s reply, DhcpRun 1 (fun _ _ => True) (served [clientPkt 1 0 (askFor 2)]) s ∧
      ValidDecline s (clientPkt 1 0 (declineMsg 2)) (swap32 0xc0a80102) ∧
      Holds s 1 (swap32 0xc0a80102) ∧
      dhcpdSends 1 2 (dhcpStep 1 s (.packet 1 (clientPkt 1 0 (declineMsg 2))))
        (clientPkt 2 0 (askFor 2)) = some reply ∧
      HandsOut reply (swap32 0xc0a80102)) ∧
    ∃ s, DhcpRun 1 (fun _ _ => True) (served [clientPkt 1 0 (askFor 5)]) s ∧
      ValidDecline s (clientPkt 1 0 (declineMsg 5)) (swap32 0xc0a80105) ∧
      Holds s 1 (swap32 0xc0a80105) ∧
      Quarantined (dhcpStep 1 s (.packet 1 (clientPkt 1 0 (declineMsg 5)))) 0
        (swap32 0xc0a80102) 361 := by
  obtain ⟨reply, hsent⟩ := Option.isSome_iff_exists.mp
    (show (dhcpdSends 1 2 (dhcpStep 1 (servedTo [clientPkt 1 0 (askFor 2)])
      (.packet 1 (clientPkt 1 0 (declineMsg 2)))) (clientPkt 2 0 (askFor 2))).isSome = true
      by decide)
  refine ⟨⟨_, reply, run_servedTo _, ?_, ⟨0, by decide⟩, hsent, ?_⟩, _, run_servedTo _, ?_,
    ⟨0, by decide⟩, ?_⟩
  · exact declineMsg_valid (by decide) (by decide) ⟨by decide, by decide⟩
  · have hbody : (dhcpdSends 1 2 (dhcpStep 1 (servedTo [clientPkt 1 0 (askFor 2)])
        (.packet 1 (clientPkt 1 0 (declineMsg 2)))) (clientPkt 2 0 (askFor 2))).bind (·.body) =
        some ⟨.ack, 0, swap32 0xc0a80102, swap32 0xc0a80101, leaseOpts (servedTo [])⟩ := by
      decide
    rw [hsent] at hbody
    refine ⟨_, hbody, rfl, Or.inr ⟨rfl, ?_⟩⟩
    simp [leaseOpts]
  · exact declineMsg_valid (by decide) (by decide) ⟨by decide, by decide⟩
  · refine ⟨?_, ?_, ?_, ?_, ?_, ?_, ?_⟩
    · decide
    · decide
    · decide
    · decide
    · decide
    · decide
    · decide

end FastRG
