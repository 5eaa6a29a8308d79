/-
DHCP options and their grammar.

The grammar has two options of one byte, padding and the end marker; every other option is a
type, a length and a value.  The loops of the decoder know the end marker only, and look at a
type or a length before they look whether it is there.  `OptTurn.ByGrammar` is what the
grammar asks of one turn of a loop, and `OptWalk.Plain` when all turns of a loop meet it: the
loop comes to no padding, and ends inside the area.  `PlainOptions` is the same for all the
loops that decoding a packet runs.
-/
import FastRG.DhcpOptions
import FastRG.Proofs.DhcpCoherent

namespace FastRG

variable {ccb : DhcpCcb} {pkt : DhcpPkt} {stop : Nat → Bool} {off own : Nat}

/-! ### Turns -/

/-- The option of one byte that means nothing. -/
def dhcpOptPad : BitVec 8 := 0

/-- What the grammar asks of a turn: it reads the area only, takes padding for one byte and goes
on behind it, and does not go on from the end marker. -/
@[mk_iff] structure OptTurn.ByGrammar (pkt : DhcpPkt) (t : OptTurn) : Prop where
  inside : ∀ i ∈ t.reads, i < pkt.fieldLen
  pad : t.off < pkt.fieldLen → pkt.opt t.off = dhcpOptPad → t.next = some (t.off + 1)
  fin : t.off < pkt.fieldLen → pkt.opt t.off = dhcpOptEnd → t.next = none

/-- What a walk that starts at an offset is. -/
inductive OptWalk.From (pkt : DhcpPkt) : Nat → OptWalk → Prop
  | done {off : Nat} (h : pkt.opt off = dhcpOptEnd ∨ pkt.fieldLen ≤ off) : From pkt off .done
  | malformed {off : Nat} (hty : pkt.opt off ≠ dhcpOptEnd) (hlt : off < pkt.fieldLen)
      (hlen : pkt.fieldLen < off + 2 + pkt.optLen off) : From pkt off .malformed
  | opt {off : Nat} {rest : OptWalk} (hty : pkt.opt off ≠ dhcpOptEnd)
      (hlen : off + 2 + pkt.optLen off ≤ pkt.fieldLen)
      (h : From pkt (off + 2 + pkt.optLen off) rest) : From pkt off (.opt off rest)

theorem DhcpPkt.walkFrom_from (pkt : DhcpPkt) {fuel off : Nat} (h : pkt.fieldLen ≤ fuel + off) :
    OptWalk.From pkt off (pkt.walkFrom fuel off) := by
  induction fuel generalizing off with
  | zero => exact .done (Or.inr (by omega))
  | succ fuel ih =>
      unfold walkFrom
      by_cases hend : pkt.opt off = dhcpOptEnd ∨ pkt.fieldLen ≤ off
      · rw [if_pos hend]
        exact .done hend
      rw [if_neg hend]
      obtain ⟨hty, hlt⟩ := not_or.mp hend
      by_cases hlen : off + pkt.optLen off + 2 > pkt.fieldLen
      · rw [if_pos hlen]
        exact .malformed hty (by omega) (by omega)
      · rw [if_neg hlen]
        exact .opt hty (by omega) (ih (by omega))

theorem DhcpPkt.exists_from (pkt : DhcpPkt) (off : Nat) : ∃ w, OptWalk.From pkt off w := by
  obtain ⟨fuel, hfuel⟩ : ∃ fuel, pkt.fieldLen ≤ fuel + off := ⟨pkt.fieldLen, by omega⟩
  exact ⟨_, pkt.walkFrom_from hfuel⟩

theorem DhcpPkt.walk_from (pkt : DhcpPkt) : OptWalk.From pkt 0 pkt.walk :=
  pkt.walkFrom_from (by omega)

/-- A walk leads to one result only. -/
theorem OptWalk.From.unique {w w' : OptWalk} (h : OptWalk.From pkt off w)
    (h' : OptWalk.From pkt off w') : w = w' := by
  induction h generalizing w' with
  | done hend =>
      cases h' with
      | done _ => rfl
      | malformed hty hlt _ => rcases hend with heq | hge <;> [exact absurd heq hty; omega]
      | opt hty hlen _ => rcases hend with heq | hge <;> [exact absurd heq hty; omega]
  | malformed hty hlt hlen =>
      cases h' with
      | done hend => rcases hend with heq | hge <;> [exact absurd heq hty; omega]
      | malformed _ _ _ => rfl
      | opt _ hlen' _ => omega
  | opt hty hlen _ ih =>
      cases h' with
      | done hend => rcases hend with heq | hge <;> [exact absurd heq hty; omega]
      | malformed _ _ hlen' => omega
      | opt _ _ hrest => rw [ih hrest]

/-- More turns than there are bytes change nothing: a walk ends by itself. -/
theorem DhcpPkt.walkFrom_of_le (pkt : DhcpPkt) {fuel : Nat} (h : pkt.fieldLen ≤ fuel) :
    pkt.walkFrom fuel 0 = pkt.walk :=
  (pkt.walkFrom_from h).unique pkt.walk_from

/-! ### Loops that read by the grammar -/

/-- A loop comes to no padding before it ends, and ends at an option, at the end marker, or at an
option too long whose type and length are there. -/
def OptWalk.Plain (pkt : DhcpPkt) (stop : Nat → Bool) : Nat → OptWalk → Prop
  | off, .done => off < pkt.fieldLen
  | off, .malformed => off + 1 < pkt.fieldLen ∧ pkt.opt off ≠ dhcpOptPad
  | _, .opt off rest => pkt.opt off ≠ dhcpOptPad ∧
      (stop off = true ∨ rest.Plain pkt stop (off + 2 + pkt.optLen off))

/-- The last turn of a loop that ends at no option. -/
theorem byGrammar_done (h : OptWalk.From pkt off .done) :
    (OptTurn.ByGrammar pkt ⟨off, [off], none⟩) ↔ off < pkt.fieldLen := by
  refine ⟨fun ht => ht.inside off (by simp), fun hlt => ⟨by simpa using hlt, fun _ hpad => ?_,
    fun _ _ => rfl⟩⟩
  cases h with
  | done hend =>
      rcases hend with heq | hge
      · rw [heq] at hpad
        exact absurd hpad (by decide)
      · exact absurd hlt (Nat.not_lt.mpr hge)

theorem byGrammar_malformed (h : OptWalk.From pkt off .malformed) :
    (OptTurn.ByGrammar pkt ⟨off, [off, off + 1], none⟩) ↔
      off + 1 < pkt.fieldLen ∧ pkt.opt off ≠ dhcpOptPad := by
  refine ⟨fun ht => ⟨ht.inside (off + 1) (by simp), fun hpad => ?_⟩, fun ⟨hlt, hne⟩ => ⟨?_,
    fun _ hpad => absurd hpad hne, fun _ _ => rfl⟩⟩
  · have hnext := ht.pad (ht.inside off (by simp)) hpad
    cases hnext
  · intro i hi
    simp only [List.mem_cons, List.not_mem_nil, or_false] at hi
    rcases hi with rfl | rfl
    · omega
    · exact hlt

/-- A turn at an option, from which a loop goes on behind it if at all. -/
theorem byGrammar_opt {vals : List Nat} {next : Option Nat} (hty : pkt.opt off ≠ dhcpOptEnd)
    (hlen : off + 2 + pkt.optLen off ≤ pkt.fieldLen)
    (hvals : ∀ i ∈ vals, i < pkt.fieldLen)
    (hnext : next = none ∨ next = some (off + 2 + pkt.optLen off)) :
    (OptTurn.ByGrammar pkt ⟨off, off :: (off + 1) :: vals, next⟩) ↔
      pkt.opt off ≠ dhcpOptPad := by
  refine ⟨fun ht hpad => ?_, fun hne => ⟨?_, fun _ hpad => absurd hpad hne,
    fun _ hend => absurd hend hty⟩⟩
  · have hlt : off < pkt.fieldLen := by omega
    have hone := ht.pad hlt hpad
    rcases hnext with rfl | rfl
    · cases hone
    · have heq := Option.some.inj hone
      simp only at heq
      omega
  · intro i hi
    simp only [List.mem_cons] at hi
    rcases hi with rfl | rfl | hi
    · omega
    · omega
    · exact hvals i hi

/-- All turns of a loop, together. -/
theorem turns_byGrammar_iff {vals : Nat → List Nat} {w : OptWalk} (h : OptWalk.From pkt off w)
    (hvals : ∀ o, ∀ i ∈ vals o, i < o + 2 + pkt.optLen o) :
    (∀ t ∈ w.turns pkt stop vals off, t.ByGrammar pkt) ↔ w.Plain pkt stop off := by
  induction h with
  | done hend =>
      rw [OptWalk.turns, List.forall_mem_singleton]
      exact byGrammar_done (.done hend)
  | malformed hty hlt hlen =>
      rw [OptWalk.turns, List.forall_mem_singleton]
      exact byGrammar_malformed (.malformed hty hlt hlen)
  | @opt off rest hty hlen _ ih =>
      have hin : ∀ i ∈ vals off, i < pkt.fieldLen := fun i hi =>
        Nat.lt_of_lt_of_le (hvals off i hi) hlen
      unfold OptWalk.turns OptWalk.Plain
      by_cases hs : stop off = true
      · simp only [hs, if_true, List.forall_mem_singleton, true_or, and_true]
        exact byGrammar_opt hty hlen hin (Or.inl rfl)
      · simp only [hs, if_false, Bool.false_eq_true, false_or, List.forall_mem_cons]
        rw [byGrammar_opt hty hlen hin (Or.inr rfl), ih]

/-! ### The packet's condition -/

/-- The loop of `decode_request` reads by the grammar, if it comes to that: with `ciaddr` as it
stands when the message type is read. -/
def RequestPlain (ccb : DhcpCcb) (ci : BitVec 32) : Prop :=
  if ci ≠ rteIpv4Any then
    dhcpIpAcceptable ccb ci = true → ccb.pkt.walk.Plain ccb.pkt (renewStop ccb) 0
  else ccb.pkt.walk.Plain ccb.pkt (selectStop ccb) 0

/-- So do the loops that a message type leads to. -/
def MsgPlain (ccb : DhcpCcb) (ci : BitVec 32) (msgType : BitVec 8) : Prop :=
  (msgType = dhcpMsgRequest → RequestPlain ccb ci) ∧
    (msgType = dhcpMsgDecline → ccb.pkt.walk.Plain ccb.pkt declineStop 0)

/-- What a message type leaves in `ciaddr`: a REQUEST clears it, once it has been accepted. -/
def nextClientIp (ccb : DhcpCcb) (ci : BitVec 32) (msgType : BitVec 8) : BitVec 32 :=
  if msgType = dhcpMsgRequest ∧ dhcpIpAcceptable ccb ci = true then rteIpv4Any else ci

/-- `dhcp_decode`'s loop, with the loops inside it. -/
def PlainFrom (ccb : DhcpCcb) : BitVec 32 → Nat → OptWalk → Prop
  | _, off, .done => off < ccb.pkt.fieldLen
  | _, off, .malformed => off + 1 < ccb.pkt.fieldLen ∧ ccb.pkt.opt off ≠ dhcpOptPad
  | ci, _, .opt off rest => ccb.pkt.opt off ≠ dhcpOptPad ∧
      (ccb.pkt.opt off ≠ dhcpOptIspId →
        if ccb.pkt.opt off = dhcpOptMsgType then
          MsgPlain ccb ci (ccb.pkt.optVal off 0) ∧
            PlainFrom ccb (nextClientIp ccb ci (ccb.pkt.optVal off 0))
              (off + 2 + ccb.pkt.optLen off) rest
        else PlainFrom ccb ci (off + 2 + ccb.pkt.optLen off) rest)

/-- The packet is short of a header, is no DHCP, or all loops over it read by the grammar. -/
def PlainOptions (ccb : DhcpCcb) (own : Nat) (pkt : DhcpPkt) : Prop :=
  pkt.dgramLen.toNat < udpHdrLen + dhcpHdrLen ∨
    swap32 pkt.hdr.magicCookie ≠ dhcpMagicCookie ∨
    PlainFrom (decodeStart ccb own pkt) pkt.hdr.clientIp 0 pkt.walk

/-! ### When all loops read by the grammar -/

theorem renewVals_lt (ccb : DhcpCcb) (o : Nat) :
    ∀ i ∈ renewVals ccb o, i < o + 2 + ccb.pkt.optLen o := by
  intro i hi
  unfold renewVals at hi
  by_cases hsrv : ccb.pkt.opt o = dhcpOptServerId ∧ ccb.pkt.optLen o = 4
  · rw [if_pos hsrv, List.mem_range'_1] at hi
    rw [hsrv.2]
    exact hi.2
  · rw [if_neg hsrv] at hi
    simp at hi

theorem selectVals_lt (ccb : DhcpCcb) (o : Nat) :
    ∀ i ∈ selectVals ccb o, i < o + 2 + ccb.pkt.optLen o := by
  intro i hi
  unfold selectVals at hi
  by_cases hcid : ccb.pkt.opt o = dhcpOptClientId
  · rw [if_pos hcid] at hi
    by_cases hlen : ccb.pkt.optLen o < 7
    · rw [if_pos hlen] at hi
      simp at hi
    rw [if_neg hlen] at hi
    by_cases hhw : ccb.pkt.optVal o 0 ≠ dhcpHwTypeEthernet
    · rw [if_pos hhw, List.mem_singleton] at hi
      omega
    · rw [if_neg hhw, List.mem_range'_1] at hi
      omega
  rw [if_neg hcid] at hi
  by_cases haddr : (ccb.pkt.opt o = dhcpOptRequestIp ∨ ccb.pkt.opt o = dhcpOptServerId) ∧
      ccb.pkt.optLen o = 4
  · rw [if_pos haddr, List.mem_range'_1] at hi
    omega
  · rw [if_neg haddr] at hi
    simp at hi

theorem declineVals_lt (ccb : DhcpCcb) (o : Nat) :
    ∀ i ∈ declineVals ccb o, i < o + 2 + ccb.pkt.optLen o := by
  intro i hi
  unfold declineVals at hi
  by_cases haddr : (ccb.pkt.opt o = dhcpOptServerId ∨ ccb.pkt.opt o = dhcpOptRequestIp) ∧
      ccb.pkt.optLen o = 4
  · rw [if_pos haddr, List.mem_range'_1] at hi
    omega
  · rw [if_neg haddr] at hi
    simp at hi

theorem requestTurns_byGrammar_iff (ccb : DhcpCcb) :
    (∀ t ∈ requestTurns ccb, t.ByGrammar ccb.pkt) ↔ RequestPlain ccb ccb.pkt.hdr.clientIp := by
  unfold requestTurns RequestPlain
  by_cases hci : ccb.pkt.hdr.clientIp ≠ rteIpv4Any
  · rw [if_pos hci, if_pos hci]
    by_cases hacc : dhcpIpAcceptable ccb ccb.pkt.hdr.clientIp = true
    · rw [if_neg (not_not.mpr hacc)]
      have hiff : (∀ t ∈ ccb.pkt.walk.turns ccb.pkt (renewStop ccb) (renewVals ccb) 0,
          t.ByGrammar ccb.pkt) ↔ ccb.pkt.walk.Plain ccb.pkt (renewStop ccb) 0 :=
        turns_byGrammar_iff ccb.pkt.walk_from (renewVals_lt ccb)
      rw [hiff]
      exact ⟨fun h _ => h, fun h => h hacc⟩
    · rw [if_pos hacc]
      exact ⟨fun _ h => absurd h hacc, fun _ => by simp⟩
  · rw [if_neg hci, if_neg hci]
    exact turns_byGrammar_iff ccb.pkt.walk_from (selectVals_lt ccb)

theorem msgTurns_byGrammar_iff (ccb : DhcpCcb) (msgType : BitVec 8) :
    (∀ t ∈ msgTurns ccb msgType, t.ByGrammar ccb.pkt) ↔
      MsgPlain ccb ccb.pkt.hdr.clientIp msgType := by
  unfold msgTurns MsgPlain
  by_cases hreq : msgType = dhcpMsgRequest
  · have hne : msgType ≠ dhcpMsgDecline := by rw [hreq]; decide
    rw [if_pos hreq, requestTurns_byGrammar_iff]
    exact ⟨fun h => ⟨fun _ => h, fun hd => absurd hd hne⟩, fun h => h.1 hreq⟩
  rw [if_neg hreq]
  by_cases hdecl : msgType = dhcpMsgDecline
  · rw [if_pos hdecl]
    have hiff : (∀ t ∈ ccb.pkt.walk.turns ccb.pkt declineStop (declineVals ccb) 0,
        t.ByGrammar ccb.pkt) ↔ ccb.pkt.walk.Plain ccb.pkt declineStop 0 :=
      turns_byGrammar_iff ccb.pkt.walk_from (declineVals_lt ccb)
    rw [declineTurns, hiff]
    exact ⟨fun h => ⟨fun hr => absurd hr hreq, fun _ => h⟩, fun h => h.2 hdecl⟩
  · rw [if_neg hdecl]
    exact ⟨fun _ => ⟨fun hr => absurd hr hreq, fun hd => absurd hd hdecl⟩, fun _ => by simp⟩

/-- What decoding changes is nothing that these conditions are about. -/
theorem DhcpCcb.Kept.msgPlain_iff {s : DhcpCcb} (h : s.Kept own ccb) (ci : BitVec 32)
    (msgType : BitVec 8) : MsgPlain ccb ci msgType ↔ MsgPlain s ci msgType := by
  have hwalk := h.walk
  have hacc : dhcpIpAcceptable ccb = dhcpIpAcceptable s := funext fun ip => h.acceptable ip
  have hsrv := h.serverIp
  obtain ⟨hdr, hpkt, -⟩ := h.opts
  have hrenew : renewStop ccb = renewStop s := by
    funext o
    simp only [renewStop, hpkt]
  have hselect : selectStop ccb = selectStop s := by
    funext o
    simp only [selectStop, h.opt, h.optLen, h.optVal, h.optU32, hacc, hsrv]
  have hplain : ∀ (stop : Nat → Bool) (off : Nat) (w : OptWalk),
      w.Plain ccb.pkt stop off ↔ w.Plain s.pkt stop off := by
    intro stop off w
    rw [hpkt]
    induction w generalizing off with
    | done => exact Iff.rfl
    | malformed => exact Iff.rfl
    | opt o rest ih =>
        unfold OptWalk.Plain
        rw [ih]
        exact Iff.rfl
  simp only [MsgPlain, RequestPlain, hrenew, hselect, hplain, hwalk, hacc]

/-- The header's `ciaddr`, after a message type. -/
theorem decodeMsgType_clientIp (own : Nat) (st : DecodeSt) (msgType : BitVec 8) :
    (decodeMsgType own st msgType).ccb.pkt.hdr.clientIp =
      nextClientIp st.ccb st.ccb.pkt.hdr.clientIp msgType := by
  rw [(decodeMsgType_scan own st msgType).pkt]
  unfold nextClientIp
  by_cases hreq : msgType = dhcpMsgRequest
  · rw [if_pos hreq]
    simp only [hreq, true_and]
    unfold requestScan
    by_cases hci : st.ccb.pkt.hdr.clientIp = rteIpv4Any
    · simp only [hci, ne_eq, not_true_eq_false, if_false, ite_self]
      rfl
    by_cases hacc : dhcpIpAcceptable st.ccb st.ccb.pkt.hdr.clientIp = true
    · simp only [hci, hacc, ne_eq, not_false_eq_true, not_true_eq_false, if_true, if_false]
      rfl
    · simp only [hci, hacc, ne_eq, not_false_eq_true, if_true, Bool.false_eq_true, if_false]
  · rw [if_neg hreq, if_neg fun h => hreq h.1]

theorem DhcpCcb.Kept.fieldLen {s : DhcpCcb} (h : s.Kept own ccb) :
    ccb.pkt.fieldLen = s.pkt.fieldLen := by
  obtain ⟨hdr, hpkt, -⟩ := h.opts
  rw [hpkt]
  rfl

/-- A loop that reads by the grammar starts inside the area. -/
theorem PlainFrom.lt {ci : BitVec 32} {w : OptWalk} (h : PlainFrom ccb ci off w)
    (hw : OptWalk.From ccb.pkt off w) : off < ccb.pkt.fieldLen := by
  cases hw with
  | done _ => exact h
  | malformed _ hlt _ => exact hlt
  | opt _ hlen _ => omega

/-- The turns of decoding a packet that found the pool as `s`. -/
theorem decodeTurns_byGrammar_iff {s : DhcpCcb} {st : DecodeSt} {w : OptWalk}
    (hkept : s.Kept own st.ccb) (h : OptWalk.From s.pkt off w) :
    (∀ t ∈ decodeTurns own st off w, t.ByGrammar s.pkt) ↔
      PlainFrom s st.ccb.pkt.hdr.clientIp off w := by
  induction h generalizing st with
  | done hend =>
      rw [decodeTurns, List.forall_mem_singleton]
      exact byGrammar_done (.done hend)
  | malformed hty hlt hlen =>
      rw [decodeTurns, List.forall_mem_singleton]
      exact byGrammar_malformed (.malformed hty hlt hlen)
  | @opt off rest hty hlen hrest ih =>
      unfold decodeTurns PlainFrom
      simp only [hkept.opt, hkept.optLen, hkept.optVal]
      by_cases hisp : s.pkt.opt off = dhcpOptIspId
      · rw [if_pos hisp, List.forall_mem_singleton, byGrammar_opt hty hlen (by simp) (Or.inl rfl)]
        exact ⟨fun h => ⟨h, fun hne => absurd hisp hne⟩, fun h => h.1⟩
      rw [if_neg hisp]
      by_cases hmsg : s.pkt.opt off = dhcpOptMsgType
      · have hkept' := hkept.trans (decodeMsgType_step own st (s.pkt.optVal off 0)).kept
        have hmsgs : (∀ t ∈ msgTurns st.ccb (s.pkt.optVal off 0), t.ByGrammar s.pkt) ↔
            MsgPlain s st.ccb.pkt.hdr.clientIp (s.pkt.optVal off 0) := by
          rw [← hkept.msgPlain_iff, ← msgTurns_byGrammar_iff]
          have hopt : st.ccb.pkt.opt = s.pkt.opt := funext fun o => hkept.opt o
          simp only [OptTurn.byGrammar_iff, hopt, hkept.fieldLen]
        have hacc : dhcpIpAcceptable st.ccb = dhcpIpAcceptable s :=
          funext fun ip => hkept.acceptable ip
        have hnext := ih hkept'
        rw [decodeMsgType_clientIp, nextClientIp, hacc, ← nextClientIp] at hnext
        rw [if_pos hmsg, if_pos hmsg, List.forall_mem_cons, List.forall_mem_append, hmsgs, hnext]
        refine ⟨fun ⟨ht, hm, hr⟩ => ?_, fun ⟨hpad, hgo⟩ => ?_⟩
        · have hin : ∀ i ∈ [off + 2], i < s.pkt.fieldLen := fun i hi =>
            ht.inside i (List.mem_cons_of_mem off (List.mem_cons_of_mem (off + 1) hi))
          exact ⟨(byGrammar_opt hty hlen hin (Or.inr rfl)).mp ht, fun _ => ⟨hm, hr⟩⟩
        · -- the value's first byte is inside because the loop goes on inside
          obtain ⟨hm, hr⟩ := hgo hisp
          have hlt := hr.lt hrest
          have hin : ∀ i ∈ [off + 2], i < s.pkt.fieldLen := by
            intro i hi
            rw [List.mem_singleton] at hi
            omega
          exact ⟨(byGrammar_opt hty hlen hin (Or.inr rfl)).mpr hpad, hm, hr⟩
      · rw [if_neg hmsg, if_neg hmsg, List.forall_mem_cons,
          byGrammar_opt hty hlen (by simp) (Or.inr rfl), ih hkept]
        exact ⟨fun h => ⟨h.1, fun _ => h.2⟩, fun h => ⟨h.1, h.2 hisp⟩⟩

theorem dhcpDecodeTurns_byGrammar_iff (ccb : DhcpCcb) (own : Nat) (pkt : DhcpPkt) :
    (∀ t ∈ dhcpDecodeTurns ccb own pkt, t.ByGrammar pkt) ↔ PlainOptions ccb own pkt := by
  unfold dhcpDecodeTurns PlainOptions
  by_cases hlen : pkt.dgramLen.toNat < udpHdrLen + dhcpHdrLen
  · rw [if_pos hlen]
    exact ⟨fun _ => Or.inl hlen, fun _ => by simp⟩
  by_cases hcookie : swap32 pkt.hdr.magicCookie ≠ dhcpMagicCookie
  · rw [if_neg hlen, if_pos hcookie]
    exact ⟨fun _ => Or.inr (Or.inl hcookie), fun _ => by simp⟩
  · rw [if_neg hlen, if_neg hcookie]
    have hkept : (decodeStart ccb own pkt).Kept own (decodeStart ccb own pkt) := .refl own _
    have hwalk : OptWalk.From (decodeStart ccb own pkt).pkt 0 pkt.walk := pkt.walk_from
    have hiff : (∀ t ∈ decodeTurns own ⟨decodeStart ccb own pkt, own, none⟩ 0 pkt.walk,
        t.ByGrammar pkt) ↔ PlainFrom (decodeStart ccb own pkt) pkt.hdr.clientIp 0 pkt.walk :=
      decodeTurns_byGrammar_iff hkept hwalk
    exact hiff.trans ⟨fun h => Or.inr (Or.inr h), fun h => (h.resolve_left hlen).resolve_left hcookie⟩

end FastRG
