/-
DHCP options with padding between them.

Padding may stand between any two options and means nothing.  Padding that a loop of the
decoder does not come to makes no difference to it: up to where the loop ends, the walks over
the packet with the padding and over the one without it are the same, which is
`OptWalk.Agree`.  Padding that it does come to is read as an option with a length.  So a
packet is read by the grammar exactly when its options are `PlainOptions`, and then like every
packet that it is with padding put in.
-/
import FastRG.Proofs.DhcpGrammar

namespace FastRG

variable {ccb : DhcpCcb} {pkt pkt₀ : DhcpPkt} {stop : Nat → Bool} {off own : Nat}

/-! ### Padding -/

/-- The bytes of the option area from an offset on. -/
def DhcpPkt.area (pkt : DhcpPkt) (off : Nat) : List (BitVec 8) :=
  (List.range (pkt.fieldLen - off)).map fun i => pkt.opt (off + i)

/-- The second area is the first with padding put between its options. -/
inductive Padded : List (BitVec 8) → List (BitVec 8) → Prop
  | same (a : List (BitVec 8)) : Padded a a
  | pad {a b : List (BitVec 8)} (h : Padded a b) : Padded a (dhcpOptPad :: b)
  | keep {a b : List (BitVec 8)} (h : Padded a b) : Padded (dhcpOptPad :: a) (dhcpOptPad :: b)
  | opt {t l : BitVec 8} {v a b : List (BitVec 8)} (hpad : t ≠ dhcpOptPad) (hend : t ≠ dhcpOptEnd)
      (hlen : v.length = l.toNat) (h : Padded a b) :
      Padded (t :: l :: (v ++ a)) (t :: l :: (v ++ b))

namespace Padded

variable {a b c v : List (BitVec 8)} {t l : BitVec 8}

/-- What is no padding was there before. -/
theorem head (h : Padded a (t :: b)) (ht : t ≠ dhcpOptPad) : ∃ a', a = t :: a' := by
  cases h with
  | same => exact ⟨b, rfl⟩
  | pad _ => exact absurd rfl ht
  | keep _ => exact absurd rfl ht
  | opt _ _ _ _ => exact ⟨_, rfl⟩

/-- An option that is all there was there before, and the padding comes behind it. -/
theorem opt_inv (h : Padded a (t :: l :: (v ++ c))) (ht : t ≠ dhcpOptPad)
    (hlen : v.length = l.toNat) : ∃ c₀, a = t :: l :: (v ++ c₀) ∧ Padded c₀ c := by
  generalize hb : t :: l :: (v ++ c) = b at h
  cases h with
  | same => exact ⟨c, hb.symm, .same c⟩
  | pad _ => exact absurd (List.cons.inj hb).1 ht
  | keep _ => exact absurd (List.cons.inj hb).1 ht
  | opt _ _ hlen' h =>
      simp only [List.cons.injEq] at hb
      obtain ⟨rfl, rfl, hvb⟩ := hb
      obtain ⟨rfl, rfl⟩ := List.append_inj hvb (hlen.trans hlen'.symm)
      exact ⟨_, rfl, h⟩

/-- Where an option is cut short there is no padding any more. -/
theorem short_inv (h : Padded a (t :: l :: c)) (ht : t ≠ dhcpOptPad) (hlen : c.length < l.toNat) :
    a = t :: l :: c := by
  generalize hb : t :: l :: c = b at h
  cases h with
  | same => rfl
  | pad _ => exact absurd (List.cons.inj hb).1 ht
  | keep _ => exact absurd (List.cons.inj hb).1 ht
  | opt _ _ hlen' _ =>
      simp only [List.cons.injEq] at hb
      obtain ⟨rfl, rfl, rfl⟩ := hb
      rw [List.length_append] at hlen
      omega

end Padded

namespace DhcpPkt

theorem area_length (pkt : DhcpPkt) (off : Nat) : (pkt.area off).length = pkt.fieldLen - off := by
  simp [area]

theorem area_getElem? (pkt : DhcpPkt) {off i : Nat} (h : off + i < pkt.fieldLen) :
    (pkt.area off)[i]? = some (pkt.opt (off + i)) := by
  have hi : i < pkt.fieldLen - off := by omega
  simp [area, hi]

theorem area_add (pkt : DhcpPkt) {off n : Nat} (h : off + n ≤ pkt.fieldLen) :
    pkt.area off = ((List.range n).map fun i => pkt.opt (off + i)) ++ pkt.area (off + n) := by
  have hsplit : pkt.fieldLen - off = n + (pkt.fieldLen - (off + n)) := by omega
  unfold area
  rw [hsplit, List.range_add, List.map_append, List.map_map]
  congr 1
  refine List.map_congr_left fun i _ => ?_
  simp only [Function.comp_apply, Nat.add_assoc]

theorem area_cons (pkt : DhcpPkt) {off : Nat} (h : off < pkt.fieldLen) :
    pkt.area off = pkt.opt off :: pkt.area (off + 1) := by
  rw [pkt.area_add (show off + 1 ≤ pkt.fieldLen by omega)]
  rfl

/-- An option at the front of an area. -/
theorem area_opt (pkt : DhcpPkt) {off : Nat} (h : off + 2 + pkt.optLen off ≤ pkt.fieldLen) :
    pkt.area off = pkt.opt off :: pkt.opt (off + 1) ::
      (((List.range (pkt.optLen off)).map fun i => pkt.opt (off + 2 + i)) ++
        pkt.area (off + 2 + pkt.optLen off)) := by
  rw [pkt.area_cons (show off < pkt.fieldLen by omega),
    pkt.area_cons (show off + 1 < pkt.fieldLen by omega), pkt.area_add h]

/-- An area that starts with some bytes. -/
theorem area_prefix (pkt : DhcpPkt) {off : Nat} {xs c : List (BitVec 8)} (hne : xs ≠ [])
    (h : pkt.area off = xs ++ c) : off + xs.length ≤ pkt.fieldLen ∧
      c = pkt.area (off + xs.length) ∧ ∀ i, i < xs.length → xs[i]? = some (pkt.opt (off + i)) := by
  have hpos : 0 < xs.length := List.length_pos_iff.mpr hne
  have hlen : pkt.fieldLen - off = xs.length + c.length := by
    rw [← pkt.area_length, h, List.length_append]
  have hle : off + xs.length ≤ pkt.fieldLen := by omega
  refine ⟨hle, ?_, ?_⟩
  · have hsplit := pkt.area_add hle
    rw [h] at hsplit
    exact (List.append_inj hsplit (by simp)).2
  · intro i hi
    rw [← pkt.area_getElem? (show off + i < pkt.fieldLen by omega), h,
      List.getElem?_append_left hi]

end DhcpPkt

/-! ### What a loop does not come to -/

/-- Two packets have the same option at an offset. -/
def SameOpt (pkt₀ pkt : DhcpPkt) (off : Nat) : Prop :=
  ∀ i, i < 2 + pkt.optLen off → pkt₀.opt (off + i) = pkt.opt (off + i)

namespace SameOpt

theorem opt (h : SameOpt pkt₀ pkt off) : pkt₀.opt off = pkt.opt off := h 0 (by omega)

theorem optLen (h : SameOpt pkt₀ pkt off) : pkt₀.optLen off = pkt.optLen off := by
  unfold DhcpPkt.optLen
  rw [h 1 (by omega)]

theorem optVal (h : SameOpt pkt₀ pkt off) {i : Nat} (hi : i < pkt.optLen off) :
    pkt₀.optVal off i = pkt.optVal off i := by
  unfold DhcpPkt.optVal
  rw [Nat.add_assoc]
  exact h (2 + i) (by omega)

theorem optU32 (h : SameOpt pkt₀ pkt off) (hlen : pkt.optLen off = 4) :
    pkt₀.optU32 off = pkt.optU32 off := by
  unfold DhcpPkt.optU32
  rw [h.optVal (by omega), h.optVal (by omega), h.optVal (by omega), h.optVal (by omega)]

theorem optMac (h : SameOpt pkt₀ pkt off) (hlen : 7 ≤ pkt.optLen off) :
    pkt₀.optMac off = pkt.optMac off := by
  unfold DhcpPkt.optMac
  rw [h.optVal (by omega), h.optVal (by omega), h.optVal (by omega), h.optVal (by omega),
    h.optVal (by omega), h.optVal (by omega)]

end SameOpt

/-- Two walks, over two packets, that a loop cannot tell apart: up to where it ends they have the
same options, and the same first byte behind each. -/
inductive OptWalk.Agree (pkt₀ pkt : DhcpPkt) (stop : Nat → Bool) : OptWalk → OptWalk → Prop
  | done : Agree pkt₀ pkt stop .done .done
  | malformed : Agree pkt₀ pkt stop .malformed .malformed
  | stops {off : Nat} {rest₀ rest : OptWalk} (hopt : SameOpt pkt₀ pkt off)
      (hs : stop off = true) : Agree pkt₀ pkt stop (.opt off rest₀) (.opt off rest)
  | goes {off : Nat} {rest₀ rest : OptWalk} (hopt : SameOpt pkt₀ pkt off)
      (hnext : pkt₀.opt (off + 2 + pkt.optLen off) = pkt.opt (off + 2 + pkt.optLen off))
      (h : Agree pkt₀ pkt stop rest₀ rest) : Agree pkt₀ pkt stop (.opt off rest₀) (.opt off rest)

/-- What a header says makes no difference. -/
theorem OptWalk.Agree.setHdr {hdr : DhcpHdr} {w₀ w : OptWalk} (h : OptWalk.Agree pkt₀ pkt stop w₀ w) :
    OptWalk.Agree pkt₀ { pkt with hdr := hdr } stop w₀ w := by
  induction h with
  | done => exact .done
  | malformed => exact .malformed
  | stops hopt hs => exact .stops hopt hs
  | goes hopt hnext _ ih => exact .goes hopt hnext ih

/-- A loop that reads by the grammar starts at a byte of the area that is no padding. -/
theorem OptWalk.Plain.first {w : OptWalk} (h : w.Plain pkt stop off) (hw : OptWalk.From pkt off w) :
    off < pkt.fieldLen ∧ pkt.opt off ≠ dhcpOptPad := by
  cases hw with
  | done hend =>
      refine ⟨h, ?_⟩
      rcases hend with heq | hge
      · rw [heq]
        decide
      · exact absurd h (Nat.not_lt.mpr hge)
  | malformed _ hlt _ => exact ⟨hlt, h.2⟩
  | opt _ hlen _ => exact ⟨by omega, h.1⟩

/-- Such a byte was there before the padding. -/
theorem opt_of_padded (h : Padded (pkt₀.area off) (pkt.area off)) (hlt : off < pkt.fieldLen)
    (hne : pkt.opt off ≠ dhcpOptPad) :
    off < pkt₀.fieldLen ∧ pkt₀.opt off = pkt.opt off := by
  rw [pkt.area_cons hlt] at h
  obtain ⟨a, ha⟩ := h.head hne
  have hpre : pkt₀.area off = [pkt.opt off] ++ a := ha
  obtain ⟨hle, -, hget⟩ := pkt₀.area_prefix (by simp) hpre
  have hzero := hget 0 (by simp)
  simp only [List.length_singleton] at hle
  exact ⟨by omega, by simpa using hzero.symm⟩

/-- Padding that a loop does not come to, it does not tell apart. -/
theorem agree_of_padded {w w₀ : OptWalk} (hw : OptWalk.From pkt off w)
    (hw₀ : OptWalk.From pkt₀ off w₀) (hp : Padded (pkt₀.area off) (pkt.area off))
    (hplain : w.Plain pkt stop off) : OptWalk.Agree pkt₀ pkt stop w₀ w := by
  induction hw generalizing w₀ with
  | @done off hend =>
      have hfirst := hplain.first (.done hend)
      obtain ⟨hlt, heq⟩ := opt_of_padded hp hfirst.1 hfirst.2
      have hty : pkt.opt off = dhcpOptEnd := hend.resolve_right (by have := hfirst.1; omega)
      rw [hw₀.unique (.done (Or.inl (heq.trans hty)))]
      exact .done
  | @malformed off hty hlt hlen =>
      have hlt' := hplain.1
      rw [pkt.area_cons hlt, pkt.area_cons hlt'] at hp
      have hsame := hp.short_inv hplain.2 (by
        have hlong : pkt.optLen off = (pkt.opt (off + 1)).toNat := rfl
        rw [pkt.area_length]
        omega)
      have hpre : pkt₀.area off = [pkt.opt off, pkt.opt (off + 1)] ++ pkt.area (off + 1 + 1) := hsame
      obtain ⟨hle, -, hget⟩ := pkt₀.area_prefix (by simp) hpre
      have hlen₀ : pkt₀.fieldLen - off = pkt.fieldLen - off := by
        rw [← pkt₀.area_length, hpre, List.length_append, pkt.area_length]
        simp only [List.length_cons, List.length_nil]
        omega
      have hzero : pkt.opt off = pkt₀.opt off := by simpa using hget 0 (by simp)
      have hone : pkt.opt (off + 1) = pkt₀.opt (off + 1) := by simpa using hget 1 (by simp)
      have hlong : pkt₀.optLen off = pkt.optLen off := by
        unfold DhcpPkt.optLen
        rw [hone]
      simp only [List.length_cons, List.length_nil] at hle
      have hmal : OptWalk.From pkt₀ off .malformed :=
        .malformed (by rw [← hzero]; exact hty) (by omega) (by omega)
      rw [hw₀.unique hmal]
      exact .malformed
  | @opt off rest hty hlen hrest ih =>
      rw [pkt.area_opt hlen] at hp
      obtain ⟨c₀, ha, hp'⟩ := hp.opt_inv hplain.1 (by simp [DhcpPkt.optLen])
      have hpre : pkt₀.area off = (pkt.opt off :: pkt.opt (off + 1) ::
          (List.range (pkt.optLen off)).map fun i => pkt.opt (off + 2 + i)) ++ c₀ := by
        rw [ha]
        rfl
      obtain ⟨hle, hc₀, hget₀⟩ := pkt₀.area_prefix (by simp) hpre
      have harea : pkt.area off = (pkt.opt off :: pkt.opt (off + 1) ::
          (List.range (pkt.optLen off)).map fun i => pkt.opt (off + 2 + i)) ++
            pkt.area (off + 2 + pkt.optLen off) := by
        rw [pkt.area_opt hlen]
        rfl
      obtain ⟨-, -, hget⟩ := pkt.area_prefix (by simp) harea
      simp only [List.length_cons, List.length_map, List.length_range] at hle hc₀ hget₀ hget
      have hsame : SameOpt pkt₀ pkt off := by
        intro i hi
        have h₀ := hget₀ i (by omega)
        rw [hget i (by omega)] at h₀
        exact (Option.some.inj h₀).symm
      rw [show off + (pkt.optLen off + 1 + 1) = off + 2 + pkt.optLen off by omega] at hc₀ hle
      rw [hc₀] at hp'
      -- the other packet's walk has this option too
      have hty₀ : pkt₀.opt off ≠ dhcpOptEnd := by rw [hsame.opt]; exact hty
      obtain ⟨rest₀, hrest₀⟩ := pkt₀.exists_from (off + 2 + pkt.optLen off)
      have hopt₀ : OptWalk.From pkt₀ off (.opt off rest₀) :=
        .opt hty₀ (by rw [hsame.optLen]; exact hle) (by rw [hsame.optLen]; exact hrest₀)
      rw [hw₀.unique hopt₀]
      rcases hplain.2 with hs | hgo
      · exact .stops hsame hs
      · have hfirst := hgo.first hrest
        exact .goes hsame (opt_of_padded hp' hfirst.1 hfirst.2).2 (ih hrest₀ hp' hgo)

/-! ### What the loops make of it -/

/-- The same server, with the options of another packet. -/
def withOpts (pkt₀ : DhcpPkt) (ccb : DhcpCcb) : DhcpCcb :=
  { ccb with
    pkt := { ccb.pkt with opt := pkt₀.opt, dgramLen := pkt₀.dgramLen, room := pkt₀.room } }

theorem renewWalk_opt {rest₀ rest : OptWalk} (hopt : SameOpt pkt₀ ccb.pkt off)
    (h : renewStop ccb off = true ∨ renewWalk (withOpts pkt₀ ccb) rest₀ = renewWalk ccb rest) :
    renewWalk (withOpts pkt₀ ccb) (.opt off rest₀) = renewWalk ccb (.opt off rest) := by
  have hty : (withOpts pkt₀ ccb).pkt.opt off = ccb.pkt.opt off := hopt.opt
  have hlen : (withOpts pkt₀ ccb).pkt.optLen off = ccb.pkt.optLen off := hopt.optLen
  have hdst : (withOpts pkt₀ ccb).pkt.ipDst = ccb.pkt.ipDst := rfl
  have hserver : (withOpts pkt₀ ccb).dhcpServerIp = ccb.dhcpServerIp := rfl
  simp only [renewWalk, hty, hlen, hdst, hserver]
  by_cases hsrv : ccb.pkt.opt off = dhcpOptServerId
  · rw [if_pos hsrv, if_pos hsrv]
    by_cases hfour : ccb.pkt.optLen off = 4
    · have hval : (withOpts pkt₀ ccb).pkt.optU32 off = ccb.pkt.optU32 off := hopt.optU32 hfour
      rw [hval]
    · rw [if_pos hfour, if_pos hfour]
  rw [if_neg hsrv, if_neg hsrv]
  by_cases hbroad : ccb.pkt.ipDst = rteIpv4Broadcast
  · rw [if_pos hbroad, if_pos hbroad]
  · rw [if_neg hbroad, if_neg hbroad]
    exact h.resolve_left (by simp [renewStop, hsrv, hbroad])

theorem renewWalk_agree {w₀ w : OptWalk} (h : OptWalk.Agree pkt₀ ccb.pkt (renewStop ccb) w₀ w) :
    renewWalk (withOpts pkt₀ ccb) w₀ = renewWalk ccb w := by
  induction h with
  | done => rfl
  | malformed => rfl
  | stops hopt hs => exact renewWalk_opt hopt (Or.inl hs)
  | goes hopt _ _ ih => exact renewWalk_opt hopt (Or.inr ih)

theorem selectWalk_opt_agree {rest₀ rest : OptWalk} (mac : BitVec 48) (ur : BitVec 32)
    (hopt : SameOpt pkt₀ ccb.pkt off)
    (h : selectStop ccb off = true ∨ ∀ mac ur,
      selectWalk (withOpts pkt₀ ccb) mac ur rest₀ = selectWalk ccb mac ur rest) :
    selectWalk (withOpts pkt₀ ccb) mac ur (.opt off rest₀) =
      selectWalk ccb mac ur (.opt off rest) := by
  have hty : (withOpts pkt₀ ccb).pkt.opt off = ccb.pkt.opt off := hopt.opt
  have hlen : (withOpts pkt₀ ccb).pkt.optLen off = ccb.pkt.optLen off := hopt.optLen
  have hserver : (withOpts pkt₀ ccb).dhcpServerIp = ccb.dhcpServerIp := rfl
  have hacc : dhcpIpAcceptable (withOpts pkt₀ ccb) = dhcpIpAcceptable ccb := rfl
  simp only [selectWalk, hty, hlen, hserver, hacc]
  by_cases hcid : ccb.pkt.opt off = dhcpOptClientId
  · rw [if_pos hcid, if_pos hcid]
    by_cases hshort : ccb.pkt.optLen off < 7
    · rw [if_pos hshort, if_pos hshort]
    have hhw : (withOpts pkt₀ ccb).pkt.optVal off 0 = ccb.pkt.optVal off 0 :=
      hopt.optVal (by omega)
    have hmac : (withOpts pkt₀ ccb).pkt.optMac off = ccb.pkt.optMac off := hopt.optMac (by omega)
    rw [if_neg hshort, if_neg hshort, hhw, hmac]
    by_cases hether : ccb.pkt.optVal off 0 ≠ dhcpHwTypeEthernet
    · rw [if_pos hether, if_pos hether]
    · rw [if_neg hether, if_neg hether]
      exact h.resolve_left (by simp [selectStop, hcid, hshort, hether]) _ _
  rw [if_neg hcid, if_neg hcid]
  by_cases hreq : ccb.pkt.opt off = dhcpOptRequestIp
  · rw [if_pos hreq, if_pos hreq]
    by_cases hfour : ccb.pkt.optLen off = 4
    · have hval : (withOpts pkt₀ ccb).pkt.optU32 off = ccb.pkt.optU32 off := hopt.optU32 hfour
      rw [if_neg (not_not.mpr hfour), if_neg (not_not.mpr hfour), hval]
      by_cases hok : dhcpIpAcceptable ccb (ccb.pkt.optU32 off) = true
      · rw [if_neg (not_not.mpr hok), if_neg (not_not.mpr hok)]
        refine h.resolve_left ?_ _ _
        rw [selectStop, if_neg hcid, if_pos hreq]
        simp [hfour, hok]
      · rw [if_pos hok, if_pos hok]
    · rw [if_pos hfour, if_pos hfour]
  rw [if_neg hreq, if_neg hreq]
  by_cases hsrv : ccb.pkt.opt off = dhcpOptServerId
  · rw [if_pos hsrv, if_pos hsrv]
    by_cases hfour : ccb.pkt.optLen off = 4
    · have hval : (withOpts pkt₀ ccb).pkt.optU32 off = ccb.pkt.optU32 off := hopt.optU32 hfour
      rw [if_neg (not_not.mpr hfour), if_neg (not_not.mpr hfour), hval]
      by_cases hthis : ccb.pkt.optU32 off = ccb.dhcpServerIp
      · rw [if_neg (not_not.mpr hthis), if_neg (not_not.mpr hthis)]
        refine h.resolve_left ?_ _ _
        rw [selectStop, if_neg hcid, if_neg hreq, if_pos hsrv]
        simp [hfour, hthis]
      · rw [if_pos hthis, if_pos hthis]
    · rw [if_pos hfour, if_pos hfour]
  · rw [if_neg hsrv, if_neg hsrv]
    exact h.resolve_left (by simp [selectStop, hcid, hreq, hsrv]) _ _

theorem selectWalk_agree {w₀ w : OptWalk} (mac : BitVec 48) (ur : BitVec 32)
    (h : OptWalk.Agree pkt₀ ccb.pkt (selectStop ccb) w₀ w) :
    selectWalk (withOpts pkt₀ ccb) mac ur w₀ = selectWalk ccb mac ur w := by
  induction h generalizing mac ur with
  | done => rfl
  | malformed => rfl
  | stops hopt hs => exact selectWalk_opt_agree mac ur hopt (Or.inl hs)
  | goes hopt _ _ ih => exact selectWalk_opt_agree mac ur hopt (Or.inr ih)

theorem declineWalk_agree {w₀ w : OptWalk} (ip : BitVec 32) (has : Bool)
    (h : OptWalk.Agree pkt₀ ccb.pkt declineStop w₀ w) :
    declineWalk (withOpts pkt₀ ccb) ip has w₀ = declineWalk ccb ip has w := by
  induction h generalizing ip has with
  | done => rfl
  | malformed => rfl
  | stops _ hs => cases hs
  | @goes off _ _ hopt _ _ ih =>
      have hty : (withOpts pkt₀ ccb).pkt.opt off = ccb.pkt.opt off := hopt.opt
      have hlen : (withOpts pkt₀ ccb).pkt.optLen off = ccb.pkt.optLen off := hopt.optLen
      have hserver : (withOpts pkt₀ ccb).dhcpServerIp = ccb.dhcpServerIp := rfl
      simp only [declineWalk, hty, hlen, hserver, ih]
      by_cases hfour : ccb.pkt.optLen off = 4
      · have hval : (withOpts pkt₀ ccb).pkt.optU32 off = ccb.pkt.optU32 off := hopt.optU32 hfour
        rw [hval]
      · simp only [hfour, decide_false, Bool.false_and, and_false, if_false]

/-- The loops over a packet's options cannot tell it from another: those a message type may lead
to, with `ciaddr` as it stands. -/
def MsgAgree (pkt₀ : DhcpPkt) (ccb : DhcpCcb) (msgType : BitVec 8) : Prop :=
  (msgType = dhcpMsgRequest →
    if ccb.pkt.hdr.clientIp ≠ rteIpv4Any then
      dhcpIpAcceptable ccb ccb.pkt.hdr.clientIp = true →
        OptWalk.Agree pkt₀ ccb.pkt (renewStop ccb) pkt₀.walk ccb.pkt.walk
    else OptWalk.Agree pkt₀ ccb.pkt (selectStop ccb) pkt₀.walk ccb.pkt.walk) ∧
  (msgType = dhcpMsgDecline →
    OptWalk.Agree pkt₀ ccb.pkt declineStop pkt₀.walk ccb.pkt.walk)

/-- A walk depends on the options only. -/
theorem walk_withOpts (pkt₀ : DhcpPkt) (ccb : DhcpCcb) :
    (withOpts pkt₀ ccb).pkt.walk = pkt₀.walk := by
  have hfrom : ∀ fuel off, (withOpts pkt₀ ccb).pkt.walkFrom fuel off = pkt₀.walkFrom fuel off := by
    intro fuel
    induction fuel with
    | zero => intro off; rfl
    | succ fuel ih =>
        intro off
        simp only [DhcpPkt.walkFrom, ih]
        rfl
  exact hfrom _ _

theorem requestScan_agree {ccb : DhcpCcb} (h : MsgAgree pkt₀ ccb dhcpMsgRequest) :
    requestScan (withOpts pkt₀ ccb) own =
      ((requestScan ccb own).1, withOpts pkt₀ (requestScan ccb own).2.1,
        (requestScan ccb own).2.2) := by
  have hagree := h.1 rfl
  have hhdr : (withOpts pkt₀ ccb).pkt.hdr = ccb.pkt.hdr := rfl
  have hsrc : (withOpts pkt₀ ccb).pkt.srcMac = ccb.pkt.srcMac := rfl
  have hacc : dhcpIpAcceptable (withOpts pkt₀ ccb) = dhcpIpAcceptable ccb := rfl
  unfold requestScan
  simp only [hhdr, hsrc, hacc]
  by_cases hci : ccb.pkt.hdr.clientIp ≠ rteIpv4Any
  · rw [if_pos hci] at hagree
    rw [if_pos hci, if_pos hci]
    by_cases hok : dhcpIpAcceptable ccb ccb.pkt.hdr.clientIp = true
    · rw [if_neg (not_not.mpr hok), if_neg (not_not.mpr hok)]
      let c := (setHdrIps ccb 0 ccb.pkt.hdr.clientIp).modUser own
        ({ · with timeoutSecs := leaseTimeout })
      have hset : ccb.Kept 0 (setHdrIps ccb 0 ccb.pkt.hdr.clientIp) := .setHdrIps ..
      have hwalk : c.pkt.walk = ccb.pkt.walk := hset.walk
      have hc : OptWalk.Agree pkt₀ c.pkt (renewStop c) pkt₀.walk c.pkt.walk := by
        rw [hwalk]
        exact (hagree hok).setHdr
      show (renewWalk (withOpts pkt₀ c) (withOpts pkt₀ c).pkt.walk, withOpts pkt₀ c,
        ccb.pkt.srcMac) = (renewWalk c c.pkt.walk, withOpts pkt₀ c, ccb.pkt.srcMac)
      rw [walk_withOpts, renewWalk_agree hc]
    · rw [if_pos hok, if_pos hok]
  · rw [if_neg hci] at hagree
    rw [if_neg hci, if_neg hci, walk_withOpts, selectWalk_agree _ _ hagree]
    rfl

/-! ### Decoding a packet with padding -/

theorem scanPool_withOpts (pkt₀ : DhcpPkt) (ccb : DhcpCcb) (mac : BitVec 48) (l : List Nat) :
    scanPool (withOpts pkt₀ ccb) mac l =
      (scanPool ccb mac l).map fun r => (withOpts pkt₀ r.1, r.2) := by
  induction l with
  | nil => rfl
  | cons i rest ih =>
      have hset : checkAndSetSinglePoolEntry (withOpts pkt₀ ccb) i mac =
          (checkAndSetSinglePoolEntry ccb i mac).map (withOpts pkt₀) := by
        unfold checkAndSetSinglePoolEntry
        have huser : (withOpts pkt₀ ccb).user i = ccb.user i := rfl
        simp only [huser]
        by_cases hr : (ccb.user i).reserved = true
        · simp [hr]
        by_cases hu : (ccb.user i).used = true
        · by_cases hm : mac = (ccb.user i).poolMac
          · simp [hr, hu, hm]
          · simp [hr, hu, hm]
        · simp only [hr, hu, Bool.false_eq_true, not_false_eq_true, if_true, if_false,
            Option.map_some]
          rfl
      unfold scanPool
      rw [hset, ih]
      cases checkAndSetSinglePoolEntry ccb i mac with
      | none => rfl
      | some c => rfl

/-- A search does not look at the packet. -/
theorem checkPool_withOpts (pkt₀ : DhcpPkt) (ccb : DhcpCcb) (own cur : Nat) (mac : BitVec 48) :
    checkPool (withOpts pkt₀ ccb) own cur mac =
      (checkPool ccb own cur mac).map fun r => (withOpts pkt₀ r.1, r.2) := by
  unfold checkPool
  have huser : (withOpts pkt₀ ccb).user own = ccb.user own := rfl
  have hlen : (withOpts pkt₀ ccb).perLanUserPoolLen = ccb.perLanUserPoolLen := rfl
  simp only [huser, hlen, scanPool_withOpts]
  by_cases hfree : ¬ (ccb.user own).reserved = true ∧ ¬ (ccb.user own).used = true
  · rw [if_pos hfree, if_pos hfree]
    rfl
  rw [if_neg hfree, if_neg hfree]
  by_cases hmine : ¬ (ccb.user own).reserved = true ∧ mac = (ccb.user own).poolMac
  · rw [if_pos hmine, if_pos hmine]
    rfl
  · rw [if_neg hmine, if_neg hmine]

/-- Where decoding stands, of the other packet. -/
def DecodeSt.withOpts (pkt₀ : DhcpPkt) (st : DecodeSt) : DecodeSt :=
  ⟨FastRG.withOpts pkt₀ st.ccb, st.cur, st.event⟩

theorem decodeRequest_agree (cur : Nat) (h : MsgAgree pkt₀ ccb dhcpMsgRequest) :
    decodeRequest (withOpts pkt₀ ccb) own cur =
      ((decodeRequest ccb own cur).1, withOpts pkt₀ (decodeRequest ccb own cur).2.1,
        (decodeRequest ccb own cur).2.2) := by
  unfold decodeRequest
  rw [requestScan_agree h]
  obtain ⟨verdict, scanned, mac⟩ := requestScan ccb own
  cases verdict with
  | error => rfl
  | bad => rfl
  | ok =>
      simp only [checkPool_withOpts]
      cases checkPool scanned own cur mac with
      | none => rfl
      | some r => rfl

theorem decodeMsgType_agree {st : DecodeSt} {t : BitVec 8} (h : MsgAgree pkt₀ st.ccb t) :
    decodeMsgType own (st.withOpts pkt₀) t = (decodeMsgType own st t).withOpts pkt₀ := by
  unfold decodeMsgType
  by_cases hdisc : t = dhcpMsgDiscover
  · rw [if_pos hdisc, if_pos hdisc]
    rfl
  rw [if_neg hdisc, if_neg hdisc]
  by_cases hreq : t = dhcpMsgRequest
  · have hreqs : decodeRequest (withOpts pkt₀ st.ccb) own st.cur =
        ((decodeRequest st.ccb own st.cur).1, withOpts pkt₀ (decodeRequest st.ccb own st.cur).2.1,
          (decodeRequest st.ccb own st.cur).2.2) := decodeRequest_agree st.cur (hreq ▸ h)
    rw [if_pos hreq, if_pos hreq]
    simp only [DecodeSt.withOpts, hreqs]
    rfl
  rw [if_neg hreq, if_neg hreq]
  by_cases hrel : t = dhcpMsgRelease
  · rw [if_pos hrel, if_pos hrel]
    have hpool := checkPool_withOpts pkt₀ st.ccb own st.cur st.ccb.pkt.srcMac
    have hsrc : (withOpts pkt₀ st.ccb).pkt.srcMac = st.ccb.pkt.srcMac := rfl
    simp only [DecodeSt.withOpts, hsrc, hpool]
    cases checkPool st.ccb own st.cur st.ccb.pkt.srcMac with
    | none => rfl
    | some r => rfl
  rw [if_neg hrel, if_neg hrel]
  by_cases hdecl : t = dhcpMsgDecline
  · rw [if_pos hdecl, if_pos hdecl]
    have hacc : declineAccepted (withOpts pkt₀ st.ccb) st.cur = declineAccepted st.ccb st.cur := by
      unfold declineAccepted
      rw [walk_withOpts, declineWalk_agree 0 false (h.2 hdecl)]
      rfl
    simp only [DecodeSt.withOpts, hacc]
    by_cases hok : declineAccepted st.ccb st.cur = true
    · rw [if_pos hok, if_pos hok]
    · rw [if_neg hok, if_neg hok]
  rw [if_neg hdecl, if_neg hdecl]
  by_cases hinf : t = dhcpMsgInform
  · rw [if_pos hinf, if_pos hinf]
    rfl
  · rw [if_neg hinf, if_neg hinf]

/-- Loops that read by the grammar cannot tell the padding apart. -/
theorem msgAgree_of_plain {t : BitVec 8} (hp : Padded (pkt₀.area 0) (ccb.pkt.area 0))
    (h : MsgPlain ccb ccb.pkt.hdr.clientIp t) : MsgAgree pkt₀ ccb t := by
  refine ⟨fun ht => ?_, fun ht => agree_of_padded ccb.pkt.walk_from pkt₀.walk_from hp (h.2 ht)⟩
  have hreq := h.1 ht
  unfold RequestPlain at hreq
  by_cases hci : ccb.pkt.hdr.clientIp ≠ rteIpv4Any
  · rw [if_pos hci] at hreq ⊢
    exact fun hacc => agree_of_padded ccb.pkt.walk_from pkt₀.walk_from hp (hreq hacc)
  · rw [if_neg hci] at hreq ⊢
    exact agree_of_padded ccb.pkt.walk_from pkt₀.walk_from hp hreq

/-- Where `dhcp_decode`'s loop ends: at a vendor class. -/
def decodeStop (ccb : DhcpCcb) (off : Nat) : Bool := ccb.pkt.opt off = dhcpOptIspId

theorem PlainFrom.plain {ci : BitVec 32} {w : OptWalk} (h : PlainFrom ccb ci off w) :
    w.Plain ccb.pkt (decodeStop ccb) off := by
  induction w generalizing ci off with
  | done => exact h
  | malformed => exact h
  | opt o rest ih =>
      refine ⟨h.1, ?_⟩
      by_cases hisp : ccb.pkt.opt o = dhcpOptIspId
      · exact Or.inl (by simpa [decodeStop] using hisp)
      · have hgo := h.2 hisp
        by_cases hmsg : ccb.pkt.opt o = dhcpOptMsgType
        · rw [if_pos hmsg] at hgo
          exact Or.inr (ih hgo.2)
        · rw [if_neg hmsg] at hgo
          exact Or.inr (ih hgo)

/-- So decoding comes to the same, for both packets. -/
theorem decodeWalk_agree {s : DhcpCcb} {st : DecodeSt} {w₀ w : OptWalk}
    (h : OptWalk.Agree pkt₀ s.pkt (decodeStop s) w₀ w) (hkept : s.Kept own st.ccb)
    (hp : Padded (pkt₀.area 0) (s.pkt.area 0))
    (hplain : PlainFrom s st.ccb.pkt.hdr.clientIp off w) :
    decodeWalk own (st.withOpts pkt₀) w₀ =
      ((decodeWalk own st w).1, withOpts pkt₀ (decodeWalk own st w).2.1,
        (decodeWalk own st w).2.2) := by
  have hstop : ∀ {off : Nat} {st : DecodeSt} (rest₀ rest : OptWalk), s.Kept own st.ccb →
      SameOpt pkt₀ s.pkt off → s.pkt.opt off = dhcpOptIspId →
      decodeWalk own (st.withOpts pkt₀) (.opt off rest₀) =
        ((decodeWalk own st (.opt off rest)).1,
          withOpts pkt₀ (decodeWalk own st (.opt off rest)).2.1,
          (decodeWalk own st (.opt off rest)).2.2) := by
    intro off st rest₀ rest hkept hopt hisp
    have hty₀ : (st.withOpts pkt₀).ccb.pkt.opt off = dhcpOptIspId := hopt.opt.trans hisp
    have hty : st.ccb.pkt.opt off = dhcpOptIspId := (hkept.opt off).trans hisp
    rw [decodeWalk, if_pos hty₀, decodeWalk, if_pos hty]
    rfl
  induction h generalizing st off with
  | done => rfl
  | malformed => rfl
  | stops hopt hs => exact hstop _ _ hkept hopt (by simpa [decodeStop] using hs)
  | @goes o rest₀ rest hopt hnext _ ih =>
      by_cases hisp : s.pkt.opt o = dhcpOptIspId
      · exact hstop _ _ hkept hopt hisp
      have hty₀ : (st.withOpts pkt₀).ccb.pkt.opt o = s.pkt.opt o := hopt.opt
      have hty : st.ccb.pkt.opt o = s.pkt.opt o := hkept.opt o
      have hval₀ : (st.withOpts pkt₀).ccb.pkt.optVal o 0 = s.pkt.optVal o 0 := by
        by_cases hlen : s.pkt.optLen o = 0
        · rw [hlen] at hnext
          exact hnext
        · exact hopt.optVal (by omega)
      have hgo := hplain.2 hisp
      rw [decodeWalk, decodeWalk, hty₀, hty, if_neg hisp, if_neg hisp]
      by_cases hmsg : s.pkt.opt o = dhcpOptMsgType
      · rw [if_pos hmsg] at hgo
        rw [if_pos hmsg, if_pos hmsg, hval₀, hkept.optVal]
        have hkept' := hkept.trans (decodeMsgType_step own st (s.pkt.optVal o 0)).kept
        have hmsgs : MsgAgree pkt₀ st.ccb (s.pkt.optVal o 0) := by
          refine msgAgree_of_plain ?_ ((hkept.msgPlain_iff _ _).mpr hgo.1)
          have hopts : st.ccb.pkt.opt = s.pkt.opt := funext fun o => hkept.opt o
          simpa only [DhcpPkt.area, hopts, hkept.fieldLen] using hp
        have hacc : dhcpIpAcceptable st.ccb = dhcpIpAcceptable s :=
          funext fun ip => hkept.acceptable ip
        rw [decodeMsgType_agree hmsgs]
        have hgo' : PlainFrom s
            (decodeMsgType own st (s.pkt.optVal o 0)).ccb.pkt.hdr.clientIp
            (o + 2 + s.pkt.optLen o) rest := by
          rw [decodeMsgType_clientIp, nextClientIp, hacc, ← nextClientIp]
          exact hgo.2
        exact ih hkept' hgo'
      · rw [if_neg hmsg] at hgo
        rw [if_neg hmsg, if_neg hmsg]
        exact ih hkept hgo

/-- The second packet is the first with padding put between its options, and its lengths are
longer by as much. -/
structure PaddedFrom (pkt₀ pkt : DhcpPkt) : Prop where
  area : Padded (pkt₀.area 0) (pkt.area 0)
  rest : pkt₀ = { pkt with opt := pkt₀.opt, dgramLen := pkt₀.dgramLen, room := pkt₀.room }
  len : pkt₀.dgramLen.toNat + pkt.fieldLen = pkt.dgramLen.toNat + pkt₀.fieldLen

/-- What decoding comes to: the event, the index it settles on, the pool with what has been taken
in it for which client, and the header with the address asked for. -/
def decodeOutcome (ccb : DhcpCcb) (own : Nat) (pkt : DhcpPkt) :
    DhcpDecoded × Nat × (Nat → PerLanUser) × DhcpHdr :=
  let r := dhcpDecode ccb own pkt
  (r.1, r.2.2, r.2.1.perLanUserPool, r.2.1.pkt.hdr)

/-- A packet is read by the grammar: every turn of every loop over its options is what the grammar
asks for, the loops end by themselves, and decoding comes to what it comes to for every packet
that this one is with padding put in. -/
structure ReadByGrammar (ccb : DhcpCcb) (own : Nat) (pkt : DhcpPkt) : Prop where
  turns : ∀ t ∈ dhcpDecodeTurns ccb own pkt, t.ByGrammar pkt
  ends : ∀ fuel, pkt.fieldLen ≤ fuel → pkt.walkFrom fuel 0 = pkt.walk
  padded : ∀ pkt₀, PaddedFrom pkt₀ pkt → decodeOutcome ccb own pkt₀ = decodeOutcome ccb own pkt

theorem decodeStart_withOpts (ccb : DhcpCcb) (own : Nat)
    (h : pkt₀ = { pkt with opt := pkt₀.opt, dgramLen := pkt₀.dgramLen, room := pkt₀.room }) :
    decodeStart ccb own pkt₀ = withOpts pkt₀ (decodeStart ccb own pkt) := by
  obtain ⟨buf, srcMac, ipDst, room, dgramLen, hdr, opt, freed⟩ := pkt₀
  simp only [DhcpPkt.mk.injEq, true_and] at h
  obtain ⟨rfl, rfl, rfl, rfl, rfl⟩ := h
  rfl

theorem dhcpDecode_eq (ccb : DhcpCcb) (own : Nat) (pkt : DhcpPkt) :
    dhcpDecode ccb own pkt =
      if pkt.dgramLen.toNat < udpHdrLen + dhcpHdrLen then (.error, decodeStart ccb own pkt, own)
      else if swap32 pkt.hdr.magicCookie ≠ dhcpMagicCookie then
        (.error, decodeStart ccb own pkt, own)
      else decodeWalk own ⟨decodeStart ccb own pkt, own, none⟩ pkt.walk := rfl

/-- Both packets are long enough for a header, or neither is. -/
theorem PaddedFrom.short_iff (h : PaddedFrom pkt₀ pkt) :
    pkt₀.dgramLen.toNat < udpHdrLen + dhcpHdrLen ↔
      pkt.dgramLen.toNat < udpHdrLen + dhcpHdrLen := by
  have hfield : ∀ p : DhcpPkt, p.fieldLen = p.dgramLen.toNat - udpHdrLen - dhcpHdrLen :=
    fun _ => rfl
  have hfield₀ := hfield pkt₀
  have hfield₁ := hfield pkt
  have hlen := h.len
  refine ⟨fun hlt => by omega, fun hlt => ?_⟩
  have hnone : pkt.area 0 = [] :=
    List.eq_nil_of_length_eq_zero (by rw [pkt.area_length]; omega)
  have hnone₀ : pkt₀.area 0 = [] := by
    have harea := h.area
    rw [hnone] at harea
    generalize pkt₀.area 0 = a at harea
    cases harea
    rfl
  have hzero : pkt₀.fieldLen - 0 = 0 := by
    rw [← pkt₀.area_length, hnone₀]
    rfl
  omega

/-- Padding that is not come to makes no difference. -/
theorem dhcpDecode_padded (hplain : PlainOptions ccb own pkt) (h : PaddedFrom pkt₀ pkt) :
    dhcpDecode ccb own pkt₀ = ((dhcpDecode ccb own pkt).1,
      withOpts pkt₀ (dhcpDecode ccb own pkt).2.1, (dhcpDecode ccb own pkt).2.2) := by
  have hhdr : pkt₀.hdr = pkt.hdr := by
    have hrest := congrArg DhcpPkt.hdr h.rest
    exact hrest
  rw [dhcpDecode_eq, dhcpDecode_eq, decodeStart_withOpts ccb own h.rest, hhdr]
  simp only [h.short_iff]
  by_cases hshort : pkt.dgramLen.toNat < udpHdrLen + dhcpHdrLen
  · rw [if_pos hshort, if_pos hshort]
  rw [if_neg hshort, if_neg hshort]
  by_cases hcookie : swap32 pkt.hdr.magicCookie ≠ dhcpMagicCookie
  · rw [if_pos hcookie, if_pos hcookie]
  rw [if_neg hcookie, if_neg hcookie]
  have hfrom : PlainFrom (decodeStart ccb own pkt) pkt.hdr.clientIp 0 pkt.walk :=
    (hplain.resolve_left hshort).resolve_left hcookie
  have hagree : OptWalk.Agree pkt₀ (decodeStart ccb own pkt).pkt
      (decodeStop (decodeStart ccb own pkt)) pkt₀.walk pkt.walk :=
    agree_of_padded pkt.walk_from pkt₀.walk_from h.area hfrom.plain
  have hkept : (decodeStart ccb own pkt).Kept own (decodeStart ccb own pkt) := .refl own _
  have hpads : Padded (pkt₀.area 0) ((decodeStart ccb own pkt).pkt.area 0) := h.area
  have hdec : PlainFrom (decodeStart ccb own pkt)
      (⟨decodeStart ccb own pkt, own, none⟩ : DecodeSt).ccb.pkt.hdr.clientIp 0 pkt.walk := hfrom
  exact decodeWalk_agree hagree hkept hpads hdec

theorem decodeOutcome_padded (hplain : PlainOptions ccb own pkt) (h : PaddedFrom pkt₀ pkt) :
    decodeOutcome ccb own pkt₀ = decodeOutcome ccb own pkt := by
  unfold decodeOutcome
  rw [dhcpDecode_padded hplain h]
  rfl

/--
**Options are read by the grammar.**  The decoder reads a packet by the grammar of options,
inside the area and with padding and end marker as they are meant, exactly when each loop that it
runs over the options comes to no padding, and ends at an option, at an end marker inside the
area or at an option too long whose type and length are inside.
-/
theorem options_by_grammar_iff (ccb : DhcpCcb) (own : Nat) (pkt : DhcpPkt) :
    ReadByGrammar ccb own pkt ↔ PlainOptions ccb own pkt := by
  refine ⟨fun h => (dhcpDecodeTurns_byGrammar_iff ccb own pkt).mp h.turns, fun h => ⟨?_, ?_, ?_⟩⟩
  · exact (dhcpDecodeTurns_byGrammar_iff ccb own pkt).mpr h
  · exact fun fuel hfuel => pkt.walkFrom_of_le hfuel
  · exact fun pkt₀ hpad => decodeOutcome_padded h hpad

/-- A DISCOVER without an end marker has the byte behind its area read.  And one byte of padding
in front makes another DISCOVER no message at all. -/
theorem not_options_by_grammar :
    ((clientPkt 1 0 [53, 1, 1]).fieldLen = 3 ∧
      ∃ t ∈ dhcpDecodeTurns (servedTo []) 0 (clientPkt 1 0 [53, 1, 1]), 3 ∈ t.reads) ∧
    PaddedFrom (clientPkt 1 0 [53, 1, 1, 255]) (clientPkt 1 0 [0, 53, 1, 1, 255]) ∧
      (decodeOutcome (servedTo []) 0 (clientPkt 1 0 [53, 1, 1, 255])).1 = .event .discover ∧
      (decodeOutcome (servedTo []) 0 (clientPkt 1 0 [0, 53, 1, 1, 255])).1 = .error := by
  refine ⟨⟨by decide, by decide⟩, ⟨?_, rfl, by decide⟩, by decide, by decide⟩
  have harea : (clientPkt 1 0 [53, 1, 1, 255]).area 0 = [53, 1, 1, 255] := by decide
  have hpadded : (clientPkt 1 0 [0, 53, 1, 1, 255]).area 0 = 0 :: [53, 1, 1, 255] := by decide
  rw [harea, hpadded]
  exact .pad (.same _)

end FastRG
