/-
The DHCP pool: what decoding a packet leaves alone, and where a search ends.

Decoding may take addresses for the client, touches the timer of the client's slot, and
does nothing else to the pool.  `Kept` says what it leaves alone, and everything that is
true of a pool throughout a run rests on it.  A search takes the first entry that will
do, from the client's slot on and round: `FirstOpen`.
-/
import FastRG.Dhcpd

namespace FastRG

/-! ### What decoding leaves alone -/

/-- One entry before and after: an address that was in use stays with the MAC it was in
use for. -/
structure PerLanUser.Kept (e e' : PerLanUser) : Prop where
  state : e'.state = e.state
  lanUserUsed : e'.lanUserUsed = e.lanUserUsed
  lanMac : e'.lanMac = e.lanMac
  ipAddr : e'.ipAddr = e.ipAddr
  reserved : e'.reserved = e.reserved
  dhcpHdr : e'.dhcpHdr = e.dhcpHdr
  acked : e'.acked = e.acked
  used : e.used = true → e'.used = true ∧ e'.poolMac = e.poolMac

/-- The pool before and after a packet is decoded for the client in slot `own`. -/
structure DhcpCcb.Kept (own : Nat) (ccb ccb' : DhcpCcb) : Prop where
  len : ccb'.perLanUserPoolLen = ccb.perLanUserPoolLen
  serverIp : ccb'.dhcpServerIp = ccb.dhcpServerIp
  poolStart : ccb'.poolStart = ccb.poolStart
  poolEnd : ccb'.poolEnd = ccb.poolEnd
  mask : ccb'.subnetMask = ccb.subnetMask
  dns : ccb'.dns = ccb.dns
  entry : ∀ i, (ccb.user i).Kept (ccb'.user i)
  timer : ∀ i, i ≠ own → (ccb'.user i).timer = (ccb.user i).timer
  opts : ∃ hdr, ccb'.pkt = { ccb.pkt with hdr := hdr } ∧ hdr.bootpFlag = ccb.pkt.hdr.bootpFlag

namespace PerLanUser.Kept

theorem refl (e : PerLanUser) : e.Kept e :=
  ⟨rfl, rfl, rfl, rfl, rfl, rfl, rfl, fun h => ⟨h, rfl⟩⟩

theorem trans {e e' e'' : PerLanUser} (h : e.Kept e') (h' : e'.Kept e'') : e.Kept e'' where
  state := h'.state.trans h.state
  lanUserUsed := h'.lanUserUsed.trans h.lanUserUsed
  lanMac := h'.lanMac.trans h.lanMac
  ipAddr := h'.ipAddr.trans h.ipAddr
  reserved := h'.reserved.trans h.reserved
  dhcpHdr := h'.dhcpHdr.trans h.dhcpHdr
  acked := h'.acked.trans h.acked
  used := fun hu =>
    have hu' := h.used hu
    have hu'' := h'.used hu'.1
    ⟨hu''.1, hu''.2.trans hu'.2⟩

end PerLanUser.Kept

namespace DhcpCcb.Kept

variable {own : Nat} {ccb ccb' ccb'' : DhcpCcb}

theorem refl (own : Nat) (ccb : DhcpCcb) : ccb.Kept own ccb :=
  ⟨rfl, rfl, rfl, rfl, rfl, rfl, fun _ => .refl _, fun _ _ => rfl, ccb.pkt.hdr, rfl, rfl⟩

theorem trans (h : ccb.Kept own ccb') (h' : ccb'.Kept own ccb'') : ccb.Kept own ccb'' where
  len := h'.len.trans h.len
  serverIp := h'.serverIp.trans h.serverIp
  poolStart := h'.poolStart.trans h.poolStart
  poolEnd := h'.poolEnd.trans h.poolEnd
  mask := h'.mask.trans h.mask
  dns := h'.dns.trans h.dns
  entry := fun i => (h.entry i).trans (h'.entry i)
  timer := fun i hi => (h'.timer i hi).trans (h.timer i hi)
  opts := by
    obtain ⟨hdr, hpkt, hflag⟩ := h.opts
    obtain ⟨hdr', hpkt', hflag'⟩ := h'.opts
    refine ⟨hdr', ?_, ?_⟩
    · rw [hpkt', hpkt]
    · rw [hflag', hpkt, hflag]

/-- An entry is changed in a way decoding may change it. -/
theorem modUser {i : Nat} {f : PerLanUser → PerLanUser} (hf : (ccb.user i).Kept (f (ccb.user i)))
    (ht : i ≠ own → (f (ccb.user i)).timer = (ccb.user i).timer) :
    ccb.Kept own (ccb.modUser i f) where
  len := rfl
  serverIp := rfl
  poolStart := rfl
  poolEnd := rfl
  mask := rfl
  dns := rfl
  entry := by
    intro j
    by_cases hj : j = i
    · subst hj; simpa using hf
    · simpa [hj] using PerLanUser.Kept.refl _
  timer := by
    intro j hj
    by_cases hji : j = i
    · subst hji; simpa using ht hj
    · simp [hji]
  opts := ⟨ccb.pkt.hdr, rfl, rfl⟩

/-- The two addresses of the header are rewritten. -/
theorem setHdrIps (ccb : DhcpCcb) (ci ur : BitVec 32) :
    ccb.Kept own (FastRG.setHdrIps ccb ci ur) :=
  ⟨rfl, rfl, rfl, rfl, rfl, rfl, fun _ => .refl _, fun _ _ => rfl, _, rfl, rfl⟩

/-- The walk over the options reads nothing that is rewritten. -/
theorem walk (h : ccb.Kept own ccb') : ccb'.pkt.walk = ccb.pkt.walk := by
  obtain ⟨hdr, hpkt, -⟩ := h.opts
  rw [hpkt]
  have hfrom : ∀ fuel off, DhcpPkt.walkFrom { ccb.pkt with hdr := hdr } fuel off =
      ccb.pkt.walkFrom fuel off := by
    intro fuel
    induction fuel with
    | zero => intro off; rfl
    | succ fuel ih =>
        intro off
        simp only [DhcpPkt.walkFrom, ih]
        rfl
  exact hfrom _ _

theorem opt (h : ccb.Kept own ccb') (off : Nat) : ccb'.pkt.opt off = ccb.pkt.opt off := by
  obtain ⟨hdr, hpkt, -⟩ := h.opts
  rw [hpkt]

theorem optLen (h : ccb.Kept own ccb') (off : Nat) :
    ccb'.pkt.optLen off = ccb.pkt.optLen off := by
  obtain ⟨hdr, hpkt, -⟩ := h.opts
  rw [hpkt]
  rfl

theorem optVal (h : ccb.Kept own ccb') (off i : Nat) :
    ccb'.pkt.optVal off i = ccb.pkt.optVal off i := by
  obtain ⟨hdr, hpkt, -⟩ := h.opts
  rw [hpkt]
  rfl

theorem optU32 (h : ccb.Kept own ccb') (off : Nat) :
    ccb'.pkt.optU32 off = ccb.pkt.optU32 off := by
  simp only [DhcpPkt.optU32, h.optVal]

theorem optMac (h : ccb.Kept own ccb') (off : Nat) :
    ccb'.pkt.optMac off = ccb.pkt.optMac off := by
  simp only [DhcpPkt.optMac, h.optVal]

theorem srcMac (h : ccb.Kept own ccb') : ccb'.pkt.srcMac = ccb.pkt.srcMac := by
  obtain ⟨hdr, hpkt, -⟩ := h.opts
  rw [hpkt]

theorem acceptable (h : ccb.Kept own ccb') (ip : BitVec 32) :
    dhcpIpAcceptable ccb' ip = dhcpIpAcceptable ccb ip := by
  simp only [dhcpIpAcceptable, dhcpInSubnet, h.serverIp, h.mask, h.poolStart, h.poolEnd]

end DhcpCcb.Kept

/-! ### Searches -/

/-- The entry will do for a client: it may be leased, and nobody else has it. -/
def DhcpCcb.OpenTo (ccb : DhcpCcb) (mac : BitVec 48) (i : Nat) : Prop :=
  (ccb.user i).reserved = false ∧ ((ccb.user i).used = false ∨ mac = (ccb.user i).poolMac)

/-- The first entry that will do, from `own` to the end of the pool and then from its start. -/
def DhcpCcb.FirstOpen (ccb : DhcpCcb) (mac : BitVec 48) (own j : Nat) : Prop :=
  j < ccb.perLanUserPoolLen ∧ ccb.OpenTo mac j ∧
    ((own ≤ j ∧ ∀ k, own ≤ k → k < j → ¬ ccb.OpenTo mac k) ∨
      (j < own ∧ (∀ k, own ≤ k → k < ccb.perLanUserPoolLen → ¬ ccb.OpenTo mac k) ∧
        ∀ k, k < j → ¬ ccb.OpenTo mac k))

variable {ccb ccb' : DhcpCcb} {mac : BitVec 48} {own cur i j : Nat}

/-- The indices that a search tries. -/
theorem lt_of_mem_tried (hcur : cur < ccb.perLanUserPoolLen)
    (h : i ∈ List.range' cur (ccb.perLanUserPoolLen - cur) ++
      List.range (max cur ccb.perLanUserPoolLen)) : i < ccb.perLanUserPoolLen := by
  rw [List.mem_append, List.mem_range'_1, List.mem_range] at h
  omega

theorem take_of_open {e : PerLanUser} (hu : e.used = true) (hm : mac = e.poolMac) :
    e.take mac = e := by
  subst hm
  cases e
  simp_all [PerLanUser.take]

theorem modUser_eq_self {f : PerLanUser → PerLanUser} (h : f (ccb.user i) = ccb.user i) :
    ccb.modUser i f = ccb := by
  have hfun : Function.update ccb.perLanUserPool i (f (ccb.perLanUserPool i)) =
      ccb.perLanUserPool := by
    rw [show f (ccb.perLanUserPool i) = ccb.perLanUserPool i from h, Function.update_eq_self]
  simp [DhcpCcb.modUser, hfun]

/-- An entry is set when it will do, and is then taken for the client. -/
theorem checkAndSet_eq_some (ccb : DhcpCcb) (i : Nat) (mac : BitVec 48) :
    checkAndSetSinglePoolEntry ccb i mac = some ccb' ↔
      ccb.OpenTo mac i ∧ ccb' = ccb.modUser i (·.take mac) := by
  unfold checkAndSetSinglePoolEntry DhcpCcb.OpenTo
  by_cases hr : (ccb.user i).reserved = true
  · simp [hr]
  by_cases hu : (ccb.user i).used = true
  · by_cases hm : mac = (ccb.user i).poolMac
    · have hself : ccb.modUser i (·.take mac) = ccb := modUser_eq_self (take_of_open hu hm)
      rw [hself]
      simp [hr, hu, hm, eq_comm]
    · simp [hr, hu, hm]
  · simp [hr, hu, eq_comm]

theorem checkAndSet_eq_none (ccb : DhcpCcb) (i : Nat) (mac : BitVec 48) :
    checkAndSetSinglePoolEntry ccb i mac = none ↔ ¬ ccb.OpenTo mac i := by
  rw [← not_iff_not, not_not, ← ne_eq, Option.ne_none_iff_exists']
  simp [checkAndSet_eq_some]

/-- A scan stops at the first entry that will do. -/
theorem scanPool_eq_some {l : List Nat} (h : scanPool ccb mac l = some (ccb', j)) :
    ccb.OpenTo mac j ∧ ccb' = ccb.modUser j (·.take mac) ∧
      ∃ pre post, l = pre ++ j :: post ∧ ∀ k ∈ pre, ¬ ccb.OpenTo mac k := by
  induction l with
  | nil => simp [scanPool] at h
  | cons i rest ih =>
      unfold scanPool at h
      cases hset : checkAndSetSinglePoolEntry ccb i mac with
      | some c =>
          simp only [hset, Option.some.injEq, Prod.mk.injEq] at h
          obtain ⟨rfl, rfl⟩ := h
          obtain ⟨hopen, hc⟩ := (checkAndSet_eq_some ccb i mac).mp hset
          exact ⟨hopen, hc, [], rest, rfl, by simp⟩
      | none =>
          simp only [hset] at h
          obtain ⟨hopen, hc, pre, post, hl, hpre⟩ := ih h
          refine ⟨hopen, hc, i :: pre, post, by rw [hl]; rfl, ?_⟩
          intro k hk
          rcases List.mem_cons.mp hk with rfl | hk
          · exact (checkAndSet_eq_none ccb k mac).mp hset
          · exact hpre k hk

/-- What comes before `j` in a run of consecutive numbers. -/
theorem mem_pre_of_range' {a n : Nat} {pre post : List Nat}
    (h : List.range' a n = pre ++ j :: post) :
    a ≤ j ∧ j < a + n ∧ ∀ k, a ≤ k → k < j → k ∈ pre := by
  have hj : j ∈ List.range' a n := by rw [h]; simp
  have hbound := List.mem_range'_1.mp hj
  refine ⟨hbound.1, hbound.2, fun k hak hkj => ?_⟩
  have hk : k ∈ List.range' a n := List.mem_range'_1.mpr ⟨hak, by omega⟩
  have hsorted : (List.range' a n).Pairwise (· < ·) := List.pairwise_lt_range'
  rw [h] at hk hsorted
  rcases List.mem_append.mp hk with hk | hk
  · exact hk
  · rcases List.mem_cons.mp hk with rfl | hk
    · omega
    · have hlt := (List.pairwise_cons.mp (List.pairwise_append.mp hsorted).2.1).1 k hk
      omega

/-- A search from a slot finds the first entry that will do. -/
theorem scanPool_first (hown : own < ccb.perLanUserPoolLen)
    (h : scanPool ccb mac (List.range' own (ccb.perLanUserPoolLen - own) ++
      List.range (max own ccb.perLanUserPoolLen)) = some (ccb', j)) :
    ccb.FirstOpen mac own j ∧ ccb' = ccb.modUser j (·.take mac) := by
  obtain ⟨hopen, hc, pre, post, hl, hpre⟩ := scanPool_eq_some h
  refine ⟨?_, hc⟩
  rw [show max own ccb.perLanUserPoolLen = ccb.perLanUserPoolLen by omega] at hl
  rcases List.append_eq_append_iff.mp hl with ⟨a, hpre', hrest⟩ | ⟨c, hfront, hback⟩
  · -- the slot's own end of the pool had nothing
    have hall : ∀ k, own ≤ k → k < ccb.perLanUserPoolLen → ¬ ccb.OpenTo mac k := by
      intro k hk hlen
      apply hpre
      rw [hpre']
      exact List.mem_append_left _ (List.mem_range'_1.mpr ⟨hk, by omega⟩)
    rw [List.range_eq_range'] at hrest
    obtain ⟨-, hlt, hbefore⟩ := mem_pre_of_range' hrest
    refine ⟨by omega, hopen, Or.inr ⟨?_, hall, ?_⟩⟩
    · by_contra hge
      exact hall j (by omega) (by omega) hopen
    · intro k hk
      apply hpre
      rw [hpre']
      exact List.mem_append_right _ (hbefore k (by omega) hk)
  · rcases c with _ | ⟨c, cs⟩
    · simp only [List.append_nil, List.nil_append] at hfront hback
      have hall : ∀ k, own ≤ k → k < ccb.perLanUserPoolLen → ¬ ccb.OpenTo mac k := by
        intro k hk hlen
        apply hpre
        rw [← hfront]
        exact List.mem_range'_1.mpr ⟨hk, by omega⟩
      rw [List.range_eq_range'] at hback
      have hback' : List.range' 0 ccb.perLanUserPoolLen = [] ++ j :: post := hback.symm
      obtain ⟨-, hlt, hbefore⟩ := mem_pre_of_range' hback'
      have hzero : j = 0 := by
        by_contra hne
        have := hbefore 0 (by omega) (by omega)
        simp at this
      refine ⟨by omega, hopen, Or.inr ⟨?_, hall, by omega⟩⟩
      by_contra hge
      exact hall j (by omega) (by omega) hopen
    · simp only [List.cons_append, List.cons.injEq] at hback
      obtain ⟨rfl, -⟩ := hback
      obtain ⟨hge, hlt, hbefore⟩ := mem_pre_of_range' hfront
      refine ⟨by omega, hopen, Or.inl ⟨hge, ?_⟩⟩
      intro k hk hkj
      exact hpre k (hbefore k hk hkj)

/-- The two ways a search ends well: at the client's own slot, or at the entry a scan finds. -/
theorem checkPool_eq_some (h : checkPool ccb own cur mac = some (ccb', j)) :
    (ccb.OpenTo mac own ∧ ccb' = ccb.modUser own (·.take mac) ∧ j = cur) ∨
      (¬ ccb.OpenTo mac own ∧
        scanPool ccb mac (List.range' cur (ccb.perLanUserPoolLen - cur) ++
          List.range (max cur ccb.perLanUserPoolLen)) = some (ccb', j)) := by
  unfold checkPool at h
  by_cases hr : (ccb.user own).reserved = true
  · refine Or.inr ⟨fun hopen => ?_, by simpa [hr] using h⟩
    rw [hopen.1] at hr
    cases hr
  · by_cases hu : (ccb.user own).used = true
    · by_cases hm : mac = (ccb.user own).poolMac
      · refine Or.inl ⟨⟨by simpa using hr, Or.inr hm⟩, ?_, ?_⟩
        · rw [modUser_eq_self (take_of_open hu hm)]
          simp [hr, hu, hm] at h
          exact h.1.symm
        · simp [hr, hu, hm] at h
          exact h.2.symm
      · refine Or.inr ⟨fun hopen => ?_, by simpa [hr, hu, hm] using h⟩
        rcases hopen.2 with hfree | hmac
        · rw [hu] at hfree
          cases hfree
        · exact hm hmac
    · simp [hr, hu] at h
      exact Or.inl ⟨⟨by simpa using hr, Or.inl (by simpa using hu)⟩, h.1.symm, h.2.symm⟩

/-- Wherever a search ends, one entry that would do has been taken. -/
theorem checkPool_takes (h : checkPool ccb own cur mac = some (ccb', j)) :
    ∃ k, ccb.OpenTo mac k ∧ ccb' = ccb.modUser k (·.take mac) ∧ (k = j ∨ k = own ∧ j = cur) := by
  rcases checkPool_eq_some h with ⟨hopen, hc, hj⟩ | ⟨-, hscan⟩
  · exact ⟨own, hopen, hc, Or.inr ⟨rfl, hj⟩⟩
  · obtain ⟨hopen, hc, -⟩ := scanPool_eq_some hscan
    exact ⟨j, hopen, hc, Or.inl rfl⟩

/-- Taking an entry that will do is something decoding may do. -/
theorem kept_take (hopen : ccb.OpenTo mac i) :
    ccb.Kept own (ccb.modUser i (·.take mac)) := by
  refine DhcpCcb.Kept.modUser ?_ fun _ => rfl
  refine ⟨rfl, rfl, rfl, rfl, rfl, rfl, rfl, fun hu => ⟨rfl, ?_⟩⟩
  rcases hopen.2 with hfree | hmac
  · rw [hu] at hfree
    cases hfree
  · exact hmac

theorem checkPool_kept (h : checkPool ccb own cur mac = some (ccb', j)) : ccb.Kept own ccb' := by
  obtain ⟨k, hopen, rfl, -⟩ := checkPool_takes h
  exact kept_take hopen

end FastRG
