/-
A validated pool.

Nothing a packet or a timer does reaches beyond the window: `Within`.  So the entries
behind it are as they were when they were last cleared, whatever has happened since
set-up, and a new window starts out clean even when the one before it was longer.  That
its addresses lie in the server's subnet is checked at its two ends only, which is enough
for the masks that `Spares` describes and for no other.
-/
import FastRG.Proofs.DhcpLease
import FastRG.Lib.MaskedRange

namespace FastRG

variable {hz now : Nat} {ccb ccb' : DhcpCcb} {mac : BitVec 48} {own cur i j : Nat}

/-! ### Steps that stay in the window -/

/-- The pool before and after something that leaves the entries behind the window alone. -/
structure DhcpCcb.Within (ccb ccb' : DhcpCcb) : Prop where
  len : ccb'.perLanUserPoolLen = ccb.perLanUserPoolLen
  behind : ∀ i, ccb.perLanUserPoolLen ≤ i → ccb'.user i = ccb.user i

namespace DhcpCcb.Within

theorem refl (ccb : DhcpCcb) : ccb.Within ccb := ⟨rfl, fun _ _ => rfl⟩

theorem trans {ccb'' : DhcpCcb} (h : ccb.Within ccb') (h' : ccb'.Within ccb'') :
    ccb.Within ccb'' := by
  refine ⟨h'.len.trans h.len, fun i hi => ?_⟩
  rw [h'.behind i (by rw [h.len]; exact hi), h.behind i hi]

theorem modUser (hi : i < ccb.perLanUserPoolLen) (f : PerLanUser → PerLanUser) :
    ccb.Within (ccb.modUser i f) :=
  ⟨rfl, fun j hj => DhcpCcb.user_modUser_of_ne ccb f (by omega)⟩

/-- The index stays in the window, too. -/
theorem lt (h : ccb.Within ccb') (hi : i < ccb.perLanUserPoolLen) :
    i < ccb'.perLanUserPoolLen := by
  rw [h.len]
  exact hi

end DhcpCcb.Within

theorem checkPool_within (hown : own < ccb.perLanUserPoolLen) (hcur : cur < ccb.perLanUserPoolLen)
    (h : checkPool ccb own cur mac = some (ccb', j)) :
    ccb.Within ccb' ∧ j < ccb.perLanUserPoolLen := by
  rcases checkPool_eq_some h with ⟨-, rfl, rfl⟩ | ⟨-, hscan⟩
  · exact ⟨.modUser hown _, hcur⟩
  · obtain ⟨-, rfl, pre, post, hl, -⟩ := scanPool_eq_some hscan
    have hj : j < ccb.perLanUserPoolLen := lt_of_mem_tried hcur (by rw [hl]; simp)
    exact ⟨.modUser hj _, hj⟩

theorem requestScan_within (hown : own < ccb.perLanUserPoolLen) :
    ccb.Within (requestScan ccb own).2.1 := by
  unfold requestScan
  by_cases hci : ccb.pkt.hdr.clientIp = rteIpv4Any
  · simp only [hci, ne_eq, not_true_eq_false, if_false]
    exact ⟨rfl, fun _ _ => rfl⟩
  by_cases hacc : dhcpIpAcceptable ccb ccb.pkt.hdr.clientIp = true
  · simp only [hci, hacc, ne_eq, not_false_eq_true, not_true_eq_false, if_true, if_false]
    have hset : ccb.Within (setHdrIps ccb 0 ccb.pkt.hdr.clientIp) := ⟨rfl, fun _ _ => rfl⟩
    exact hset.trans (.modUser (hset.lt hown) _)
  · simp only [hci, hacc, ne_eq, not_false_eq_true, if_true]
    exact .refl ccb

theorem MsgStep.within {st st' : DecodeSt} {t : BitVec 8} (hown : own < st.ccb.perLanUserPoolLen)
    (hcur : st.cur < st.ccb.perLanUserPoolLen) (h : MsgStep own st t st') :
    st.ccb.Within st'.ccb ∧ st'.cur < st'.ccb.perLanUserPoolLen := by
  cases h with
  | event ev _ => exact ⟨.refl _, hcur⟩
  | release _ hpool =>
      obtain ⟨hw, hj⟩ := checkPool_within hown hcur hpool
      exact ⟨hw, hw.lt hj⟩
  | refused ev _ =>
      have hscan : st.ccb.Within (requestScan st.ccb own).2.1 := requestScan_within hown
      have hw := hscan.trans (.modUser (hscan.lt hown) ({ · with timer := none }))
      exact ⟨hw, hw.lt hcur⟩
  | granted _ _ hpool =>
      have hscan : st.ccb.Within (requestScan st.ccb own).2.1 := requestScan_within hown
      obtain ⟨hw, hj⟩ := checkPool_within (hscan.lt hown) (hscan.lt hcur) hpool
      have hstop := hw.trans (.modUser (hw.lt (hscan.lt hown)) ({ · with timer := none }))
      exact ⟨hscan.trans hstop, hstop.lt hj⟩

/-- Decoding a packet stays in the window, and so does the index. -/
theorem dhcpDecode_within (ccb : DhcpCcb) (pkt : DhcpPkt) (hown : own < ccb.perLanUserPoolLen) :
    ccb.Within (dhcpDecode ccb own pkt).2.1 ∧
      (dhcpDecode ccb own pkt).2.2 < (dhcpDecode ccb own pkt).2.1.perLanUserPoolLen := by
  have hstart : ccb.Within (decodeStart ccb own pkt) :=
    ⟨rfl, fun i hi => DhcpCcb.user_modUser_of_ne _ _ (by omega)⟩
  obtain ⟨ev, ⟨-, hw, hcur⟩, -⟩ := dhcpDecode_inv
    (fun st => (decodeStart ccb own pkt).Kept own st.ccb ∧ ccb.Within st.ccb ∧
      st.cur < st.ccb.perLanUserPoolLen) ccb own pkt
    (fun st h off => h.1.opt off)
    (fun st st' off h _ hstep => by
      obtain ⟨hw, hcur⟩ := hstep.within (h.2.1.lt hown) h.2.2
      exact ⟨h.1.trans hstep.kept, h.2.1.trans hw, hcur⟩)
    ⟨.refl own _, hstart, hstart.lt hown⟩
  exact ⟨hw, hcur⟩

theorem pickFrom_within {l : List Nat} {ip : BitVec 32}
    (hl : ∀ k ∈ l, k < ccb.perLanUserPoolLen) (h : pickFrom ccb mac l = some (ccb', ip)) :
    ccb.Within ccb' := by
  obtain ⟨k, hk, -, -, hcase⟩ := pickFrom_cases h
  rcases hcase with ⟨rfl, -⟩ | ⟨-, rfl⟩
  · exact .refl _
  · exact .modUser (hl k hk) _

/-- The automaton stays in the window. -/
theorem FsmStep.within {ev : DhcpEvent} {d : DhcpDone} (hi : i < ccb.perLanUserPoolLen)
    (h : FsmStep hz now ccb i ev (some d)) : ccb.Within d.ccb := by
  have hset : ∀ st, ccb.Within (setState ccb i st) := fun st => .modUser hi _
  cases h with
  | noRow _ => exact .refl ccb
  | offerFailed => exact hset _
  | offered hpick =>
      have hw := (hset .offerSent).trans
        (pickFrom_within (fun k hk => lt_of_mem_tried ((hset _).lt hi) hk) hpick)
      exact hw.trans (.modUser (hw.lt hi) _)
  | acked _ hack =>
      obtain ⟨buf, -, heq⟩ := ack_eq_modUser hz now hack
      simp only [heq]
      exact .modUser hi _
  | naked _ => exact hset _
  | nakReleased _ => exact (hset _).trans (.modUser ((hset _).lt hi) _)
  | informed _ => exact hset _
  | released => exact (hset _).trans (.modUser ((hset _).lt hi) _)
  | conflicted => exact (hset _).trans (.modUser ((hset _).lt hi) _)

theorem dhcpdAt_within {pkt : DhcpPkt} {slot : Nat} {d : DhcpdDone}
    (hslot : slot < ccb.perLanUserPoolLen) (h : dhcpdAt hz now ccb pkt slot = some d) :
    ccb.Within d.ccb := by
  have hclaim : ccb.Within (claimed hz now ccb pkt slot) := .modUser hslot _
  obtain ⟨hw, hcur⟩ := dhcpDecode_within (claimed hz now ccb pkt slot) pkt (hclaim.lt hslot)
  obtain ⟨dec, c, cur, hres, hcase⟩ := dhcpdAt_cases h
  rw [hres] at hw hcur
  have hdec := hclaim.trans hw
  rcases hcase with ⟨-, ret, rfl⟩ | ⟨e, r, -, hfsm, hr⟩
  · exact hdec.trans (.modUser hcur _)
  · have hstep := dhcpFsm_step hz now c cur e
    rw [hfsm] at hstep
    have hafter := hstep.within hcur
    rcases hr with ⟨-, rfl⟩ | ⟨-, rfl⟩
    · exact (hdec.trans hafter).trans (.modUser (hafter.lt hcur) _)
    · exact hdec.trans hafter

/-- A packet stays in the window. -/
theorem dhcpStep_packet_within (hz : Nat) (ccb : DhcpCcb) (now : Nat) (pkt : DhcpPkt) :
    ccb.Within (dhcpStep hz ccb (.packet now pkt)) := by
  show ccb.Within (((dhcpd hz now ccb pkt).map (·.ccb)).getD ccb)
  cases hd : dhcpd hz now ccb pkt with
  | none => exact .refl ccb
  | some d =>
      rcases dhcpd_some hd with rfl | ⟨slot, hslot, hat⟩
      · exact .refl ccb
      · exact dhcpdAt_within hslot.1 hat

/-- A timer in the window stays in it. -/
theorem dhcpTimerFire_within (hz now : Nat) (hi : i < ccb.perLanUserPoolLen) :
    ccb.Within (dhcpTimerFire hz now ccb i) := by
  rcases dhcpTimerFire_cases hz now ccb i with heq | ⟨t, -, -, heq | heq⟩
  · rw [heq]
    exact .refl ccb
  · rw [heq]
    exact .modUser hi _
  · rw [heq]
    exact .modUser hi _

/-! ### Behind the window -/

/-- An entry with nothing in it: no client, no lease, no address and no timer. -/
structure PerLanUser.Cleared (e : PerLanUser) : Prop where
  used : e.used = false
  lanUserUsed : e.lanUserUsed = false
  lanMac : e.lanMac = zeroMac
  poolMac : e.poolMac = zeroMac
  ipAddr : e.ipAddr = 0
  reserved : e.reserved = false
  timer : e.timer = none

/-- Behind the window every entry is cleared. -/
def Bounded (ccb : DhcpCcb) : Prop :=
  ∀ i, ccb.perLanUserPoolLen ≤ i → (ccb.user i).Cleared

theorem Bounded.within (h : Bounded ccb) (hw : ccb.Within ccb') : Bounded ccb' := by
  intro i hi
  rw [hw.len] at hi
  rw [hw.behind i hi]
  exact h i hi

/-- One entry after a new window has been set. -/
theorem user_dhcpPoolInit {serverIp ipStart ipEnd mask : BitVec 32} (h : Bounded ccb)
    (hinit : dhcpPoolInitByUser ccb serverIp ipStart ipEnd mask = (.success, ccb')) (i : Nat) :
    ((ccb'.user i).used = false ∧ (ccb'.user i).lanUserUsed = false ∧
      (ccb'.user i).lanMac = zeroMac ∧ (ccb'.user i).poolMac = zeroMac ∧
      (ccb'.user i).timer = none) ∧
    (i < (dhcpPoolLen ipStart ipEnd).toNat →
      (ccb'.user i).ipAddr = swap32 (swap32 ipStart + BitVec.ofNat 32 i) ∧
      (ccb'.user i).reserved = dhcpIpIsReserved (swap32 ipStart + BitVec.ofNat 32 i)) ∧
    ((dhcpPoolLen ipStart ipEnd).toNat ≤ i →
      (ccb'.user i).ipAddr = 0 ∧ (ccb'.user i).reserved = false) := by
  unfold dhcpPoolInitByUser at hinit
  by_cases hlong : (dhcpPoolLen ipStart ipEnd).toNat > dhcpMaxPoolSizePerUser
  · simp [hlong] at hinit
  simp only [hlong, if_false, Prod.mk.injEq, true_and] at hinit
  subst hinit
  by_cases hold : i < ccb.perLanUserPoolLen
  · -- an entry of the window before
    have hmax : i < max ccb.perLanUserPoolLen (dhcpPoolLen ipStart ipEnd).toNat := by omega
    refine ⟨?_, fun hi => ?_, fun hi => ?_⟩
    · simp [DhcpCcb.user, hold, hmax, PerLanUser.reset]
    · simp [DhcpCcb.user, hold, hmax, PerLanUser.reset, hi]
    · have hnot : ¬ i < (dhcpPoolLen ipStart ipEnd).toNat := by omega
      simp only [DhcpCcb.user, hold, hmax, PerLanUser.reset, hnot, if_true, if_false, decide_false,
        Bool.false_and, and_true]
      decide
  · have hclear := h i (by omega)
    by_cases hnew : i < (dhcpPoolLen ipStart ipEnd).toNat
    · have hmax : i < max ccb.perLanUserPoolLen (dhcpPoolLen ipStart ipEnd).toNat := by omega
      refine ⟨?_, fun _ => ?_, fun hi => absurd hnew (by omega)⟩
      · simpa [DhcpCcb.user, hold, hmax, PerLanUser.reset] using hclear.timer
      · simp [DhcpCcb.user, hold, hmax, PerLanUser.reset, hnew]
    · have hmax : ¬ i < max ccb.perLanUserPoolLen (dhcpPoolLen ipStart ipEnd).toNat := by omega
      simp only [DhcpCcb.user, hold, hmax, if_false]
      exact ⟨⟨hclear.used, hclear.lanUserUsed, hclear.lanMac, hclear.poolMac, hclear.timer⟩,
        fun hi => absurd hi hnew, fun _ => ⟨hclear.ipAddr, hclear.reserved⟩⟩

theorem dhcpPoolInit_len {serverIp ipStart ipEnd mask : BitVec 32}
    (hinit : dhcpPoolInitByUser ccb serverIp ipStart ipEnd mask = (.success, ccb')) :
    ccb'.perLanUserPoolLen = (dhcpPoolLen ipStart ipEnd).toNat ∧ ccb'.dhcpServerIp = serverIp ∧
      ccb'.subnetMask = mask := by
  unfold dhcpPoolInitByUser at hinit
  by_cases hlong : (dhcpPoolLen ipStart ipEnd).toNat > dhcpMaxPoolSizePerUser
  · simp [hlong] at hinit
  simp only [hlong, if_false, Prod.mk.injEq, true_and] at hinit
  rw [← hinit]
  exact ⟨rfl, rfl, rfl⟩

theorem dhcpPoolInitByUser_bounded (serverIp ipStart ipEnd mask : BitVec 32) (h : Bounded ccb) :
    Bounded (dhcpPoolInitByUser ccb serverIp ipStart ipEnd mask).2 := by
  obtain ⟨status, c, hinit⟩ : ∃ status c,
      dhcpPoolInitByUser ccb serverIp ipStart ipEnd mask = (status, c) := ⟨_, _, rfl⟩
  rw [hinit]
  cases status with
  | error =>
      unfold dhcpPoolInitByUser at hinit
      by_cases hlong : (dhcpPoolLen ipStart ipEnd).toNat > dhcpMaxPoolSizePerUser
      · simp only [hlong, if_true, Prod.mk.injEq, true_and] at hinit
        exact hinit ▸ h
      · simp [hlong] at hinit
  | success =>
      intro i hi
      simp only at hi ⊢
      rw [(dhcpPoolInit_len hinit).1] at hi
      obtain ⟨⟨hu, hlu, hlm, hpm, ht⟩, -, hbehind⟩ := user_dhcpPoolInit h hinit i
      obtain ⟨hip, hres⟩ := hbehind hi
      exact ⟨hu, hlu, hlm, hpm, hip, hres, ht⟩

theorem dhcpInitByUser_bounded : Bounded dhcpInitByUser := by
  refine dhcpPoolInitByUser_bounded 0 0 0 0 ?_
  intro i _
  exact ⟨rfl, rfl, rfl, rfl, rfl, rfl, rfl⟩

theorem Bounded.step (h : Bounded ccb) (l : DhcpLabel) : Bounded (dhcpStep hz ccb l) := by
  cases l with
  | packet now pkt => exact h.within (dhcpStep_packet_within hz ccb now pkt)
  | timer now i =>
      show Bounded (dhcpTimerFire hz now ccb i)
      by_cases hi : i < ccb.perLanUserPoolLen
      · exact h.within (dhcpTimerFire_within hz now hi)
      · -- behind the window no timer runs
        have hnone := (h i (by omega)).timer
        unfold dhcpTimerFire
        rw [hnone]
        exact h
  | applyConfig serverIp ipStart ipEnd mask =>
      show Bounded (dhcpApplyConfig ccb serverIp ipStart ipEnd mask)
      unfold dhcpApplyConfig
      cases dhcpValidatePoolRange serverIp ipStart ipEnd mask with
      | error => exact h
      | success => exact dhcpPoolInitByUser_bounded serverIp ipStart ipEnd mask h
  | dns conf => exact h
  | onOff on => exact h
  | disable =>
      intro i hi
      show ((dhcpdDisableCcb ccb).perLanUserPool i).Cleared
      have hnot : ¬ i < ccb.perLanUserPoolLen := Nat.not_lt.mpr hi
      simp only [dhcpdDisableCcb, hnot, if_false]
      exact h i hi

theorem DhcpRun.bounded {cond : DhcpCcb → DhcpLabel → Prop} {ls : List DhcpLabel}
    (h : DhcpRun hz cond ls ccb) : Bounded ccb :=
  Run.inv Bounded (fun _ l hb _ => hb.step l) h dhcpInitByUser_bounded

/-! ### The new window -/

/-- A pool that can be used: its addresses are the window's, one for each index, all in the
server's subnet; nothing of an earlier pool is left; and the addresses that must not be
leased are the ones marked. -/
structure UsablePool (ccb : DhcpCcb) (ipStart : BitVec 32) : Prop where
  inSubnet : ∀ i, i < ccb.perLanUserPoolLen → dhcpInSubnet ccb (ccb.user i).ipAddr = true
  indexed : ∀ i, (swap32 (ccb.user i).ipAddr).toNat = (swap32 ipStart).toNat + i ↔
    i < ccb.perLanUserPoolLen
  unclaimed : ∀ i, (ccb.user i).lanMac = zeroMac ∧ (ccb.user i).poolMac = zeroMac ∧
    (ccb.user i).lanUserUsed = false ∧ (ccb.user i).used = false ∧ (ccb.user i).timer = none
  reserved : ∀ i, (ccb.user i).reserved = true ↔
    i < ccb.perLanUserPoolLen ∧ dhcpIpIsReserved (swap32 (ccb.user i).ipAddr) = true

/-- The range is all addresses there are. -/
def WholeSpace (ipStart ipEnd : BitVec 32) : Prop := ipStart = 0 ∧ ipEnd = 0xffffffff

instance (ipStart ipEnd : BitVec 32) : Decidable (WholeSpace ipStart ipEnd) :=
  inferInstanceAs (Decidable (_ ∧ _))

theorem swap32_and (x y : BitVec 32) : swap32 (x &&& y) = swap32 x &&& swap32 y := by
  apply BitVec.eq_of_getLsbD_eq
  intro i hi
  simp only [BitVec.getLsbD_and, getLsbD_swap32, hi, decide_true, Bool.true_and]

/-- In the subnet, in host order. -/
theorem dhcpInSubnet_iff (ip : BitVec 32) : dhcpInSubnet ccb ip = true ↔
    swap32 ip &&& swap32 ccb.subnetMask = swap32 ccb.dhcpServerIp &&& swap32 ccb.subnetMask := by
  unfold dhcpInSubnet
  rw [decide_eq_true_eq, ← swap32_and, ← swap32_and, swap32_inj]

/-- What the checks of a range come to. -/
theorem dhcpValidatePoolRange_ends {serverIp ipStart ipEnd mask : BitVec 32}
    (h : dhcpValidatePoolRange serverIp ipStart ipEnd mask = .success) :
    ipStart &&& mask = serverIp &&& mask ∧ ipEnd &&& mask = serverIp &&& mask := by
  unfold dhcpValidatePoolRange at h
  by_cases hzero : serverIp = 0 ∧ ipStart = 0 ∧ ipEnd = 0 ∧ mask = 0
  · obtain ⟨rfl, rfl, rfl, rfl⟩ := hzero
    exact ⟨rfl, rfl⟩
  rw [if_neg hzero] at h
  by_cases hgt : swap32 ipStart > swap32 ipEnd
  · rw [if_pos hgt] at h
    cases h
  rw [if_neg hgt] at h
  by_cases hends : ipStart &&& mask ≠ serverIp &&& mask ∨ ipEnd &&& mask ≠ serverIp &&& mask
  · rw [if_pos hends] at h
    cases h
  · rw [not_or, not_not, not_not] at hends
    exact hends

/-- The length of a range in order is the number of its addresses, or nothing. -/
theorem dhcpPoolLen_toNat {ipStart ipEnd : BitVec 32} (hle : swap32 ipStart ≤ swap32 ipEnd) :
    (dhcpPoolLen ipStart ipEnd).toNat =
      if WholeSpace ipStart ipEnd then 0
      else (swap32 ipEnd).toNat - (swap32 ipStart).toNat + 1 := by
  unfold dhcpPoolLen
  rw [if_pos hle]
  by_cases hwhole : WholeSpace ipStart ipEnd
  · rw [if_pos hwhole, hwhole.1, hwhole.2]
    decide
  · rw [if_neg hwhole]
    have hnot : ¬ (swap32 ipStart = 0 ∧ swap32 ipEnd = 0xffffffff) := by
      intro h
      refine hwhole ⟨?_, ?_⟩
      · rw [← swap32_swap32 ipStart, h.1]
        decide
      · rw [← swap32_swap32 ipEnd, h.2]
        decide
    bv_omega

/-- The addresses of a window are the numbers from its start to its end. -/
theorem entry_toNat {ipStart ipEnd : BitVec 32} (hle : swap32 ipStart ≤ swap32 ipEnd)
    (hi : i < (dhcpPoolLen ipStart ipEnd).toNat) :
    (swap32 ipStart + BitVec.ofNat 32 i).toNat = (swap32 ipStart).toNat + i := by
  have hspan := dhcpPoolLen_span hle hi
  bv_omega

/-- What a range that was accepted leaves to be asked: whether the server's subnet has the
whole of it, and whether its length fits. -/
theorem usablePool_of {serverIp ipStart ipEnd mask : BitVec 32} (h : Bounded ccb)
    (hle : swap32 ipStart ≤ swap32 ipEnd)
    (hinit : dhcpPoolInitByUser ccb serverIp ipStart ipEnd mask = (.success, ccb')) :
    UsablePool ccb' ipStart ↔ ¬ WholeSpace ipStart ipEnd ∧
      ∀ i, i < (dhcpPoolLen ipStart ipEnd).toNat →
        (swap32 ipStart + BitVec.ofNat 32 i) &&& swap32 mask = swap32 serverIp &&& swap32 mask := by
  obtain ⟨hlen, hserver, hmask⟩ := dhcpPoolInit_len hinit
  have hentry := user_dhcpPoolInit h hinit
  have hin : ∀ i, i < (dhcpPoolLen ipStart ipEnd).toNat →
      (dhcpInSubnet ccb' (ccb'.user i).ipAddr = true ↔
        (swap32 ipStart + BitVec.ofNat 32 i) &&& swap32 mask = swap32 serverIp &&& swap32 mask) := by
    intro i hi
    rw [dhcpInSubnet_iff, ((hentry i).2.1 hi).1, swap32_swap32, hmask, hserver]
  have hbehind : ∀ i, (dhcpPoolLen ipStart ipEnd).toNat ≤ i →
      (swap32 (ccb'.user i).ipAddr).toNat = 0 := by
    intro i hi
    rw [((hentry i).2.2 hi).1]
    decide
  refine ⟨fun hus => ⟨fun hwhole => ?_, fun i hi => ?_⟩, fun ⟨hnot, hall⟩ => ⟨?_, ?_, ?_, ?_⟩⟩
  · -- the length of the whole space wraps to nothing, and entry 0 has address 0 all the same
    have hzero : (dhcpPoolLen ipStart ipEnd).toNat = 0 := by
      rw [dhcpPoolLen_toNat hle, if_pos hwhole]
    have hstart : (swap32 ipStart).toNat = 0 := by
      rw [hwhole.1]
      decide
    have hlt := (hus.indexed 0).mp (by rw [hbehind 0 (by omega), hstart])
    omega
  · exact (hin i hi).mp (hus.inSubnet i (by omega))
  · intro i hi
    rw [hlen] at hi
    exact (hin i hi).mpr (hall i hi)
  · intro i
    by_cases hi : i < (dhcpPoolLen ipStart ipEnd).toNat
    · rw [((hentry i).2.1 hi).1, swap32_swap32, entry_toNat hle hi, hlen]
      exact ⟨fun _ => hi, fun _ => rfl⟩
    · rw [hbehind i (by omega), hlen]
      refine ⟨fun heq => ?_, fun hlt => absurd hlt hi⟩
      rw [dhcpPoolLen_toNat hle, if_neg hnot] at hi
      omega
  · intro i
    obtain ⟨hu, hlu, hlm, hpm, ht⟩ := (hentry i).1
    exact ⟨hlm, hpm, hlu, hu, ht⟩
  · intro i
    rw [hlen]
    by_cases hi : i < (dhcpPoolLen ipStart ipEnd).toNat
    · obtain ⟨hip, hres⟩ := (hentry i).2.1 hi
      rw [hip, hres, swap32_swap32]
      exact ⟨fun hr => ⟨hi, hr⟩, fun hr => hr.2⟩
    · rw [((hentry i).2.2 (by omega)).2]
      exact ⟨fun hr => absurd hr (by simp), fun hr => absurd hr.1 hi⟩

/--
**When a validated pool is usable.**  Whatever the subscriber's server has been through since
set-up, a range that is validated and then taken gives a usable pool exactly when the mask
has no bit at or below the highest bit in which the ends of the range differ, and the range
is not the whole address space, whose length is counted as nothing.
-/
theorem validated_usable_iff {ls : List DhcpLabel} {s s' : DhcpCcb}
    (hrun : DhcpRun hz (fun _ _ => True) ls s) {serverIp ipStart ipEnd mask : BitVec 32}
    (hval : dhcpValidatePoolRange serverIp ipStart ipEnd mask = .success)
    (hinit : dhcpPoolInitByUser s serverIp ipStart ipEnd mask = (.success, s')) :
    UsablePool s' ipStart ↔ MaskedRange.Spares (swap32 mask) (swap32 ipStart) (swap32 ipEnd) ∧
      ¬ WholeSpace ipStart ipEnd := by
  have hle := dhcpValidatePoolRange_le hval
  obtain ⟨hstart, hend⟩ := dhcpValidatePoolRange_ends hval
  have hstart' : swap32 ipStart &&& swap32 mask = swap32 serverIp &&& swap32 mask := by
    rw [← swap32_and, ← swap32_and, hstart]
  have hends : swap32 ipStart &&& swap32 mask = swap32 ipEnd &&& swap32 mask := by
    rw [← swap32_and, ← swap32_and, hstart, hend]
  rw [usablePool_of hrun.bounded hle hinit, ← MaskedRange.forall_and_eq_iff hle hends, hstart']
  refine ⟨fun ⟨hnot, hall⟩ => ⟨fun x hx hx' => ?_, hnot⟩, fun ⟨hall, hnot⟩ => ⟨hnot, fun i hi => ?_⟩⟩
  · -- an address of the range is the one of its index
    have hlen := dhcpPoolLen_toNat hle
    rw [if_neg hnot] at hlen
    rw [BitVec.le_def] at hx hx'
    have hback : swap32 ipStart + BitVec.ofNat 32 (x.toNat - (swap32 ipStart).toNat) = x := by
      bv_omega
    have h := hall (x.toNat - (swap32 ipStart).toNat) (by omega)
    rw [hback] at h
    exact h
  · have hspan := dhcpPoolLen_span hle hi
    have hnat := entry_toNat hle hi
    refine hall _ (BitVec.le_def.mpr ?_) (BitVec.le_def.mpr ?_)
    · omega
    · omega

/-- An ordinary range with an ordinary mask. -/
theorem validated_usable_iff_plain :
    ∃ s', dhcpPoolInitByUser (servedTo []) (swap32 0xc0a80101) (swap32 0xc0a80102)
        (swap32 0xc0a8010a) (swap32 0xffffff00) = (.success, s') ∧
      UsablePool s' (swap32 0xc0a80102) := by
  have hval : dhcpValidatePoolRange (swap32 0xc0a80101) (swap32 0xc0a80102) (swap32 0xc0a8010a)
      (swap32 0xffffff00) = .success := by decide
  refine ⟨_, rfl, (validated_usable_iff (run_servedTo []) hval rfl).mpr ⟨?_, by decide⟩⟩
  have hall : ∀ j, j < 32 → (swap32 (swap32 0xffffff00)).getLsbD j = true →
      (swap32 (swap32 0xc0a80102) ^^^ swap32 (swap32 0xc0a8010a)).toNat < 2 ^ j := by decide
  intro j hj
  exact hall j (BitVec.lt_of_getLsbD hj) hj

/-- With the mask 255.255.0.255, the range from 192.168.1.1 to 192.168.2.1 is accepted, and
192.168.1.2 in it is not in the subnet. -/
theorem not_validated_usable :
    ∃ s', DhcpRun 1 (fun _ _ => True) [] dhcpInitByUser ∧
      dhcpValidatePoolRange (swap32 0xc0a80101) (swap32 0xc0a80101) (swap32 0xc0a80201)
        (swap32 0xffff00ff) = .success ∧
      dhcpPoolInitByUser dhcpInitByUser (swap32 0xc0a80101) (swap32 0xc0a80101)
        (swap32 0xc0a80201) (swap32 0xffff00ff) = (.success, s') ∧
      1 < s'.perLanUserPoolLen ∧ dhcpInSubnet s' (s'.user 1).ipAddr = false ∧
      ¬ UsablePool s' (swap32 0xc0a80101) := by
  refine ⟨_, Run.nil, by decide, rfl, by decide, by decide, fun h => ?_⟩
  exact absurd (h.inSubnet 1 (by decide)) (by decide)

end FastRG
