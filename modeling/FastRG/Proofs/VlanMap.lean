/-
The VLAN map and the subscribers agree.

The map says which slot a VLAN leads to, and each slot says which VLAN it has.  They are written
apart, by applying a configuration and undoing it, by removing one, and by a lower count.  Two
facts carry all of it: a slot that moves to a free VLAN and gives its old one back keeps them in
agreement (`agrees_moved`), and so does a slot that gives its VLAN up (`agrees_freed`).

A slot without a VLAN is not configured, and none of its timers runs.  Of the commands, only a
disconnect does not look.
-/
import FastRG.EtcdIntegration
import FastRG.Proofs.ApplyAtomic
import FastRG.Proofs.PppConfigured

namespace FastRG

namespace Node

variable {s : Node} {env : ApplyEnv} {c : Nat} {config : HsiConfig} {p : HsiParsed}
  {isUpdate alloc : Bool} {mac : BitVec 48} {map : Nat → Option Nat} {vlan : Nat → Nat}

/-! ### Maps and VLANs -/

/-- A map from VLANs to slots and the VLANs of the slots say the same. -/
structure Agrees (map : Nat → Option Nat) (vlan : Nat → Nat) : Prop where
  owner : ∀ v c, inMap v → (map (v - 1) = some c ↔ vlan c = v)
  range : ∀ c, vlan c ≠ 0 → inMap (vlan c)

/-- A slot moves to a VLAN that is nobody's. -/
theorem agrees_moved (h : Agrees map vlan) {new : Nat} (hin : inMap new)
    (hfree : map (new - 1) = none) (c : Nat) :
    Agrees (movedMap map (vlan c) new c) (Function.update vlan c new) := by
  have hne : vlan c ≠ new := by
    intro heq
    have howner := (h.owner new c hin).mpr heq
    rw [hfree] at howner
    exact absurd howner (by simp)
  refine ⟨fun v d hv => ?_, fun d => ?_⟩
  · unfold movedMap
    rw [if_neg hne]
    by_cases hold : v = vlan c
    · -- the old VLAN is given up, and nobody else has it
      rw [hold] at hv ⊢
      rw [setEntry_self _ hv]
      refine ⟨fun hc => absurd hc (by simp), fun hd => ?_⟩
      by_cases hdc : d = c
      · rw [hdc, Function.update_self] at hd
        exact absurd hd.symm hne
      · rw [Function.update_of_ne hdc] at hd
        have hboth := (h.owner (vlan c) d hv).mpr hd
        rw [(h.owner (vlan c) c hv).mpr rfl] at hboth
        exact absurd (Option.some.inj hboth).symm hdc
    · rw [setEntry_of_ne _ hv hold]
      by_cases hnew : v = new
      · rw [hnew, setEntry_self _ hin]
        by_cases hdc : d = c
        · rw [hdc, Function.update_self]
          exact ⟨fun _ => rfl, fun _ => rfl⟩
        · rw [Function.update_of_ne hdc]
          refine ⟨fun hc => absurd (Option.some.inj hc).symm hdc, fun hd => ?_⟩
          have howner := (h.owner new d hin).mpr hd
          rw [hfree] at howner
          exact absurd howner (by simp)
      · rw [setEntry_of_ne _ hv hnew, h.owner v d hv]
        by_cases hdc : d = c
        · rw [hdc, Function.update_self]
          exact ⟨fun hd => absurd hd.symm hold, fun hd => absurd hd.symm hnew⟩
        · rw [Function.update_of_ne hdc]
  · by_cases hdc : d = c
    · rw [hdc, Function.update_self]
      exact fun _ => hin
    · rw [Function.update_of_ne hdc]
      exact h.range d

/-- A slot gives its VLAN up. -/
theorem agrees_freed (h : Agrees map vlan) (c : Nat) :
    Agrees (setEntry map (vlan c) none) (Function.update vlan c 0) := by
  refine ⟨fun v d hv => ?_, fun d => ?_⟩
  · have hv0 : v ≠ 0 := by
      have hpos := hv.1
      omega
    by_cases hold : v = vlan c
    · rw [hold] at hv ⊢
      rw [setEntry_self _ hv]
      refine ⟨fun hc => absurd hc (by simp), fun hd => ?_⟩
      by_cases hdc : d = c
      · rw [hdc, Function.update_self] at hd
        exact absurd hd.symm (hold ▸ hv0)
      · rw [Function.update_of_ne hdc] at hd
        have hboth := (h.owner (vlan c) d hv).mpr hd
        rw [(h.owner (vlan c) c hv).mpr rfl] at hboth
        exact absurd (Option.some.inj hboth).symm hdc
    · rw [setEntry_of_ne _ hv hold, h.owner v d hv]
      by_cases hdc : d = c
      · rw [hdc, Function.update_self]
        exact ⟨fun hd => absurd hd.symm hold, fun hd => absurd hd.symm hv0⟩
      · rw [Function.update_of_ne hdc]
  · by_cases hdc : d = c
    · rw [hdc, Function.update_self]
      exact fun h0 => absurd rfl h0
    · rw [Function.update_of_ne hdc]
      exact h.range d

/-! ### The invariant -/

/-- No timer of the session runs. -/
def Still (s : PppCcb) : Prop :=
  s.ppp = none ∧ s.pppIpv6cp = none ∧ s.pppoe = none ∧ s.pppAlive = false

/-- A slot with a VLAN is in one of the phases of a session; one without is not configured. -/
structure SlotOk (u : Subscriber) : Prop where
  on : u.vlanId ≠ 0 → u.ppp.phase ≤ dataPhase
  off : u.vlanId = 0 → u.ppp.phase = notConfigured ∧ Still u.ppp

/-- The VLAN map, the VLANs and the phases of a node agree. -/
structure VlanInv (s : Node) : Prop where
  agrees : Agrees s.vlanUseridMap fun c => (s.subs c).vlanId
  slots : ∀ c, SlotOk (s.subs c)

theorem SlotOk.phase_iff {u : Subscriber} (h : SlotOk u) :
    u.ppp.phase = notConfigured ↔ u.vlanId = 0 := by
  refine ⟨fun hphase => ?_, fun hv => (h.off hv).1⟩
  by_contra hv
  have hle := h.on hv
  rw [hphase] at hle
  exact absurd hle (by decide)

/-- One slot and the map changed together. -/
theorem vlanInv_withSub {t : Node} {u : Subscriber} (h : VlanInv s)
    (hsubs : t.subs = Function.update s.subs c u)
    (hmap : Agrees t.vlanUseridMap (Function.update (fun c => (s.subs c).vlanId) c u.vlanId))
    (hu : SlotOk u) : VlanInv t := by
  have hvlan : (fun d => (t.subs d).vlanId) =
      Function.update (fun c => (s.subs c).vlanId) c u.vlanId := by
    funext d
    rw [hsubs]
    by_cases hd : d = c
    · rw [hd, Function.update_self, Function.update_self]
    · rw [Function.update_of_ne hd, Function.update_of_ne hd]
  refine ⟨hvlan ▸ hmap, fun d => ?_⟩
  rw [hsubs]
  by_cases hd : d = c
  · rw [hd, Function.update_self]
    exact hu
  · rw [Function.update_of_ne hd]
    exact h.slots d

/-- One slot changed that keeps its VLAN. -/
theorem vlanInv_modSub (h : VlanInv s) {f : Subscriber → Subscriber}
    (hvlan : (f (s.subs c)).vlanId = (s.subs c).vlanId) (hu : SlotOk (f (s.subs c))) :
    VlanInv (s.modSub c f) := by
  refine vlanInv_withSub h rfl ?_ hu
  rw [hvlan, Function.update_eq_self]
  exact h.agrees

/-! ### Configurations -/

/-- What the fields of a slot that `apply_hsi_config` does not touch depend on. -/
theorem slotOk_of_session {u v : Subscriber} (h : SlotOk u) (hvlan : v.vlanId = u.vlanId)
    (hphase : v.ppp.phase = u.ppp.phase) (hppp : v.ppp.ppp = u.ppp.ppp)
    (h6 : v.ppp.pppIpv6cp = u.ppp.pppIpv6cp) (hpppoe : v.ppp.pppoe = u.ppp.pppoe)
    (halive : v.ppp.pppAlive = u.ppp.pppAlive) : SlotOk v := by
  refine ⟨fun hv => ?_, fun hv => ?_⟩
  · rw [hphase]
    exact h.on (hvlan ▸ hv)
  · obtain ⟨hnc, h1, h2, h3, h4⟩ := h.off (hvlan ▸ hv)
    exact ⟨hphase.trans hnc, hppp.trans h1, h6.trans h2, hpppoe.trans h3, halive.trans h4⟩

theorem slotOk_newSession (u : Subscriber) (hv : p.vlanId ≠ 0) : SlotOk (newSession u config p) := by
  refine ⟨fun _ => ?_, fun h => absurd h hv⟩
  show (if decide (p.vlanId ≠ 0) then endPhase else notConfigured) ≤ dataPhase
  rw [if_pos (by simpa using hv)]
  decide

theorem slotOk_cleanup (u : Subscriber) : SlotOk (u.cleanupConfig true) :=
  ⟨fun h => absurd rfl h, fun _ => ⟨rfl, rfl, rfl, rfl, rfl⟩⟩

theorem slotOk_sessionSub (h : VlanInv s) (hok : s.vlanOk c p isUpdate) :
    SlotOk (s.sessionSub c config p isUpdate) := by
  unfold sessionSub
  by_cases hnew : appliedAsNew (s.subs c) isUpdate
  · have hfree : s.vlanFree p.vlanId := hok.resolve_right fun h => h.1 hnew
    have hpos := hfree.1.1
    rw [if_pos hnew]
    exact slotOk_newSession _ (by omega)
  · -- an update finds a configured slot, and leaves its phase alone
    rw [if_neg hnew]
    have hphase : (s.subs c).ppp.phase ≠ notConfigured := fun h => hnew (Or.inr h)
    have hvlan : (s.subs c).vlanId ≠ 0 := fun hv => hphase ((h.slots c).off hv).1
    have hpos : p.vlanId ≠ 0 := by
      rcases hok with hfree | hsame
      · have hge := hfree.1.1
        omega
      · exact hsame.2 ▸ hvlan
    refine ⟨fun _ => ?_, fun hv => absurd hv hpos⟩
    show ((s.shut c).subs c).ppp.phase ≤ dataPhase
    rw [shut_phase]
    exact (h.slots c).on hvlan

theorem agrees_appliedMap (h : VlanInv s) (hok : s.vlanOk c p isUpdate) :
    Agrees (s.appliedMap c p isUpdate)
      (Function.update (fun c => (s.subs c).vlanId) c p.vlanId) := by
  have hmoved : s.vlanFree p.vlanId → Agrees (movedMap s.vlanUseridMap (s.subs c).vlanId p.vlanId c)
      (Function.update (fun c => (s.subs c).vlanId) c p.vlanId) :=
    fun hfree => agrees_moved h.agrees hfree.1 hfree.2 c
  unfold appliedMap
  by_cases hnew : appliedAsNew (s.subs c) isUpdate
  · rw [if_pos hnew]
    exact hmoved (hok.resolve_right fun h => h.1 hnew)
  · rw [if_neg hnew, updatedMap]
    by_cases hv : (s.subs c).vlanId = p.vlanId
    · rw [if_pos hv, ← hv, Function.update_eq_self]
      exact h.agrees
    · rw [if_neg hv]
      exact hmoved (hok.resolve_right fun h => hv h.2)

/-- A move that is undone leaves the map as it was. -/
theorem undoneMap_eq (h : VlanInv s) : s.undoneMap c p.vlanId = s.vlanUseridMap := by
  unfold undoneMap
  by_cases hv : (s.subs c).vlanId = p.vlanId
  · rw [if_pos hv]
  · rw [if_neg hv]
    unfold setEntry
    by_cases hin : inMap (s.subs c).vlanId
    · rw [if_pos hin, ← (h.agrees.owner _ c hin).mpr rfl, Function.update_eq_self]
    · rw [if_neg hin]

theorem sessionSub_vlanId : (s.sessionSub c config p isUpdate).vlanId = p.vlanId := by
  unfold sessionSub
  split
  · rfl
  · rfl

theorem vlanInv_apply (h : VlanInv s) (env : ApplyEnv) (c : Nat) (config : HsiConfig)
    (isUpdate : Bool) : VlanInv (s.applyHsiConfig env c config isUpdate).2 := by
  by_cases happ : ∃ p, Applies env s c config isUpdate p
  · obtain ⟨p, hp⟩ := happ
    rcases hp.cases with ⟨hsubs, hmap⟩ | ⟨hok, hmap, hsubs⟩
    · have hsame : (s.applyHsiConfig env c config isUpdate).2.vlanUseridMap = s.vlanUseridMap := by
        rcases hmap with hmap | hmap
        · exact hmap
        · exact hmap.trans (undoneMap_eq h)
      refine ⟨?_, fun d => ?_⟩
      · rw [hsubs, hsame]
        exact h.agrees
      · rw [hsubs]
        exact h.slots d
    · have hses : SlotOk (s.sessionSub c config p isUpdate) := slotOk_sessionSub h hok
      have hagrees := agrees_appliedMap h hok
      rcases hsubs with hsubs | hsubs
      · refine vlanInv_withSub h hsubs ?_ ?_
        · rw [hmap]
          show Agrees _ (Function.update _ c (s.sessionSub c config p isUpdate).vlanId)
          rw [sessionSub_vlanId]
          exact hagrees
        · exact slotOk_of_session hses rfl rfl rfl rfl rfl rfl
      · refine vlanInv_withSub h hsubs ?_ ?_
        · rw [hmap]
          show Agrees _ (Function.update _ c (s.sessionSub c config p isUpdate).vlanId)
          rw [sessionSub_vlanId]
          exact hagrees
        · exact slotOk_of_session hses rfl rfl rfl rfl rfl rfl
  · rw [applyHsiConfig_not_applies fun p hp => happ ⟨p, hp⟩]
    exact h

/-! ### Removals -/

/-- A slot that is cleaned up, its VLAN given back. -/
theorem vlanInv_cleaned (h : VlanInv s) {u : Subscriber} (hvlan : u.vlanId = 0)
    (hu : SlotOk u) :
    VlanInv (s.withSub c u (setEntry s.vlanUseridMap (s.subs c).vlanId none)) := by
  refine vlanInv_withSub h rfl ?_ hu
  rw [hvlan]
  exact agrees_freed h.agrees c

/-- The buffers for the defaults are there whenever a configuration is removed. -/
def RemoveSafe (alloc : Bool) (s : Node) (c : Nat) : Prop :=
  alloc = true ∨ s.isValidCcbId c = false ∨ (s.subs c).vlanId = 0 ∨ (s.subs c).ppp.pppBool = true ∨
    (s.subs c).dhcp.dhcpBool = true

theorem vlanInv_remove (h : VlanInv s) (hsafe : RemoveSafe alloc s c) :
    VlanInv (s.removeHsiConfig alloc c).2 := by
  unfold removeHsiConfig
  simp only
  split
  · exact h
  · split
    · exact h
    · split
      · exact h
      · split
        · exact h
        · rename_i hvalid hvlan hppp hdhcp
          have halloc : alloc = true := by
            rcases hsafe with hs | hs | hs | hs | hs
            · exact hs
            · exact absurd hs hvalid
            · exact absurd hs hvlan
            · exact absurd hs hppp
            · exact absurd hs hdhcp
          rw [halloc, resetVlanMapCcbId_eq]
          refine vlanInv_cleaned h rfl ?_
          exact slotOk_of_session (slotOk_cleanup (s.subs c)) rfl rfl rfl rfl rfl rfl

theorem vlanInv_pppdDisable (h : VlanInv s) (c : Nat) : VlanInv (s.pppdDisable true c) := by
  have hnode : s.pppdDisable true c = s.withSub c
      (({ s.subs c with ppp := (s.subs c).ppp.exitPpp } : Subscriber).cleanupConfig true)
      (setEntry s.vlanUseridMap (s.subs c).vlanId none) := by
    unfold pppdDisable
    simp only [resetVlanMapCcbId_eq]
    simp [modSub, withSub]
  rw [hnode]
  exact vlanInv_cleaned h rfl (slotOk_cleanup _)

theorem vlanInv_dhcpdDisable (h : VlanInv s) (c : Nat) : VlanInv (s.dhcpdDisable c) :=
  vlanInv_modSub h rfl (slotOk_of_session (h.slots c) rfl rfl rfl rfl rfl rfl)

/-- The buffers for the defaults are there for every slot that a lower count takes away. -/
def CountSafe (alloc : Nat → Bool) (s : Node) (userCount : Int) : Prop :=
  0 < userCount → userCount ≤ s.maxUserCount → ∀ c : Nat, userCount ≤ c → c < s.userCount → alloc c = true

theorem mem_removedCcbs {n m c : Nat} : c ∈ removedCcbs n m ↔ n ≤ c ∧ c < m := by
  unfold removedCcbs
  rw [List.mem_reverse, List.mem_drop_iff_getElem]
  constructor
  · intro ⟨i, hi, hc⟩
    rw [List.getElem_range] at hc
    rw [List.length_range] at hi
    omega
  · intro ⟨hn, hm⟩
    refine ⟨c - n, ?_, ?_⟩
    · rw [List.length_range]
      omega
    · rw [List.getElem_range]
      omega

theorem vlanInv_userCount (h : VlanInv s) {alloc : Nat → Bool} {userCount : Int}
    (hsafe : CountSafe alloc s userCount) (action : HsiAction) :
    VlanInv (s.userCountChangedCallback alloc userCount action).2 := by
  have hppp : ∀ (l : List Nat) (t : Node), (∀ c ∈ l, alloc c = true) → VlanInv t →
      VlanInv (l.foldl (fun t c => t.pppdDisable (alloc c) c) t) := by
    intro l
    induction l with
    | nil => exact fun t _ ht => ht
    | cons c rest ih =>
        intro t hl ht
        refine ih _ (fun d hd => hl d (List.mem_cons_of_mem c hd)) ?_
        show VlanInv (t.pppdDisable (alloc c) c)
        rw [hl c List.mem_cons_self]
        exact vlanInv_pppdDisable ht c
  have hdhcp : ∀ (l : List Nat) (t : Node), VlanInv t → VlanInv (l.foldl dhcpdDisable t) := by
    intro l
    induction l with
    | nil => exact fun t ht => ht
    | cons c rest ih => exact fun t ht => ih _ (vlanInv_dhcpdDisable ht c)
  have hchange : VlanInv (s.userCountChangedCallback alloc userCount .update).2 := by
    unfold userCountChangedCallback
    simp only
    split
    · exact h
    · split
      · exact h
      · rename_i hpos hmax
        refine hdhcp _ _ (hppp _ _ (fun c hc => ?_) ⟨h.agrees, h.slots⟩)
        obtain ⟨hn, hc⟩ := mem_removedCcbs.mp hc
        exact hsafe (by omega) (by omega) c (by omega) hc
  cases action with
  | create => exact hchange
  | update => exact hchange
  | delete => exact h

/-! ### Sessions -/

/-- A session's step at a slot that has a VLAN. -/
theorem vlanInv_sessionStep (h : VlanInv s) (mac : BitVec 48) {l : PppLabel}
    (hl : l.ofSession = true) (hvlan : (s.subs c).vlanId ≠ 0) :
    VlanInv (s.sessionStep mac c l) := by
  refine vlanInv_modSub h rfl ⟨fun _ => ?_, fun hv => absurd hv hvlan⟩
  exact staysOn_pppStep mac _ hl ((h.slots c).on hvlan)

/-- A step that leaves the session of a slot as it is. -/
theorem vlanInv_sessionStep_same (h : VlanInv s) {l : PppLabel}
    (hsame : pppStep mac (s.subs c).ppp l = (s.subs c).ppp) : VlanInv (s.sessionStep mac c l) := by
  refine vlanInv_modSub h rfl ?_
  simp only [hsame]
  exact h.slots c

/-- The timers of a slot without a VLAN do not run. -/
theorem vlanInv_timer (h : VlanInv s) (mac : BitVec 48) (c : Nat) (tim : SessionTimer) :
    VlanInv (s.sessionStep mac c tim.label) := by
  by_cases hvlan : (s.subs c).vlanId = 0
  · obtain ⟨hphase, hppp, h6, hpppoe, halive⟩ := (h.slots c).off hvlan
    cases tim with
    | ppp => exact vlanInv_sessionStep_same h (by simp [SessionTimer.label, pppStep, hppp])
    | ipv6cp => exact vlanInv_sessionStep_same h (by simp [SessionTimer.label, pppStep, h6])
    | pppoe => exact vlanInv_sessionStep_same h (by simp [SessionTimer.label, pppStep, hpppoe])
    | alive => exact vlanInv_sessionStep_same h (by simp [SessionTimer.label, pppStep, halive])
    | dhcp6 d =>
        -- the DHCPv6 timer writes neither the phase nor another timer
        refine vlanInv_modSub h rfl (slotOk_of_session (h.slots c) rfl ?_ ?_ ?_ ?_ ?_) <;>
          (simp only [SessionTimer.label, pppStep, dhcp6TimerCb]; split <;> (try split) <;> rfl)
  · refine vlanInv_sessionStep h mac ?_ hvlan
    cases tim <;> rfl

/-- A disconnect is only for a slot that has a VLAN. -/
def CommandSafe (s : Node) (c : Nat) (cmd : NorthboundCmd) : Prop :=
  cmd = .pppoeDisable → c < s.userCount → (s.subs c).vlanId ≠ 0 ∨ (s.subs c).ppp.pppProcessing = true

theorem vlanInv_command (h : VlanInv s) (mac : BitVec 48) {cmd : NorthboundCmd}
    (hsafe : CommandSafe s c cmd) : VlanInv (s.execute mac c cmd) := by
  unfold execute
  by_cases hcount : s.userCount ≤ c
  · rw [if_pos hcount]
    exact h
  · rw [if_neg hcount]
    have hstep : ∀ l : PppLabel, l.ofSession = true →
        ((s.subs c).vlanId = 0 → pppStep mac (s.subs c).ppp l = (s.subs c).ppp) →
        VlanInv (s.sessionStep mac c l) := by
      intro l hl hsame
      by_cases hvlan : (s.subs c).vlanId = 0
      · exact vlanInv_sessionStep_same h (hsame hvlan)
      · exact vlanInv_sessionStep h mac hl hvlan
    cases cmd with
    | pppoeEnable =>
        refine hstep .connect rfl fun hvlan => ?_
        simp [pppStep, pppConnect, ((h.slots c).off hvlan).1, endPhase, notConfigured]
    | pppoeDisable =>
        refine hstep .disconnect rfl fun hvlan => ?_
        have hbusy : (s.subs c).ppp.pppProcessing = true := by
          rcases hsafe rfl (by omega) with hv | hb
          · exact absurd hvlan hv
          · exact hb
        simp [pppStep, pppDisconnect, hbusy]
    | pppoeForceDisable =>
        refine hstep .forceDisable rfl fun hvlan => ?_
        simp [pppStep, fastrgForceTerminateHsi, ((h.slots c).off hvlan).1]
    | ipv6Changed =>
        refine hstep .ipv6Changed rfl fun hvlan => ?_
        simp [pppStep, isPppIpv6NeedRedial, ((h.slots c).off hvlan).1, dataPhase, notConfigured]
    | dhcpEnable =>
        exact vlanInv_modSub h rfl (slotOk_of_session (h.slots c) rfl rfl rfl rfl rfl rfl)
    | dhcpDisable =>
        exact vlanInv_modSub h rfl (slotOk_of_session (h.slots c) rfl rfl rfl rfl rfl rfl)

/-- A frame goes to a slot that has its VLAN. -/
theorem vlanInv_frame (h : VlanInv s) (mac : BitVec 48) (vlanId : Nat) (pkt : List (BitVec 8))
    (dns : Status) (d : Dhcp6) : VlanInv (s.nodeStep mac (.frame vlanId pkt dns d)) := by
  unfold nodeStep
  simp only
  cases hccb : s.ccbOfVlan vlanId with
  | none => exact h
  | some c =>
      unfold ccbOfVlan at hccb
      by_cases hrange : vlanId < minVlanId ∨ maxVlanId < vlanId
      · rw [if_pos hrange] at hccb
        exact absurd hccb (by simp)
      · rw [if_neg hrange] at hccb
        have hin : inMap vlanId := by
          unfold minVlanId at hrange
          unfold inMap
          omega
        have hvlan : (s.subs c).vlanId = vlanId :=
          (h.agrees.owner vlanId c hin).mp (Option.filter_eq_some_iff.mp hccb).1
        refine vlanInv_sessionStep h mac rfl ?_
        have hpos := hin.1
        omega

/-! ### Runs -/

/-- What every step is asked for: room for the defaults where a slot is cleaned up, and no
disconnect of a slot that is not configured. -/
def VlanSafe (s : Node) : NodeLabel → Prop
  | .remove alloc c => RemoveSafe alloc s c
  | .userCount alloc userCount => CountSafe alloc s userCount
  | .command c cmd => CommandSafe s c cmd
  | _ => True

theorem vlanInv_step (h : VlanInv s) (mac : BitVec 48) {l : NodeLabel} (hl : VlanSafe s l) :
    VlanInv (s.nodeStep mac l) := by
  cases l with
  | apply env c config isUpdate => exact vlanInv_apply h env c config isUpdate
  | remove alloc c => exact vlanInv_remove h hl
  | userCount alloc userCount => exact vlanInv_userCount h hl .update
  | command c cmd => exact vlanInv_command h mac hl
  | timer c tim => exact vlanInv_timer h mac c tim
  | frame vlanId pkt dns d => exact vlanInv_frame h mac vlanId pkt dns d

theorem vlanInv_startUp (maxUserCount : Nat) (rand : Nat → Nat → BitVec 32) :
    VlanInv (startUp maxUserCount rand) := by
  refine ⟨⟨fun v c hv => ?_, fun c h0 => absurd rfl h0⟩, fun c => ?_⟩
  · refine ⟨fun h => absurd h (by simp [startUp]), fun h => ?_⟩
    have h0 : (0 : Nat) = v := h
    have hpos := hv.1
    omega
  · exact ⟨fun h => absurd rfl h, fun _ => ⟨rfl, rfl, rfl, rfl, rfl⟩⟩

/--
**One owner a VLAN.** In every run from start-up in which cleaned-up slots find room for the
defaults and no slot without a VLAN is disconnected, a VLAN leads to a slot exactly when the slot
has that VLAN, no slot has a VLAN outside the map, and a slot is not configured exactly when it has
no VLAN.
-/
theorem run_vlan_agrees (mac : BitVec 48) (maxUserCount : Nat) (rand : Nat → Nat → BitVec 32)
    (ls : List NodeLabel) (s : Node)
    (h : Run (nodeStep mac) VlanSafe (startUp maxUserCount rand) ls s) :
    (∀ v c, 1 ≤ v → v ≤ maxVlanId → (s.vlanUseridMap (v - 1) = some c ↔ (s.subs c).vlanId = v)) ∧
      (∀ c, (s.subs c).vlanId ≤ maxVlanId) ∧
      ∀ c, (s.subs c).ppp.phase = notConfigured ↔ (s.subs c).vlanId = 0 := by
  have hinv : VlanInv s :=
    h.inv VlanInv (fun _ _ hs hl => vlanInv_step hs mac hl) (vlanInv_startUp maxUserCount rand)
  refine ⟨fun v c h1 hmax => hinv.agrees.owner v c ⟨h1, hmax⟩, fun c => ?_,
    fun c => (hinv.slots c).phase_iff⟩
  by_cases hv : (s.subs c).vlanId = 0
  · rw [hv]
    exact Nat.zero_le _
  · exact (hinv.agrees.range c hv).2

/-- A node with one subscriber who gets a configuration. -/
theorem run_vlan_agrees_configured :
    let s := [NodeLabel.userCount (fun _ => true) 1, .apply ⟨true, true⟩ 0 plainConfig false].foldl
      (nodeStep 0) (startUp 1 fun _ _ => 0)
    (∀ v c, 1 ≤ v → v ≤ maxVlanId → (s.vlanUseridMap (v - 1) = some c ↔ (s.subs c).vlanId = v)) ∧
      (∀ c, (s.subs c).vlanId ≤ maxVlanId) ∧
      ∀ c, (s.subs c).ppp.phase = notConfigured ↔ (s.subs c).vlanId = 0 := by
  refine run_vlan_agrees 0 1 (fun _ _ => 0) _ _ (Run.of_labels _ _ fun s l hl => ?_)
  rcases List.mem_cons.mp hl with h | h
  · rw [h]
    exact fun _ _ _ _ _ => rfl
  · rw [List.mem_singleton.mp h]
    exact trivial

/-- A disconnect of a subscriber who is not configured: the session has ended, and there is no
VLAN. -/
theorem vlan_disconnect_unconfigured :
    let s := [NodeLabel.userCount (fun _ => true) 1, .command 0 .pppoeDisable].foldl
      (nodeStep 0) (startUp 1 fun _ _ => 0)
    (s.subs 0).vlanId = 0 ∧ (s.subs 0).ppp.phase = endPhase ∧
      ¬ ((s.subs 0).ppp.phase = notConfigured ↔ (s.subs 0).vlanId = 0) := by
  refine ⟨rfl, rfl, fun h => ?_⟩
  exact absurd (h.mpr rfl) (by decide)

end Node

end FastRG
