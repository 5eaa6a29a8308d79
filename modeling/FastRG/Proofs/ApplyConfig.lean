/-
What applying a configuration comes to.

`apply_hsi_config` goes through the VLAN map, the session, the pool and the toggles in turn, and
each part may still refuse.  Written out, a new configuration and an update each have three ends:
the VLAN is not to be had, the credentials have no room, or the session's part is done
(`applyNew_eq`, `applyUpdate_eq`).  Only what comes after that can leave a configuration half
applied.
-/
import FastRG.Northbound

namespace FastRG

namespace Node

variable {s : Node} {env : ApplyEnv} {c : Nat} {config : HsiConfig} {p : HsiParsed}
  {isUpdate alloc : Bool}

/-! ### Slots and the map -/

@[simp] theorem modSub_subs_self (s : Node) (c : Nat) (f : Subscriber → Subscriber) :
    (s.modSub c f).subs c = f (s.subs c) := by
  simp [modSub]

@[simp] theorem modSub_subs_of_ne (s : Node) {c d : Nat} (f : Subscriber → Subscriber)
    (h : d ≠ c) : (s.modSub c f).subs d = s.subs d := by
  simp [modSub, h]

/-- The map has an entry for this VLAN. -/
def inMap (vlanId : Nat) : Prop := 1 ≤ vlanId ∧ vlanId ≤ maxVlanId

instance (vlanId : Nat) : Decidable (inMap vlanId) := inferInstanceAs (Decidable (_ ∧ _))

/-- The VLAN is nobody's. -/
def vlanFree (s : Node) (vlanId : Nat) : Prop :=
  inMap vlanId ∧ s.vlanUseridMap (vlanId - 1) = none

instance (s : Node) (vlanId : Nat) : Decidable (s.vlanFree vlanId) :=
  inferInstanceAs (Decidable (_ ∧ _))

/-- A map with the entry of a VLAN set, where there is one. -/
def setEntry (map : Nat → Option Nat) (vlanId : Nat) (owner : Option Nat) : Nat → Option Nat :=
  if inMap vlanId then Function.update map (vlanId - 1) owner else map

theorem setEntry_self (map : Nat → Option Nat) {vlanId : Nat} (h : inMap vlanId)
    (owner : Option Nat) : setEntry map vlanId owner (vlanId - 1) = owner := by
  simp [setEntry, h]

/-- Entries of different VLANs do not meet. -/
theorem setEntry_of_ne (map : Nat → Option Nat) {vlanId v : Nat} (hv : inMap v)
    (h : v ≠ vlanId) (owner : Option Nat) : setEntry map vlanId owner (v - 1) = map (v - 1) := by
  unfold setEntry
  by_cases hin : inMap vlanId
  · have hne : v - 1 ≠ vlanId - 1 := by
      have h1 := hv.1
      have h2 := hin.1
      omega
    rw [if_pos hin, Function.update_of_ne hne]
  · rw [if_neg hin]

theorem not_inMap {vlanId : Nat} : (vlanId < 1 ∨ maxVlanId < vlanId) ↔ ¬ inMap vlanId := by
  unfold inMap
  omega

theorem setVlanMapCcbId_eq (s : Node) (vlanId c : Nat) : s.setVlanMapCcbId vlanId c =
    if s.vlanFree vlanId then
      (.success, { s with vlanUseridMap := setEntry s.vlanUseridMap vlanId (some c) })
    else (.error, s) := by
  unfold setVlanMapCcbId
  by_cases hin : inMap vlanId
  · rw [if_neg (fun h => not_inMap.mp h hin)]
    by_cases hnone : s.vlanUseridMap (vlanId - 1) = none
    · rw [if_neg (not_not.mpr hnone), if_pos ⟨hin, hnone⟩, setEntry, if_pos hin]
    · rw [if_pos hnone, if_neg (fun h => hnone h.2)]
  · rw [if_pos (not_inMap.mpr hin), if_neg (fun h => hin h.1)]

theorem resetVlanMapCcbId_eq (s : Node) (vlanId : Nat) : s.resetVlanMapCcbId vlanId =
    { s with vlanUseridMap := setEntry s.vlanUseridMap vlanId none } := by
  unfold resetVlanMapCcbId setEntry
  by_cases hin : inMap vlanId
  · rw [if_neg (fun h => not_inMap.mp h hin), if_pos hin]
  · rw [if_pos (not_inMap.mpr hin), if_neg hin]

/-- The map once a subscriber has moved from one VLAN to another. -/
def movedMap (map : Nat → Option Nat) (old new c : Nat) : Nat → Option Nat :=
  if old = new then setEntry map new (some c)
  else setEntry (setEntry map new (some c)) old none

/-- A free entry that was taken and given back. -/
theorem setEntry_back {vlanId : Nat} (h : s.vlanFree vlanId) (owner : Option Nat) :
    setEntry (setEntry s.vlanUseridMap vlanId owner) vlanId none = s.vlanUseridMap := by
  unfold setEntry
  rw [if_pos h.1, if_pos h.1, Function.update_idem, ← h.2, Function.update_eq_self]

/-- A move that is undone leaves the old entry this subscriber's, whatever it was before. -/
theorem setEntry_rolledBack {old new : Nat} (h : s.vlanFree new) (hne : old ≠ new) (c : Nat) :
    setEntry (setEntry (movedMap s.vlanUseridMap old new c) new none) old (some c) =
      setEntry s.vlanUseridMap old (some c) := by
  unfold movedMap
  rw [if_neg hne]
  by_cases hin : inMap old
  · have hidx : old - 1 ≠ new - 1 := by
      have h1 := hin.1
      have h2 := h.1.1
      omega
    unfold setEntry
    simp only [if_pos hin, if_pos h.1]
    funext v
    by_cases hv : v = old - 1
    · rw [hv, Function.update_self, Function.update_self]
    · rw [Function.update_of_ne hv, Function.update_of_ne hv]
      by_cases hv' : v = new - 1
      · rw [hv', Function.update_self, h.2]
      · rw [Function.update_of_ne hv', Function.update_of_ne hv, Function.update_of_ne hv']
  · have hfrom : ∀ map owner, setEntry map old owner = map := by
      intro map owner
      unfold setEntry
      rw [if_neg hin]
    rw [hfrom, hfrom, hfrom, setEntry_back h]

/-- The rollback of a move, as the code writes it. -/
theorem undone_eq {old new : Nat} (h : s.vlanFree new) (hne : old ≠ new) :
    (({ s with vlanUseridMap := movedMap s.vlanUseridMap old new c }.resetVlanMapCcbId
        new).setVlanMapCcbId old c).2 =
      { s with vlanUseridMap := setEntry s.vlanUseridMap old (some c) } := by
  rw [setVlanMapCcbId_eq, resetVlanMapCcbId_eq]
  by_cases hin : inMap old
  · have hempty : setEntry (movedMap s.vlanUseridMap old new c) new none (old - 1) = none := by
      rw [setEntry_of_ne _ hin hne, movedMap, if_neg hne, setEntry_self _ hin]
    rw [if_pos ⟨hin, hempty⟩]
    simp only [setEntry_rolledBack h hne]
  · -- the old VLAN has no entry, so there is none to put back
    have hsame : ∀ owner, setEntry (setEntry (movedMap s.vlanUseridMap old new c) new none)
        old owner = setEntry (movedMap s.vlanUseridMap old new c) new none := by
      intro owner
      rw [setEntry, if_neg hin]
    rw [if_neg (fun h => hin h.1), ← setEntry_rolledBack h hne, hsame]

/-! ### The session's part -/

/-- A slot set up for a new configuration. -/
def newSession (u : Subscriber) (config : HsiConfig) (p : HsiParsed) : Subscriber :=
  (u.initConfig true p.vlanId config.accountName config.password).2

/-- A running slot with other credentials on another VLAN. -/
def renewed (u : Subscriber) (config : HsiConfig) (p : HsiParsed) : Subscriber :=
  { u with vlanId := p.vlanId, pppUserAcc := config.accountName, pppPasswd := config.password }

/-- A node with one slot and the map changed. -/
def withSub (s : Node) (c : Nat) (u : Subscriber) (map : Nat → Option Nat) : Node :=
  { s with subs := Function.update s.subs c u, vlanUseridMap := map }

@[simp] theorem withSub_subs_self (s : Node) (c : Nat) (u : Subscriber)
    (map : Nat → Option Nat) : (s.withSub c u map).subs c = u := by
  simp [withSub]

@[simp] theorem withSub_subs_of_ne (s : Node) {c d : Nat} (u : Subscriber)
    (map : Nat → Option Nat) (h : d ≠ c) : (s.withSub c u map).subs d = s.subs d := by
  simp [withSub, h]

theorem applyNew_eq (alloc : Bool) (s : Node) (c : Nat) (config : HsiConfig) (p : HsiParsed) :
    s.applyNew alloc c config p =
      if ¬ s.vlanFree p.vlanId ∨ alloc = false then (.error, s)
      else (.success, s.withSub c (newSession (s.subs c) config p)
        (movedMap s.vlanUseridMap (s.subs c).vlanId p.vlanId c)) := by
  unfold applyNew
  rw [setVlanMapCcbId_eq]
  by_cases hfree : s.vlanFree p.vlanId
  · rw [if_pos hfree]
    cases alloc with
    | false =>
        rw [if_pos (Or.inr rfl)]
        simp only [Subscriber.initConfig, if_true, resetVlanMapCcbId_eq, setEntry_back hfree]
    | true =>
        have hdone : ¬ (¬ s.vlanFree p.vlanId ∨ true = false) := by simp [hfree]
        rw [if_neg hdone]
        simp only [Subscriber.initConfig, resetVlanMapCcbId_eq]
        unfold movedMap
        by_cases hv : (s.subs c).vlanId = p.vlanId
        · simp [hv, withSub, modSub, newSession, Subscriber.initConfig]
        · simp [hv, withSub, modSub, newSession, Subscriber.initConfig]
  · rw [if_neg hfree, if_pos (Or.inl hfree)]

theorem moveVlan_eq (s : Node) (c vlanId : Nat) : s.moveVlan c vlanId =
    if (s.subs c).vlanId = vlanId then (.success, s)
    else if s.vlanFree vlanId then
      (.success, { s with
        vlanUseridMap := movedMap s.vlanUseridMap (s.subs c).vlanId vlanId c })
    else (.error, s) := by
  unfold moveVlan
  by_cases hv : (s.subs c).vlanId = vlanId
  · rw [if_pos hv, if_pos hv]
  · rw [if_neg hv, if_neg hv, setVlanMapCcbId_eq]
    unfold movedMap
    by_cases hfree : s.vlanFree vlanId
    · rw [if_pos hfree, if_pos hfree, if_neg hv]
      simp only [resetVlanMapCcbId_eq]
    · rw [if_neg hfree, if_neg hfree]

/-- The map after an update, of a subscriber that may keep its VLAN. -/
def updatedMap (s : Node) (c vlanId : Nat) : Nat → Option Nat :=
  if (s.subs c).vlanId = vlanId then s.vlanUseridMap
  else movedMap s.vlanUseridMap (s.subs c).vlanId vlanId c

/-- The map after an update that was undone. -/
def undoneMap (s : Node) (c vlanId : Nat) : Nat → Option Nat :=
  if (s.subs c).vlanId = vlanId then s.vlanUseridMap
  else setEntry s.vlanUseridMap (s.subs c).vlanId (some c)

theorem applyUpdate_eq (alloc : Bool) (s : Node) (c : Nat) (config : HsiConfig) (p : HsiParsed) :
    s.applyUpdate alloc c config p =
      if (s.subs c).vlanId ≠ p.vlanId ∧ ¬ s.vlanFree p.vlanId then (.error, s)
      else if alloc = false then (.error, { s with vlanUseridMap := s.undoneMap c p.vlanId })
      else (.success, s.withSub c (renewed (s.subs c) config p) (s.updatedMap c p.vlanId)) := by
  unfold applyUpdate undoneMap updatedMap
  rw [moveVlan_eq]
  by_cases hv : (s.subs c).vlanId = p.vlanId
  · rw [if_pos hv, if_neg (fun h => h.1 hv)]
    cases alloc with
    | false => simp [Subscriber.updateConfig, hv]
    | true => simp [Subscriber.updateConfig, hv, withSub, modSub, renewed]
  · rw [if_neg hv]
    by_cases hfree : s.vlanFree p.vlanId
    · rw [if_pos hfree, if_neg (fun h => h.2 hfree), if_neg hv]
      cases alloc with
      | false =>
          simp only [Subscriber.updateConfig, if_true, if_pos hv, undone_eq hfree hv]
      | true => simp [Subscriber.updateConfig, hv, withSub, modSub, renewed]
    · rw [if_neg hfree, if_pos ⟨hv, hfree⟩]

/-! ### The pool's part and the gates -/

/-- The window of a configuration is no longer than the pool. -/
def poolFits (p : HsiParsed) : Prop := (dhcpPoolLen p.ipStart p.ipEnd).toNat ≤ dhcpMaxPoolSizePerUser

instance (p : HsiParsed) : Decidable (poolFits p) := inferInstanceAs (Decidable (_ ≤ _))

/-- A slot with the pool of a configuration. -/
def pooled (u : Subscriber) (p : HsiParsed) : Subscriber := (u.initPool p).2

theorem initPool_eq (u : Subscriber) (p : HsiParsed) :
    u.initPool p = if poolFits p then (.success, pooled u p) else (.error, u) := by
  by_cases hfits : poolFits p
  · have hlen : ¬ (dhcpPoolLen p.ipStart p.ipEnd).toNat > dhcpMaxPoolSizePerUser := by
      exact Nat.not_lt.mpr hfits
    rw [if_pos hfits]
    simp only [pooled, Subscriber.initPool, dhcpPoolInitByUser, if_neg hlen]
  · have hlen : (dhcpPoolLen p.ipStart p.ipEnd).toNat > dhcpMaxPoolSizePerUser := by
      exact Nat.not_le.mp hfits
    rw [if_neg hfits]
    simp only [Subscriber.initPool, dhcpPoolInitByUser, if_pos hlen]

/-- A configuration is applied as a new one. -/
abbrev appliedAsNew (u : Subscriber) (isUpdate : Bool) : Prop :=
  isUpdate = false ∨ u.ppp.phase = notConfigured

/-- The VLAN map and the session's part of `apply_hsi_config`. -/
def sessionPart (alloc : Bool) (s : Node) (c : Nat) (config : HsiConfig) (p : HsiParsed)
    (isUpdate : Bool) : Status × Node :=
  if appliedAsNew (s.subs c) isUpdate then s.applyNew alloc c config p
  else s.applyUpdate alloc c config p

theorem applyClosed_of_error {t : Node}
    (h : s.sessionPart alloc c config p isUpdate = (.error, t)) :
    s.applyClosed alloc c config p isUpdate = (.error, t) := by
  unfold sessionPart at h
  simp only [applyClosed, h]

theorem applyClosed_of_success {t : Node}
    (h : s.sessionPart alloc c config p isUpdate = (.success, t)) :
    s.applyClosed alloc c config p isUpdate =
      if poolFits p then (.success, t.modSub c fun u => (pooled u p).setToggles config)
      else (.error, t) := by
  unfold sessionPart at h
  simp only [applyClosed, h, initPool_eq]
  by_cases hfits : poolFits p
  · simp only [if_pos hfits]
    rfl
  · simp only [if_neg hfits]

/-- The node while a configuration is applied. -/
def shut (s : Node) (c : Nat) : Node := s.modSub c fun u => u.setGates false false false

/-- The gates put back as they were. -/
def reopened (s : Node) (c : Nat) (t : Node) : Node :=
  t.modSub c fun v => v.setGates (s.subs c).ppp.pppBool (s.subs c).ppp.dpStartBool
    (s.subs c).dhcp.dhcpBool

@[simp] theorem shut_map (s : Node) (c : Nat) : (s.shut c).vlanUseridMap = s.vlanUseridMap := rfl

@[simp] theorem shut_vlanId (s : Node) (c : Nat) :
    ((s.shut c).subs c).vlanId = (s.subs c).vlanId := by
  simp [shut, Subscriber.setGates]

@[simp] theorem shut_phase (s : Node) (c : Nat) :
    ((s.shut c).subs c).ppp.phase = (s.subs c).ppp.phase := by
  simp [shut, Subscriber.setGates]

theorem shut_vlanFree (s : Node) (c vlanId : Nat) :
    (s.shut c).vlanFree vlanId ↔ s.vlanFree vlanId := Iff.rfl

theorem shut_appliedAsNew (s : Node) (c : Nat) (isUpdate : Bool) :
    appliedAsNew ((s.shut c).subs c) isUpdate ↔ appliedAsNew (s.subs c) isUpdate := by
  unfold appliedAsNew
  rw [shut_phase]

/-- Gates that were shut and put back. -/
theorem reopened_shut (s : Node) (c : Nat) (map : Nat → Option Nat) :
    reopened s c { s.shut c with vlanUseridMap := map } = { s with vlanUseridMap := map } := by
  simp [reopened, shut, modSub, Subscriber.setGates]

theorem sessionPart_shut_new (alloc : Bool) (config : HsiConfig) (p : HsiParsed)
    (h : appliedAsNew (s.subs c) isUpdate) :
    (s.shut c).sessionPart alloc c config p isUpdate =
      if ¬ s.vlanFree p.vlanId ∨ alloc = false then (.error, s.shut c)
      else (.success, (s.shut c).withSub c (newSession ((s.shut c).subs c) config p)
        (movedMap s.vlanUseridMap (s.subs c).vlanId p.vlanId c)) := by
  rw [sessionPart, if_pos ((shut_appliedAsNew s c isUpdate).mpr h), applyNew_eq]
  simp only [shut_vlanFree, shut_map, shut_vlanId]

theorem sessionPart_shut_update (alloc : Bool) (config : HsiConfig) (p : HsiParsed)
    (h : ¬ appliedAsNew (s.subs c) isUpdate) :
    (s.shut c).sessionPart alloc c config p isUpdate =
      if (s.subs c).vlanId ≠ p.vlanId ∧ ¬ s.vlanFree p.vlanId then (.error, s.shut c)
      else if alloc = false then
        (.error, { s.shut c with vlanUseridMap := s.undoneMap c p.vlanId })
      else (.success, (s.shut c).withSub c (renewed ((s.shut c).subs c) config p)
        (s.updatedMap c p.vlanId)) := by
  rw [sessionPart, if_neg (fun hn => h ((shut_appliedAsNew s c isUpdate).mp hn)), applyUpdate_eq]
  simp only [shut_vlanFree, shut_vlanId, undoneMap, updatedMap, shut_map]

/-! ### `apply_hsi_config` as a whole -/

/-- A new configuration for a subscriber in use changes nothing. -/
theorem applyHsiConfig_active (env : ApplyEnv) (hvalid : s.isValidCcbId c = true)
    (hparse : config.parse = some p) (hact : alreadyActive (s.subs c) isUpdate = true) :
    s.applyHsiConfig env c config isUpdate = (.success, s) := by
  have hback : reopened s c (s.shut c) = s := reopened_shut s c s.vlanUseridMap
  unfold reopened shut at hback
  simp [applyHsiConfig, hvalid, hparse, hact, hback]

/-- Neither does one that could not wait for the DHCP server. -/
theorem applyHsiConfig_busy (hvalid : s.isValidCcbId c = true)
    (hparse : config.parse = some p) (hact : alreadyActive (s.subs c) isUpdate = false)
    (hidle : env.dhcpIdle = false) :
    s.applyHsiConfig env c config isUpdate = (.error, s) := by
  have hback : reopened s c (s.shut c) = s := reopened_shut s c s.vlanUseridMap
  unfold reopened shut at hback
  simp [applyHsiConfig, hvalid, hparse, hact, hidle, hback]

/-- Nothing stands in the way of changing the slot. -/
structure Applies (env : ApplyEnv) (s : Node) (c : Nat) (config : HsiConfig) (isUpdate : Bool)
    (p : HsiParsed) : Prop where
  valid : s.isValidCcbId c = true
  parsed : config.parse = some p
  inactive : alreadyActive (s.subs c) isUpdate = false
  idle : env.dhcpIdle = true

/-- The part with the gates shut decides; the gates are reopened after it. -/
theorem Applies.eq (h : Applies env s c config isUpdate p) :
    s.applyHsiConfig env c config isUpdate =
      let r := (s.shut c).applyClosed env.alloc c config p isUpdate
      let t := reopened s c r.2
      (r.1, if r.1 = .success ∧ (t.subs c).ppp.ipv6Enabled ≠ (s.subs c).ppp.ipv6Enabled then
        t.post c .ipv6Changed else t) := by
  simp [applyHsiConfig, h.valid, h.parsed, h.inactive, h.idle, shut, reopened]

/-- The status is the one of the part with the gates shut. -/
theorem Applies.status (h : Applies env s c config isUpdate p) :
    (s.applyHsiConfig env c config isUpdate).1 =
      ((s.shut c).applyClosed env.alloc c config p isUpdate).1 := by
  rw [h.eq]

/-- The map and the slots are those the part with the gates shut leaves, reopened. -/
theorem Applies.node (h : Applies env s c config isUpdate p) :
    let t := reopened s c ((s.shut c).applyClosed env.alloc c config p isUpdate).2
    (s.applyHsiConfig env c config isUpdate).2.vlanUseridMap = t.vlanUseridMap ∧
      (s.applyHsiConfig env c config isUpdate).2.subs = t.subs := by
  rw [h.eq]
  simp only
  split
  · exact ⟨rfl, rfl⟩
  · exact ⟨rfl, rfl⟩

/-- The VLAN can be had: it is nobody's, or an update keeps it. -/
def vlanOk (s : Node) (c : Nat) (p : HsiParsed) (isUpdate : Bool) : Prop :=
  s.vlanFree p.vlanId ∨ ¬ appliedAsNew (s.subs c) isUpdate ∧ (s.subs c).vlanId = p.vlanId

/-- The slot with the session's part done. -/
def sessionSub (s : Node) (c : Nat) (config : HsiConfig) (p : HsiParsed) (isUpdate : Bool) :
    Subscriber :=
  if appliedAsNew (s.subs c) isUpdate then newSession ((s.shut c).subs c) config p
  else renewed ((s.shut c).subs c) config p

/-- The slot once a configuration is applied. -/
def appliedSub (s : Node) (c : Nat) (config : HsiConfig) (p : HsiParsed) (isUpdate : Bool) :
    Subscriber :=
  ((pooled (s.sessionSub c config p isUpdate) p).setToggles config).setGates
    (s.subs c).ppp.pppBool (s.subs c).ppp.dpStartBool (s.subs c).dhcp.dhcpBool

/-- The map once a configuration is applied. -/
def appliedMap (s : Node) (c : Nat) (p : HsiParsed) (isUpdate : Bool) : Nat → Option Nat :=
  if appliedAsNew (s.subs c) isUpdate then movedMap s.vlanUseridMap (s.subs c).vlanId p.vlanId c
  else s.updatedMap c p.vlanId

theorem sessionPart_of_ok (config : HsiConfig) (h : s.vlanOk c p isUpdate) :
    (s.shut c).sessionPart true c config p isUpdate =
      (.success, (s.shut c).withSub c (s.sessionSub c config p isUpdate)
        (s.appliedMap c p isUpdate)) := by
  unfold sessionSub appliedMap
  by_cases hnew : appliedAsNew (s.subs c) isUpdate
  · have hfree : s.vlanFree p.vlanId := h.resolve_right fun h => h.1 hnew
    rw [sessionPart_shut_new true config p hnew, if_pos hnew, if_pos hnew, if_neg]
    intro hfail
    rcases hfail with hfail | hfail
    · exact hfail hfree
    · exact Bool.noConfusion hfail
  · rw [sessionPart_shut_update true config p hnew, if_neg hnew, if_neg hnew,
      if_neg (c := _ ∧ _), if_neg Bool.noConfusion]
    intro hfail
    rcases h with h | h
    · exact hfail.2 h
    · exact hfail.1 h.2

/-- A VLAN that cannot be had, or no room for the credentials, ends the session's part. -/
theorem sessionPart_of_not_ok (config : HsiConfig)
    (h : ¬ (s.vlanOk c p isUpdate ∧ alloc = true)) :
    ((s.shut c).sessionPart alloc c config p isUpdate).1 = .error := by
  by_cases hnew : appliedAsNew (s.subs c) isUpdate
  · rw [sessionPart_shut_new alloc config p hnew, if_pos]
    by_contra hfail
    refine h ⟨Or.inl (not_not.mp fun hf => hfail (Or.inl hf)), ?_⟩
    exact Bool.not_eq_false _ ▸ fun ha => hfail (Or.inr ha)
  · rw [sessionPart_shut_update alloc config p hnew]
    by_cases hfail : (s.subs c).vlanId ≠ p.vlanId ∧ ¬ s.vlanFree p.vlanId
    · rw [if_pos hfail]
    · rw [if_neg hfail]
      cases alloc with
      | false => rw [if_pos rfl]
      | true =>
          refine absurd ⟨?_, rfl⟩ h
          by_cases hv : (s.subs c).vlanId = p.vlanId
          · exact Or.inr ⟨hnew, hv⟩
          · exact Or.inl (not_not.mp fun hf => hfail ⟨hv, hf⟩)

/-- A session's part that is refused leaves no more than the map it has undone. -/
theorem sessionPart_refused (config : HsiConfig)
    (h : ¬ (s.vlanOk c p isUpdate ∧ alloc = true)) :
    ∃ map, (map = s.vlanUseridMap ∨ map = s.undoneMap c p.vlanId) ∧
      (s.shut c).sessionPart alloc c config p isUpdate =
        (.error, { s.shut c with vlanUseridMap := map }) := by
  have herr := sessionPart_of_not_ok config h
  by_cases hnew : appliedAsNew (s.subs c) isUpdate
  · have hpart := sessionPart_shut_new alloc config p hnew
    rw [hpart] at herr ⊢
    by_cases hfail : ¬ s.vlanFree p.vlanId ∨ alloc = false
    · rw [if_pos hfail]
      exact ⟨s.vlanUseridMap, Or.inl rfl, rfl⟩
    · rw [if_neg hfail] at herr
      exact Status.noConfusion herr
  · have hpart := sessionPart_shut_update alloc config p hnew
    rw [hpart] at herr ⊢
    by_cases hfail : (s.subs c).vlanId ≠ p.vlanId ∧ ¬ s.vlanFree p.vlanId
    · rw [if_pos hfail]
      exact ⟨s.vlanUseridMap, Or.inl rfl, rfl⟩
    · rw [if_neg hfail] at herr ⊢
      by_cases halloc : alloc = false
      · rw [if_pos halloc]
        exact ⟨s.undoneMap c p.vlanId, Or.inr rfl, rfl⟩
      · rw [if_neg halloc] at herr
        exact Status.noConfusion herr

/-- A configuration is applied exactly when the VLAN, the buffers and the pool allow it. -/
theorem Applies.success_iff (h : Applies env s c config isUpdate p) :
    (s.applyHsiConfig env c config isUpdate).1 = .success ↔
      (s.vlanOk c p isUpdate ∧ env.alloc = true) ∧ poolFits p := by
  rw [h.status]
  by_cases hok : s.vlanOk c p isUpdate ∧ env.alloc = true
  · rw [hok.2, applyClosed_of_success (sessionPart_of_ok config hok.1)]
    by_cases hfits : poolFits p
    · rw [if_pos hfits]
      exact ⟨fun _ => ⟨⟨hok.1, rfl⟩, hfits⟩, fun _ => rfl⟩
    · rw [if_neg hfits]
      exact ⟨fun h => Status.noConfusion h, fun h => absurd h.2 hfits⟩
  · have herr := sessionPart_of_not_ok config hok
    rw [applyClosed_of_error (Prod.ext herr rfl)]
    exact ⟨fun h => Status.noConfusion h, fun h => absurd h.1 hok⟩

@[simp] theorem appliedSub_ipv6Enabled :
    (s.appliedSub c config p isUpdate).ppp.ipv6Enabled = config.ipv6Enable := rfl

/-- What a configuration that is applied comes to. -/
theorem Applies.eq_of_success (h : Applies env s c config isUpdate p)
    (hs : (s.applyHsiConfig env c config isUpdate).1 = .success) :
    (s.applyHsiConfig env c config isUpdate).2 =
      let t := s.withSub c (s.appliedSub c config p isUpdate) (s.appliedMap c p isUpdate)
      if config.ipv6Enable ≠ (s.subs c).ppp.ipv6Enabled then t.post c .ipv6Changed else t := by
  obtain ⟨hok, hfits⟩ := h.success_iff.mp hs
  have hnode : reopened s c (((s.shut c).withSub c (s.sessionSub c config p isUpdate)
      (s.appliedMap c p isUpdate)).modSub c fun u => (pooled u p).setToggles config) =
      s.withSub c (s.appliedSub c config p isUpdate) (s.appliedMap c p isUpdate) := by
    simp [reopened, withSub, modSub, shut, appliedSub]
  rw [h.eq, hok.2, applyClosed_of_success (sessionPart_of_ok config hok.1), if_pos hfits]
  simp only [hnode, withSub_subs_self, appliedSub_ipv6Enabled, true_and]

theorem Applies.subs_of_success (h : Applies env s c config isUpdate p)
    (hs : (s.applyHsiConfig env c config isUpdate).1 = .success) :
    (s.applyHsiConfig env c config isUpdate).2.subs =
      Function.update s.subs c (s.appliedSub c config p isUpdate) := by
  rw [h.eq_of_success hs]
  simp only
  split
  · rfl
  · rfl

theorem Applies.map_of_success (h : Applies env s c config isUpdate p)
    (hs : (s.applyHsiConfig env c config isUpdate).1 = .success) :
    (s.applyHsiConfig env c config isUpdate).2.vlanUseridMap = s.appliedMap c p isUpdate := by
  rw [h.eq_of_success hs]
  simp only
  split
  · rfl
  · rfl

/-- A configuration that does not get to the slot changes nothing. -/
theorem applyHsiConfig_not_applies (h : ∀ p, ¬ Applies env s c config isUpdate p) :
    (s.applyHsiConfig env c config isUpdate).2 = s := by
  by_cases hvalid : s.isValidCcbId c = false
  · rw [applyHsiConfig, if_pos hvalid]
  · have hvalid' : s.isValidCcbId c = true := by simpa using hvalid
    cases hparse : config.parse with
    | none => simp only [applyHsiConfig, hvalid', hparse, Bool.true_eq_false, if_false]
    | some p =>
        cases hact : alreadyActive (s.subs c) isUpdate with
        | true => rw [applyHsiConfig_active env hvalid' hparse hact]
        | false =>
            cases hidle : env.dhcpIdle with
            | true => exact absurd ⟨hvalid', hparse, hact, hidle⟩ (h p)
            | false => rw [applyHsiConfig_busy hvalid' hparse hact hidle]

/-- The ends of a configuration that gets to the slot: refused with the map undone, refused for
its pool with the session's part done, or applied. -/
theorem Applies.cases (h : Applies env s c config isUpdate p) :
    let t := (s.applyHsiConfig env c config isUpdate).2
    (t.subs = s.subs ∧ (t.vlanUseridMap = s.vlanUseridMap ∨
      t.vlanUseridMap = s.undoneMap c p.vlanId)) ∨
    s.vlanOk c p isUpdate ∧ t.vlanUseridMap = s.appliedMap c p isUpdate ∧
      (t.subs = Function.update s.subs c ((s.sessionSub c config p isUpdate).setGates
        (s.subs c).ppp.pppBool (s.subs c).ppp.dpStartBool (s.subs c).dhcp.dhcpBool) ∨
      t.subs = Function.update s.subs c (s.appliedSub c config p isUpdate)) := by
  obtain ⟨hmap, hsubs⟩ := h.node
  simp only [hmap, hsubs]
  by_cases hok : s.vlanOk c p isUpdate ∧ env.alloc = true
  · rw [hok.2, applyClosed_of_success (sessionPart_of_ok config hok.1)]
    refine Or.inr ⟨hok.1, ?_, ?_⟩
    · split
      · rfl
      · rfl
    · split
      · right
        simp [reopened, withSub, modSub, shut, appliedSub]
      · left
        simp [reopened, withSub, modSub, shut]
  · obtain ⟨map, hm, hpart⟩ := sessionPart_refused config hok
    rw [applyClosed_of_error hpart, reopened_shut]
    exact Or.inl ⟨rfl, hm⟩

end Node

end FastRG
