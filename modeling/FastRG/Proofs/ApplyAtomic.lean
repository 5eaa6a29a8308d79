/-
When a configuration that is refused leaves nothing behind, and when one that was applied can be
applied again.

Everything before the pool either changes nothing or is undone.  The pool comes last and may still
refuse a window that is too long; what the session's part did before it then stays
(`applyHsiConfig_atomic_iff`).
-/
import FastRG.Proofs.ApplyConfig

namespace FastRG

namespace Node

variable {s : Node} {env : ApplyEnv} {c : Nat} {config : HsiConfig} {p : HsiParsed}
  {isUpdate alloc : Bool}

/-! ### Atomicity -/

/-- The VLAN map and every slot, with its session, tables, pool, toggles and gates, are as before. -/
def Unchanged (s t : Node) : Prop := t.vlanUseridMap = s.vlanUseridMap ∧ t.subs = s.subs

/-- The VLAN and the credentials are those the slot has. -/
def sameSession (u : Subscriber) (config : HsiConfig) (p : HsiParsed) : Prop :=
  u.vlanId = p.vlanId ∧ u.pppUserAcc = config.accountName ∧ u.pppPasswd = config.password

instance (u : Subscriber) (config : HsiConfig) (p : HsiParsed) :
    Decidable (sameSession u config p) :=
  inferInstanceAs (Decidable (_ ∧ _ ∧ _))

/-- What a refusal must not come after: the VLAN is not to be had, there is no room for the
credentials and the old VLAN was this subscriber's, or the session's part changes nothing. -/
def UndoneFor (env : ApplyEnv) (s : Node) (c : Nat) (config : HsiConfig) (isUpdate : Bool)
    (p : HsiParsed) : Prop :=
  if appliedAsNew (s.subs c) isUpdate then
    s.vlanFree p.vlanId → env.alloc = true → poolFits p
  else
    (s.subs c).vlanId = p.vlanId ∨ s.vlanFree p.vlanId →
      (env.alloc = true → poolFits p ∨ sameSession (s.subs c) config p) ∧
      (env.alloc = false → (s.subs c).vlanId = p.vlanId ∨ ¬ inMap (s.subs c).vlanId ∨
        s.vlanUseridMap ((s.subs c).vlanId - 1) = some c)

/-- The map of a slot that got its VLAN differs from the one before. -/
theorem movedMap_ne {old new : Nat} (h : s.vlanFree new) :
    movedMap s.vlanUseridMap old new c ≠ s.vlanUseridMap := by
  intro heq
  have hat : movedMap s.vlanUseridMap old new c (new - 1) = some c := by
    unfold movedMap
    by_cases hv : old = new
    · rw [if_pos hv, setEntry_self _ h.1]
    · rw [if_neg hv, setEntry_of_ne _ h.1 (Ne.symm hv), setEntry_self _ h.1]
  rw [heq, h.2] at hat
  exact absurd hat (by simp)

theorem setEntry_eq_self_iff (map : Nat → Option Nat) (vlanId c : Nat) :
    setEntry map vlanId (some c) = map ↔ ¬ inMap vlanId ∨ map (vlanId - 1) = some c := by
  by_cases hin : inMap vlanId
  · rw [setEntry, if_pos hin]
    refine ⟨fun h => Or.inr ?_, fun h => ?_⟩
    · rw [← h, Function.update_self]
    · rcases h with h | h
      · exact absurd hin h
      · rw [← h, Function.update_eq_self]
  · rw [setEntry, if_neg hin]
    exact ⟨fun _ => Or.inl hin, fun _ => rfl⟩

theorem undoneMap_eq_iff : s.undoneMap c p.vlanId = s.vlanUseridMap ↔
    (s.subs c).vlanId = p.vlanId ∨ ¬ inMap (s.subs c).vlanId ∨
      s.vlanUseridMap ((s.subs c).vlanId - 1) = some c := by
  unfold undoneMap
  by_cases hv : (s.subs c).vlanId = p.vlanId
  · rw [if_pos hv]
    exact ⟨fun _ => Or.inl hv, fun _ => rfl⟩
  · rw [if_neg hv, setEntry_eq_self_iff]
    exact ⟨Or.inr, fun h => h.resolve_left hv⟩

/-- A slot whose credentials were replaced is the one before only if they are the same. -/
theorem unchanged_renewed_iff :
    Unchanged s (reopened s c ((s.shut c).withSub c (renewed ((s.shut c).subs c) config p)
        (s.updatedMap c p.vlanId))) ↔ sameSession (s.subs c) config p := by
  unfold Unchanged
  refine ⟨fun h => ?_, fun h => ⟨?_, ?_⟩⟩
  · have hsub := congrFun h.2 c
    simp only [reopened, modSub_subs_self, withSub_subs_self, renewed, Subscriber.setGates] at hsub
    refine ⟨?_, ?_, ?_⟩
    · rw [← hsub]
    · rw [← hsub]
    · rw [← hsub]
  · show s.updatedMap c p.vlanId = s.vlanUseridMap
    unfold updatedMap
    rw [if_pos h.1]
  · funext d
    by_cases hd : d = c
    · rw [hd]
      simp only [reopened, modSub_subs_self, withSub_subs_self, renewed, shut,
        Subscriber.setGates, ← h.1, ← h.2.1, ← h.2.2]
    · simp [reopened, shut, hd]

/-- Gates that were shut and put back around no more than a change of the map. -/
theorem unchanged_shut_iff (map : Nat → Option Nat) :
    Unchanged s (reopened s c { s.shut c with vlanUseridMap := map }) ↔ map = s.vlanUseridMap := by
  rw [reopened_shut]
  exact ⟨fun h => h.1, fun h => ⟨h, rfl⟩⟩

/-- A new configuration, with the gates shut. -/
theorem unchanged_new_iff (hnew : appliedAsNew (s.subs c) isUpdate) :
    (((s.shut c).applyClosed alloc c config p isUpdate).1 = .error →
      Unchanged s (reopened s c ((s.shut c).applyClosed alloc c config p isUpdate).2)) ↔
      (s.vlanFree p.vlanId → alloc = true → poolFits p) := by
  have hpart := sessionPart_shut_new alloc config p hnew
  by_cases hfail : ¬ s.vlanFree p.vlanId ∨ alloc = false
  · rw [if_pos hfail] at hpart
    rw [applyClosed_of_error hpart]
    refine ⟨fun _ hfree halloc => ?_, fun _ _ => (unchanged_shut_iff _).mpr rfl⟩
    rcases hfail with h | h
    · exact absurd hfree h
    · rw [halloc] at h
      exact Bool.noConfusion h
  · rw [if_neg hfail] at hpart
    rw [applyClosed_of_success hpart]
    have hfree : s.vlanFree p.vlanId := not_not.mp fun h => hfail (Or.inl h)
    have halloc : alloc = true := by
      cases alloc with
      | false => exact absurd (Or.inr rfl) hfail
      | true => rfl
    by_cases hfits : poolFits p
    · rw [if_pos hfits]
      exact ⟨fun _ _ _ => hfits, fun _ h => Status.noConfusion h⟩
    · rw [if_neg hfits]
      refine ⟨fun h => ?_, fun h => absurd (h hfree halloc) hfits⟩
      exact absurd (h rfl).1 (movedMap_ne hfree)

/-- An update, with the gates shut. -/
theorem unchanged_update_iff (hnew : ¬ appliedAsNew (s.subs c) isUpdate) :
    (((s.shut c).applyClosed alloc c config p isUpdate).1 = .error →
      Unchanged s (reopened s c ((s.shut c).applyClosed alloc c config p isUpdate).2)) ↔
      ((s.subs c).vlanId = p.vlanId ∨ s.vlanFree p.vlanId →
        (alloc = true → poolFits p ∨ sameSession (s.subs c) config p) ∧
        (alloc = false → (s.subs c).vlanId = p.vlanId ∨ ¬ inMap (s.subs c).vlanId ∨
          s.vlanUseridMap ((s.subs c).vlanId - 1) = some c)) := by
  have hpart := sessionPart_shut_update alloc config p hnew
  by_cases hfail : (s.subs c).vlanId ≠ p.vlanId ∧ ¬ s.vlanFree p.vlanId
  · rw [if_pos hfail] at hpart
    rw [applyClosed_of_error hpart]
    refine ⟨fun _ h => ?_, fun _ _ => (unchanged_shut_iff _).mpr rfl⟩
    rcases h with h | h
    · exact absurd h hfail.1
    · exact absurd h hfail.2
  · rw [if_neg hfail] at hpart
    have hfree : (s.subs c).vlanId = p.vlanId ∨ s.vlanFree p.vlanId := by
      by_contra h
      exact hfail ⟨fun hv => h (Or.inl hv), fun hf => h (Or.inr hf)⟩
    cases alloc with
    | false =>
        rw [if_pos rfl] at hpart
        rw [applyClosed_of_error hpart, unchanged_shut_iff, undoneMap_eq_iff]
        refine ⟨fun h _ => ⟨Bool.noConfusion, fun _ => h rfl⟩, fun h _ => (h hfree).2 rfl⟩
    | true =>
        rw [if_neg Bool.noConfusion] at hpart
        rw [applyClosed_of_success hpart]
        by_cases hfits : poolFits p
        · rw [if_pos hfits]
          exact ⟨fun _ _ => ⟨fun _ => Or.inl hfits, Bool.noConfusion⟩, fun _ h => Status.noConfusion h⟩
        · rw [if_neg hfits, unchanged_renewed_iff]
          refine ⟨fun h _ => ⟨fun _ => Or.inr (h rfl), Bool.noConfusion⟩, fun h _ => ?_⟩
          exact ((h hfree).1 rfl).resolve_left hfits

/-- The condition: once the slot is to be changed, no refusal may come too late. -/
def AtomicWhen (env : ApplyEnv) (s : Node) (c : Nat) (config : HsiConfig) (isUpdate : Bool) :
    Prop :=
  ∀ p, Applies env s c config isUpdate p → UndoneFor env s c config isUpdate p

/-- Before the slot is to be changed, every refusal leaves it as it was. -/
theorem unchanged_of_not_applies (h : ∀ p, ¬ Applies env s c config isUpdate p)
    (herr : (s.applyHsiConfig env c config isUpdate).1 = .error) :
    Unchanged s (s.applyHsiConfig env c config isUpdate).2 := by
  by_cases hvalid : s.isValidCcbId c = false
  · rw [applyHsiConfig, if_pos hvalid]
    exact ⟨rfl, rfl⟩
  · have hvalid' : s.isValidCcbId c = true := by simpa using hvalid
    cases hparse : config.parse with
    | none =>
        simp only [applyHsiConfig, hvalid', hparse]
        exact ⟨rfl, rfl⟩
    | some p =>
        cases hact : alreadyActive (s.subs c) isUpdate with
        | true => simp [applyHsiConfig, hvalid', hparse, hact] at herr
        | false =>
            cases hidle : env.dhcpIdle with
            | true => exact absurd ⟨hvalid', hparse, hact, hidle⟩ (h p)
            | false =>
                rw [applyHsiConfig_busy hvalid' hparse hact hidle]
                exact ⟨rfl, rfl⟩

/--
**Atomicity.** A refused configuration leaves the VLAN map and every slot as they were exactly
when it is not refused for the length of its pool after the session's part has changed something.
-/
theorem applyHsiConfig_atomic_iff (env : ApplyEnv) (s : Node) (c : Nat) (config : HsiConfig)
    (isUpdate : Bool) :
    ((s.applyHsiConfig env c config isUpdate).1 = .error →
      Unchanged s (s.applyHsiConfig env c config isUpdate).2) ↔
      AtomicWhen env s c config isUpdate := by
  by_cases happ : ∃ p, Applies env s c config isUpdate p
  · obtain ⟨p, hp⟩ := happ
    have hiff : AtomicWhen env s c config isUpdate ↔ UndoneFor env s c config isUpdate p := by
      refine ⟨fun h => h p hp, fun h q hq => ?_⟩
      have hpq : p = q := Option.some.inj (hp.parsed.symm.trans hq.parsed)
      exact hpq ▸ h
    have hsame : Unchanged s (s.applyHsiConfig env c config isUpdate).2 ↔
        Unchanged s (reopened s c ((s.shut c).applyClosed env.alloc c config p isUpdate).2) := by
      unfold Unchanged
      rw [hp.node.1, hp.node.2]
    rw [hiff, hsame, hp.status, UndoneFor]
    by_cases hnew : appliedAsNew (s.subs c) isUpdate
    · rw [if_pos hnew]
      exact unchanged_new_iff hnew
    · rw [if_neg hnew]
      exact unchanged_update_iff hnew
  · have hnone : ∀ p, ¬ Applies env s c config isUpdate p := fun p hp => happ ⟨p, hp⟩
    exact ⟨fun _ p hp => absurd hp (hnone p), fun _ => unchanged_of_not_applies hnone⟩

/-- A configuration on VLAN 100 with a pool of 131073 addresses, one more than a pool holds. -/
def tooLongConfig : HsiConfig where
  vlanId := asciiBytes "100"
  accountName := asciiBytes "user"
  password := asciiBytes "secret"
  dhcpAddrPool := asciiBytes "10.0.0.1~10.2.0.1"
  dhcpSubnet := asciiBytes "255.0.0.0"
  dhcpGateway := asciiBytes "10.0.0.1"
  dnsProxyEnable := true
  tcpConntrackEnable := true
  ipv6Enable := false
  desireStatus := []
  portMappings := []

/-- A node with one subscriber, who is not configured yet. -/
def oneSubscriber : Node := { startUp 1 (fun _ _ => 0) with userCount := 1 }

set_option maxRecDepth 8000 in
/-- The subscriber is refused, and has VLAN 100 from then on. -/
theorem applyHsiConfig_too_long :
    (oneSubscriber.applyHsiConfig ⟨true, true⟩ 0 tooLongConfig false).1 = .error ∧
      ¬ Unchanged oneSubscriber
        (oneSubscriber.applyHsiConfig ⟨true, true⟩ 0 tooLongConfig false).2 := by
  refine ⟨by decide, fun h => ?_⟩
  have hmap := congrFun h.1 99
  exact absurd hmap (by decide)

/-! ### Applying again -/

/-- The VLAN map and the configuration of one subscriber are the same. -/
structure SameConfig (c : Nat) (s t : Node) : Prop where
  map : t.vlanUseridMap = s.vlanUseridMap
  vlanId : (t.subs c).vlanId = (s.subs c).vlanId
  pppUserAcc : (t.subs c).pppUserAcc = (s.subs c).pppUserAcc
  pppPasswd : (t.subs c).pppPasswd = (s.subs c).pppPasswd
  dhcpServerIp : (t.subs c).dhcp.dhcpServerIp = (s.subs c).dhcp.dhcpServerIp
  subnetMask : (t.subs c).dhcp.subnetMask = (s.subs c).dhcp.subnetMask
  poolStart : (t.subs c).dhcp.poolStart = (s.subs c).dhcp.poolStart
  poolEnd : (t.subs c).dhcp.poolEnd = (s.subs c).dhcp.poolEnd
  poolLen : (t.subs c).dhcp.perLanUserPoolLen = (s.subs c).dhcp.perLanUserPoolLen
  dnsProxy : (t.subs c).dhcp.dns.dnsProxyEnabled = (s.subs c).dhcp.dns.dnsProxyEnabled
  natConntrack : (t.subs c).nat.tcpConntrackEnabled = (s.subs c).nat.tcpConntrackEnabled
  fwConntrack : (t.subs c).firewall.tcpConntrackEnabled = (s.subs c).firewall.tcpConntrackEnabled
  ipv6Enabled : (t.subs c).ppp.ipv6Enabled = (s.subs c).ppp.ipv6Enabled

/-- A slot has a configuration: its VLAN, credentials, server settings, window and toggles. -/
structure Configured (u : Subscriber) (config : HsiConfig) (p : HsiParsed) : Prop where
  phase : u.ppp.phase ≠ notConfigured
  vlanId : u.vlanId = p.vlanId
  pppUserAcc : u.pppUserAcc = config.accountName
  pppPasswd : u.pppPasswd = config.password
  dhcpServerIp : u.dhcp.dhcpServerIp = p.gateway
  subnetMask : u.dhcp.subnetMask = p.subnetMask
  poolStart : u.dhcp.poolStart = swap32 p.ipStart
  poolEnd : u.dhcp.poolEnd = swap32 p.ipEnd
  poolLen : u.dhcp.perLanUserPoolLen = (dhcpPoolLen p.ipStart p.ipEnd).toNat
  dnsProxy : u.dhcp.dns.dnsProxyEnabled = config.dnsProxyEnable
  natConntrack : u.nat.tcpConntrackEnabled = config.tcpConntrackEnable
  fwConntrack : u.firewall.tcpConntrackEnabled = config.tcpConntrackEnable
  ipv6Enabled : u.ppp.ipv6Enabled = config.ipv6Enable

/-- PPPoE and DHCP, started or not. -/
def startServices (mac : BitVec 48) (s : Node) (c : Nat) (pppoe dhcp : Bool) : Node :=
  let s := if pppoe then s.execute mac c .pppoeEnable else s
  if dhcp then s.execute mac c .dhcpEnable else s

/-- The pool a configuration gives a slot. -/
theorem pooled_dhcp (u : Subscriber) (h : poolFits p) :
    (pooled u p).dhcp.dhcpServerIp = p.gateway ∧ (pooled u p).dhcp.subnetMask = p.subnetMask ∧
      (pooled u p).dhcp.poolStart = swap32 p.ipStart ∧
      (pooled u p).dhcp.poolEnd = swap32 p.ipEnd ∧
      (pooled u p).dhcp.perLanUserPoolLen = (dhcpPoolLen p.ipStart p.ipEnd).toNat := by
  have hlen : ¬ (dhcpPoolLen p.ipStart p.ipEnd).toNat > dhcpMaxPoolSizePerUser := Nat.not_lt.mpr h
  simp [pooled, Subscriber.initPool, dhcpPoolInitByUser, hlen]

/-- The session's part leaves a configured session with this VLAN and these credentials. -/
theorem sessionSub_session (config : HsiConfig) (h : s.vlanOk c p isUpdate) :
    (s.sessionSub c config p isUpdate).ppp.phase ≠ notConfigured ∧
      (s.sessionSub c config p isUpdate).vlanId = p.vlanId ∧
      (s.sessionSub c config p isUpdate).pppUserAcc = config.accountName ∧
      (s.sessionSub c config p isUpdate).pppPasswd = config.password := by
  unfold sessionSub
  by_cases hnew : appliedAsNew (s.subs c) isUpdate
  · have hfree : s.vlanFree p.vlanId := h.resolve_right fun h => h.1 hnew
    have hvlan : p.vlanId ≠ 0 := by
      have hin := hfree.1.1
      omega
    rw [if_pos hnew]
    refine ⟨?_, rfl, rfl, rfl⟩
    simp [newSession, Subscriber.initConfig, pppInitConfigByUser, hvlan, endPhase, notConfigured]
  · rw [if_neg hnew]
    refine ⟨?_, rfl, rfl, rfl⟩
    show ((s.shut c).subs c).ppp.phase ≠ notConfigured
    rw [shut_phase]
    exact fun h => hnew (Or.inr h)

theorem configured_appliedSub (hok : s.vlanOk c p isUpdate) (hfits : poolFits p) :
    Configured (s.appliedSub c config p isUpdate) config p := by
  obtain ⟨hphase, hvlan, hacc, hpasswd⟩ := sessionSub_session config hok
  unfold appliedSub
  obtain ⟨hserver, hmask, hstart, hend, hlen⟩ :=
    pooled_dhcp (s.sessionSub c config p isUpdate) hfits
  -- the pool's part keeps the session's fields, and the toggles and gates keep both
  have hppp : (pooled (s.sessionSub c config p isUpdate) p).ppp.phase ≠ notConfigured := hphase
  have hvlan' : (pooled (s.sessionSub c config p isUpdate) p).vlanId = p.vlanId := hvlan
  have hacc' : (pooled (s.sessionSub c config p isUpdate) p).pppUserAcc = config.accountName := hacc
  have hpasswd' : (pooled (s.sessionSub c config p isUpdate) p).pppPasswd = config.password :=
    hpasswd
  generalize pooled (s.sessionSub c config p isUpdate) p = v at *
  exact ⟨hppp, hvlan', hacc', hpasswd', hserver, hmask, hstart, hend, hlen, rfl, rfl, rfl, rfl⟩

/-- A configuration that was applied is the slot's. -/
theorem Applies.configured (h : Applies env s c config isUpdate p)
    (hs : (s.applyHsiConfig env c config isUpdate).1 = .success) :
    Configured ((s.applyHsiConfig env c config isUpdate).2.subs c) config p := by
  obtain ⟨hok, hfits⟩ := h.success_iff.mp hs
  rw [h.subs_of_success hs, Function.update_self]
  exact configured_appliedSub hok.1 hfits

theorem configured_connect {u : Subscriber} (mac : BitVec 48) (h : Configured u config p) :
    Configured { u with ppp := pppStep mac u.ppp .connect } config p := by
  refine ⟨?_, h.vlanId, h.pppUserAcc, h.pppPasswd, h.dhcpServerIp, h.subnetMask, h.poolStart,
    h.poolEnd, h.poolLen, h.dnsProxy, h.natConntrack, h.fwConntrack, ?_⟩
  · simp only [pppStep, pppConnect]
    split
    · exact h.phase
    · simp [pppoePhase, notConfigured]
  · simp only [pppStep, pppConnect]
    split
    · exact h.ipv6Enabled
    · exact h.ipv6Enabled

/-- Starting the services keeps the configuration. -/
theorem configured_startServices (mac : BitVec 48) (pppoe dhcp : Bool)
    (h : Configured (s.subs c) config p) :
    Configured ((s.startServices mac c pppoe dhcp).subs c) config p := by
  have hexec : ∀ (t : Node) (cmd : NorthboundCmd), cmd = .pppoeEnable ∨ cmd = .dhcpEnable →
      Configured (t.subs c) config p → Configured ((t.execute mac c cmd).subs c) config p := by
    intro t cmd hcmd ht
    unfold execute
    by_cases hcount : t.userCount ≤ c
    · rw [if_pos hcount]
      exact ht
    · rw [if_neg hcount, modSub_subs_self]
      rcases hcmd with hcmd | hcmd
      · rw [hcmd]
        exact configured_connect mac ht
      · rw [hcmd]
        exact ⟨ht.phase, ht.vlanId, ht.pppUserAcc, ht.pppPasswd, ht.dhcpServerIp, ht.subnetMask,
          ht.poolStart, ht.poolEnd, ht.poolLen, ht.dnsProxy, ht.natConntrack, ht.fwConntrack,
          ht.ipv6Enabled⟩
  unfold startServices
  have h1 : Configured ((if pppoe then s.execute mac c .pppoeEnable else s).subs c) config p := by
    split
    · exact hexec _ _ (Or.inl rfl) h
    · exact h
  simp only
  split
  · exact hexec _ _ (Or.inr rfl) h1
  · exact h1

/-- A slot that has a configuration and gets it again as an update keeps it. -/
theorem sameConfig_update (hc : Configured (s.subs c) config p)
    (h : Applies env s c config true p)
    (hs : (s.applyHsiConfig env c config true).1 = .success) :
    SameConfig c s (s.applyHsiConfig env c config true).2 := by
  have hnew : ¬ appliedAsNew (s.subs c) true := by
    intro hn
    rcases hn with hn | hn
    · exact Bool.noConfusion hn
    · exact hc.phase hn
  have ht := h.configured hs
  refine ⟨?_, ht.vlanId.trans hc.vlanId.symm, ht.pppUserAcc.trans hc.pppUserAcc.symm,
    ht.pppPasswd.trans hc.pppPasswd.symm, ht.dhcpServerIp.trans hc.dhcpServerIp.symm,
    ht.subnetMask.trans hc.subnetMask.symm, ht.poolStart.trans hc.poolStart.symm,
    ht.poolEnd.trans hc.poolEnd.symm, ht.poolLen.trans hc.poolLen.symm,
    ht.dnsProxy.trans hc.dnsProxy.symm, ht.natConntrack.trans hc.natConntrack.symm,
    ht.fwConntrack.trans hc.fwConntrack.symm, ht.ipv6Enabled.trans hc.ipv6Enabled.symm⟩
  rw [h.map_of_success hs, appliedMap, if_neg hnew, updatedMap, if_pos hc.vlanId]

theorem SameConfig.refl (c : Nat) (s : Node) : SameConfig c s s :=
  ⟨rfl, rfl, rfl, rfl, rfl, rfl, rfl, rfl, rfl, rfl, rfl, rfl, rfl⟩

/-- As an update: only the buffers and the DHCP server can stand in the way. -/
theorem again_update_iff (env : ApplyEnv) (hvalid : s.isValidCcbId c = true)
    (hparse : config.parse = some p) (hfits : poolFits p)
    (hc : Configured (s.subs c) config p) :
    ((s.applyHsiConfig env c config true).1 = .success ∧
      SameConfig c s (s.applyHsiConfig env c config true).2) ↔
      env.alloc = true ∧ env.dhcpIdle = true := by
  have hact : alreadyActive (s.subs c) true = false := rfl
  cases hidle : env.dhcpIdle with
  | false =>
      rw [applyHsiConfig_busy hvalid hparse hact hidle]
      exact ⟨fun h => Status.noConfusion h.1, fun h => Bool.noConfusion h.2⟩
  | true =>
      have happ : Applies env s c config true p := ⟨hvalid, hparse, hact, hidle⟩
      have hok : s.vlanOk c p true := by
        refine Or.inr ⟨fun hnew => ?_, hc.vlanId⟩
        exact hnew.elim Bool.noConfusion hc.phase
      refine ⟨fun h => ⟨(happ.success_iff.mp h.1).1.2, rfl⟩, fun h => ?_⟩
      have hs := happ.success_iff.mpr ⟨⟨hok, h.1⟩, hfits⟩
      exact ⟨hs, sameConfig_update hc happ hs⟩

/-- As a new configuration: the VLAN is taken, if only by the subscriber itself. -/
theorem again_create_iff (env : ApplyEnv) (hvalid : s.isValidCcbId c = true)
    (hparse : config.parse = some p) :
    ((s.applyHsiConfig env c config false).1 = .success ∧
      SameConfig c s (s.applyHsiConfig env c config false).2) ↔
      alreadyActive (s.subs c) false = true := by
  cases hact : alreadyActive (s.subs c) false with
  | true =>
      rw [applyHsiConfig_active env hvalid hparse hact]
      exact ⟨fun _ => rfl, fun _ => ⟨rfl, SameConfig.refl c s⟩⟩
  | false =>
      refine ⟨fun h => ?_, fun h => Bool.noConfusion h⟩
      cases hidle : env.dhcpIdle with
      | false =>
          rw [applyHsiConfig_busy hvalid hparse hact hidle] at h
          exact Status.noConfusion h.1
      | true =>
          have happ : Applies env s c config false p := ⟨hvalid, hparse, hact, hidle⟩
          have hnew : appliedAsNew (s.subs c) false := Or.inl rfl
          have hfree : s.vlanFree p.vlanId :=
            (happ.success_iff.mp h.1).1.1.resolve_right fun hk => hk.1 hnew
          have hmap := h.2.map
          rw [happ.map_of_success h.1, appliedMap, if_pos hnew] at hmap
          exact absurd hmap (movedMap_ne hfree)

/-- What lets a configuration be applied to a slot that has it. -/
def AgainWhen (env : ApplyEnv) (u : Subscriber) (isUpdate : Bool) : Prop :=
  if isUpdate = true then env.alloc = true ∧ env.dhcpIdle = true
  else u.dhcp.dhcpBool = true ∨ u.ppp.pppBool = true

theorem startServices_userCount (mac : BitVec 48) (s : Node) (c : Nat) (pppoe dhcp : Bool) :
    (s.startServices mac c pppoe dhcp).userCount = s.userCount := by
  have hexec : ∀ (t : Node) (cmd : NorthboundCmd), (t.execute mac c cmd).userCount =
      t.userCount := by
    intro t cmd
    unfold execute
    split
    · rfl
    · rfl
  unfold startServices
  cases pppoe with
  | false =>
      cases dhcp with
      | false => rfl
      | true => simp [hexec]
  | true =>
      cases dhcp with
      | false => simp [hexec]
      | true => simp [hexec]

theorem Applies.userCount (h : Applies env s c config isUpdate p)
    (hs : (s.applyHsiConfig env c config isUpdate).1 = .success) :
    (s.applyHsiConfig env c config isUpdate).2.userCount = s.userCount := by
  rw [h.eq_of_success hs]
  simp only
  split
  · rfl
  · rfl

/--
**Applying again.** A configuration was applied, and the services were started or not.  Applying
it again at once succeeds and changes no setting exactly when it comes as an update with room for
the credentials and a quiet DHCP server, or as a new configuration with a service running.
-/
theorem applyHsiConfig_again_iff (mac : BitVec 48) (env env' : ApplyEnv) (s : Node) (c : Nat)
    (config : HsiConfig) (isUpdate isUpdate' pppoe dhcp : Bool) (p : HsiParsed)
    (h : Applies env s c config isUpdate p)
    (hs : (s.applyHsiConfig env c config isUpdate).1 = .success) :
    let t := (s.applyHsiConfig env c config isUpdate).2.startServices mac c pppoe dhcp
    ((t.applyHsiConfig env' c config isUpdate').1 = .success ∧
      SameConfig c t (t.applyHsiConfig env' c config isUpdate').2) ↔
      AgainWhen env' (t.subs c) isUpdate' := by
  intro t
  have hvalid : t.isValidCcbId c = true := by
    have hcount : t.userCount = s.userCount :=
      (startServices_userCount mac _ c pppoe dhcp).trans (h.userCount hs)
    unfold isValidCcbId
    rw [hcount]
    exact h.valid
  have hconf : Configured (t.subs c) config p :=
    configured_startServices mac pppoe dhcp (h.configured hs)
  unfold AgainWhen
  cases isUpdate' with
  | true => exact again_update_iff env' hvalid h.parsed (h.success_iff.mp hs).2 hconf
  | false =>
      rw [again_create_iff env' hvalid h.parsed]
      simp [alreadyActive]

/-- A configuration like any other. -/
def plainConfig : HsiConfig := { tooLongConfig with dhcpAddrPool := asciiBytes "10.0.0.2~10.0.0.9" }

/-- Its numbers and addresses. -/
def plainParsed : HsiParsed where
  vlanId := 100
  ipStart := 0x0200000a
  ipEnd := 0x0900000a
  subnetMask := 0x000000ff
  gateway := 0x0100000a

set_option maxRecDepth 8000 in
theorem plainConfig_parse : plainConfig.parse = some plainParsed := by decide

theorem plainConfig_applies : Applies ⟨true, true⟩ oneSubscriber 0 plainConfig false plainParsed :=
  ⟨rfl, plainConfig_parse, by decide, rfl⟩

theorem plainConfig_applied :
    (oneSubscriber.applyHsiConfig ⟨true, true⟩ 0 plainConfig false).1 = .success := by
  refine plainConfig_applies.success_iff.mpr ⟨⟨Or.inl (by decide), rfl⟩, by decide⟩

/-- With PPPoE started, the configuration can come again as a new one and as an update. -/
theorem applyHsiConfig_again_started :
    let t := (oneSubscriber.applyHsiConfig ⟨true, true⟩ 0 plainConfig false).2.startServices 0 0
      true false
    ((t.applyHsiConfig ⟨true, true⟩ 0 plainConfig true).1 = .success ∧
      SameConfig 0 t (t.applyHsiConfig ⟨true, true⟩ 0 plainConfig true).2) ↔
      AgainWhen ⟨true, true⟩ (t.subs 0) true :=
  applyHsiConfig_again_iff 0 ⟨true, true⟩ ⟨true, true⟩ oneSubscriber 0 plainConfig false true true
    false plainParsed plainConfig_applies plainConfig_applied

/-- With neither service running, a new configuration that was applied is refused the second time:
the VLAN is said to be taken. -/
theorem applyHsiConfig_again_refused :
    Applies ⟨true, true⟩ oneSubscriber 0 plainConfig false plainParsed ∧
      (oneSubscriber.applyHsiConfig ⟨true, true⟩ 0 plainConfig false).1 = .success ∧
      ((oneSubscriber.applyHsiConfig ⟨true, true⟩ 0 plainConfig false).2.applyHsiConfig
        ⟨true, true⟩ 0 plainConfig false).1 = .error := by
  refine ⟨plainConfig_applies, plainConfig_applied, ?_⟩
  decide

end Node

end FastRG
