/-
What a removed subscriber leaves for the next one in its slot.

A slot is given up in two ways, on request or because the count shrinks, and neither clears all
of it: both leave the forwarded ports, and a lower count leaves the static records as well.  A new
configuration then sets everything it has a field for, empties both session tables and, if it
lists port mappings, puts the port table right.  So the slot is as one that was never used exactly
when nothing is left of what none of these touches (`recreated_iff`).

The session tables are emptied through the slots: every ready slot with a deadline has its keys
deleted.  A key that no such slot stores stays.
-/
import FastRG.EtcdIntegration
import FastRG.Proofs.ApplyAtomic

namespace FastRG

/-! ### Emptying the session tables -/

/-- A mapping `nat_table_del_all_entries_from_hash` deletes the keys of. -/
def natArmed (ccb : NatCcb) (i : Nat) : Bool :=
  ccb.natExpireAt i != 0 && (ccb.addrTable i).isFill = .ready

/-- A session `ipv6_firewall_table_del_all_entries_from_hash` deletes the key of. -/
def ipv6FirewallArmed (ccb : Ipv6FirewallCcb) (i : Nat) : Bool :=
  ccb.expireAt i != 0 && (ccb.table i).isFill = .ready

theorem natDelAllVisits_eq (is : List Nat) (s : NatCcb) :
    is.foldl natDelAllVisit s = { s with
      natForwardHash := s.natForwardHash.delKeys (natArmed s)
        (fun i => (s.addrTable i).forwardKey) is
      natReverseHash := s.natReverseHash.delKeys (natArmed s)
        (fun i => (s.addrTable i).reverseKey) is } := by
  induction is generalizing s with
  | nil => rfl
  | cons i rest ih =>
      rw [List.foldl_cons, ih]
      by_cases harmed : natArmed s i = true
      · have hvisit : natDelAllVisit s i = (natEntryDelKeys s i).2 := by
          obtain ⟨hexpire, hready⟩ := Bool.and_eq_true_iff.mp harmed
          rw [natDelAllVisit, if_neg (by simpa using hexpire), if_pos (by simpa using hready)]
        rw [hvisit]
        simp only [natEntryDelKeys, Rte.Hash.delKeys, List.foldl_cons, harmed, if_true]
        rfl
      · have hvisit : natDelAllVisit s i = s := by
          unfold natDelAllVisit
          split
          · rfl
          · rename_i hexpire
            split
            · rename_i hready
              exact absurd (by simp [natArmed, hexpire, hready]) harmed
            · rfl
        rw [hvisit]
        simp only [Rte.Hash.delKeys, List.foldl_cons, harmed, Bool.false_eq_true, if_false]

theorem ipv6FirewallDelAllVisits_eq (is : List Nat) (s : Ipv6FirewallCcb) :
    is.foldl ipv6FirewallDelAllVisit s = { s with
      hash := s.hash.delKeys (ipv6FirewallArmed s) (fun i => (s.table i).key) is } := by
  induction is generalizing s with
  | nil => rfl
  | cons i rest ih =>
      rw [List.foldl_cons, ih]
      by_cases harmed : ipv6FirewallArmed s i = true
      · have hvisit : ipv6FirewallDelAllVisit s i = (ipv6FirewallDelKey s (s.table i).key).2 := by
          obtain ⟨hexpire, hready⟩ := Bool.and_eq_true_iff.mp harmed
          rw [ipv6FirewallDelAllVisit, if_neg (by simpa using hexpire),
            if_pos (by simpa using hready)]
        rw [hvisit]
        simp only [ipv6FirewallDelKey, Rte.Hash.delKeys, List.foldl_cons, harmed, if_true]
        rfl
      · have hvisit : ipv6FirewallDelAllVisit s i = s := by
          unfold ipv6FirewallDelAllVisit
          split
          · rfl
          · rename_i hexpire
            split
            · rename_i hready
              exact absurd (by simp [ipv6FirewallArmed, hexpire, hready]) harmed
            · rfl
        rw [hvisit]
        simp only [Rte.Hash.delKeys, List.foldl_cons, harmed, Bool.false_eq_true, if_false]

/-- The forward table once everything is deleted. -/
def natSweptForward (ccb : NatCcb) : Rte.Hash NatForwardKey Nat :=
  ccb.natForwardHash.delKeys (natArmed ccb) (fun i => (ccb.addrTable i).forwardKey)
    (List.range maxNatEntries)

/-- The reverse table. -/
def natSweptReverse (ccb : NatCcb) : Rte.Hash NatReverseKey Nat :=
  ccb.natReverseHash.delKeys (natArmed ccb) (fun i => (ccb.addrTable i).reverseKey)
    (List.range maxNatEntries)

/-- The session table of the firewall. -/
def ipv6FirewallSwept (ccb : Ipv6FirewallCcb) : Rte.Hash Ipv6FirewallKey Nat :=
  ccb.hash.delKeys (ipv6FirewallArmed ccb) (fun i => (ccb.table i).key)
    (List.range ipv6FirewallMaxEntries)

theorem natTableDelAll_eq (s : NatCcb) : natTableDelAllEntriesFromHash s =
    natResetCounters { s with
      natForwardHash := natSweptForward s
      natReverseHash := natSweptReverse s } := by
  rw [natTableDelAllEntriesFromHash, natDelAllVisits_eq, natSweptForward, natSweptReverse]

theorem ipv6FirewallTableDelAll_eq (s : Ipv6FirewallCcb) :
    ipv6FirewallTableDelAllEntriesFromHash s =
      ipv6FirewallResetCounters { s with hash := ipv6FirewallSwept s } := by
  rw [ipv6FirewallTableDelAllEntriesFromHash, ipv6FirewallDelAllVisits_eq, ipv6FirewallSwept]

/-- What is deleted does not depend on the mode of connection tracking. -/
@[simp] theorem natSweptForward_conntrack (s : NatCcb) (enable : Bool) :
    natSweptForward { s with tcpConntrackEnabled := enable } = natSweptForward s := rfl

@[simp] theorem natSweptReverse_conntrack (s : NatCcb) (enable : Bool) :
    natSweptReverse { s with tcpConntrackEnabled := enable } = natSweptReverse s := rfl

@[simp] theorem ipv6FirewallSwept_conntrack (s : Ipv6FirewallCcb) (enable : Bool) :
    ipv6FirewallSwept { s with tcpConntrackEnabled := enable } = ipv6FirewallSwept s := rfl

/-- Every key of the translator is stored by a mapping that is deleted with the rest. -/
structure NatSweeps (ccb : NatCcb) : Prop where
  forward : ∀ k, ccb.natForwardHash.lookup k ≠ none →
    ∃ i < maxNatEntries, natArmed ccb i = true ∧ (ccb.addrTable i).forwardKey = k
  reverse : ∀ k, ccb.natReverseHash.lookup k ≠ none →
    ∃ i < maxNatEntries, natArmed ccb i = true ∧ (ccb.addrTable i).reverseKey = k

/-- Every key of the firewall is stored by a session that is deleted with the rest. -/
def FwSweeps (ccb : Ipv6FirewallCcb) : Prop :=
  ∀ k, ccb.hash.lookup k ≠ none →
    ∃ i < ipv6FirewallMaxEntries, ipv6FirewallArmed ccb i = true ∧ (ccb.table i).key = k

/-- A table from which everything chosen is deleted is empty if everything in it is chosen. -/
theorem lookup_delKeys_none_iff {K : Type} [DecidableEq K] (chosen : Nat → Bool) (key : Nat → K)
    (n : Nat) (h : Rte.Hash K Nat) :
    (∀ k, (h.delKeys chosen key (List.range n)).lookup k = none) ↔
      ∀ k, h.lookup k ≠ none → ∃ i < n, chosen i = true ∧ key i = k := by
  refine ⟨fun hnone k hk => ?_, fun hall k => ?_⟩
  · by_contra hex
    have hkept := hnone k
    rw [Rte.Hash.lookup_delKeys, if_neg] at hkept
    · exact hk hkept
    · intro hmem
      obtain ⟨i, hi, hstores⟩ := hmem
      exact hex ⟨i, List.mem_range.mp hi, hstores⟩
  · rw [Rte.Hash.lookup_delKeys]
    split
    · rfl
    · rename_i hex
      by_contra hk
      obtain ⟨i, hi, hstores⟩ := hall k hk
      exact hex ⟨i, List.mem_range.mpr hi, hstores⟩

@[simp] theorem natTableDelAll_portFwdTable (s : NatCcb) :
    (natTableDelAllEntriesFromHash s).portFwdTable = s.portFwdTable := by
  rw [natTableDelAll_eq, natResetCounters]

/-! ### The configuration of a slot -/

/-- One address of a pool, and whose it is. -/
structure PoolEntry where
  ipAddr : BitVec 32
  reserved : Bool
  used : Bool
  lanUserUsed : Bool
  lanMac : BitVec 48
  poolMac : BitVec 48
  state : DhcpState

def PerLanUser.entry (e : PerLanUser) : PoolEntry where
  ipAddr := e.ipAddr
  reserved := e.reserved
  used := e.used
  lanUserUsed := e.lanUserUsed
  lanMac := e.lanMac
  poolMac := e.poolMac
  state := e.state

/-- Where a port opened to the outside leads. -/
def portsOf (table : Nat → PortFwdEntry) (eport : BitVec 16) : Option (BitVec 32 × BitVec 16) :=
  (portFwdLookupByEport table eport).map fun e => (e.dip, e.iport)

/-- What a subscriber is configured with, and the sessions it has. -/
@[ext]
structure SlotConfig where
  vlanId : Nat
  pppUserAcc : List (BitVec 8)
  pppPasswd : List (BitVec 8)
  dhcpServerIp : BitVec 32
  subnetMask : BitVec 32
  poolStart : BitVec 32
  poolEnd : BitVec 32
  pool : List PoolEntry
  staticRecords : List DnsStaticRecord
  ports : BitVec 16 → Option (BitVec 32 × BitVec 16)
  natForward : NatForwardKey → Option Nat
  natReverse : NatReverseKey → Option Nat
  firewall : Ipv6FirewallKey → Option Nat
  dnsProxy : Bool
  natConntrack : Bool
  fwConntrack : Bool
  ipv6Enabled : Bool

def Subscriber.slotConfig (u : Subscriber) : SlotConfig where
  vlanId := u.vlanId
  pppUserAcc := u.pppUserAcc
  pppPasswd := u.pppPasswd
  dhcpServerIp := u.dhcp.dhcpServerIp
  subnetMask := u.dhcp.subnetMask
  poolStart := u.dhcp.poolStart
  poolEnd := u.dhcp.poolEnd
  pool := (List.range u.dhcp.perLanUserPoolLen).map fun i => (u.dhcp.perLanUserPool i).entry
  staticRecords := u.staticTable.filterMap id
  ports := portsOf u.nat.portFwdTable
  natForward := u.nat.natForwardHash.lookup
  natReverse := u.nat.natReverseHash.lookup
  firewall := u.firewall.hash.lookup
  dnsProxy := u.dhcp.dns.dnsProxyEnabled
  natConntrack := u.nat.tcpConntrackEnabled
  fwConntrack := u.firewall.tcpConntrackEnabled
  ipv6Enabled := u.ppp.ipv6Enabled

@[simp] theorem Subscriber.slotConfig_ports (u : Subscriber) :
    u.slotConfig.ports = portsOf u.nat.portFwdTable := rfl

namespace Node

variable {s t : Node} {env : ApplyEnv} {c : Nat} {config : HsiConfig} {p : HsiParsed}

/-! ### Port mappings -/

theorem portsOf_inactive {table : Nat → PortFwdEntry} {eport : BitVec 16}
    (h : (table eport.toNat).isActive = false) : portsOf table eport = none := by
  simp [portsOf, portFwdLookupByEport, h]

theorem portsOf_active {table : Nat → PortFwdEntry} {eport : BitVec 16}
    (h : (table eport.toNat).isActive = true) :
    portsOf table eport = some ((table eport.toNat).dip, (table eport.toNat).iport) := by
  simp [portsOf, portFwdLookupByEport, h]

theorem portsOf_none_iff {table : Nat → PortFwdEntry} {eport : BitVec 16} :
    portsOf table eport = none ↔ (table eport.toNat).isActive = false := by
  refine ⟨fun h => ?_, portsOf_inactive⟩
  by_contra hactive
  rw [portsOf_active (by simpa using hactive)] at h
  simp at h

/-- A port is read where its own entry is. -/
theorem portsOf_update (table : Nat → PortFwdEntry) (eport port : BitVec 16) (e : PortFwdEntry) :
    portsOf (Function.update table eport.toNat e) port =
      if eport = port then (if e.isActive then some (e.dip, e.iport) else none)
      else portsOf table port := by
  by_cases hport : eport = port
  · rw [if_pos hport, hport]
    cases hactive : e.isActive with
    | true => simp [portsOf, portFwdLookupByEport, hactive]
    | false => simp [portsOf, portFwdLookupByEport, hactive]
  · have hne : port.toNat ≠ eport.toNat := fun h => hport (BitVec.eq_of_toNat_eq h.symm)
    rw [if_neg hport]
    simp only [portsOf, portFwdLookupByEport, Function.update_of_ne hne]

/-- A mapping that can be read is in the table afterwards, whatever was there. -/
theorem portsOf_reconcileMapping {m : PortMapping} {dip : BitVec 32}
    (r : Status × (Nat → PortFwdEntry)) (hdip : parseIp m.dip = some dip) (port : BitVec 16) :
    portsOf (reconcileMapping r m).2 port =
      if m.eport = port then some (dip, swap16 m.dport) else portsOf r.2 port := by
  simp only [reconcileMapping, hdip]
  by_cases hactive : (r.2 m.eport.toNat).isActive = false
  · rw [if_pos hactive]
    simp only [portFwdAdd, hactive, Bool.false_eq_true, if_false]
    exact portsOf_update r.2 m.eport port _
  · rw [if_neg hactive]
    by_cases hdiff : (r.2 m.eport.toNat).dip ≠ dip ∨ swap16 (r.2 m.eport.toNat).iport ≠ m.dport
    · rw [if_pos hdiff]
      have hremoved : (portFwdRemove r.2 m.eport).2 =
          Function.update r.2 m.eport.toNat portFwdBlank := by
        rw [portFwdRemove, if_neg hactive]
      have hblank : (Function.update r.2 m.eport.toNat portFwdBlank m.eport.toNat).isActive =
          false := by
        rw [Function.update_self]
        rfl
      rw [hremoved, portFwdAdd, hblank, if_neg Bool.false_ne_true, Function.update_idem]
      exact portsOf_update r.2 m.eport port _
    · rw [if_neg hdiff]
      split
      · rename_i hport
        -- what is there already is what the mapping says
        obtain ⟨hsame, hiport⟩ := not_or.mp hdiff
        rw [← hport, portsOf_active (by simpa using hactive), not_not.mp hsame,
          ← swap16_swap16 (r.2 m.eport.toNat).iport, not_not.mp hiport]
      · rfl

/-- The passes succeed only if every mapping could be read. -/
theorem reconcile_readable (mappings : List PortMapping) (r : Status × (Nat → PortFwdEntry))
    (h : (mappings.foldl reconcileMapping r).1 = .success) :
    r.1 = .success ∧ ∀ m ∈ mappings, ∃ dip, parseIp m.dip = some dip := by
  induction mappings generalizing r with
  | nil => exact ⟨h, fun m hm => absurd hm List.not_mem_nil⟩
  | cons m rest ih =>
      obtain ⟨hstatus, hrest⟩ := ih (reconcileMapping r m) h
      cases hdip : parseIp m.dip with
      | none =>
          simp only [reconcileMapping, hdip] at hstatus
          exact Status.noConfusion hstatus
      | some dip =>
          refine ⟨?_, ?_⟩
          · simp only [reconcileMapping, hdip] at hstatus
            split at hstatus
            · exact hstatus
            · split at hstatus
              · exact hstatus
              · exact hstatus
          · intro m' hm'
            rcases List.mem_cons.mp hm' with heq | hmem
            · exact ⟨dip, heq ▸ hdip⟩
            · exact hrest m' hmem

/-- What the second pass comes to depends on the table only where no mapping is. -/
theorem reconcile_portsOf_congr (mappings : List PortMapping)
    (hread : ∀ m ∈ mappings, ∃ dip, parseIp m.dip = some dip)
    (r r' : Status × (Nat → PortFwdEntry))
    (h : ∀ port, (∀ m ∈ mappings, m.eport ≠ port) → portsOf r.2 port = portsOf r'.2 port) :
    portsOf (mappings.foldl reconcileMapping r).2 =
      portsOf (mappings.foldl reconcileMapping r').2 := by
  induction mappings generalizing r r' with
  | nil =>
      funext port
      exact h port fun m hm => absurd hm List.not_mem_nil
  | cons m rest ih =>
      refine ih (fun m' hm' => hread m' (List.mem_cons_of_mem m hm')) _ _ ?_
      intro port hport
      obtain ⟨dip, hdip⟩ := hread m List.mem_cons_self
      rw [portsOf_reconcileMapping r hdip, portsOf_reconcileMapping r' hdip]
      by_cases heq : m.eport = port
      · rw [if_pos heq, if_pos heq]
      · rw [if_neg heq, if_neg heq]
        refine h port ?_
        intro m' hm'
        rcases List.mem_cons.mp hm' with hm' | hm'
        · exact hm' ▸ heq
        · exact hport m' hm'

/-- The first pass closes every port that is not listed. -/
theorem portsOf_removeStale {mappings : List PortMapping} (table : Nat → PortFwdEntry)
    {port : BitVec 16} (h : ∀ m ∈ mappings, m.eport ≠ port) :
    portsOf (removeStale mappings table) port = none := by
  refine portsOf_inactive ?_
  unfold removeStale
  split
  · rfl
  · rename_i hkept
    by_contra hactive
    refine hkept ⟨port.isLt, by simpa using hactive, ?_⟩
    refine List.all_eq_true.mpr ?_
    intro m hm
    exact decide_eq_true fun heq => h m hm (BitVec.eq_of_toNat_eq heq)

/-- Mappings that can all be read make one table of any other. -/
theorem portsOf_reconcileTable {mappings : List PortMapping}
    (hread : ∀ m ∈ mappings, ∃ dip, parseIp m.dip = some dip)
    (table table' : Nat → PortFwdEntry) :
    portsOf (reconcileTable mappings table).2 = portsOf (reconcileTable mappings table').2 := by
  refine reconcile_portsOf_congr mappings hread _ _ ?_
  intro port hport
  rw [portsOf_removeStale table hport, portsOf_removeStale table' hport]

/-! ### A new configuration -/

/-- An address of a new pool. -/
def newEntry (p : HsiParsed) (i : Nat) : PoolEntry where
  ipAddr := swap32 (swap32 p.ipStart + BitVec.ofNat 32 i)
  reserved := dhcpIpIsReserved (swap32 p.ipStart + BitVec.ofNat 32 i)
  used := false
  lanUserUsed := false
  lanMac := zeroMac
  poolMac := zeroMac
  state := .init

/-- What a new configuration makes of a slot with these ports, and what it takes over from it. -/
def createdConfig (u : Subscriber) (config : HsiConfig) (p : HsiParsed)
    (ports : BitVec 16 → Option (BitVec 32 × BitVec 16)) : SlotConfig where
  vlanId := p.vlanId
  pppUserAcc := config.accountName
  pppPasswd := config.password
  dhcpServerIp := p.gateway
  subnetMask := p.subnetMask
  poolStart := swap32 p.ipStart
  poolEnd := swap32 p.ipEnd
  pool := (List.range (dhcpPoolLen p.ipStart p.ipEnd).toNat).map (newEntry p)
  staticRecords := u.staticTable.filterMap id
  ports := ports
  natForward := (natSweptForward u.nat).lookup
  natReverse := (natSweptReverse u.nat).lookup
  firewall := (ipv6FirewallSwept u.firewall).lookup
  dnsProxy := config.dnsProxyEnable
  natConntrack := config.tcpConntrackEnable
  fwConntrack := config.tcpConntrackEnable
  ipv6Enabled := config.ipv6Enable

/-- The ports of a slot after a new configuration: without a list they stay. -/
def createdPorts (u : Subscriber) (config : HsiConfig) : BitVec 16 → Option (BitVec 32 × BitVec 16) :=
  if config.portMappings = [] then portsOf u.nat.portFwdTable
  else portsOf (reconcileTable config.portMappings u.nat.portFwdTable).2

@[simp] theorem setGates_slotConfig (u : Subscriber) (pppBool dpStartBool dhcpBool : Bool) :
    (u.setGates pppBool dpStartBool dhcpBool).slotConfig = u.slotConfig := rfl

@[simp] theorem setGates_nat (u : Subscriber) (pppBool dpStartBool dhcpBool : Bool) :
    (u.setGates pppBool dpStartBool dhcpBool).nat = u.nat := rfl

@[simp] theorem setGates_firewall (u : Subscriber) (pppBool dpStartBool dhcpBool : Bool) :
    (u.setGates pppBool dpStartBool dhcpBool).firewall = u.firewall := rfl

/-- The session's part of a new configuration. -/
theorem newSession_slotConfig (u : Subscriber) (config : HsiConfig) (p : HsiParsed) :
    (newSession u config p).slotConfig = { u.slotConfig with
      vlanId := p.vlanId
      pppUserAcc := config.accountName
      pppPasswd := config.password
      natForward := (natSweptForward u.nat).lookup
      natReverse := (natSweptReverse u.nat).lookup
      firewall := (ipv6FirewallSwept u.firewall).lookup
      natConntrack := true
      fwConntrack := true
      ipv6Enabled := false } := by
  simp only [newSession, Subscriber.initConfig, Bool.true_eq_false, if_false,
    Subscriber.setTcpConntrack, natTableDelAll_eq, ipv6FirewallTableDelAll_eq, natResetCounters,
    ipv6FirewallResetCounters, Subscriber.slotConfig, natSweptForward_conntrack,
    natSweptReverse_conntrack, ipv6FirewallSwept_conntrack, pppInitConfigByUser]

/-- The pool's part, whatever pool there was. -/
theorem pooled_slotConfig (u : Subscriber) (h : poolFits p) :
    (pooled u p).slotConfig = { u.slotConfig with
      dhcpServerIp := p.gateway
      subnetMask := p.subnetMask
      poolStart := swap32 p.ipStart
      poolEnd := swap32 p.ipEnd
      pool := (List.range (dhcpPoolLen p.ipStart p.ipEnd).toNat).map (newEntry p) } := by
  have hlen : ¬ (dhcpPoolLen p.ipStart p.ipEnd).toNat > dhcpMaxPoolSizePerUser := Nat.not_lt.mpr h
  simp only [pooled, Subscriber.initPool, dhcpPoolInitByUser, if_neg hlen, Subscriber.slotConfig,
    SlotConfig.mk.injEq, true_and, and_true]
  refine List.map_congr_left ?_
  intro i hi
  have hlt : i < (dhcpPoolLen p.ipStart p.ipEnd).toNat := List.mem_range.mp hi
  have hmax : i < max u.dhcp.perLanUserPoolLen (dhcpPoolLen p.ipStart p.ipEnd).toNat := by
    omega
  simp only [if_pos hmax, PerLanUser.reset, PerLanUser.entry, if_pos hlt, decide_eq_true hlt,
    Bool.true_and, newEntry]

/-- The toggles. -/
theorem setToggles_slotConfig (u : Subscriber) (config : HsiConfig) :
    (u.setToggles config).slotConfig = { u.slotConfig with
      dnsProxy := config.dnsProxyEnable
      natConntrack := config.tcpConntrackEnable
      fwConntrack := config.tcpConntrackEnable
      ipv6Enabled := config.ipv6Enable } := rfl

theorem newSession_nat (u : Subscriber) (config : HsiConfig) (p : HsiParsed) :
    (newSession u config p).nat =
      natTableDelAllEntriesFromHash { u.nat with tcpConntrackEnabled := true } := rfl

theorem sessionSub_create (s : Node) (c : Nat) (config : HsiConfig) (p : HsiParsed) :
    s.sessionSub c config p false =
      newSession ((s.subs c).setGates false false false) config p := by
  have hshut : (s.shut c).subs c = (s.subs c).setGates false false false := modSub_subs_self s c _
  rw [sessionSub, if_pos (Or.inl rfl), hshut]

theorem appliedSub_portFwdTable (s : Node) (c : Nat) (config : HsiConfig) (p : HsiParsed) :
    (s.appliedSub c config p false).nat.portFwdTable = (s.subs c).nat.portFwdTable := by
  have htoggles : ∀ u : Subscriber,
      (u.setToggles config).nat.portFwdTable = u.nat.portFwdTable := fun u => rfl
  have hpooled : ∀ u, (pooled u p).nat = u.nat := fun u => rfl
  unfold appliedSub
  rw [sessionSub_create, setGates_nat, htoggles, hpooled, newSession_nat,
    natTableDelAll_portFwdTable, setGates_nat]

/-- The slot a new configuration leaves, before its port mappings. -/
theorem appliedSub_slotConfig (s : Node) (c : Nat) (config : HsiConfig) (h : poolFits p) :
    (s.appliedSub c config p false).slotConfig =
      createdConfig (s.subs c) config p (portsOf (s.subs c).nat.portFwdTable) := by
  unfold appliedSub
  rw [sessionSub_create, setGates_slotConfig, setToggles_slotConfig, pooled_slotConfig _ h,
    newSession_slotConfig, setGates_slotConfig, setGates_nat, setGates_firewall]
  simp only [createdConfig, Subscriber.slotConfig]

/-- Dialing as desired leaves the configuration alone. -/
theorem reconcilePppoeDesire_slotConfig (s : Node) (c : Nat) (desireStatus : List (BitVec 8)) :
    ((s.reconcilePppoeDesire c desireStatus).subs c).slotConfig = (s.subs c).slotConfig := by
  have hpending : ∀ pending, ((s.setRedialPending c pending).subs c).slotConfig =
      (s.subs c).slotConfig := by
    intro pending
    rw [setRedialPending, modSub_subs_self]
    rfl
  have hdial : ∀ t : Node, (t.executePppoeDial c).subs = t.subs := by
    intro t
    unfold executePppoeDial
    split
    · rfl
    · dsimp only
      split
      · split
        · rfl
        · rfl
      · split
        · rfl
        · rfl
  have hhangup : ∀ t : Node, (t.executePppoeHangup c).subs = t.subs := by
    intro t
    unfold executePppoeHangup
    split
    · rfl
    · rfl
  unfold reconcilePppoeDesire
  dsimp only
  split
  · rw [hdial, hpending]
  · split
    · rw [hhangup, hpending]
    · exact hpending _

/-- What follows a new configuration brings its port mappings in. -/
theorem hsiApplied_slotConfig (hvalid : s.isValidCcbId c = true) (config : HsiConfig)
    (revision : Int) :
    ((s.hsiApplied c config false revision).2.subs c).slotConfig =
      { (s.subs c).slotConfig with ports := createdPorts (s.subs c) config } := by
  have hrevision : ∀ t : Node, (t.hsiSetSubscriberLastRevision c revision).subs = t.subs := by
    intro t
    unfold hsiSetSubscriberLastRevision
    split
    · rfl
    · rfl
  unfold hsiApplied createdPorts
  dsimp only
  rw [hrevision, reconcilePppoeDesire_slotConfig]
  by_cases hmappings : config.portMappings = []
  · rw [if_neg (by simp [hmappings]), if_pos hmappings]
    rfl
  · rw [if_pos (Or.inl hmappings), if_neg hmappings, reconcilePortMapping, if_neg (by simp [hvalid]),
      modSub_subs_self]
    rfl

/-- A new configuration that is applied goes on to its port mappings. -/
theorem hsiConfigChanged_create (hs : (s.applyHsiConfig env c config false).1 = .success)
    (revision : Int) : s.hsiConfigChanged env c config .create revision =
      (s.applyHsiConfig env c config false).2.hsiApplied c config false revision := by
  have happlied : s.applyHsiConfig env c config (decide (HsiAction.create = .update)) =
      (.success, (s.applyHsiConfig env c config false).2) := Prod.ext hs rfl
  unfold hsiConfigChanged
  simp only [happlied]
  rfl

/-- The slot a new configuration leaves. -/
theorem created_slotConfig (happ : Applies env s c config false p)
    (hs : (s.applyHsiConfig env c config false).1 = .success) (revision : Int) :
    ((s.hsiConfigChanged env c config .create revision).2.subs c).slotConfig =
      createdConfig (s.subs c) config p (createdPorts (s.subs c) config) := by
  obtain ⟨-, hfits⟩ := happ.success_iff.mp hs
  have hsub : (s.applyHsiConfig env c config false).2.subs c = s.appliedSub c config p false := by
    rw [happ.subs_of_success hs, Function.update_self]
  have hvalid : (s.applyHsiConfig env c config false).2.isValidCcbId c = true := by
    unfold isValidCcbId
    rw [happ.userCount hs]
    exact happ.valid
  have hports : createdPorts (s.appliedSub c config p false) config =
      createdPorts (s.subs c) config := by
    unfold createdPorts
    rw [appliedSub_portFwdTable]
  rw [hsiConfigChanged_create hs, hsiApplied_slotConfig hvalid, hsub, hports,
    appliedSub_slotConfig s c config hfits]
  simp only [createdConfig]

/-! ### Against a slot that was never used -/

/-- Nothing is left in a slot of what a new configuration does not set. -/
structure NothingLeft (u : Subscriber) (config : HsiConfig) : Prop where
  staticRecords : ∀ r ∈ u.staticTable, r = none
  ports : config.portMappings = [] →
    ∀ eport : BitVec 16, (u.nat.portFwdTable eport.toNat).isActive = false
  nat : NatSweeps u.nat
  firewall : FwSweeps u.firewall

/-- Nothing is left in a slot that was never used. -/
theorem nothingLeft_fresh (rand : Nat → BitVec 32) (config : HsiConfig) :
    NothingLeft (Subscriber.fresh rand) config := by
  have hforward : (Subscriber.fresh rand).nat.natForwardHash = Rte.Hash.empty := rfl
  have hreverse : (Subscriber.fresh rand).nat.natReverseHash = Rte.Hash.empty := rfl
  refine ⟨fun r hr => List.eq_of_mem_replicate hr, fun _ eport => rfl, ⟨?_, ?_⟩, ?_⟩
  · intro k hk
    rw [hforward] at hk
    exact absurd (Rte.Hash.lookup_empty k) hk
  · intro k hk
    rw [hreverse] at hk
    exact absurd (Rte.Hash.lookup_empty k) hk
  · intro k hk
    have hhash : (Subscriber.fresh rand).firewall.hash = Rte.Hash.empty := rfl
    rw [hhash] at hk
    exact absurd (Rte.Hash.lookup_empty k) hk

/-- What a new configuration takes over of a slot in which nothing is left. -/
theorem nothingLeft_iff {u : Subscriber} : NothingLeft u config ↔
    u.staticTable.filterMap id = [] ∧
      (config.portMappings = [] → portsOf u.nat.portFwdTable = fun _ => none) ∧
      ((natSweptForward u.nat).lookup = (fun _ => none) ∧
        (natSweptReverse u.nat).lookup = fun _ => none) ∧
      (ipv6FirewallSwept u.firewall).lookup = fun _ => none := by
  have hrecords : (∀ r ∈ u.staticTable, r = none) ↔ u.staticTable.filterMap id = [] := by
    simp [List.filterMap_eq_nil_iff]
  have hports : (∀ eport : BitVec 16, (u.nat.portFwdTable eport.toNat).isActive = false) ↔
      portsOf u.nat.portFwdTable = fun _ => none := by
    rw [funext_iff]
    exact forall_congr' fun eport => portsOf_none_iff.symm
  have hforward := lookup_delKeys_none_iff (natArmed u.nat)
    (fun i => (u.nat.addrTable i).forwardKey) maxNatEntries u.nat.natForwardHash
  have hreverse := lookup_delKeys_none_iff (natArmed u.nat)
    (fun i => (u.nat.addrTable i).reverseKey) maxNatEntries u.nat.natReverseHash
  have hfirewall := lookup_delKeys_none_iff (ipv6FirewallArmed u.firewall)
    (fun i => (u.firewall.table i).key) ipv6FirewallMaxEntries u.firewall.hash
  rw [← hrecords, ← hports, funext_iff, funext_iff, funext_iff]
  refine ⟨fun h => ⟨h.staticRecords, h.ports, ⟨hforward.mpr h.nat.forward,
    hreverse.mpr h.nat.reverse⟩, hfirewall.mpr h.firewall⟩, fun h => ?_⟩
  exact ⟨h.1, h.2.1, ⟨hforward.mp h.2.2.1.1, hreverse.mp h.2.2.1.2⟩, hfirewall.mp h.2.2.2⟩

/-- A new configuration whose mappings can be read makes a slot as it makes one that was never
used exactly when nothing is left in it. -/
theorem createdConfig_eq_fresh_iff {u : Subscriber} (rand : Nat → BitVec 32)
    (hread : ∀ m ∈ config.portMappings, ∃ dip, parseIp m.dip = some dip) :
    createdConfig u config p (createdPorts u config) =
        createdConfig (Subscriber.fresh rand) config p (createdPorts (Subscriber.fresh rand) config) ↔
      NothingLeft u config := by
  obtain ⟨hrecords, hports, ⟨hforward, hreverse⟩, hfirewall⟩ :=
    nothingLeft_iff.mp (nothingLeft_fresh rand config)
  rw [nothingLeft_iff]
  simp only [createdConfig, SlotConfig.mk.injEq, true_and, and_true]
  rw [hrecords, hforward, hreverse, hfirewall, and_assoc]
  refine and_congr_right fun _ => and_congr_left fun _ => ?_
  unfold createdPorts
  by_cases hmappings : config.portMappings = []
  · rw [if_pos hmappings, if_pos hmappings, hports hmappings]
    exact ⟨fun h _ => h, fun h => h hmappings⟩
  · rw [if_neg hmappings, if_neg hmappings]
    exact ⟨fun _ h => absurd h hmappings, fun _ => portsOf_reconcileTable hread _ _⟩

/-- A node on which this slot was never used. -/
def neverUsed (s : Node) (c : Nat) (rand : Nat → BitVec 32) : Node :=
  s.modSub c fun _ => Subscriber.fresh rand

/-- A configuration that was applied was not passed over. -/
theorem applies_of_success (hact : alreadyActive (s.subs c) false = false)
    (hs : (s.applyHsiConfig env c config false).1 = .success) :
    ∃ p, Applies env s c config false p := by
  cases hvalid : s.isValidCcbId c with
  | false =>
      rw [applyHsiConfig, if_pos hvalid] at hs
      exact Status.noConfusion hs
  | true =>
      cases hparse : config.parse with
      | none =>
          simp only [applyHsiConfig, hvalid, hparse] at hs
          exact Status.noConfusion hs
      | some p =>
          cases hidle : env.dhcpIdle with
          | false =>
              rw [applyHsiConfig_busy hvalid hparse hact hidle] at hs
              exact Status.noConfusion hs
          | true => exact ⟨p, hvalid, hparse, hact, hidle⟩

/-- A new configuration that succeeds was applied, and its mappings could be read. -/
theorem create_success {revision : Int}
    (hs : (s.hsiConfigChanged env c config .create revision).1 = .success) :
    (s.applyHsiConfig env c config false).1 = .success ∧
      ((s.applyHsiConfig env c config false).2.isValidCcbId c = true →
        ∀ m ∈ config.portMappings, ∃ dip, parseIp m.dip = some dip) := by
  have happlied : (s.applyHsiConfig env c config false).1 = .success := by
    by_contra herr
    have herr' : s.applyHsiConfig env c config (decide (HsiAction.create = .update)) =
        (.error, (s.applyHsiConfig env c config false).2) := by
      refine Prod.ext ?_ rfl
      cases hst : (s.applyHsiConfig env c config false).1 with
      | success => exact absurd hst herr
      | error => exact hst
    unfold hsiConfigChanged at hs
    simp only [herr'] at hs
    exact Status.noConfusion hs
  refine ⟨happlied, fun hvalid => ?_⟩
  rw [hsiConfigChanged_create happlied] at hs
  by_cases hmappings : config.portMappings = []
  · intro m hm
    rw [hmappings] at hm
    exact absurd hm List.not_mem_nil
  · have hstatus : (reconcileTable config.portMappings
        ((s.applyHsiConfig env c config false).2.subs c).nat.portFwdTable).1 = .success := by
      unfold hsiApplied at hs
      rw [if_pos (Or.inl hmappings), reconcilePortMapping, if_neg (by simp [hvalid])] at hs
      exact hs
    exact (reconcile_readable config.portMappings _ hstatus).2

/-- A new configuration, on any slot it is applied to, against one that was never used. -/
theorem create_eq_fresh_iff (rand : Nat → BitVec 32) {revision : Int}
    (hact : alreadyActive (s.subs c) false = false)
    (hs : (s.hsiConfigChanged env c config .create revision).1 = .success) :
    ((s.hsiConfigChanged env c config .create revision).2.subs c).slotConfig =
        (((s.neverUsed c rand).hsiConfigChanged env c config .create revision).2.subs
          c).slotConfig ↔ NothingLeft (s.subs c) config := by
  obtain ⟨happlied, hread⟩ := create_success hs
  obtain ⟨p, happ⟩ := applies_of_success hact happlied
  have hvalid : (s.applyHsiConfig env c config false).2.isValidCcbId c = true := by
    unfold isValidCcbId
    rw [happ.userCount happlied]
    exact happ.valid
  -- the same configuration is applied to the slot that was never used
  have hfresh : Applies env (s.neverUsed c rand) c config false p := by
    refine ⟨happ.valid, happ.parsed, ?_, happ.idle⟩
    rw [neverUsed, modSub_subs_self]
    rfl
  have hfreshApplied : ((s.neverUsed c rand).applyHsiConfig env c config false).1 = .success := by
    obtain ⟨⟨hok, halloc⟩, hfits⟩ := happ.success_iff.mp happlied
    have hfree : s.vlanFree p.vlanId := hok.resolve_right fun h => h.1 (Or.inl rfl)
    exact hfresh.success_iff.mpr ⟨⟨Or.inl hfree, halloc⟩, hfits⟩
  rw [created_slotConfig happ happlied, created_slotConfig hfresh hfreshApplied,
    ← createdConfig_eq_fresh_iff rand (hread hvalid), neverUsed, modSub_subs_self]

/-! ### Removal -/

/-- The ways a slot is given up. -/
inductive Removal
  | byRequest
  | byCount

/-- A slot is removed: its configuration on request, or the slot itself with a lower count. -/
inductive Removed (c : Nat) (s : Node) : Removal → Node → Prop
  | byRequest (alloc : Bool) (hs : (s.removeHsiConfig alloc c).1 = .success) :
      Removed c s .byRequest (s.removeHsiConfig alloc c).2
  | byCount (alloc : Nat → Bool) (userCount : Int) (action : HsiAction)
      (hs : (s.userCountChangedCallback alloc userCount action).1 = .success)
      (hc : (s.userCountChangedCallback alloc userCount action).2.userCount ≤ c ∧
        c < s.userCount) :
      Removed c s .byCount (s.userCountChangedCallback alloc userCount action).2

theorem cleanupConfig_keeps (alloc : Bool) (u : Subscriber) :
    (u.cleanupConfig alloc).staticTable = u.staticTable ∧
      (u.cleanupConfig alloc).nat.portFwdTable = u.nat.portFwdTable := by
  unfold Subscriber.cleanupConfig Subscriber.initConfig
  split
  · exact ⟨rfl, rfl⟩
  · exact ⟨rfl, natTableDelAll_portFwdTable _⟩

/-- The records and ports of a slot are as they were. -/
structure LeftAlone (c : Nat) (s t : Node) : Prop where
  staticTable : (t.subs c).staticTable = (s.subs c).staticTable
  portFwdTable : (t.subs c).nat.portFwdTable = (s.subs c).nat.portFwdTable

theorem LeftAlone.trans {s t v : Node} (h : LeftAlone c s t) (h' : LeftAlone c t v) :
    LeftAlone c s v :=
  ⟨h'.staticTable.trans h.staticTable, h'.portFwdTable.trans h.portFwdTable⟩

theorem leftAlone_modSub (s : Node) (d : Nat) {f : Subscriber → Subscriber}
    (hf : ∀ u, (f u).staticTable = u.staticTable ∧
      (f u).nat.portFwdTable = u.nat.portFwdTable) : LeftAlone c s (s.modSub d f) := by
  by_cases hd : c = d
  · subst hd
    exact ⟨by rw [modSub_subs_self, (hf _).1], by rw [modSub_subs_self, (hf _).2]⟩
  · exact ⟨by rw [modSub_subs_of_ne s f hd], by rw [modSub_subs_of_ne s f hd]⟩

theorem leftAlone_pppdDisable (alloc : Bool) (s : Node) (d : Nat) :
    LeftAlone c s (s.pppdDisable alloc d) := by
  unfold pppdDisable
  have hexit : LeftAlone c s (s.modSub d fun u => { u with ppp := u.ppp.exitPpp }) :=
    leftAlone_modSub s d fun u => ⟨rfl, rfl⟩
  refine hexit.trans ?_
  dsimp only
  generalize (s.modSub d fun u => { u with ppp := u.ppp.exitPpp }) = t
  have hmap : LeftAlone c t (t.resetVlanMapCcbId (t.subs d).vlanId) := by
    rw [resetVlanMapCcbId_eq]
    exact ⟨rfl, rfl⟩
  exact hmap.trans (leftAlone_modSub _ d fun u => cleanupConfig_keeps alloc u)

theorem leftAlone_dhcpdDisable (s : Node) (d : Nat) : LeftAlone c s (s.dhcpdDisable d) :=
  leftAlone_modSub s d fun _ => ⟨rfl, rfl⟩

theorem leftAlone_foldl {f : Node → Nat → Node} (hf : ∀ t d, LeftAlone c t (f t d))
    (ds : List Nat) (s : Node) : LeftAlone c s (ds.foldl f s) := by
  induction ds generalizing s with
  | nil => exact ⟨rfl, rfl⟩
  | cons d rest ih => exact (hf s d).trans (ih (f s d))

/-- A lower count leaves the records and the ports. -/
theorem leftAlone_userCount (alloc : Nat → Bool) (s : Node) (userCount : Int)
    (action : HsiAction) : LeftAlone c s (s.userCountChangedCallback alloc userCount action).2 := by
  have hcount : LeftAlone c s
      ((removedCcbs userCount.toNat s.userCount).foldl dhcpdDisable
        ((removedCcbs userCount.toNat s.userCount).foldl
          (fun t ccbId => t.pppdDisable (alloc ccbId) ccbId)
          { s with userCount := userCount.toNat })) := by
    have hset : LeftAlone c s { s with userCount := userCount.toNat } := ⟨rfl, rfl⟩
    refine hset.trans ((leftAlone_foldl (fun t d => leftAlone_pppdDisable (alloc d) t d) _ _).trans
      (leftAlone_foldl leftAlone_dhcpdDisable _ _))
  unfold userCountChangedCallback
  cases action with
  | delete => exact ⟨rfl, rfl⟩
  | create =>
      dsimp only
      split
      · exact ⟨rfl, rfl⟩
      · split
        · exact ⟨rfl, rfl⟩
        · exact hcount
  | update =>
      dsimp only
      split
      · exact ⟨rfl, rfl⟩
      · split
        · exact ⟨rfl, rfl⟩
        · exact hcount

/-- A removal on request clears the records and leaves the ports. -/
theorem removeHsiConfig_keeps {alloc : Bool} (hs : (s.removeHsiConfig alloc c).1 = .success) :
    ((s.removeHsiConfig alloc c).2.subs c).staticTable = DnsStatic.init ∧
      ((s.removeHsiConfig alloc c).2.subs c).nat.portFwdTable = (s.subs c).nat.portFwdTable := by
  unfold removeHsiConfig at hs ⊢
  dsimp only at hs ⊢
  split at hs
  · exact Status.noConfusion hs
  · rename_i hvalid
    rw [if_neg hvalid]
    split at hs
    · exact Status.noConfusion hs
    · rename_i hvlan
      rw [if_neg hvlan]
      split at hs
      · exact Status.noConfusion hs
      · rename_i hppp
        rw [if_neg hppp]
        split at hs
        · exact Status.noConfusion hs
        · rename_i hdhcp
          rw [if_neg hdhcp, modSub_subs_self, resetVlanMapCcbId_eq]
          exact ⟨rfl, (cleanupConfig_keeps alloc (s.subs c)).2⟩

/-- Nothing was configured that this removal and the new configuration both leave, and the session
tables of the slot as the new configuration finds it can be emptied. -/
structure NothingKept (r : Removal) (before found : Subscriber) (config : HsiConfig) : Prop where
  staticRecords : r = .byCount → ∀ x ∈ before.staticTable, x = none
  ports : config.portMappings = [] →
    ∀ eport : BitVec 16, (before.nat.portFwdTable eport.toNat).isActive = false
  nat : NatSweeps found.nat
  firewall : FwSweeps found.firewall

/-- What is left in a removed slot is what its removal kept. -/
theorem nothingLeft_removed_iff {r : Removal} {s' : Node} (hremoved : Removed c s r s')
    (halone : LeftAlone c s' t) :
    NothingLeft (t.subs c) config ↔ NothingKept r (s.subs c) (t.subs c) config := by
  cases hremoved with
  | byRequest alloc hs =>
      obtain ⟨hstatic, hports⟩ := removeHsiConfig_keeps hs
      refine ⟨fun h => ⟨fun hr => Removal.noConfusion hr, ?_, h.nat, h.firewall⟩,
        fun h => ⟨?_, ?_, h.nat, h.firewall⟩⟩
      · rw [← hports, ← halone.portFwdTable]
        exact h.ports
      · rw [halone.staticTable, hstatic]
        exact fun r hr => List.eq_of_mem_replicate hr
      · rw [halone.portFwdTable, hports]
        exact h.ports
  | byCount alloc userCount action hs hc =>
      have hkept : LeftAlone c s t := (leftAlone_userCount alloc s userCount action).trans halone
      refine ⟨fun h => ⟨fun _ => ?_, ?_, h.nat, h.firewall⟩,
        fun h => ⟨?_, ?_, h.nat, h.firewall⟩⟩
      · rw [← hkept.staticTable]
        exact h.staticRecords
      · rw [← hkept.portFwdTable]
        exact h.ports
      · rw [hkept.staticTable]
        exact h.staticRecords rfl
      · rw [hkept.portFwdTable]
        exact h.ports

theorem hsiConfigChangedCallback_of_id {userId : List (BitVec 8)}
    (hid : parseUserId userId s.userCount = some c) (action : HsiAction) (revision : Int) :
    s.hsiConfigChangedCallback env userId config action revision =
      s.hsiConfigChanged env c config action revision := by
  unfold hsiConfigChangedCallback
  rw [hid]

/--
**A slot used again.** A slot is removed, on request or with a lower count, and a new configuration
is applied to it later, nothing having edited its records and ports meanwhile.  It is then
configured as if it had never been used exactly when no port was forwarded before the removal that
the new configuration does not list ports against, no static record outlived a lower count, and
every key of its session tables belongs to a session that emptying them finds.
-/
theorem recreated_iff {r : Removal} {s s' t : Node} {userId : List (BitVec 8)} {revision : Int}
    (rand : Nat → BitVec 32) (hremoved : Removed c s r s') (halone : LeftAlone c s' t)
    (hid : parseUserId userId t.userCount = some c)
    (hact : alreadyActive (t.subs c) false = false)
    (hs : (t.hsiConfigChangedCallback env userId config .create revision).1 = .success) :
    ((t.hsiConfigChangedCallback env userId config .create revision).2.subs c).slotConfig =
        (((t.neverUsed c rand).hsiConfigChangedCallback env userId config .create revision).2.subs
          c).slotConfig ↔
      NothingKept r (s.subs c) (t.subs c) config := by
  have hid' : parseUserId userId (t.neverUsed c rand).userCount = some c := hid
  rw [hsiConfigChangedCallback_of_id hid] at hs ⊢
  rw [hsiConfigChangedCallback_of_id hid', create_eq_fresh_iff rand hact hs,
    nothingLeft_removed_iff hremoved halone]

/-- The node of one subscriber with a configuration, and again without it. -/
def configuredOne (config : HsiConfig) : Node :=
  (oneSubscriber.hsiConfigChangedCallback ⟨true, true⟩ (asciiBytes "1") config .create 1).2

def removedOne (config : HsiConfig) : Node := ((configuredOne config).removeHsiConfig true 0).2

/-- A configuration that forwards port 8080. -/
def forwardingConfig : HsiConfig :=
  { plainConfig with portMappings := [⟨8080, asciiBytes "10.0.0.5", 80⟩] }

theorem userId_one (s : Node) (h : s.userCount = 1) :
    parseUserId (asciiBytes "1") s.userCount = some 0 := by
  rw [h]
  decide

set_option maxRecDepth 8000 in
theorem configuredOne_removable :
    ((configuredOne plainConfig).removeHsiConfig true 0).1 = .success ∧
      ((configuredOne forwardingConfig).removeHsiConfig true 0).1 = .success := by
  decide

set_option maxRecDepth 8000 in
theorem removedOne_recreated :
    ((removedOne plainConfig).hsiConfigChangedCallback ⟨true, true⟩ (asciiBytes "1") plainConfig
        .create 2).1 = .success ∧
      ((removedOne forwardingConfig).hsiConfigChangedCallback ⟨true, true⟩ (asciiBytes "1")
        plainConfig .create 2).1 = .success := by
  decide

theorem removed_of_success (hs : (s.removeHsiConfig true c).1 = .success) :
    Removed c s .byRequest (s.removeHsiConfig true c).2 := .byRequest true hs

/-- A subscriber without forwarded ports, removed and configured again. -/
theorem recreated_iff_plain :
    (((removedOne plainConfig).hsiConfigChangedCallback ⟨true, true⟩ (asciiBytes "1") plainConfig
        .create 2).2.subs 0).slotConfig =
        ((((removedOne plainConfig).neverUsed 0 fun _ => 0).hsiConfigChangedCallback ⟨true, true⟩
          (asciiBytes "1") plainConfig .create 2).2.subs 0).slotConfig ↔
      NothingKept .byRequest ((configuredOne plainConfig).subs 0) ((removedOne plainConfig).subs 0)
        plainConfig :=
  recreated_iff (fun _ => 0) (removed_of_success configuredOne_removable.1) ⟨rfl, rfl⟩
    (userId_one _ (by decide)) (by decide) removedOne_recreated.1

theorem forwardingConfig_applies :
    Applies ⟨true, true⟩ oneSubscriber 0 forwardingConfig false plainParsed :=
  ⟨rfl, plainConfig_parse, by decide, rfl⟩

set_option maxRecDepth 8000 in
theorem forwardingConfig_ports :
    createdPorts (oneSubscriber.subs 0) forwardingConfig 8080 ≠ none := by
  decide

/-- The port is forwarded until the removal, and after it. -/
theorem forwardingConfig_open :
    portsOf ((removedOne forwardingConfig).subs 0).nat.portFwdTable 8080 ≠ none := by
  have hkept : ((removedOne forwardingConfig).subs 0).nat.portFwdTable =
      ((configuredOne forwardingConfig).subs 0).nat.portFwdTable :=
    (removeHsiConfig_keeps configuredOne_removable.2).2
  have happlied : (oneSubscriber.applyHsiConfig ⟨true, true⟩ 0 forwardingConfig false).1 =
      .success :=
    forwardingConfig_applies.success_iff.mpr ⟨⟨Or.inl (by decide), rfl⟩, by decide⟩
  have hports : portsOf ((configuredOne forwardingConfig).subs 0).nat.portFwdTable =
      createdPorts (oneSubscriber.subs 0) forwardingConfig := by
    rw [← Subscriber.slotConfig_ports, configuredOne, hsiConfigChangedCallback_of_id (userId_one oneSubscriber rfl),
      created_slotConfig forwardingConfig_applies happlied 1, createdConfig]
  rw [hkept, hports]
  exact forwardingConfig_ports

/-- A subscriber with port 8080 forwarded is removed, and the next one in its slot, who asked for no
port, has it forwarded still. -/
theorem forwarded_port_kept :
    Removed 0 (configuredOne forwardingConfig) .byRequest (removedOne forwardingConfig) ∧
      ((removedOne forwardingConfig).hsiConfigChangedCallback ⟨true, true⟩ (asciiBytes "1")
        plainConfig .create 2).1 = .success ∧
      (((removedOne forwardingConfig).hsiConfigChangedCallback ⟨true, true⟩ (asciiBytes "1")
        plainConfig .create 2).2.subs 0).slotConfig ≠
        ((((removedOne forwardingConfig).neverUsed 0 fun _ => 0).hsiConfigChangedCallback
          ⟨true, true⟩ (asciiBytes "1") plainConfig .create 2).2.subs 0).slotConfig := by
  refine ⟨removed_of_success configuredOne_removable.2, removedOne_recreated.2, fun hsame => ?_⟩
  have hs := removedOne_recreated.2
  rw [hsiConfigChangedCallback_of_id (userId_one _ (by decide))] at hs hsame
  rw [hsiConfigChangedCallback_of_id (c := 0) (userId_one _ (by decide))] at hsame
  have hleft := (create_eq_fresh_iff (fun _ => 0) (by decide) hs).mp hsame
  exact forwardingConfig_open (portsOf_none_iff.mpr (hleft.ports rfl 8080))

end Node

end FastRG
