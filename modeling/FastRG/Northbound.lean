/-
The subscribers of a node and their configuration: `northbound.c`, and what it changes in
`pppd.c`, `dhcpd.c` and `dns_static.c`.

A subscriber is one slot of the node: its session, its translator and firewall, its DHCP server
and its static DNS records, each as its own module has it.  The VLAN map leads from a VLAN to the
slot that owns it.  Everything runs on the control thread, so a call is one step.

What the environment decides comes with the call: whether the buffers for the credentials could
be allocated, and whether the data plane let go of the DHCP pool within a second.  A command is
put at the end of the control queue, which is as long as it needs to be.  The tables of MAC
addresses and neighbours, which a configuration only empties, are left out.
-/
import FastRG.Dhcpd
import FastRG.DnsCache
import FastRG.Ipv6Firewall
import FastRG.Nat
import FastRG.Pppd
import FastRG.Utils

namespace FastRG

def minVlanId : Nat := 2

def maxVlanId : Nat := 4000

/-! ### Configurations -/

/-- `port_mapping_t`. -/
structure PortMapping where
  eport : BitVec 16
  dip : List (BitVec 8)
  dport : BitVec 16
  deriving DecidableEq

/-- `hsi_config_t`, its texts as they are. -/
structure HsiConfig where
  vlanId : List (BitVec 8)
  accountName : List (BitVec 8)
  password : List (BitVec 8)
  dhcpAddrPool : List (BitVec 8)
  dhcpSubnet : List (BitVec 8)
  dhcpGateway : List (BitVec 8)
  dnsProxyEnable : Bool
  tcpConntrackEnable : Bool
  ipv6Enable : Bool
  desireStatus : List (BitVec 8)
  portMappings : List PortMapping
  deriving DecidableEq

/-- `dns_record_config_t`. -/
structure DnsRecordConfig where
  domain : List (BitVec 8)
  ip : List (BitVec 8)
  ttl : BitVec 32
  deriving DecidableEq

/-- The numbers and addresses in a configuration. -/
structure HsiParsed where
  vlanId : Nat
  ipStart : BitVec 32
  ipEnd : BitVec 32
  subnetMask : BitVec 32
  gateway : BitVec 32
  deriving DecidableEq

/-- The checks `apply_hsi_config` makes before it touches anything. -/
def HsiConfig.parse (config : HsiConfig) : Option HsiParsed := do
  let vlanId ← parseVlanId config.vlanId
  let (ipStart, ipEnd) ← parseIpRange config.dhcpAddrPool
  let subnetMask ← parseIp config.dhcpSubnet
  let gateway ← parseIp config.dhcpGateway
  if dhcpValidatePoolRange gateway ipStart ipEnd subnetMask = .error then none
  else some ⟨vlanId, ipStart, ipEnd, subnetMask, gateway⟩

/-! ### Subscribers -/

/-- A slot: `ppp_ccb_t` and `dhcp_ccb_t`. -/
structure Subscriber where
  ppp : PppCcb
  vlanId : Nat
  pppUserAcc : List (BitVec 8)
  pppPasswd : List (BitVec 8)
  nat : NatCcb
  firewall : Ipv6FirewallCcb
  dhcp : DhcpCcb
  staticTable : DnsStaticTable

namespace Subscriber

/-- `tcp_conntrack_enabled`, which the translator and the firewall both read. -/
def setTcpConntrack (u : Subscriber) (enable : Bool) : Subscriber :=
  { u with
    nat := { u.nat with tcpConntrackEnabled := enable }
    firewall := { u.firewall with tcpConntrackEnabled := enable } }

/-- `dns_state.dns_proxy_enabled`. -/
def setDnsProxy (u : Subscriber) (enable : Bool) : Subscriber :=
  { u with dhcp := { u.dhcp with dns := { u.dhcp.dns with dnsProxyEnabled := enable } } }

/-- `ppp_init_config_by_user`.  Without buffers for the credentials it changes nothing. -/
def initConfig (alloc : Bool) (u : Subscriber) (vlanId : Nat)
    (userName password : List (BitVec 8)) : Status × Subscriber :=
  if alloc = false then (.error, u)
  else
    let u := u.setTcpConntrack true
    (.success, { u with
      ppp := pppInitConfigByUser (decide (vlanId ≠ 0)) u.ppp
      vlanId := vlanId
      pppUserAcc := userName
      pppPasswd := password
      nat := natTableDelAllEntriesFromHash u.nat
      firewall := ipv6FirewallTableDelAllEntriesFromHash u.firewall })

/-- `ppp_update_config_by_user`. -/
def updateConfig (alloc : Bool) (u : Subscriber) (vlanId : Nat)
    (userName password : List (BitVec 8)) : Status × Subscriber :=
  if alloc = false then (.error, u)
  else (.success, { u with vlanId := vlanId, pppUserAcc := userName, pppPasswd := password })

/-- `ppp_cleanup_config_by_user`. -/
def cleanupConfig (alloc : Bool) (u : Subscriber) : Subscriber :=
  (u.initConfig alloc 0 (asciiBytes "asdf") (asciiBytes "zxcv")).2

/-- The three gates, as `apply_hsi_config` takes them down and puts them back. -/
def setGates (u : Subscriber) (pppBool dpStartBool dhcpBool : Bool) : Subscriber :=
  { u with
    ppp := { u.ppp with pppBool := pppBool, dpStartBool := dpStartBool }
    dhcp := { u.dhcp with dhcpBool := dhcpBool } }

/-- `dhcp_pool_init_by_user`. -/
def initPool (u : Subscriber) (p : HsiParsed) : Status × Subscriber :=
  let r := dhcpPoolInitByUser u.dhcp p.gateway p.ipStart p.ipEnd p.subnetMask
  (r.1, { u with dhcp := r.2 })

/-- The toggles of a configuration. -/
def setToggles (u : Subscriber) (config : HsiConfig) : Subscriber :=
  let u := (u.setDnsProxy config.dnsProxyEnable).setTcpConntrack config.tcpConntrackEnable
  { u with ppp := setIpv6Enable config.ipv6Enable u.ppp }

/-- `pppd_allocate_ccbs` and `dhcpd_allocate_ccbs`, for one slot. -/
def fresh (rand : Nat → BitVec 32) : Subscriber where
  ppp := pppInit rand
  vlanId := 0
  pppUserAcc := asciiBytes "asdf"
  pppPasswd := asciiBytes "zxcv"
  nat := { natTableInit natBlank with tcpConntrackEnabled := true }
  firewall := ipv6FirewallTableInit ipv6FirewallBlank
  dhcp := dhcpInitByUser
  staticTable := DnsStatic.init

end Subscriber

/-! ### The node -/

/-- The commands of the control queue. -/
inductive NorthboundCmd
  | pppoeEnable
  | pppoeDisable
  | pppoeForceDisable
  | ipv6Changed
  | dhcpEnable
  | dhcpDisable
  deriving DecidableEq

/-- `FastRG_t`, as far as the subscribers go. -/
structure Node where
  userCount : Nat
  maxUserCount : Nat
  subs : Nat → Subscriber
  /-- The slot at each index of `vlan_userid_map`, or none for `INVALID_CCB_ID`. -/
  vlanUseridMap : Nat → Option Nat
  hsiSubscriberLastRevision : Nat → Int
  dnsSubscriberLastRevision : Nat → Int
  cpQ : List (Nat × NorthboundCmd)

namespace Node

/-- A node at start-up: every slot is allocated, and none is served yet. -/
def startUp (maxUserCount : Nat) (rand : Nat → Nat → BitVec 32) : Node where
  userCount := 0
  maxUserCount := maxUserCount
  subs := fun ccbId => Subscriber.fresh (rand ccbId)
  vlanUseridMap := fun _ => none
  hsiSubscriberLastRevision := fun _ => 0
  dnsSubscriberLastRevision := fun _ => 0
  cpQ := []

/-- `is_valid_ccb_id`: every slot is allocated. -/
def isValidCcbId (s : Node) (ccbId : Nat) : Bool := ccbId < s.userCount

/-- A slot changed. -/
def modSub (s : Node) (ccbId : Nat) (f : Subscriber → Subscriber) : Node :=
  { s with subs := Function.update s.subs ccbId (f (s.subs ccbId)) }

/-- `fastrg_gen_northbound_event`. -/
def post (s : Node) (ccbId : Nat) (cmd : NorthboundCmd) : Node :=
  { s with cpQ := s.cpQ ++ [(ccbId, cmd)] }

/-- `set_vlan_map_ccb_id`: an entry is taken only while it is nobody's. -/
def setVlanMapCcbId (s : Node) (vlanId ccbId : Nat) : Status × Node :=
  if vlanId < 1 ∨ maxVlanId < vlanId then (.error, s)
  else if s.vlanUseridMap (vlanId - 1) ≠ none then (.error, s)
  else (.success,
    { s with vlanUseridMap := Function.update s.vlanUseridMap (vlanId - 1) (some ccbId) })

/-- `reset_vlan_map_ccb_id`. -/
def resetVlanMapCcbId (s : Node) (vlanId : Nat) : Node :=
  if vlanId < 1 ∨ maxVlanId < vlanId then s
  else { s with vlanUseridMap := Function.update s.vlanUseridMap (vlanId - 1) none }

/-! ### `apply_hsi_config` -/

/-- What is decided outside while a configuration is applied. -/
structure ApplyEnv where
  /-- The buffers for the credentials could be allocated. -/
  alloc : Bool
  /-- No DHCP packet was in progress for longer than the wait. -/
  dhcpIdle : Bool
  deriving DecidableEq

/-- A new configuration: the VLAN is taken, then the slot set up, then the old VLAN given back. -/
def applyNew (alloc : Bool) (s : Node) (ccbId : Nat) (config : HsiConfig) (p : HsiParsed) :
    Status × Node :=
  match s.setVlanMapCcbId p.vlanId ccbId with
  | (.error, s) => (.error, s)
  | (.success, s) =>
      let originalVlanId := (s.subs ccbId).vlanId
      match (s.subs ccbId).initConfig alloc p.vlanId config.accountName config.password with
      | (.error, _) => (.error, s.resetVlanMapCcbId p.vlanId)
      | (.success, u) =>
          let s := s.modSub ccbId fun _ => u
          (.success, if originalVlanId ≠ p.vlanId then s.resetVlanMapCcbId originalVlanId else s)

/-- The VLAN of a running subscriber, moved if it is another. -/
def moveVlan (s : Node) (ccbId vlanId : Nat) : Status × Node :=
  let originalVlanId := (s.subs ccbId).vlanId
  if originalVlanId = vlanId then (.success, s)
  else
    match s.setVlanMapCcbId vlanId ccbId with
    | (.error, s) => (.error, s)
    | (.success, s) => (.success, s.resetVlanMapCcbId originalVlanId)

/-- An update of a configured subscriber. -/
def applyUpdate (alloc : Bool) (s : Node) (ccbId : Nat) (config : HsiConfig) (p : HsiParsed) :
    Status × Node :=
  let originalVlanId := (s.subs ccbId).vlanId
  match s.moveVlan ccbId p.vlanId with
  | (.error, s) => (.error, s)
  | (.success, s) =>
      match (s.subs ccbId).updateConfig alloc p.vlanId config.accountName config.password with
      | (.error, _) =>
          (.error, if originalVlanId ≠ p.vlanId then
            ((s.resetVlanMapCcbId p.vlanId).setVlanMapCcbId originalVlanId ccbId).2 else s)
      | (.success, u) => (.success, s.modSub ccbId fun _ => u)

/-- The session's part, then the pool's, then the toggles, with the gates shut.  An update of a
subscriber that is not configured yet is handled as a new configuration. -/
def applyClosed (alloc : Bool) (s : Node) (ccbId : Nat) (config : HsiConfig) (p : HsiParsed)
    (isUpdate : Bool) : Status × Node :=
  let r :=
    if isUpdate = false ∨ (s.subs ccbId).ppp.phase = notConfigured then
      s.applyNew alloc ccbId config p
    else s.applyUpdate alloc ccbId config p
  match r with
  | (.error, s) => (.error, s)
  | (.success, s) =>
      match (s.subs ccbId).initPool p with
      | (.error, _) => (.error, s)
      | (.success, u) => (.success, s.modSub ccbId fun _ => u.setToggles config)

/-- A new configuration for a subscriber that is in use already. -/
def alreadyActive (u : Subscriber) (isUpdate : Bool) : Bool :=
  !isUpdate && (u.dhcp.dhcpBool || u.ppp.pppBool)

/-- `apply_hsi_config`.  The gates are shut for the change and come back as they were. -/
def applyHsiConfig (env : ApplyEnv) (s : Node) (ccbId : Nat) (config : HsiConfig)
    (isUpdate : Bool) : Status × Node :=
  if s.isValidCcbId ccbId = false then (.error, s)
  else
    match config.parse with
    | none => (.error, s)
    | some p =>
        let u := s.subs ccbId
        let closed := s.modSub ccbId fun u => u.setGates false false false
        let r :=
          if alreadyActive u isUpdate then (.success, closed)
          else if env.dhcpIdle = false then (.error, closed)
          else closed.applyClosed env.alloc ccbId config p isUpdate
        let s := r.2.modSub ccbId fun v =>
          v.setGates u.ppp.pppBool u.ppp.dpStartBool u.dhcp.dhcpBool
        (r.1,
          if r.1 = .success ∧ (s.subs ccbId).ppp.ipv6Enabled ≠ u.ppp.ipv6Enabled then
            s.post ccbId .ipv6Changed
          else s)

/-! ### `remove_hsi_config` -/

/-- The window of no addresses. -/
def emptyPool : HsiParsed := ⟨0, 0, 0, 0, 0⟩

/-- `remove_hsi_config`. -/
def removeHsiConfig (alloc : Bool) (s : Node) (ccbId : Nat) : Status × Node :=
  let u := s.subs ccbId
  if s.isValidCcbId ccbId = false then (.error, s)
  else if u.vlanId = 0 then (.error, s)
  else if u.ppp.pppBool then (.error, s)
  else if u.dhcp.dhcpBool then (.error, s)
  else
    (.success, (s.resetVlanMapCcbId u.vlanId).modSub ccbId fun u =>
      { ((u.cleanupConfig alloc).initPool emptyPool).2 with staticTable := DnsStatic.init })

/-! ### Dialing -/

/-- `execute_pppoe_dial`. -/
def executePppoeDial (s : Node) (ccbId : Nat) : Node :=
  if s.isValidCcbId ccbId = false then s
  else
    let u := s.subs ccbId
    let s := if u.ppp.pppBool then s else s.post ccbId .pppoeEnable
    if u.dhcp.dhcpBool then s else s.post ccbId .dhcpEnable

/-- `execute_pppoe_hangup`. -/
def executePppoeHangup (s : Node) (ccbId : Nat) : Node :=
  if s.isValidCcbId ccbId = false then s
  else (s.post ccbId .pppoeDisable).post ccbId .dhcpDisable

/-- `fastrg_loop`, at a command for a slot, on a node with this WAN address. -/
def execute (mac : BitVec 48) (s : Node) (ccbId : Nat) (cmd : NorthboundCmd) : Node :=
  if s.userCount ≤ ccbId then s
  else
    s.modSub ccbId fun u =>
      match cmd with
      | .pppoeEnable => { u with ppp := pppStep mac u.ppp .connect }
      | .pppoeDisable => { u with ppp := pppStep mac u.ppp .disconnect }
      | .pppoeForceDisable => { u with ppp := pppStep mac u.ppp .forceDisable }
      | .ipv6Changed => { u with ppp := pppStep mac u.ppp .ipv6Changed }
      | .dhcpEnable => { u with dhcp := { u.dhcp with dhcpBool := true } }
      | .dhcpDisable => { u with dhcp := { u.dhcp with dhcpBool := false } }

/-! ### Port forwarding -/

def portFwdTableSize : Nat := totalSockPort

/-- An entry that is not in use. -/
def portFwdBlank : PortFwdEntry := ⟨0, 0, false, 0⟩

/-- `port_fwd_add`.  An entry in use is not overwritten. -/
def portFwdAdd (table : Nat → PortFwdEntry) (eport : BitVec 16) (dip : BitVec 32)
    (iport : BitVec 16) : Nat → PortFwdEntry :=
  if (table eport.toNat).isActive then table
  else Function.update table eport.toNat ⟨dip, swap16 iport, true, 0⟩

/-- `port_fwd_remove`. -/
def portFwdRemove (table : Nat → PortFwdEntry) (eport : BitVec 16) :
    Status × (Nat → PortFwdEntry) :=
  if (table eport.toNat).isActive = false then (.error, table)
  else (.success, Function.update table eport.toNat portFwdBlank)

/-- The first pass of `reconcile_port_mapping`: what is not in the list is removed. -/
def removeStale (mappings : List PortMapping) (table : Nat → PortFwdEntry) (eport : Nat) :
    PortFwdEntry :=
  if eport < portFwdTableSize ∧ (table eport).isActive = true ∧
      mappings.all (fun m => m.eport.toNat ≠ eport) = true then portFwdBlank
  else table eport

/-- The second pass, at one mapping: added if it is missing, replaced if it differs. -/
def reconcileMapping (r : Status × (Nat → PortFwdEntry)) (m : PortMapping) :
    Status × (Nat → PortFwdEntry) :=
  match parseIp m.dip with
  | none => (.error, r.2)
  | some dip =>
      let entry := r.2 m.eport.toNat
      if entry.isActive = false then (r.1, portFwdAdd r.2 m.eport dip m.dport)
      else if entry.dip ≠ dip ∨ swap16 entry.iport ≠ m.dport then
        (r.1, portFwdAdd (portFwdRemove r.2 m.eport).2 m.eport dip m.dport)
      else r

/-- Both passes over a table. -/
def reconcileTable (mappings : List PortMapping) (table : Nat → PortFwdEntry) :
    Status × (Nat → PortFwdEntry) :=
  mappings.foldl reconcileMapping (.success, removeStale mappings table)

/-- `reconcile_port_mapping`. -/
def reconcilePortMapping (s : Node) (ccbId : Nat) (mappings : List PortMapping) : Status × Node :=
  if s.isValidCcbId ccbId = false then (.error, s)
  else
    let r := reconcileTable mappings (s.subs ccbId).nat.portFwdTable
    (r.1, s.modSub ccbId fun u => { u with nat := { u.nat with portFwdTable := r.2 } })

/-- `set_snat_port_fwd`. -/
def setSnatPortFwd (s : Node) (ccbId : Nat) (eport : BitVec 16) (dip : List (BitVec 8))
    (iport : BitVec 16) : Status × Node :=
  if s.isValidCcbId ccbId = false then (.error, s)
  else
    match parseIp dip with
    | none => (.error, s)
    | some dip =>
        (.success, s.modSub ccbId fun u =>
          { u with nat := { u.nat with portFwdTable := portFwdAdd u.nat.portFwdTable eport dip iport } })

/-- `remove_snat_port_fwd`. -/
def removeSnatPortFwd (s : Node) (ccbId : Nat) (eport : BitVec 16) : Status × Node :=
  if s.isValidCcbId ccbId = false then (.error, s)
  else
    let r := portFwdRemove (s.subs ccbId).nat.portFwdTable eport
    (r.1, s.modSub ccbId fun u => { u with nat := { u.nat with portFwdTable := r.2 } })

/-! ### Static DNS records -/

/-- A static table changed. -/
def setStatic (s : Node) (ccbId : Nat) (table : DnsStaticTable) : Node :=
  s.modSub ccbId fun u => { u with staticTable := table }

/-- `apply_dns_record`. -/
def applyDnsRecord (s : Node) (ccbId : Nat) (record : DnsRecordConfig) : Status × Node :=
  if s.isValidCcbId ccbId = false then (.error, s)
  else
    match inetPton record.ip with
    | none => (.error, s)
    | some ip =>
        let r := DnsStatic.add (s.subs ccbId).staticTable record.domain ip
          (if record.ttl = 0 then 3600 else record.ttl)
        (r.1, s.setStatic ccbId r.2)

/-- `remove_dns_record`. -/
def removeDnsRecord (s : Node) (ccbId : Nat) (domain : List (BitVec 8)) : Status × Node :=
  if s.isValidCcbId ccbId = false then (.error, s)
  else
    let r := DnsStatic.remove (s.subs ccbId).staticTable domain
    (r.1, s.setStatic ccbId r.2)

/-- The first pass of `apply_dns_record_set`: the domains no record of the set refers to.  A record
refers to the slot its domain is found in. -/
def staleDomains (records : List DnsRecordConfig) (table : DnsStaticTable) :
    List (List (BitVec 8)) :=
  table.zipIdx.filterMap fun (r, i) =>
    match r with
    | none => none
    | some r =>
        if records.any (fun w => table.findIdx? (DnsStatic.isFor w.domain) = some i) then none
        else some r.domain

/-- The second pass, at one stale domain. -/
def removeStaleDomain (ccbId : Nat) (r : Status × Node) (domain : List (BitVec 8)) : Status × Node :=
  match r.2.removeDnsRecord ccbId domain with
  | (.success, s) => (r.1, s)
  | (.error, s) => (.error, s)

/-- The third pass, at one record: what is there already is left alone. -/
def setDnsRecord (ccbId : Nat) (r : Status × Node) (record : DnsRecordConfig) : Status × Node :=
  let ttl := if record.ttl = 0 then 3600 else record.ttl
  let here := (DnsStatic.lookup (r.2.subs ccbId).staticTable record.domain).any fun e =>
    some e.ipAddr == inetPton record.ip && e.ttl == ttl
  if here then r
  else
    match r.2.applyDnsRecord ccbId record with
    | (.success, s) => (r.1, s)
    | (.error, s) => (.error, s)

/-- `apply_dns_record_set`.  One address that cannot be read keeps the table as it is. -/
def applyDnsRecordSet (s : Node) (ccbId : Nat) (records : List DnsRecordConfig) : Status × Node :=
  if s.isValidCcbId ccbId = false then (.error, s)
  else
    let records := records.take dnsStaticMaxRecords
    if records.any (fun r => inetPton r.ip = none) then (.error, s)
    else
      let stale := staleDomains records (s.subs ccbId).staticTable
      records.foldl (setDnsRecord ccbId) (stale.foldl (removeStaleDomain ccbId) (.success, s))

end Node

end FastRG
