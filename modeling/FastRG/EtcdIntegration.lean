/-
What the store says about a node, and what the node does about it: `etcd_integration.c`, and the
pass of `sync_state_with_etcd` in `etcd_client.cpp`.

Watch events, the periodic reconcile and a republish all end in one queue, and
`etcd_event_dispatch` takes the events out of it on the control thread.  An event carries the
revision of the store it was read at.  Reports to the controller are left out.

What the environment decides comes with the event: the outcome of the allocations, and the wait
for the DHCP server.
-/
import FastRG.Northbound

namespace FastRG

/-! ### Events -/

/-- `etcd_action_type_t`. -/
inductive HsiAction
  | create
  | update
  | delete
  deriving DecidableEq

/-- An event about the configuration of one subscriber. -/
structure HsiEvent where
  userId : List (BitVec 8)
  action : HsiAction
  config : HsiConfig
  revision : Int
  fromReconcile : Bool
  fromRepublish : Bool
  deriving DecidableEq

/-- `etcd_event_t`. -/
inductive EtcdEvent
  | hsi (ev : HsiEvent)
  | userCount (action : HsiAction) (userCount : Int) (revision : Int)
  | dnsSet (userId : List (BitVec 8)) (records : List DnsRecordConfig) (revision : Int)
      (fromReconcile : Bool)
  | hsiSweep (presentCcbIds : List Nat) (reconcileRevision : Int)
  deriving DecidableEq

namespace Node

/-- What is decided outside while an event is handled. -/
structure EtcdEnv where
  apply : ApplyEnv
  /-- The buffers for the defaults of a slot that is cleaned up could be allocated. -/
  alloc : Nat → Bool

/-! ### Comparing with the store -/

/-- The entries of the port-forward table in use. -/
def portFwdActive (table : Nat → PortFwdEntry) : Nat :=
  (List.range portFwdTableSize).countP fun eport => (table eport).isActive

/-- A mapping is in the table as it stands. -/
def mappingMatches (table : Nat → PortFwdEntry) (m : PortMapping) : Bool :=
  let e := table m.eport.toNat
  e.isActive && swap16 e.iport == m.dport && some e.dip == parseIp m.dip

/-- The session's part of `hsi_config_matches_local`. -/
def sessionMatches (u : Subscriber) (config : HsiConfig) : Bool :=
  some u.vlanId == parseVlanId config.vlanId && u.pppUserAcc == config.accountName &&
    u.pppPasswd == config.password

/-- The pool's part: its settings, its length and its first address. -/
def poolMatches (u : Subscriber) (config : HsiConfig) : Bool :=
  match parseIp config.dhcpGateway, parseIp config.dhcpSubnet, parseIpRange config.dhcpAddrPool with
  | some gateway, some subnet, some (ipStart, ipEnd) =>
      u.dhcp.dhcpServerIp == gateway && u.dhcp.subnetMask == subnet &&
        u.dhcp.perLanUserPoolLen == (dhcpPoolLen ipStart ipEnd).toNat &&
        ((dhcpPoolLen ipStart ipEnd).toNat == 0 || (u.dhcp.perLanUserPool 0).ipAddr == ipStart)
  | _, _, _ => false

/-- The part of the toggles. -/
def togglesMatch (u : Subscriber) (config : HsiConfig) : Bool :=
  u.dhcp.dns.dnsProxyEnabled == config.dnsProxyEnable &&
    u.nat.tcpConntrackEnabled == config.tcpConntrackEnable &&
    u.ppp.ipv6Enabled == config.ipv6Enable

/-- `hsi_config_matches_local`, of a slot. -/
def slotMatches (u : Subscriber) (config : HsiConfig) : Bool :=
  sessionMatches u config && poolMatches u config && togglesMatch u config &&
    portFwdActive u.nat.portFwdTable == config.portMappings.length &&
    config.portMappings.all (mappingMatches u.nat.portFwdTable)

/-- `hsi_config_matches_local`. -/
def hsiConfigMatchesLocal (s : Node) (userId : List (BitVec 8)) (config : HsiConfig) : Bool :=
  match parseUserId userId s.userCount with
  | none => false
  | some ccbId => slotMatches (s.subs ccbId) config

/-! ### Dialing as desired -/

/-- `redial_pending`. -/
def setRedialPending (s : Node) (ccbId : Nat) (pending : Bool) : Node :=
  s.modSub ccbId fun u => { u with ppp := { u.ppp with redialPending := pending } }

/-- `reconcile_pppoe_desire`. -/
def reconcilePppoeDesire (s : Node) (ccbId : Nat) (desireStatus : List (BitVec 8)) : Node :=
  let u := s.subs ccbId
  let wantConnect := desireStatus == asciiBytes "connect"
  if wantConnect = true ∧ u.ppp.pppBool = false then
    (s.setRedialPending ccbId false).executePppoeDial ccbId
  else if wantConnect = false ∧ u.ppp.pppBool = true then
    (s.setRedialPending ccbId false).executePppoeHangup ccbId
  else s.setRedialPending ccbId (wantConnect && u.ppp.pppBool && u.ppp.pppProcessing)

/-! ### Revisions -/

/-- `hsi_get_subscriber_last_revision`. -/
def hsiGetSubscriberLastRevision (s : Node) (ccbId : Nat) : Int :=
  if ccbId < s.maxUserCount then s.hsiSubscriberLastRevision ccbId else 0

/-- `hsi_set_subscriber_last_revision`. -/
def hsiSetSubscriberLastRevision (s : Node) (ccbId : Nat) (revision : Int) : Node :=
  if ccbId < s.maxUserCount then
    { s with
      hsiSubscriberLastRevision := Function.update s.hsiSubscriberLastRevision ccbId revision }
  else s

/-- `etcd_get_dns_subscriber_last_revision`. -/
def etcdGetDnsSubscriberLastRevision (s : Node) (ccbId : Nat) : Int :=
  if ccbId < s.maxUserCount then s.dnsSubscriberLastRevision ccbId else 0

/-- `etcd_set_dns_subscriber_last_revision`. -/
def etcdSetDnsSubscriberLastRevision (s : Node) (ccbId : Nat) (revision : Int) : Node :=
  if ccbId < s.maxUserCount then
    { s with
      dnsSubscriberLastRevision := Function.update s.dnsSubscriberLastRevision ccbId revision }
  else s

/-- `is_hsi_etcd_revision_newest`. -/
def isHsiEtcdRevisionNewest (subscriberLastRevision : Int) (ev : HsiEvent) : Bool :=
  !ev.fromReconcile || !decide (ev.revision < subscriberLastRevision)

/-- `is_sweep_may_remove`. -/
def isSweepMayRemove (subscriberLastRevision reconcileRevision : Int) : Bool :=
  decide (subscriberLastRevision = 0) || decide (reconcileRevision = 0) ||
    decide (subscriberLastRevision ≤ reconcileRevision)

/-! ### Callbacks -/

/-- What follows a configuration that was applied.  A new one without port mappings leaves the
table as it is. -/
def hsiApplied (s : Node) (ccbId : Nat) (config : HsiConfig) (isUpdate : Bool) (revision : Int) :
    Status × Node :=
  let r :=
    if config.portMappings ≠ [] ∨ isUpdate = true then
      s.reconcilePortMapping ccbId config.portMappings
    else (.success, s)
  (r.1, (r.2.reconcilePppoeDesire ccbId config.desireStatus).hsiSetSubscriberLastRevision ccbId
    revision)

/-- `hsi_config_changed_callback`, of a slot. -/
def hsiConfigChanged (env : ApplyEnv) (s : Node) (ccbId : Nat) (config : HsiConfig)
    (action : HsiAction) (revision : Int) : Status × Node :=
  match action with
  | .delete =>
      match s.removeHsiConfig env.alloc ccbId with
      | (.success, s) => (.success, s.hsiSetSubscriberLastRevision ccbId revision)
      | (.error, s) => (.error, s)
  | action =>
      let isUpdate := decide (action = .update)
      match s.applyHsiConfig env ccbId config isUpdate with
      | (.success, s) => s.hsiApplied ccbId config isUpdate revision
      | (.error, s) => (.error, s)

/-- `hsi_config_changed_callback`. -/
def hsiConfigChangedCallback (env : ApplyEnv) (s : Node) (userId : List (BitVec 8))
    (config : HsiConfig) (action : HsiAction) (revision : Int) : Status × Node :=
  match parseUserId userId s.userCount with
  | none => (.error, s)
  | some ccbId => s.hsiConfigChanged env ccbId config action revision

/-- `pppd_disable_ccb`, of one slot. -/
def pppdDisable (alloc : Bool) (s : Node) (ccbId : Nat) : Node :=
  let s := s.modSub ccbId fun u => { u with ppp := u.ppp.exitPpp }
  (s.resetVlanMapCcbId (s.subs ccbId).vlanId).modSub ccbId fun u => u.cleanupConfig alloc

/-- `dhcpd_disable_ccb`, of one slot. -/
def dhcpdDisable (s : Node) (ccbId : Nat) : Node :=
  s.modSub ccbId fun u => { u with dhcp := dhcpdDisableCcb u.dhcp }

/-- The slots that a lower count takes away, from the last one down. -/
def removedCcbs (newCount currentCount : Nat) : List Nat :=
  ((List.range currentCount).drop newCount).reverse

/-- `user_count_changed_callback`. -/
def userCountChangedCallback (alloc : Nat → Bool) (s : Node) (userCount : Int)
    (action : HsiAction) : Status × Node :=
  match action with
  | .delete => (.success, s)
  | _ =>
      if userCount ≤ 0 then (.error, s)
      else if (s.maxUserCount : Int) < userCount then (.error, s)
      else
        let newCount := userCount.toNat
        let removed := removedCcbs newCount s.userCount
        let t := { s with userCount := newCount }
        let t := removed.foldl (fun t ccbId => t.pppdDisable (alloc ccbId) ccbId) t
        (.success, removed.foldl dhcpdDisable t)

/-- `dns_record_changed_callback`. -/
def dnsRecordChangedCallback (s : Node) (userId : List (BitVec 8)) (record : DnsRecordConfig)
    (action : HsiAction) : Status × Node :=
  let ccbId := atoi userId - 1
  if ccbId < 0 then (.error, s)
  else
    match action with
    | .delete => s.removeDnsRecord ccbId.toNat record.domain
    | _ => s.applyDnsRecord ccbId.toNat record

/-! ### Dispatch -/

/-- The sweep, at one slot. -/
def sweepSlot (alloc : Nat → Bool) (presentCcbIds : List Nat) (reconcileRevision : Int) (s : Node)
    (ccbId : Nat) : Node :=
  if (s.subs ccbId).vlanId = 0 then s
  else if ccbId ∈ presentCcbIds then s
  else if isSweepMayRemove (s.hsiGetSubscriberLastRevision ccbId) reconcileRevision = false then s
  else
    match s.removeHsiConfig (alloc ccbId) ccbId with
    | (.success, s) => s.hsiSetSubscriberLastRevision ccbId reconcileRevision
    | (.error, s) => s

/-- `etcd_reconcile_sweep`. -/
def etcdReconcileSweep (alloc : Nat → Bool) (s : Node) (presentCcbIds : List Nat)
    (reconcileRevision : Int) : Node :=
  (List.range s.userCount).foldl (sweepSlot alloc presentCcbIds reconcileRevision) s

/-- An HSI event, at the slot it is for. -/
def dispatchHsi (env : ApplyEnv) (s : Node) (ev : HsiEvent) (ccbId : Nat) : Node :=
  if isHsiEtcdRevisionNewest (s.hsiGetSubscriberLastRevision ccbId) ev = false then s
  else if ev.fromRepublish = true ∧ ev.action ≠ .delete ∧ slotMatches (s.subs ccbId) ev.config = true
  then s
  else if ev.fromReconcile = true ∧ ev.action ≠ .delete ∧ slotMatches (s.subs ccbId) ev.config = true
  then s.reconcilePppoeDesire ccbId ev.config.desireStatus
  else (s.hsiConfigChanged env ccbId ev.config ev.action ev.revision).2

/-- A set of static DNS records, at the slot it is for. -/
def dispatchDnsSet (s : Node) (ccbId : Nat) (records : List DnsRecordConfig) (revision : Int)
    (fromReconcile : Bool) : Node :=
  if fromReconcile = true ∧ revision < s.etcdGetDnsSubscriberLastRevision ccbId then s
  else
    match s.applyDnsRecordSet ccbId records with
    | (.success, s) => s.etcdSetDnsSubscriberLastRevision ccbId revision
    | (.error, s) => s

/-- `etcd_event_dispatch`.  An event for nobody changes nothing. -/
def etcdEventDispatch (env : EtcdEnv) (s : Node) : EtcdEvent → Node
  | .hsi ev =>
      match parseUserId ev.userId s.userCount with
      | none => s
      | some ccbId => s.dispatchHsi env.apply ev ccbId
  | .userCount action userCount _ => (s.userCountChangedCallback env.alloc userCount action).2
  | .dnsSet userId records revision fromReconcile =>
      match parseUserId userId s.userCount with
      | none => s
      | some ccbId => s.dispatchDnsSet ccbId records revision fromReconcile
  | .hsiSweep presentCcbIds reconcileRevision =>
      s.etcdReconcileSweep env.alloc presentCcbIds reconcileRevision

/-! ### Steps -/

/-- The timers of a session. -/
inductive SessionTimer
  | ppp
  | ipv6cp
  | pppoe
  | alive
  | dhcp6 (d : Dhcp6)

/-- A timer's turn, as a step of the session. -/
def SessionTimer.label : SessionTimer → PppLabel
  | .ppp => .pppTimer
  | .ipv6cp => .ipv6cpTimer
  | .pppoe => .pppoeTimer
  | .alive => .aliveTimer
  | .dhcp6 d => .dhcp6Timer d

/-- What can happen to the subscribers of a node and their sessions. -/
inductive NodeLabel
  | apply (env : ApplyEnv) (ccbId : Nat) (config : HsiConfig) (isUpdate : Bool)
  | remove (alloc : Bool) (ccbId : Nat)
  | userCount (alloc : Nat → Bool) (userCount : Int)
  | command (ccbId : Nat) (cmd : NorthboundCmd)
  | timer (ccbId : Nat) (tim : SessionTimer)
  | frame (vlanId : Nat) (pkt : List (BitVec 8)) (dnsProxyInit : Status) (d : Dhcp6)

/-- A step of one session. -/
def sessionStep (mac : BitVec 48) (s : Node) (ccbId : Nat) (l : PppLabel) : Node :=
  s.modSub ccbId fun u => { u with ppp := pppStep mac u.ppp l }

/-- The slot a frame on a VLAN is for. -/
def ccbOfVlan (s : Node) (vlanId : Nat) : Option Nat :=
  if vlanId < minVlanId ∨ maxVlanId < vlanId then none
  else (s.vlanUseridMap (vlanId - 1)).filter fun ccbId => ccbId < s.userCount

/-- One step of a node.  A frame goes to the slot its VLAN leads to. -/
def nodeStep (mac : BitVec 48) (s : Node) : NodeLabel → Node
  | .apply env ccbId config isUpdate => (s.applyHsiConfig env ccbId config isUpdate).2
  | .remove alloc ccbId => (s.removeHsiConfig alloc ccbId).2
  | .userCount alloc userCount => (s.userCountChangedCallback alloc userCount .update).2
  | .command ccbId cmd => s.execute mac ccbId cmd
  | .timer ccbId tim => s.sessionStep mac ccbId tim.label
  | .frame vlanId pkt dnsProxyInit d =>
      match s.ccbOfVlan vlanId with
      | none => s
      | some ccbId => s.sessionStep mac ccbId (.recv pkt dnsProxyInit d)

end Node

end FastRG
