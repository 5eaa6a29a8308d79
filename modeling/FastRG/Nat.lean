/-
The IPv4 address translator: `nat.h`.

Each subscriber has a pool of mappings.  A mapping sits in a slot, with its
deadline in an array of its own, and is found under two keys: from the LAN side by
the flow, from the WAN side by the translated port and the remote end.  Slots that
are not in use wait in a ring.  A mapping is removed by deleting its two keys, as
the slot stores them; the slot itself stays as it was, marked ready and with its
old deadline, until the reverse table's defer queue hands it to
`natReverseHashFreeCb`.

Every function runs as one atomic step at one reading of the clock.  What the code
cannot know beforehand is an argument: how many deferred deletions are past their
grace period at each reclaim, and whether the tables find room for a key.  The
checksum behind the first port to try is DPDK's, and is a parameter.
-/
import FastRG.Lib.SlotPool
import FastRG.TcpConntrack

namespace FastRG

/-! ### Sizes -/

def natEntryTimeoutSec : Nat := 10
def natGcScanChunk : BitVec 32 := 512
def totalSockPort : Nat := 65536
def maxNatEntries : Nat := totalSockPort <<< 2
def sysMaxPort : Nat := 1000
def natPortRange : Nat := totalSockPort - sysMaxPort

/-! ### Data -/

/-- `nat_reverse_key_t`, a mapping as the WAN side names it. -/
structure NatReverseKey where
  dstIp : BitVec 32
  natPort : BitVec 16
  dstPort : BitVec 16
  deriving DecidableEq

/-- `nat_forward_key_t`, a flow as the LAN side names it. -/
structure NatForwardKey where
  srcIp : BitVec 32
  dstIp : BitVec 32
  srcPort : BitVec 16
  dstPort : BitVec 16
  deriving DecidableEq

/-- `addr_table_t`.  The deadline its `expire_slot` points at is in `natExpireAt`. -/
structure AddrTable where
  macAddr : BitVec 48
  srcIp : BitVec 32
  dstIp : BitVec 32
  srcPort : BitVec 16
  dstPort : BitVec 16
  natPort : BitVec 16
  proto : BitVec 8
  tcpState : TcpConntrackState
  tcpFinFlags : BitVec 8
  isFill : Fill
  maxSeqEndLan : BitVec 32
  maxSeqEndWan : BitVec 32
  maxAckLan : BitVec 32
  maxAckWan : BitVec 32
  maxWinLan : BitVec 16
  maxWinWan : BitVec 16
  deriving DecidableEq

/-- `port_fwd_entry_t`. -/
structure PortFwdEntry where
  dip : BitVec 32
  iport : BitVec 16
  isActive : Bool
  hitCount : Nat
  deriving DecidableEq

/-- The translator's part of `ppp_ccb_t`. -/
structure NatCcb where
  addrTable : Nat → AddrTable
  natExpireAt : Nat → Nat
  natEnospc : Nat
  natGcReclaimed : Nat
  natReverseHash : Rte.Hash NatReverseKey Nat
  natForwardHash : Rte.Hash NatForwardKey Nat
  natFreeRing : Rte.Ring
  natGcCounter : BitVec 32
  portFwdTable : Nat → PortFwdEntry
  tcpConntrackEnabled : Bool

/-- The forward key an entry stores. -/
def AddrTable.forwardKey (e : AddrTable) : NatForwardKey := ⟨e.srcIp, e.dstIp, e.srcPort, e.dstPort⟩

/-- The reverse key an entry stores. -/
def AddrTable.reverseKey (e : AddrTable) : NatReverseKey := ⟨e.dstIp, e.natPort, e.dstPort⟩

/-! ### Deadlines -/

/-- `nat_expiry_cycles`. -/
def natExpiryCycles (hz now : Nat) : Nat := now + natEntryTimeoutSec * hz

/-- `nat_entry_is_expired`. -/
def natEntryIsExpired (now : Nat) (ccb : NatCcb) (i : Nat) : Bool := now > ccb.natExpireAt i

/-- `nat_expire_refresh` of a slot, to the deadline of a mapping just used. -/
def natEntryRefresh (hz now : Nat) (ccb : NatCcb) (i : Nat) : NatCcb :=
  { ccb with
    natExpireAt := Function.update ccb.natExpireAt i
      (natExpireRefresh hz (ccb.natExpireAt i) (natExpiryCycles hz now)) }

/-! ### Set-up and reclaim -/

/-- `nat_reverse_hash_free_cb`. -/
def natReverseHashFreeCb (ccb : NatCcb) (idx : Nat) : NatCcb :=
  { ccb with
    natExpireAt := Function.update ccb.natExpireAt idx 0
    addrTable := Function.update ccb.addrTable idx { ccb.addrTable idx with isFill := .free }
    natFreeRing := ccb.natFreeRing.enqueue idx }

/-- `nat_table_init_entries`. -/
def natTableInitEntries (ccb : NatCcb) : NatCcb :=
  { ccb with
    natExpireAt := fun i => if i < maxNatEntries then 0 else ccb.natExpireAt i
    addrTable := fun i =>
      if i < maxNatEntries then { ccb.addrTable i with isFill := .free } else ccb.addrTable i }

/-- `nat_table_enqueue_all_entries_to_ring`. -/
def natTableEnqueueAllEntriesToRing (ccb : NatCcb) : NatCcb :=
  { ccb with natFreeRing := (List.range maxNatEntries).foldl Rte.Ring.enqueue ccb.natFreeRing }

/-- The three counters start over, at set-up and when everything is deleted. -/
def natResetCounters (ccb : NatCcb) : NatCcb :=
  { ccb with natGcCounter := 0, natEnospc := 0, natGcReclaimed := 0 }

/-- `nat_table_init`, with both tables and the ring created. -/
def natTableInit (ccb : NatCcb) : NatCcb :=
  natResetCounters (natTableEnqueueAllEntriesToRing (natTableInitEntries
    { ccb with
      natReverseHash := Rte.Hash.empty
      natForwardHash := Rte.Hash.empty
      natFreeRing := Rte.Ring.create maxNatEntries }))

/-- A control block before anything has been set up. -/
def natBlank : NatCcb where
  addrTable := fun _ => ⟨0, 0, 0, 0, 0, 0, 0, .none, 0, .free, 0, 0, 0, 0, 0, 0⟩
  natExpireAt := fun _ => 0
  natEnospc := 0
  natGcReclaimed := 0
  natReverseHash := Rte.Hash.empty
  natForwardHash := Rte.Hash.empty
  natFreeRing := Rte.Ring.create 0
  natGcCounter := 0
  portFwdTable := fun _ => ⟨0, 0, false, 0⟩
  tcpConntrackEnabled := true

/-- The reverse table's defer queue gives up its oldest slot. -/
def natReversePop (ccb : NatCcb) : Option (Nat × NatCcb) :=
  match ccb.natReverseHash.popDq with
  | none => none
  | some (idx, hash) => some (idx, { ccb with natReverseHash := hash })

/-- `rte_hash_rcu_qsbr_dq_reclaim` of the reverse table. -/
def natReverseDqReclaim (m : Nat) (ccb : NatCcb) : NatCcb :=
  Rte.dqReclaim natReversePop natReverseHashFreeCb m ccb

/-- `rte_hash_rcu_qsbr_dq_reclaim` of the forward table, which has no callback. -/
def natForwardDqReclaim (m : Nat) (ccb : NatCcb) : NatCcb :=
  { ccb with natForwardHash :=
      { ccb.natForwardHash with dq := ccb.natForwardHash.dq.drop m } }

/-! ### Deletion -/

/-- `nat_entry_del_keys`: forward key first, then reverse, which alone queues the slot. -/
def natEntryDelKeys (ccb : NatCcb) (i : Nat) : Bool × NatCcb :=
  let entry := ccb.addrTable i
  let fwd := ccb.natForwardHash.delKey entry.forwardKey
  let rev := ccb.natReverseHash.delKey entry.reverseKey
  (rev.1, { ccb with natForwardHash := fwd.2, natReverseHash := rev.2 })

/-- One turn of the loop of `nat_table_del_all_entries_from_hash`. -/
def natDelAllVisit (ccb : NatCcb) (i : Nat) : NatCcb :=
  if ccb.natExpireAt i = 0 then ccb
  else if (ccb.addrTable i).isFill = .ready then (natEntryDelKeys ccb i).2
  else ccb

/-- `nat_table_del_all_entries_from_hash`. -/
def natTableDelAllEntriesFromHash (ccb : NatCcb) : NatCcb :=
  natResetCounters ((List.range maxNatEntries).foldl natDelAllVisit ccb)

/-- How much each reclaim of a collection or an allocation finds past its grace period. -/
structure NatGrace where
  gcReverse : Nat
  gcForward : Nat
  allocReverse : Nat

/-- The slot a scan that began at `start` looks at in its turn `n`. -/
def natGcIdx (start : BitVec 32) (n : Nat) : Nat :=
  (start + BitVec.ofNat 32 n).toNat % maxNatEntries

/-- One turn of the scan, with the count of keys deleted so far. -/
def natGcVisit (now : Nat) (start : BitVec 32) (s : Nat × NatCcb) (n : Nat) : Nat × NatCcb :=
  let (reclaimed, ccb) := s
  let idx := natGcIdx start n
  let deadline := ccb.natExpireAt idx
  if deadline = 0 ∨ deadline > now then (reclaimed, ccb)
  else if (ccb.addrTable idx).isFill ≠ .ready then (reclaimed, ccb)
  else
    let (won, ccb') := natEntryDelKeys ccb idx
    (if won then reclaimed + 1 else reclaimed, ccb')

/-- `nat_gc_scan_by_ccb`. -/
def natGcScanByCcb (now : Nat) (ccb : NatCcb) (maxSlots : BitVec 32) (grace : NatGrace) :
    Nat × NatCcb :=
  let start := ccb.natGcCounter
  let ccb := { ccb with natGcCounter := ccb.natGcCounter + maxSlots }
  let (reclaimed, ccb) := (List.range maxSlots.toNat).foldl (natGcVisit now start) (0, ccb)
  let ccb := { ccb with natGcReclaimed := ccb.natGcReclaimed + reclaimed }
  (reclaimed, natForwardDqReclaim grace.gcForward (natReverseDqReclaim grace.gcReverse ccb))

/-- `nat_slot_alloc`: an empty ring is given one emergency collection. -/
def natSlotAlloc (now : Nat) (ccb : NatCcb) (grace : NatGrace) : Option Nat × NatCcb :=
  match ccb.natFreeRing.dequeue with
  | some (idx, ring) => (some idx, { ccb with natFreeRing := ring })
  | none =>
      let ccb := (natGcScanByCcb now ccb natGcScanChunk grace).2
      let ccb := natReverseDqReclaim grace.allocReverse ccb
      match ccb.natFreeRing.dequeue with
      | some (idx, ring) => (some idx, { ccb with natFreeRing := ring })
      | none => (none, ccb)

/-! ### Learning -/

/-- One bit of the reflected CRC-32C. -/
def crc32cStep (x : BitVec 32) : BitVec 32 :=
  if x.getLsbD 0 then (x >>> 1) ^^^ 0x82F63B78 else x >>> 1

/-- `rte_hash_crc_4byte` as the hardware computes it, to run the model with. -/
def rteHashCrc4byte (data initVal : BitVec 32) : BitVec 32 :=
  (List.range 32).foldl (fun x _ => crc32cStep x) (data ^^^ initVal)

/-- `compute_initial_nat_port`.  `crc` is `rte_hash_crc_4byte`. -/
def computeInitialNatPort (crc : BitVec 32 → BitVec 32 → BitVec 32) (srcIp : BitVec 32)
    (srcPort : BitVec 16) : BitVec 16 :=
  let hash := crc srcIp 0
  let hash := crc (srcPort.setWidth 32) hash
  swap16 (BitVec.ofNat 16 ((hash.setWidth 16).toNat % natPortRange + sysMaxPort))

/-- `nat_entry_same_flow`. -/
def natEntrySameFlow (entry : AddrTable) (natPort : BitVec 16) (flow : NatForwardKey) : Bool :=
  entry.natPort = natPort && entry.srcIp = flow.srcIp && entry.srcPort = flow.srcPort &&
    entry.dstIp = flow.dstIp && entry.dstPort = flow.dstPort

/-- What a learning call is told about the packet beside its flow. -/
structure NatOrigin where
  srcMac : BitVec 48
  proto : BitVec 8

/-- What the tables and the grace periods answer while one port is tried. -/
structure NatChance where
  grace : NatGrace
  reverseRoom : Bool
  forwardRoom : Bool

/-- The port, and the entry that carries it; a port of zero is a failure. -/
structure NatLearned where
  ccb : NatCcb
  natPort : BitVec 16
  outEntry : Option Nat

/-- An attempt at a port ends the call, or sends it on to the next port. -/
inductive NatAttempt
  | done (learned : NatLearned)
  | nextNatPort (ccb : NatCcb)

/-- The mapping is there already: refresh it and report its port. -/
def natReuse (hz now : Nat) (ccb : NatCcb) (i : Nat) (natPort : BitVec 16) : NatLearned :=
  ⟨natEntryRefresh hz now ccb i, natPort, some i⟩

/-- A failed call leaves a trace only in the counter. -/
def natFail (ccb : NatCcb) : NatLearned :=
  ⟨{ ccb with natEnospc := ccb.natEnospc + 1 }, 0, none⟩

/-- The entry written for a new flow. -/
def natNewEntry (origin : NatOrigin) (flow : NatForwardKey) (natPort : BitVec 16) : AddrTable where
  macAddr := origin.srcMac
  srcIp := flow.srcIp
  dstIp := flow.dstIp
  srcPort := flow.srcPort
  dstPort := flow.dstPort
  natPort := natPort
  proto := origin.proto
  tcpState := .none
  tcpFinFlags := 0
  isFill := .ready
  maxSeqEndLan := 0
  maxSeqEndWan := 0
  maxAckLan := 0
  maxAckWan := 0
  maxWinLan := 0
  maxWinWan := 0

/-- An allocated slot is filled in, armed and marked ready. -/
def natFillEntry (hz now : Nat) (ccb : NatCcb) (idx : Nat) (origin : NatOrigin)
    (flow : NatForwardKey) (natPort : BitVec 16) : NatCcb :=
  { ccb with
    addrTable := Function.update ccb.addrTable idx (natNewEntry origin flow natPort)
    natExpireAt := Function.update ccb.natExpireAt idx
      (natExpireSet (ccb.natExpireAt idx) (natExpiryCycles hz now)) }

/-- A slot that was never published goes straight back. -/
def natGiveBack (ccb : NatCcb) (idx : Nat) : NatCcb :=
  { ccb with
    addrTable := Function.update ccb.addrTable idx { ccb.addrTable idx with isFill := .free }
    natFreeRing := ccb.natFreeRing.enqueue idx }

/-- The part of `nat_learning_port_reuse` that holds the insert lock. -/
def natInsert (hz now : Nat) (ccb : NatCcb) (origin : NatOrigin) (flow : NatForwardKey)
    (natPort : BitVec 16) (chance : NatChance) : NatAttempt :=
  let key : NatReverseKey := ⟨flow.dstIp, natPort, flow.dstPort⟩
  match ccb.natForwardHash.lookup flow with
  | some i => .done (natReuse hz now ccb i (ccb.addrTable i).natPort)
  | none =>
      match ccb.natReverseHash.lookup key with
      | some i =>
          if natEntrySameFlow (ccb.addrTable i) natPort flow then
            .done (natReuse hz now ccb i natPort)
          else .nextNatPort ccb
      | none =>
          match natSlotAlloc now ccb chance.grace with
          | (none, ccb) => .done (natFail ccb)
          | (some idx, ccb) =>
              let ccb := natFillEntry hz now ccb idx origin flow natPort
              match ccb.natReverseHash.addKeyData key idx chance.reverseRoom with
              | none => .nextNatPort (natGiveBack ccb idx)
              | some rev =>
                  match ccb.natForwardHash.addKeyData flow idx chance.forwardRoom with
                  | none => .done (natFail { ccb with natReverseHash := (rev.delKey key).2 })
                  | some fwd =>
                      .done ⟨{ ccb with natReverseHash := rev, natForwardHash := fwd },
                        natPort, some idx⟩

/-- One turn of the loop of `nat_learning_port_reuse`. -/
def natTryPort (hz now : Nat) (ccb : NatCcb) (origin : NatOrigin) (flow : NatForwardKey)
    (natPort : BitVec 16) (chance : NatChance) : NatAttempt :=
  let key : NatReverseKey := ⟨flow.dstIp, natPort, flow.dstPort⟩
  if (ccb.portFwdTable (swap16 natPort).toNat).isActive then .nextNatPort ccb
  else
    match ccb.natReverseHash.lookup key with
    | none => natInsert hz now ccb origin flow natPort chance
    | some i =>
        if natEntrySameFlow (ccb.addrTable i) natPort flow then
          .done (natReuse hz now ccb i natPort)
        else if !natEntryIsExpired now ccb i then .nextNatPort ccb
        else natInsert hz now (natEntryDelKeys ccb i).2 origin flow natPort chance

/-- The step from one candidate port to the next. -/
def nextNatPort (natPort : BitVec 16) : BitVec 16 :=
  let natPortHost := (swap16 natPort).toNat + 1
  let natPortHost := if natPortHost ≥ totalSockPort then sysMaxPort else natPortHost
  swap16 (BitVec.ofNat 16 natPortHost)

/--
The loop of `nat_learning_port_reuse`, which ends when it is back at the port it
started from.  No port is tried twice, so what the environment answers is given
port by port.  `fuel` bounds the turns; `natWalkPorts_fuel` says the bound is never
what ends it.
-/
def natWalkPorts (hz now : Nat) (origin : NatOrigin) (flow : NatForwardKey)
    (startNatPort : BitVec 16) (chances : BitVec 16 → NatChance) :
    Nat → NatCcb → BitVec 16 → NatLearned
  | 0, ccb, _ => natFail ccb
  | fuel + 1, ccb, natPort =>
      match natTryPort hz now ccb origin flow natPort (chances natPort) with
      | .done learned => learned
      | .nextNatPort ccb =>
          let natPort := nextNatPort natPort
          if natPort = startNatPort then natFail ccb
          else natWalkPorts hz now origin flow startNatPort chances fuel ccb natPort

/-- `nat_learning_port_reuse`. -/
def natLearningPortReuse (crc : BitVec 32 → BitVec 32 → BitVec 32) (hz now : Nat)
    (chances : BitVec 16 → NatChance) (ccb : NatCcb) (origin : NatOrigin)
    (srcIp dstIp : BitVec 32) (srcPort dstPort : BitVec 16) : NatLearned :=
  let fkey : NatForwardKey := ⟨srcIp, dstIp, srcPort, dstPort⟩
  match ccb.natForwardHash.lookup fkey with
  | some i => natReuse hz now ccb i (ccb.addrTable i).natPort
  | none =>
      let natPort := computeInitialNatPort crc srcIp srcPort
      natWalkPorts hz now origin fkey natPort chances natPortRange ccb natPort

/-! ### Reverse lookup -/

/-- `nat_reverse_lookup`: the slot of the mapping, if there is one that has not expired. -/
def natReverseLookup (hz now : Nat) (ccb : NatCcb) (natPort : BitVec 16) (remoteIp : BitVec 32)
    (remotePort : BitVec 16) : Option Nat × NatCcb :=
  match ccb.natReverseHash.lookup ⟨remoteIp, natPort, remotePort⟩ with
  | none => (none, ccb)
  | some i =>
      if natEntryIsExpired now ccb i then (none, (natEntryDelKeys ccb i).2)
      else (some i, natEntryRefresh hz now ccb i)

/-! ### Tracking a mapping's connection -/

/-- `tcp_conntrack_nat_view`, as read. -/
def tcpConntrackNatView (ccb : NatCcb) (i : Nat) : TcpConntrackView :=
  let entry := ccb.addrTable i
  { tcpState := entry.tcpState
    tcpFinFlags := entry.tcpFinFlags
    expireSlot := ccb.natExpireAt i
    maxSeqEndLan := entry.maxSeqEndLan
    maxSeqEndWan := entry.maxSeqEndWan
    maxAckLan := entry.maxAckLan
    maxAckWan := entry.maxAckWan
    maxWinLan := entry.maxWinLan
    maxWinWan := entry.maxWinWan }

/-- `tcp_conntrack_nat_view`, as written through. -/
def natSetConntrack (ccb : NatCcb) (i : Nat) (v : TcpConntrackView) : NatCcb :=
  { ccb with
    addrTable := Function.update ccb.addrTable i
      { ccb.addrTable i with
        tcpState := v.tcpState
        tcpFinFlags := v.tcpFinFlags
        maxSeqEndLan := v.maxSeqEndLan
        maxSeqEndWan := v.maxSeqEndWan
        maxAckLan := v.maxAckLan
        maxAckWan := v.maxAckWan
        maxWinLan := v.maxWinLan
        maxWinWan := v.maxWinWan }
    natExpireAt := Function.update ccb.natExpireAt i v.expireSlot }

/-- The fields of `rte_ipv4_hdr` that are read, the length in host order. -/
structure Ipv4Hdr where
  versionIhl : BitVec 8
  totalLength : BitVec 16
  srcAddr : BitVec 32
  dstAddr : BitVec 32
  deriving DecidableEq

/-- The length of a segment's payload, in sixteen bits that wrap. -/
def ipv4TcpPayload (ip : Ipv4Hdr) (tcp : TcpHdr) : BitVec 16 :=
  let ipHdrLen : BitVec 16 := (ip.versionIhl &&& 0x0F).setWidth 16 * 4
  let tcpHdrLen : BitVec 16 := ((tcp.dataOff >>> 4) &&& 0x0F).setWidth 16 * 4
  ip.totalLength - ipHdrLen - tcpHdrLen

/-- `nat_tcp_learning`: a segment from the LAN is translated, and tracked without checks. -/
def natTcpLearning (crc : BitVec 32 → BitVec 32 → BitVec 32) (hz now : Nat)
    (chances : BitVec 16 → NatChance) (ccb : NatCcb) (srcMac : BitVec 48) (ip : Ipv4Hdr)
    (tcp : TcpHdr) : NatLearned :=
  let learned := natLearningPortReuse crc hz now chances ccb ⟨srcMac, ipprotoTcp⟩ ip.srcAddr
    ip.dstAddr tcp.srcPort tcp.dstPort
  match learned.outEntry with
  | none => learned
  | some i =>
      if learned.natPort = 0 then learned
      else
        let view := tcpConntrackNatView learned.ccb i
        { learned with
          ccb := natSetConntrack learned.ccb i
            (tcpConntrackLan hz now view tcp (ipv4TcpPayload ip tcp)) }

/-- `nat_udp_learning`. -/
def natUdpLearning (crc : BitVec 32 → BitVec 32 → BitVec 32) (hz now : Nat)
    (chances : BitVec 16 → NatChance) (ccb : NatCcb) (srcMac : BitVec 48) (ip : Ipv4Hdr)
    (srcPort dstPort : BitVec 16) : NatLearned :=
  natLearningPortReuse crc hz now chances ccb ⟨srcMac, ipprotoUdp⟩ ip.srcAddr ip.dstAddr srcPort
    dstPort

/-- The fields of `rte_icmp_hdr` that are read, the identifier as it stands. -/
structure IcmpHdr where
  icmpType : BitVec 8
  icmpIdent : BitVec 16
  deriving DecidableEq

/-- `nat_icmp_learning`: the identifier is the source port, and the type the destination port. -/
def natIcmpLearning (crc : BitVec 32 → BitVec 32 → BitVec 32) (hz now : Nat)
    (chances : BitVec 16 → NatChance) (ccb : NatCcb) (srcMac : BitVec 48) (ip : Ipv4Hdr)
    (icmp : IcmpHdr) : NatLearned :=
  natLearningPortReuse crc hz now chances ccb ⟨srcMac, ipprotoIcmp⟩ ip.srcAddr ip.dstAddr
    icmp.icmpIdent (icmp.icmpType.setWidth 16)

/-! ### Port forwarding -/

/-- `port_fwd_lookup_by_eport`. -/
def portFwdLookupByEport (table : Nat → PortFwdEntry) (eport : BitVec 16) : Option PortFwdEntry :=
  if (table eport.toNat).isActive then some (table eport.toNat) else none

/-- `nat_port_fwd_reverse_lookup`: where a port opened to the outside leads. -/
def natPortFwdReverseLookup (table : Nat → PortFwdEntry) (dstPort : BitVec 16) :
    Option (BitVec 32 × BitVec 16) :=
  match portFwdLookupByEport table (swap16 dstPort) with
  | none => none
  | some entry => some (entry.dip, entry.iport)

/-! ### The system

The translator of one subscriber, driven by whatever its callers do and in
whatever order: each operation is one step, at its own reading of the clock.
-/

/-- An operation on the translator, with what its environment answers. -/
inductive NatOp
  | learn (origin : NatOrigin) (flow : NatForwardKey) (chances : BitVec 16 → NatChance)
  | reverseLookup (natPort : BitVec 16) (remoteIp : BitVec 32) (remotePort : BitVec 16)
  | gcScan (maxSlots : BitVec 32) (grace : NatGrace)
  | delAll
  | reclaimReverse (m : Nat)
  | reclaimForward (m : Nat)

/-- An operation and when it runs. -/
structure NatLabel where
  now : Nat
  op : NatOp

/-- Learning a UDP flow while both tables have room and nothing is past its grace period. -/
def NatOp.learnUdp (flow : NatForwardKey) : NatOp :=
  .learn ⟨0x020000000001, 17⟩ flow fun _ => ⟨⟨0, 0, 0⟩, true, true⟩

/-- Learning, as a step of the system sees it. -/
def natLearn (crc : BitVec 32 → BitVec 32 → BitVec 32) (hz now : Nat) (ccb : NatCcb)
    (origin : NatOrigin) (flow : NatForwardKey) (chances : BitVec 16 → NatChance) : NatLearned :=
  natLearningPortReuse crc hz now chances ccb origin flow.srcIp flow.dstIp flow.srcPort
    flow.dstPort

/-- One step. -/
def natStep (crc : BitVec 32 → BitVec 32 → BitVec 32) (hz : Nat) (ccb : NatCcb) (l : NatLabel) :
    NatCcb :=
  match l.op with
  | .learn origin flow chances => (natLearn crc hz l.now ccb origin flow chances).ccb
  | .reverseLookup natPort remoteIp remotePort =>
      (natReverseLookup hz l.now ccb natPort remoteIp remotePort).2
  | .gcScan maxSlots grace => (natGcScanByCcb l.now ccb maxSlots grace).2
  | .delAll => natTableDelAllEntriesFromHash ccb
  | .reclaimReverse m => natReverseDqReclaim m ccb
  | .reclaimForward m => natForwardDqReclaim m ccb

end FastRG
