/-
The IPv6 stateful firewall: `ipv6_firewall.h`.

Inbound traffic is denied unless it belongs to a session that a LAN host opened.  A
session sits in a slot of a pool, as a mapping of the translator does, but it is found
under one key only: the tuple of the packet with the LAN side written first, so that a
packet and its reply have the same key.  Beside the deadline each slot has a stamp of its
last use, and when the pool is exhausted the session with the oldest stamp gives way.

A packet is a buffer of bytes with the IPv6 header at an offset.  Whatever looks at it is
a reading computation, so that the bytes it looked at are known.  As in the translator,
every function is one atomic step at one reading of the clock, and what the tables and
the grace periods answer is an argument.
-/
import FastRG.Lib.SlotPool
import FastRG.Lib.Reader
import FastRG.TcpConntrack

namespace FastRG

/-! ### Sizes and numbers -/

def ipv6FirewallEntryTimeoutSec : Nat := 10
def ipv6FirewallGcScanChunk : BitVec 32 := 512
def ipv6FirewallMaxEntries : Nat := 65536

def icmp6DstUnreach : BitVec 8 := 1
def icmp6ParamProblem : BitVec 8 := 4
def icmp6EchoRequest : BitVec 8 := 128
def icmp6EchoReply : BitVec 8 := 129

def icmp6PtbHdrLen : Nat := 8

/-- `sizeof(struct rte_ipv6_hdr)` and `rte_tcp_hdr`. -/
def ipv6HdrLen : Nat := 40
def tcpHdrLen : Nat := 20

/-- `UINT64_MAX`. -/
def uint64Max : Nat := 0xFFFFFFFFFFFFFFFF

/-! ### Data -/

/-- `ipv6_firewall_key_t`, whose padding is always zero. -/
structure Ipv6FirewallKey where
  lanAddr : List (BitVec 8)
  remoteAddr : List (BitVec 8)
  lanPort : BitVec 16
  remotePort : BitVec 16
  proto : BitVec 8
  deriving DecidableEq

/-- `ipv6_firewall_entry_t`. -/
structure Ipv6FirewallEntry where
  key : Ipv6FirewallKey
  isFill : Fill
  tcpState : TcpConntrackState
  tcpFinFlags : BitVec 8
  maxSeqEndLan : BitVec 32
  maxSeqEndWan : BitVec 32
  maxAckLan : BitVec 32
  maxAckWan : BitVec 32
  maxWinLan : BitVec 16
  maxWinWan : BitVec 16
  deriving DecidableEq

/-- The firewall's part of `ppp_ccb_t`, its fields without their common first word. -/
structure Ipv6FirewallCcb where
  table : Nat → Ipv6FirewallEntry
  expireAt : Nat → Nat
  lastUsed : Nat → Nat
  enospc : Nat
  gcReclaimed : Nat
  evicted : Nat
  icmp6ErrPassed : Nat
  icmp6ErrDropped : Nat
  hash : Rte.Hash Ipv6FirewallKey Nat
  freeRing : Rte.Ring
  gcCounter : BitVec 32
  tcpConntrackEnabled : Bool

/-! ### Reading a packet -/

/-- The offsets of `rte_ipv6_hdr`'s fields. -/
def ip6PayloadLen (mem : Nat → BitVec 8) (ip6 : Nat) : Rd (BitVec 16) := Rd.be16 mem (ip6 + 4)
def ip6Proto (mem : Nat → BitVec 8) (ip6 : Nat) : Rd (BitVec 8) := Rd.u8 mem (ip6 + 6)
def ip6SrcAddr (mem : Nat → BitVec 8) (ip6 : Nat) : Rd (List (BitVec 8)) :=
  Rd.bytes mem (ip6 + 8) 16
def ip6DstAddr (mem : Nat → BitVec 8) (ip6 : Nat) : Rd (List (BitVec 8)) :=
  Rd.bytes mem (ip6 + 24) 16

/-- The fields of `rte_tcp_hdr` that connection tracking uses. -/
def readTcpHdr (mem : Nat → BitVec 8) (l4 : Nat) : Rd TcpHdr := do
  let srcPort ← Rd.u16 mem l4
  let dstPort ← Rd.u16 mem (l4 + 2)
  let sentSeq ← Rd.be32 mem (l4 + 4)
  let recvAck ← Rd.be32 mem (l4 + 8)
  let dataOff ← Rd.u8 mem (l4 + 12)
  let tcpFlags ← Rd.u8 mem (l4 + 13)
  let rxWin ← Rd.be16 mem (l4 + 14)
  return ⟨srcPort, dstPort, sentSeq, recvAck, dataOff, tcpFlags, rxWin⟩

/-- `icmp6_type_is_error`. -/
def icmp6TypeIsError (type : BitVec 8) : Bool :=
  icmp6DstUnreach ≤ type && type ≤ icmp6ParamProblem

/-- `ipv6_firewall_key_build`. -/
def ipv6FirewallKeyBuild (lanAddr remoteAddr : List (BitVec 8)) (lanPort remotePort : BitVec 16)
    (proto : BitVec 8) : Ipv6FirewallKey :=
  ⟨lanAddr, remoteAddr, lanPort, remotePort, proto⟩

/-- `ipv6_firewall_key_from_packet`.  `l4Len` is how much may be read behind the header. -/
def ipv6FirewallKeyFromPacket (mem : Nat → BitVec 8) (ip6 l4Len : Nat) (inbound : Bool) :
    Rd (Option Ipv6FirewallKey) := do
  let l4 := ip6 + ipv6HdrLen
  let proto ← ip6Proto mem ip6
  if proto = ipprotoTcp ∨ proto = ipprotoUdp then
    if l4Len < 4 then return none
    let port0 ← Rd.u16 mem l4
    let port1 ← Rd.u16 mem (l4 + 2)
    let src ← ip6SrcAddr mem ip6
    let dst ← ip6DstAddr mem ip6
    return some (ipv6FirewallKeyBuild (if inbound then dst else src) (if inbound then src else dst)
      (if inbound then port1 else port0) (if inbound then port0 else port1) proto)
  else if proto = ipprotoIcmpv6 then
    if l4Len < icmp6PtbHdrLen then return none
    let type ← Rd.u8 mem l4
    if type ≠ (if inbound then icmp6EchoReply else icmp6EchoRequest) then return none
    let ident ← Rd.u16 mem (l4 + 4)
    let src ← ip6SrcAddr mem ip6
    let dst ← ip6DstAddr mem ip6
    return some (ipv6FirewallKeyBuild (if inbound then dst else src) (if inbound then src else dst)
      ident 0 proto)
  else return none

/-! ### Deadlines and the conntrack view -/

/-- `ipv6_firewall_expiry_cycles`. -/
def ipv6FirewallExpiryCycles (hz now : Nat) : Nat := now + ipv6FirewallEntryTimeoutSec * hz

/-- `ipv6_firewall_entry_is_expired`. -/
def ipv6FirewallEntryIsExpired (now : Nat) (ccb : Ipv6FirewallCcb) (idx : Nat) : Bool :=
  now > ccb.expireAt idx

/-- `ipv6_firewall_conntrack_view`, as read. -/
def ipv6FirewallConntrackView (ccb : Ipv6FirewallCcb) (idx : Nat) : TcpConntrackView :=
  let entry := ccb.table idx
  { tcpState := entry.tcpState
    tcpFinFlags := entry.tcpFinFlags
    expireSlot := ccb.expireAt idx
    maxSeqEndLan := entry.maxSeqEndLan
    maxSeqEndWan := entry.maxSeqEndWan
    maxAckLan := entry.maxAckLan
    maxAckWan := entry.maxAckWan
    maxWinLan := entry.maxWinLan
    maxWinWan := entry.maxWinWan }

/-- `ipv6_firewall_conntrack_view`, as written through. -/
def ipv6FirewallSetConntrack (ccb : Ipv6FirewallCcb) (idx : Nat) (v : TcpConntrackView) :
    Ipv6FirewallCcb :=
  { ccb with
    table := Function.update ccb.table idx
      { ccb.table idx with
        tcpState := v.tcpState
        tcpFinFlags := v.tcpFinFlags
        maxSeqEndLan := v.maxSeqEndLan
        maxSeqEndWan := v.maxSeqEndWan
        maxAckLan := v.maxAckLan
        maxAckWan := v.maxAckWan
        maxWinLan := v.maxWinLan
        maxWinWan := v.maxWinWan }
    expireAt := Function.update ccb.expireAt idx v.expireSlot }

/-! ### Set-up, reclaim and deletion -/

/-- A slot becomes free: both stamps are zeroed, and it goes on the ring. -/
def ipv6FirewallFreeSlot (ccb : Ipv6FirewallCcb) (idx : Nat) : Ipv6FirewallCcb :=
  { ccb with
    expireAt := Function.update ccb.expireAt idx 0
    lastUsed := Function.update ccb.lastUsed idx 0
    table := Function.update ccb.table idx { ccb.table idx with isFill := .free }
    freeRing := ccb.freeRing.enqueue idx }

/-- `ipv6_firewall_hash_free_cb`. -/
def ipv6FirewallHashFreeCb (ccb : Ipv6FirewallCcb) (idx : Nat) : Ipv6FirewallCcb :=
  ipv6FirewallFreeSlot ccb idx

/-- The counters start over, at set-up and when everything is deleted. -/
def ipv6FirewallResetCounters (ccb : Ipv6FirewallCcb) : Ipv6FirewallCcb :=
  { ccb with
    gcCounter := 0
    enospc := 0
    gcReclaimed := 0
    evicted := 0
    icmp6ErrPassed := 0
    icmp6ErrDropped := 0 }

/-- `ipv6_firewall_table_init_entries`. -/
def ipv6FirewallTableInitEntries (ccb : Ipv6FirewallCcb) : Ipv6FirewallCcb :=
  { ccb with
    expireAt := fun i => if i < ipv6FirewallMaxEntries then 0 else ccb.expireAt i
    lastUsed := fun i => if i < ipv6FirewallMaxEntries then 0 else ccb.lastUsed i
    table := fun i =>
      if i < ipv6FirewallMaxEntries then { ccb.table i with isFill := .free } else ccb.table i }

/-- `ipv6_firewall_table_enqueue_all_entries_to_ring`. -/
def ipv6FirewallTableEnqueueAllEntriesToRing (ccb : Ipv6FirewallCcb) : Ipv6FirewallCcb :=
  { ccb with freeRing := (List.range ipv6FirewallMaxEntries).foldl Rte.Ring.enqueue ccb.freeRing }

/-- `ipv6_firewall_table_init`, with the table and the ring created. -/
def ipv6FirewallTableInit (ccb : Ipv6FirewallCcb) : Ipv6FirewallCcb :=
  ipv6FirewallResetCounters (ipv6FirewallTableEnqueueAllEntriesToRing
    (ipv6FirewallTableInitEntries
      { ccb with
        hash := Rte.Hash.empty
        freeRing := Rte.Ring.create ipv6FirewallMaxEntries }))

/-- A control block before set-up, with connection tracking enforced. -/
def ipv6FirewallBlank : Ipv6FirewallCcb where
  table := fun _ => ⟨⟨[], [], 0, 0, 0⟩, .free, .none, 0, 0, 0, 0, 0, 0, 0⟩
  expireAt := fun _ => 0
  lastUsed := fun _ => 0
  enospc := 0
  gcReclaimed := 0
  evicted := 0
  icmp6ErrPassed := 0
  icmp6ErrDropped := 0
  hash := Rte.Hash.empty
  freeRing := Rte.Ring.create 0
  gcCounter := 0
  tcpConntrackEnabled := true

/-- `rte_hash_del_key` of the session table. -/
def ipv6FirewallDelKey (ccb : Ipv6FirewallCcb) (key : Ipv6FirewallKey) : Bool × Ipv6FirewallCcb :=
  let r := ccb.hash.delKey key
  (r.1, { ccb with hash := r.2 })

/-- One turn of the loop of `ipv6_firewall_table_del_all_entries_from_hash`. -/
def ipv6FirewallDelAllVisit (ccb : Ipv6FirewallCcb) (i : Nat) : Ipv6FirewallCcb :=
  if ccb.expireAt i = 0 then ccb
  else if (ccb.table i).isFill = .ready then (ipv6FirewallDelKey ccb (ccb.table i).key).2
  else ccb

/-- `ipv6_firewall_table_del_all_entries_from_hash`. -/
def ipv6FirewallTableDelAllEntriesFromHash (ccb : Ipv6FirewallCcb) : Ipv6FirewallCcb :=
  ipv6FirewallResetCounters
    ((List.range ipv6FirewallMaxEntries).foldl ipv6FirewallDelAllVisit ccb)

/-- The defer queue gives up its oldest slot. -/
def ipv6FirewallPop (ccb : Ipv6FirewallCcb) : Option (Nat × Ipv6FirewallCcb) :=
  match ccb.hash.popDq with
  | none => none
  | some (idx, hash) => some (idx, { ccb with hash := hash })

/-- `rte_hash_rcu_qsbr_dq_reclaim` of the session table. -/
def ipv6FirewallDqReclaim (m : Nat) (ccb : Ipv6FirewallCcb) : Ipv6FirewallCcb :=
  Rte.dqReclaim ipv6FirewallPop ipv6FirewallHashFreeCb m ccb

/-! ### Collection and eviction -/

/-- The slot a scan that began at `start` looks at in its turn `n`. -/
def ipv6FirewallGcIdx (start : BitVec 32) (n : Nat) : Nat :=
  (start + BitVec.ofNat 32 n).toNat % ipv6FirewallMaxEntries

/-- One turn of the scan, with the count of keys deleted so far. -/
def ipv6FirewallGcVisit (now : Nat) (start : BitVec 32) (s : Nat × Ipv6FirewallCcb) (n : Nat) :
    Nat × Ipv6FirewallCcb :=
  let (reclaimed, ccb) := s
  let idx := ipv6FirewallGcIdx start n
  let deadline := ccb.expireAt idx
  if deadline = 0 ∨ deadline > now then (reclaimed, ccb)
  else if (ccb.table idx).isFill ≠ .ready then (reclaimed, ccb)
  else
    let (won, ccb') := ipv6FirewallDelKey ccb (ccb.table idx).key
    (if won then reclaimed + 1 else reclaimed, ccb')

/-- `ipv6_firewall_gc_scan_by_ccb`.  `m` is how much its reclaim finds past its grace period. -/
def ipv6FirewallGcScanByCcb (now : Nat) (ccb : Ipv6FirewallCcb) (maxSlots : BitVec 32) (m : Nat) :
    Nat × Ipv6FirewallCcb :=
  let start := ccb.gcCounter
  let ccb := { ccb with gcCounter := ccb.gcCounter + maxSlots }
  let (reclaimed, ccb) := (List.range maxSlots.toNat).foldl (ipv6FirewallGcVisit now start) (0, ccb)
  let ccb := { ccb with gcReclaimed := ccb.gcReclaimed + reclaimed }
  (reclaimed, ipv6FirewallDqReclaim m ccb)

/-- One turn of the search for the oldest stamp, with the oldest so far and its slot. -/
def ipv6FirewallLruVisit (lastUsed : Nat → Nat) (s : Nat × Nat) (i : Nat) : Nat × Nat :=
  let stamp := lastUsed i
  if stamp = 0 ∨ stamp ≥ s.1 then s else (stamp, i)

/-- The search after its first `n` turns. -/
def ipv6FirewallLruSearch (lastUsed : Nat → Nat) : Nat → Nat × Nat
  | 0 => (uint64Max, ipv6FirewallMaxEntries)
  | n + 1 => ipv6FirewallLruVisit lastUsed (ipv6FirewallLruSearch lastUsed n) n

/-- The slot with the oldest stamp, or one past the last slot. -/
def ipv6FirewallLruVictim (lastUsed : Nat → Nat) : Nat :=
  (ipv6FirewallLruSearch lastUsed ipv6FirewallMaxEntries).2

/-- The end of `ipv6_firewall_evict_lru`, once the search has named its victim. -/
def ipv6FirewallEvictSlot (ccb : Ipv6FirewallCcb) (victim : Nat) : Bool × Ipv6FirewallCcb :=
  if victim = ipv6FirewallMaxEntries then (false, ccb)
  else if (ccb.table victim).isFill ≠ .ready then (false, ccb)
  else
    match ipv6FirewallDelKey ccb (ccb.table victim).key with
    | (false, ccb) => (false, ccb)
    | (true, ccb) => (true, { ccb with evicted := ccb.evicted + 1 })

/-- `ipv6_firewall_evict_lru`. -/
def ipv6FirewallEvictLru (ccb : Ipv6FirewallCcb) : Bool × Ipv6FirewallCcb :=
  ipv6FirewallEvictSlot ccb (ipv6FirewallLruVictim ccb.lastUsed)

/-- What the table and the grace periods answer while a session is opened. -/
structure Ipv6FirewallChance where
  gcReclaim : Nat
  evictReclaim : Nat
  room : Bool

/-- `ipv6_firewall_slot_alloc`: the ring, then a collection, then an eviction. -/
def ipv6FirewallSlotAlloc (now : Nat) (ccb : Ipv6FirewallCcb) (chance : Ipv6FirewallChance) :
    Option Nat × Ipv6FirewallCcb :=
  match ccb.freeRing.dequeue with
  | some (idx, ring) => (some idx, { ccb with freeRing := ring })
  | none =>
      let ccb := (ipv6FirewallGcScanByCcb now ccb ipv6FirewallGcScanChunk chance.gcReclaim).2
      match ccb.freeRing.dequeue with
      | some (idx, ring) => (some idx, { ccb with freeRing := ring })
      | none =>
          match ipv6FirewallEvictLru ccb with
          | (false, ccb) => (none, ccb)
          | (true, ccb) =>
              let ccb := ipv6FirewallDqReclaim chance.evictReclaim ccb
              match ccb.freeRing.dequeue with
              | some (idx, ring) => (some idx, { ccb with freeRing := ring })
              | none => (none, ccb)

/-! ### Sessions -/

/-- `ipv6_firewall_lookup`. -/
def ipv6FirewallLookup (ccb : Ipv6FirewallCcb) (key : Ipv6FirewallKey) : Option Nat :=
  ccb.hash.lookup key

/-- `ipv6_firewall_lookup_live`: an expired session is unlinked on the spot. -/
def ipv6FirewallLookupLive (now : Nat) (ccb : Ipv6FirewallCcb) (key : Ipv6FirewallKey) :
    Option Nat × Ipv6FirewallCcb :=
  match ipv6FirewallLookup ccb key with
  | none => (none, ccb)
  | some idx =>
      if ipv6FirewallEntryIsExpired now ccb idx then (none, (ipv6FirewallDelKey ccb key).2)
      else (some idx, ccb)

/--
`ipv6_firewall_mark_used`.  The difference of the two readings is unsigned, so a stamp
ahead of the clock counts as one far behind.
-/
def ipv6FirewallMarkUsed (hz now : Nat) (ccb : Ipv6FirewallCcb) (idx : Nat) : Ipv6FirewallCcb :=
  let last := ccb.lastUsed idx
  { ccb with
    expireAt := Function.update ccb.expireAt idx
      (natExpireRefresh hz (ccb.expireAt idx) (now + ipv6FirewallEntryTimeoutSec * hz))
    lastUsed := Function.update ccb.lastUsed idx
      (if now < last ∨ now - last > natExpireCoalesceSec * hz then now else last) }

/-- The entry written for a new session. -/
def ipv6FirewallNewEntry (key : Ipv6FirewallKey) : Ipv6FirewallEntry where
  key := key
  isFill := .ready
  tcpState := .none
  tcpFinFlags := 0
  maxSeqEndLan := 0
  maxSeqEndWan := 0
  maxAckLan := 0
  maxAckWan := 0
  maxWinLan := 0
  maxWinWan := 0

/-- An allocated slot is filled in, armed, stamped and marked ready. -/
def ipv6FirewallFillEntry (hz now : Nat) (ccb : Ipv6FirewallCcb) (idx : Nat)
    (key : Ipv6FirewallKey) : Ipv6FirewallCcb :=
  { ccb with
    table := Function.update ccb.table idx (ipv6FirewallNewEntry key)
    expireAt := Function.update ccb.expireAt idx
      (natExpireSet (ccb.expireAt idx) (ipv6FirewallExpiryCycles hz now))
    lastUsed := Function.update ccb.lastUsed idx now }

/-- A session is not created, and the counter says so. -/
def ipv6FirewallNoSpace (ccb : Ipv6FirewallCcb) : Ipv6FirewallCcb :=
  { ccb with enospc := ccb.enospc + 1 }

/-- `ipv6_firewall_insert`. -/
def ipv6FirewallInsert (hz now : Nat) (ccb : Ipv6FirewallCcb) (key : Ipv6FirewallKey)
    (chance : Ipv6FirewallChance) : Option Nat × Ipv6FirewallCcb :=
  match ccb.hash.lookup key with
  | some idx => (some idx, ccb)
  | none =>
      match ipv6FirewallSlotAlloc now ccb chance with
      | (none, ccb) => (none, ipv6FirewallNoSpace ccb)
      | (some idx, ccb) =>
          let ccb := ipv6FirewallFillEntry hz now ccb idx key
          match ccb.hash.addKeyData key idx chance.room with
          | none => (none, ipv6FirewallNoSpace (ipv6FirewallFreeSlot ccb idx))
          | some hash => (some idx, { ccb with hash := hash })

/-- The session of an outbound packet's key: renewed if it is there, and opened if not. -/
def ipv6FirewallOpen (hz now : Nat) (ccb : Ipv6FirewallCcb) (key : Ipv6FirewallKey)
    (chance : Ipv6FirewallChance) : Option Nat × Ipv6FirewallCcb :=
  match ipv6FirewallLookup ccb key with
  | none => ipv6FirewallInsert hz now ccb key chance
  | some idx => (some idx, ipv6FirewallMarkUsed hz now ccb idx)

/-- The length of a segment's payload, given that of everything behind the IPv6 header. -/
def ipv6TcpPayload (payloadLen : BitVec 16) (dataOff : BitVec 8) : BitVec 16 :=
  let hdrLen : BitVec 16 := ((dataOff >>> 4) &&& 0x0F).setWidth 16 * 4
  if payloadLen > hdrLen then payloadLen - hdrLen else 0

/-- `ipv6_firewall_learn`. -/
def ipv6FirewallLearn (hz now : Nat) (chance : Ipv6FirewallChance) (ccb : Ipv6FirewallCcb)
    (mem : Nat → BitVec 8) (ip6 : Nat) : Rd Ipv6FirewallCcb := do
  let payloadLen ← ip6PayloadLen mem ip6
  let proto ← ip6Proto mem ip6
  if proto = ipprotoTcp ∧ payloadLen.toNat < tcpHdrLen then return ccb
  if proto = ipprotoUdp ∧ payloadLen.toNat < udpHdrLen then return ccb
  match ← ipv6FirewallKeyFromPacket mem ip6 payloadLen.toNat false with
  | none => return ccb
  | some key =>
      match ipv6FirewallOpen hz now ccb key chance with
      | (none, ccb) => return ccb
      | (some idx, ccb) =>
          if proto = ipprotoTcp then
            let tcp ← readTcpHdr mem (ip6 + ipv6HdrLen)
            let view := ipv6FirewallConntrackView ccb idx
            return ipv6FirewallSetConntrack ccb idx
              (tcpConntrackLan hz now view tcp (ipv6TcpPayload payloadLen tcp.dataOff))
          else return ccb

/-- `ipv6_firewall_tcp_inbound_pass`. -/
def ipv6FirewallTcpInboundPass (hz now : Nat) (ccb : Ipv6FirewallCcb) (idx : Nat)
    (mem : Nat → BitVec 8) (ip6 : Nat) (payloadLen : BitVec 16) : Rd (Bool × Ipv6FirewallCcb) := do
  if payloadLen.toNat < tcpHdrLen then return (false, ccb)
  let tcp ← readTcpHdr mem (ip6 + ipv6HdrLen)
  let view := ipv6FirewallConntrackView ccb idx
  if tcpConntrackWanOk view tcp then
    return (true, ipv6FirewallSetConntrack ccb idx
      (tcpConntrackWan hz now view tcp (ipv6TcpPayload payloadLen tcp.dataOff)))
  else return (!ccb.tcpConntrackEnabled, ccb)

/-- The end of `ipv6_firewall_icmp6_error_pass` for a message that matches nothing. -/
def ipv6FirewallIcmp6Drop (ccb : Ipv6FirewallCcb) : Bool × Ipv6FirewallCcb :=
  (false, { ccb with icmp6ErrDropped := ccb.icmp6ErrDropped + 1 })

/-- `ipv6_firewall_icmp6_error_pass`. -/
def ipv6FirewallIcmp6ErrorPass (now : Nat) (ccb : Ipv6FirewallCcb) (mem : Nat → BitVec 8)
    (ip6 : Nat) (payloadLen : BitVec 16) : Rd (Bool × Ipv6FirewallCcb) := do
  let quoted := ip6 + ipv6HdrLen + icmp6PtbHdrLen
  if payloadLen.toNat < icmp6PtbHdrLen + ipv6HdrLen + icmp6PtbHdrLen then
    return ipv6FirewallIcmp6Drop ccb
  let quotedL4Len := payloadLen.toNat - icmp6PtbHdrLen - ipv6HdrLen
  let quotedSrc ← ip6SrcAddr mem quoted
  let dst ← ip6DstAddr mem ip6
  if quotedSrc ≠ dst then return ipv6FirewallIcmp6Drop ccb
  match ← ipv6FirewallKeyFromPacket mem quoted quotedL4Len false with
  | none => return ipv6FirewallIcmp6Drop ccb
  | some key =>
      match ipv6FirewallLookupLive now ccb key with
      | (none, ccb) => return ipv6FirewallIcmp6Drop ccb
      | (some _, ccb) => return (true, { ccb with icmp6ErrPassed := ccb.icmp6ErrPassed + 1 })

/-- Whether the packet is an ICMPv6 error; the type byte is read only if there is one. -/
def ip6IsIcmp6Error (mem : Nat → BitVec 8) (ip6 : Nat) : Rd Bool := do
  let payloadLen ← ip6PayloadLen mem ip6
  let proto ← ip6Proto mem ip6
  if proto = ipprotoIcmpv6 ∧ payloadLen.toNat > 0 then
    let type ← Rd.u8 mem (ip6 + ipv6HdrLen)
    return icmp6TypeIsError type
  else return false

/-- `ipv6_firewall_inbound_pass`. -/
def ipv6FirewallInboundPass (hz now : Nat) (ccb : Ipv6FirewallCcb) (mem : Nat → BitVec 8)
    (ip6 : Nat) : Rd (Bool × Ipv6FirewallCcb) := do
  let payloadLen ← ip6PayloadLen mem ip6
  if ← ip6IsIcmp6Error mem ip6 then ipv6FirewallIcmp6ErrorPass now ccb mem ip6 payloadLen
  else
    match ← ipv6FirewallKeyFromPacket mem ip6 payloadLen.toNat true with
    | none => return (false, ccb)
    | some key =>
        match ipv6FirewallLookupLive now ccb key with
        | (none, ccb) => return (false, ccb)
        | (some idx, ccb) =>
            let ccb := ipv6FirewallMarkUsed hz now ccb idx
            let proto ← ip6Proto mem ip6
            if proto ≠ ipprotoTcp then return (true, ccb)
            else ipv6FirewallTcpInboundPass hz now ccb idx mem ip6 payloadLen

/-! ### The system -/

/-- A packet in a buffer. -/
structure Ipv6Packet where
  mem : Nat → BitVec 8
  ip6 : Nat

namespace Ipv6Packet

/-- A packet given by its bytes. -/
def ofBytes (bytes : List (BitVec 8)) : Ipv6Packet := ⟨fun i => bytes.getD i 0, 0⟩

variable (pkt : Ipv6Packet)

def proto : BitVec 8 := (ip6Proto pkt.mem pkt.ip6).val
def src : List (BitVec 8) := (ip6SrcAddr pkt.mem pkt.ip6).val
def dst : List (BitVec 8) := (ip6DstAddr pkt.mem pkt.ip6).val
def srcPort : BitVec 16 := (Rd.u16 pkt.mem (pkt.ip6 + ipv6HdrLen)).val
def dstPort : BitVec 16 := (Rd.u16 pkt.mem (pkt.ip6 + ipv6HdrLen + 2)).val
def icmpType : BitVec 8 := (Rd.u8 pkt.mem (pkt.ip6 + ipv6HdrLen)).val
def echoIdent : BitVec 16 := (Rd.u16 pkt.mem (pkt.ip6 + ipv6HdrLen + 4)).val

/-- How much a packet says there is behind its header. -/
def payloadLen : Nat := (ip6PayloadLen pkt.mem pkt.ip6).val.toNat

/-- The key of a packet of which `l4Len` bytes behind the header may be read. -/
def keyWithin (l4Len : Nat) (inbound : Bool) : Option Ipv6FirewallKey :=
  (ipv6FirewallKeyFromPacket pkt.mem pkt.ip6 l4Len inbound).val

/-- The key of a packet, inbound or outbound. -/
def key (inbound : Bool) : Option Ipv6FirewallKey := pkt.keyWithin pkt.payloadLen inbound

end Ipv6Packet

/-- An operation on the firewall, with what its environment answers. -/
inductive Ipv6FirewallOp
  | learn (pkt : Ipv6Packet) (chance : Ipv6FirewallChance)
  | inbound (pkt : Ipv6Packet)
  | gcScan (maxSlots : BitVec 32) (m : Nat)
  | evictLru
  | delAll
  | reclaim (m : Nat)

/-- An operation and when it runs. -/
structure Ipv6FirewallLabel where
  now : Nat
  op : Ipv6FirewallOp

/-- One step. -/
def ipv6FirewallStep (hz : Nat) (ccb : Ipv6FirewallCcb) (l : Ipv6FirewallLabel) :
    Ipv6FirewallCcb :=
  match l.op with
  | .learn pkt chance => (ipv6FirewallLearn hz l.now chance ccb pkt.mem pkt.ip6).val
  | .inbound pkt => (ipv6FirewallInboundPass hz l.now ccb pkt.mem pkt.ip6).val.2
  | .gcScan maxSlots m => (ipv6FirewallGcScanByCcb l.now ccb maxSlots m).2
  | .evictLru => (ipv6FirewallEvictLru ccb).2
  | .delAll => ipv6FirewallTableDelAllEntriesFromHash ccb
  | .reclaim m => ipv6FirewallDqReclaim m ccb

end FastRG
