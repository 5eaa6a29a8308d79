/-
Collection one slot at a time: `nat_gc_scan_by_ccb`, `ipv6_firewall_gc_scan_by_ccb`, and
`fw_flow_gc_idle_tick_by_ccb`, which calls them.

Elsewhere a scan is one atomic step.  Here it is what it is when several lcores collect: a
fetch of the cursor they share, a look at one slot after another, and at the end the count
and the reclaim.  Between any two of these the calls of other lcores take their turns,
packets are learned and let in, and segments are tracked.  An allocation that has to collect
makes a call of its own, which is not interrupted.

Every call is of a chunk of slots, as every caller has it.
-/
import FastRG.Lib.SharedCursor
import FastRG.Nat
import FastRG.Ipv6Firewall

namespace FastRG

/-! ### The translator -/

/-- Tracking a segment of the mapping in slot `i`: a LAN segment, or a WAN one that passed. -/
def natTrack (hz now : Nat) (ccb : NatCcb) (i : Nat) (tcp : TcpHdr) (payloadLen : BitVec 16)
    (isReply : Bool) : NatCcb :=
  natSetConntrack ccb i
    (if isReply then tcpConntrackWan hz now (tcpConntrackNatView ccb i) tcp payloadLen
    else tcpConntrackLan hz now (tcpConntrackNatView ccb i) tcp payloadLen)

/-- What else is done to the pool of mappings, while calls of the scan are in flight. -/
inductive NatPoolOp
  | op (l : NatLabel)
  | track (now i : Nat) (tcp : TcpHdr) (payloadLen : BitVec 16) (isReply : Bool)

def NatPoolOp.now : NatPoolOp → Nat
  | .op l => l.now
  | .track now _ _ _ _ => now

def natPoolStep (crc : BitVec 32 → BitVec 32 → BitVec 32) (hz : Nat) (ccb : NatCcb) :
    NatPoolOp → NatCcb
  | .op l => natStep crc hz ccb l
  | .track now i tcp payloadLen isReply => natTrack hz now ccb i tcp payloadLen isReply

/-- The end of `nat_gc_scan_by_ccb`: the count, and the reclaim of both tables. -/
def natGcFinish (grace : NatGrace) (s : Nat × NatCcb) : NatCcb :=
  natForwardDqReclaim grace.gcForward (natReverseDqReclaim grace.gcReverse
    { s.2 with natGcReclaimed := s.2.natGcReclaimed + s.1 })

/-- `nat_gc_scan_by_ccb`, taken apart. -/
def natGcScan (crc : BitVec 32 → BitVec 32 → BitVec 32) (hz : Nat) :
    CursorScan NatCcb NatGrace NatPoolOp where
  size := maxNatEntries
  chunk := natGcScanChunk
  cursor := NatCcb.natGcCounter
  fetch := fun ccb => { ccb with natGcCounter := ccb.natGcCounter + natGcScanChunk }
  visit := natGcVisit
  finish := natGcFinish
  op := natPoolStep crc hz
  time := NatPoolOp.now

/-! ### The firewall -/

/-- The end of `ipv6_firewall_gc_scan_by_ccb`. -/
def ipv6FirewallGcFinish (m : Nat) (s : Nat × Ipv6FirewallCcb) : Ipv6FirewallCcb :=
  ipv6FirewallDqReclaim m { s.2 with gcReclaimed := s.2.gcReclaimed + s.1 }

/-- `ipv6_firewall_gc_scan_by_ccb`, taken apart. -/
def ipv6FirewallGcScan (hz : Nat) : CursorScan Ipv6FirewallCcb Nat Ipv6FirewallLabel where
  size := ipv6FirewallMaxEntries
  chunk := ipv6FirewallGcScanChunk
  cursor := Ipv6FirewallCcb.gcCounter
  fetch := fun ccb => { ccb with gcCounter := ccb.gcCounter + ipv6FirewallGcScanChunk }
  visit := ipv6FirewallGcVisit
  finish := ipv6FirewallGcFinish
  op := ipv6FirewallStep hz
  time := Ipv6FirewallLabel.now

/-! ### The idle tick -/

/-- The tables of a subscriber that exist. -/
structure FlowTables where
  nat : Option NatCcb
  firewall : Option Ipv6FirewallCcb

/-- What the idle tick reads: the cursor over subscribers, how many there are, and theirs. -/
structure FlowGc where
  fwFlowGcCcbCounter : BitVec 32
  userCount : BitVec 16
  ccbs : Nat → Option FlowTables

/-- A chunk of each table of one subscriber, the clock being read for each. -/
def FlowTables.collect (natNow fwNow : Nat) (grace : NatGrace) (m : Nat) (ccb : FlowTables) :
    FlowTables where
  nat := ccb.nat.map fun nat => (natGcScanByCcb natNow nat natGcScanChunk grace).2
  firewall := ccb.firewall.map fun fw =>
    (ipv6FirewallGcScanByCcb fwNow fw ipv6FirewallGcScanChunk m).2

/-- `fw_flow_gc_idle_tick_by_ccb`. -/
def fwFlowGcIdleTickByCcb (natNow fwNow : Nat) (grace : NatGrace) (m : Nat) (s : FlowGc) :
    FlowGc :=
  if s.userCount = 0 then s
  else
    let ccbId := s.fwFlowGcCcbCounter.toNat % s.userCount.toNat
    { s with
      fwFlowGcCcbCounter := s.fwFlowGcCcbCounter + 1
      ccbs := Function.update s.ccbs ccbId
        ((s.ccbs ccbId).map (FlowTables.collect natNow fwNow grace m)) }

end FastRG
