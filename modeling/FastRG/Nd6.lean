/-
The neighbours of a subscriber's LAN: `nd6_table.h` and `nd6.c`.

The table is a `mac_table` for IPv6 addresses, and beside it, by the position of the key in the
hash, stand when an address was last learned and whether it has been asked since.  Which position
the hash finds for a new key, if any, comes as an argument; it never gives the position of a key
that is there.  The checksum and what becomes of a frame that is handed to the card are arguments
too.

A message comes as the bytes of its frame.  `learn_fail` is only reported and left out, and so are
the bytes of the frames the node sends: what it does is told as a list of `Nd6Act`.
-/
import FastRG.Common
import FastRG.Lib.Walk
import FastRG.MacTable

namespace FastRG

/-! ### The table -/

/-- `ND6_NEIGHBOR_TTL_SEC`. -/
def nd6NeighborTtlSec : Nat := 300

/-- A key's position in the hash, and its word. -/
structure Nd6Entry where
  position : Nat
  data : BitVec 64
  deriving DecidableEq

/-- `nd6_table_t`. -/
structure Nd6Table where
  hash : AList (fun _ : BitVec 128 => Nd6Entry)
  generation : BitVec 16
  slotCount : Nat
  lastSeen : Nat → Nat
  probed : Nat → Bool

/-- `nd6_table_alloc`. -/
def Nd6Table.alloc (slotCount : Nat) : Nd6Table := ⟨∅, 0, slotCount, fun _ => 0, fun _ => false⟩

/-- Whether a position can be had for a new key. -/
def Nd6Table.vacant (table : Nd6Table) (position : Nat) : Bool :=
  position < table.slotCount && table.hash.entries.all fun e => e.2.position ≠ position

/-- `rte_hash_add_key_data`.  `room` is the position found for a key that is not there. -/
def nd6AddKeyData (table : Nd6Table) (ipv6 : BitVec 128) (data : BitVec 64) (room : Option Nat) :
    Option Nd6Table :=
  match table.hash.lookup ipv6 with
  | some e => some { table with hash := table.hash.insert ipv6 { e with data } }
  | none =>
      match room with
      | none => none
      | some position =>
          if table.vacant position then
            some { table with hash := table.hash.insert ipv6 ⟨position, data⟩ }
          else none

/-- `nd6_table_touch`. -/
def nd6TableTouch (table : Nd6Table) (now : Nat) (position : Option Nat) : Nd6Table :=
  match position with
  | none => table
  | some position =>
      if table.slotCount ≤ position then table
      else { table with
        lastSeen := Function.update table.lastSeen position now
        probed := Function.update table.probed position false }

/-- The position of a key: `rte_hash_lookup`. -/
def Nd6Table.positionOf (table : Nd6Table) (ipv6 : BitVec 128) : Option Nat :=
  (table.hash.lookup ipv6).map Nd6Entry.position

/-- `nd6_table_learn`: whether the address is in the table with this MAC and generation.  A full
table is tried a second time, once the places of deleted keys have been reclaimed. -/
def nd6TableLearn (table : Nd6Table) (ipv6 : BitVec 128) (mac : BitVec 48) (now : Nat)
    (room room' : Option Nat) : Bool × Nd6Table :=
  let packed := macTablePack mac table.generation
  if (table.hash.lookup ipv6).map Nd6Entry.data = some packed then
    (true, nd6TableTouch table now (table.positionOf ipv6))
  else
    match nd6AddKeyData table ipv6 packed room with
    | some table => (true, nd6TableTouch table now (table.positionOf ipv6))
    | none =>
        match nd6AddKeyData table ipv6 packed room' with
        | some table => (true, nd6TableTouch table now (table.positionOf ipv6))
        | none => (false, table)

/-- `nd6_table_lookup`.  An entry from before the last reset does not count. -/
def nd6TableLookup (table : Nd6Table) (ipv6 : BitVec 128) : Option (BitVec 48) :=
  match table.hash.lookup ipv6 with
  | none => none
  | some e =>
      if (macTableUnpack e.data).1 ≠ table.generation then none
      else some (macTableUnpack e.data).2

/-- `nd6_table_reset`. -/
def nd6TableReset (table : Nd6Table) : Nd6Table :=
  { table with generation := table.generation + 1 }

/-! ### What is done -/

/-- What the node does for the neighbours, in order. -/
inductive Nd6Act
  | sentRa
  | sentNa (dstIp : BitVec 128) (dstMac : BitVec 48) (flags : BitVec 32)
  /-- An address is in the table from a message of its own. -/
  | learned (ipv6 : BitVec 128)
  /-- An entry is marked, and its host asked, if the solicitation went out. -/
  | probed (ipv6 : BitVec 128) (sent : Bool)
  /-- An entry is deleted that was marked and is still idle. -/
  | aged (ipv6 : BitVec 128)
  /-- An entry is deleted that is from before a reset. -/
  | swept (ipv6 : BitVec 128)
  deriving DecidableEq

/-! ### Aging -/

/-- What the sweep of `nd6_age_scan_table` does with one key.  `nd6_send_ns` builds nothing while
the gate is closed, and `tx` is whether the card takes the frame for an address. -/
def nd6AgeVisit (hz now : Nat) (gateReady : Bool) (tx : BitVec 128 → Bool)
    (done : Nd6Table × List Nd6Act) (ipv6 : BitVec 128) : Nd6Table × List Nd6Act :=
  let (table, acts) := done
  match table.hash.lookup ipv6 with
  | none => (table, acts)
  | some e =>
      if (macTableUnpack e.data).1 ≠ table.generation then
        ({ table with hash := table.hash.erase ipv6 }, acts ++ [.swept ipv6])
      else if table.slotCount ≤ e.position ∨
          now ≤ table.lastSeen e.position + nd6NeighborTtlSec * hz then
        (table, acts)
      else if table.probed e.position then
        ({ table with hash := table.hash.erase ipv6 }, acts ++ [.aged ipv6])
      else
        ({ table with probed := Function.update table.probed e.position true },
          acts ++ [.probed ipv6 (gateReady && tx ipv6)])

/-- `nd6_age_scan_table`. -/
def nd6AgeScanTable (hz now : Nat) (gateReady : Bool) (tx : BitVec 128 → Bool)
    (table : Nd6Table) : Nd6Table × List Nd6Act :=
  table.hash.keys.foldl (nd6AgeVisit hz now gateReady tx) (table, [])

/-! ### Messages -/

/-- Sixteen bytes of a frame, the first uppermost. -/
def ipv6At (pkt : List (BitVec 8)) (i : Nat) : BitVec 128 :=
  be32At pkt i ++ be32At pkt (i + 4) ++ be32At pkt (i + 8) ++ be32At pkt (i + 12)

/-- Six bytes of a frame, as the machine loads them. -/
def macAt (pkt : List (BitVec 8)) (i : Nat) : BitVec 48 :=
  pkt.getD (i + 5) 0 ++ pkt.getD (i + 4) 0 ++ pkt.getD (i + 3) 0 ++ pkt.getD (i + 2) 0 ++
    pkt.getD (i + 1) 0 ++ pkt.getD i 0

/-! Where things are in a frame: an Ethernet header, a VLAN tag, an IPv6 header, the message. -/

def nd6SrcMacOff : Nat := 6
def nd6NextProtoOff : Nat := 16
def nd6Ip6Off : Nat := 18
def nd6PayloadLenOff : Nat := 22
def nd6ProtoOff : Nat := 24
def nd6HopLimitsOff : Nat := 25
def nd6SrcIpOff : Nat := 26
def nd6IcmpOff : Nat := 58
def nd6TargetOff : Nat := 66

/-- `sizeof(nd6_icmp_header_t)`. -/
def nd6IcmpHeaderLen : Nat := 8

/-- `sizeof(nd6_neighbor_message_t)`. -/
def nd6NeighborMessageLen : Nat := 24

/-- `sizeof(nd6_ll_option_t)`. -/
def nd6LlOptionLen : Nat := 8

/-- `FRAME_TYPE_IPV6`. -/
def frameTypeIpv6 : BitVec 16 := 0x86dd

/-! `ND6_ICMP_RS`, `ND6_ICMP_NS`, `ND6_ICMP_NA`, `ND6_OPT_SLLA` and `ND6_OPT_TLLA`. -/

def nd6IcmpRs : BitVec 8 := 133
def nd6IcmpNs : BitVec 8 := 135
def nd6IcmpNa : BitVec 8 := 136
def nd6OptSlla : BitVec 8 := 1
def nd6OptTlla : BitVec 8 := 2

/-! `ND6_NA_FLAG_ROUTER`, `ND6_NA_FLAG_SOLICITED` and `ND6_NA_FLAG_OVERRIDE`. -/

def nd6NaFlagRouter : BitVec 32 := 0x80000000
def nd6NaFlagSolicited : BitVec 32 := 0x40000000
def nd6NaFlagOverride : BitVec 32 := 0x20000000

/-- One option off the front: all its bytes, by its length in units of eight. -/
def nd6NextOption (options : List (BitVec 8)) : Option (List (BitVec 8) × List (BitVec 8)) :=
  let optionLen := (options.getD 1 0).toNat * 8
  if options.length < 2 ∨ options.getD 1 0 = 0 then none
  else if options.length < optionLen then none
  else some (options.take optionLen, options.drop optionLen)

/-- What the loop of `nd6_parse_ll_options` does with an option. -/
def nd6TakeLlOption (wantedType : BitVec 8) (found : Option (BitVec 48))
    (option : List (BitVec 8)) : Option (Option (BitVec 48)) :=
  if option.getD 0 0 = wantedType then
    if found.isSome ∨ option.length ≠ nd6LlOptionLen then none
    else some (some (macAt option 2))
  else some found

/-- `nd6_parse_ll_options`: the MAC that is found, if one is, of options that are in order. -/
def nd6ParseLlOptions (options : List (BitVec 8)) (wantedType : BitVec 8) :
    Option (Option (BitVec 48)) :=
  Walk.run nd6NextOption (nd6TakeLlOption wantedType) options.length options none

/-- What a subscriber's block keeps for the neighbours. -/
structure Nd6Ccb where
  ipv6Enabled : Bool
  ipv6cpUp : Bool
  dhcp6PdReady : Bool
  hsiIpv6LanPrefix : BitVec 64
  hsiLanMac : BitVec 48
  lastRsRaCycles : Nat
  nd6Table : Nd6Table

/-- `nd6_gate_ready`. -/
def Nd6Ccb.gateReady (c : Nd6Ccb) : Bool := c.ipv6Enabled && c.ipv6cpUp && c.dhcp6PdReady

/-- `nd6_src_is_on_link`. -/
def nd6SrcIsOnLink (hsiIpv6LanPrefix : BitVec 64) (srcIp : BitVec 128) : Bool :=
  if srcIp.extractLsb' 120 8 = 0xff then false
  else if srcIp.extractLsb' 120 8 = 0xfe ∧ srcIp.extractLsb' 112 8 &&& 0xc0 = 0x80 then true
  else srcIp.extractLsb' 64 64 = hsiIpv6LanPrefix

/-- `nd6_gateway_link_local`. -/
def nd6GatewayLinkLocal (mac : BitVec 48) : BitVec 128 :=
  (0xfe80#16 ++ 0#48 ++ (mac.extractLsb' 0 8 ^^^ 0x02) ++ mac.extractLsb' 8 8 ++
    mac.extractLsb' 16 8 ++ 0xfffe#16 ++ mac.extractLsb' 24 8 ++ mac.extractLsb' 32 8 ++
    mac.extractLsb' 40 8 : BitVec (16 + 48 + 8 + 8 + 8 + 16 + 8 + 8 + 8))

/-- `nd6_all_nodes`. -/
def nd6AllNodes : BitVec 128 := 0xff020000000000000000000000000001

/-- `nd6_multicast_mac`. -/
def nd6MulticastMac (addr : BitVec 128) : BitVec 48 :=
  addr.extractLsb' 0 8 ++ addr.extractLsb' 8 8 ++ addr.extractLsb' 16 8 ++ addr.extractLsb' 24 8 ++
    0x3333#16

/-- The checks `nd6_lan_input` makes on every frame. -/
def nd6FrameOk (cksumOk : List (BitVec 8) → Bool) (pkt : List (BitVec 8)) : Bool :=
  let payloadLen := (be16At pkt nd6PayloadLenOff).toNat
  !(pkt.length < nd6IcmpOff + nd6IcmpHeaderLen) &&
    be16At pkt nd6NextProtoOff = frameTypeIpv6 &&
    (pkt.getD nd6Ip6Off 0).extractLsb' 4 4 = 6 &&
    pkt.getD nd6ProtoOff 0 = ipprotoIcmpv6 &&
    pkt.getD nd6HopLimitsOff 0 = 255 &&
    !(payloadLen < nd6IcmpHeaderLen) &&
    payloadLen = pkt.length - nd6IcmpOff &&
    pkt.getD (nd6IcmpOff + 1) 0 = 0 &&
    cksumOk pkt

/-- The options of a Neighbor Solicitation or Advertisement: the MAC found, if they are in order. -/
def nd6NeighborOptions (pkt : List (BitVec 8)) (wantedType : BitVec 8) :
    Option (Option (BitVec 48)) :=
  if (be16At pkt nd6PayloadLenOff).toNat < nd6NeighborMessageLen then none
  else nd6ParseLlOptions (pkt.drop (nd6IcmpOff + nd6NeighborMessageLen)) wantedType

/-- `nd6_table_learn`, as a message from an address calls it when it has the option. -/
def Nd6Ccb.learn (c : Nd6Ccb) (ipv6 : BitVec 128) (mac : Option (BitVec 48)) (now : Nat)
    (room room' : Option Nat) : Nd6Ccb × List Nd6Act :=
  match mac with
  | none => (c, [])
  | some mac =>
      let (ok, table) := nd6TableLearn c.nd6Table ipv6 mac now room room'
      ({ c with nd6Table := table }, if ok then [.learned ipv6] else [])

/-- `nd6_lan_input`. -/
def nd6LanInput (cksumOk : List (BitVec 8) → Bool) (hz now : Nat) (room room' : Option Nat)
    (c : Nd6Ccb) (pkt : List (BitVec 8)) : Nd6Ccb × List Nd6Act :=
  if !c.gateReady || !nd6FrameOk cksumOk pkt then (c, [])
  else
    let srcIp := ipv6At pkt nd6SrcIpOff
    let type := pkt.getD nd6IcmpOff 0
    let gateway := nd6GatewayLinkLocal c.hsiLanMac
    if type = nd6IcmpRs then
      if nd6ParseLlOptions (pkt.drop (nd6IcmpOff + nd6IcmpHeaderLen)) nd6OptSlla = none then (c, [])
      -- `ND6_RS_RA_MIN_DELAY_SEC` is three
      else if now - c.lastRsRaCycles < 3 * hz then (c, [])
      else ({ c with lastRsRaCycles := now }, [.sentRa])
    else if type = nd6IcmpNs then
      match nd6NeighborOptions pkt nd6OptSlla with
      | none => (c, [])
      | some slla =>
          if srcIp = 0 then
            -- a host that looks for duplicates of its address is told only of the gateway's
            if ipv6At pkt nd6TargetOff = gateway then
              (c, [.sentNa nd6AllNodes (nd6MulticastMac nd6AllNodes)
                (nd6NaFlagRouter ||| nd6NaFlagOverride)])
            else (c, [])
          else if !nd6SrcIsOnLink c.hsiIpv6LanPrefix srcIp then (c, [])
          else
            let (c, acts) := c.learn srcIp slla now room room'
            if ipv6At pkt nd6TargetOff = gateway then
              (c, acts ++ [.sentNa srcIp (macAt pkt nd6SrcMacOff)
                (nd6NaFlagRouter ||| nd6NaFlagSolicited ||| nd6NaFlagOverride)])
            else (c, acts)
    else if type = nd6IcmpNa then
      match nd6NeighborOptions pkt nd6OptTlla with
      | none => (c, [])
      | some tlla =>
          if srcIp = 0 ∨ nd6SrcIsOnLink c.hsiIpv6LanPrefix srcIp = false then (c, [])
          else c.learn srcIp tlla now room room'
    else (c, [])

/-! ### The operations on a table -/

inductive Nd6TableOp
  | learn (ipv6 : BitVec 128) (mac : BitVec 48) (now : Nat) (room room' : Option Nat)
  | lookup (ipv6 : BitVec 128)
  | reset
  | ageScan (now : Nat) (gateReady : Bool) (tx : BitVec 128 → Bool)

def Nd6Table.step (hz : Nat) (table : Nd6Table) : Nd6TableOp → Nd6Table
  | .learn ipv6 mac now room room' => (nd6TableLearn table ipv6 mac now room room').2
  | .lookup _ => table
  | .reset => nd6TableReset table
  | .ageScan now gateReady tx => (nd6AgeScanTable hz now gateReady tx table).1

end FastRG
