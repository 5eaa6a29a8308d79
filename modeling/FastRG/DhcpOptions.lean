/-
What the DHCP decoder reads of the options of a packet.

`dhcp_codec.c` walks over the options of a packet in three places: in `dhcp_decode`, in
`decode_request`, and once more in `dhcp_decode` for a DECLINE.  A turn of such a loop reads
the type of the option it is at before it looks whether any bytes are left, then its length
before it looks whether there is room for one, and then what it wants of the value.
`OptTurn` is one turn: where it is, which bytes it reads and where the loop goes from there.

A loop may end at an option that it reads, because of what the option says or because it has
found what it was looking for.
-/
import FastRG.DhcpCodec

namespace FastRG

/-- One turn of a loop over options. -/
structure OptTurn where
  off : Nat
  reads : List Nat
  /-- Where the next turn is, unless the loop ends with this one. -/
  next : Option Nat

/-- The turns of a loop that ends at some options and reads some bytes of their values. -/
def OptWalk.turns (pkt : DhcpPkt) (stop : Nat → Bool) (vals : Nat → List Nat) :
    Nat → OptWalk → List OptTurn
  | off, .done => [⟨off, [off], none⟩]
  | off, .malformed => [⟨off, [off, off + 1], none⟩]
  | _, .opt off rest =>
      let next := off + 2 + pkt.optLen off
      if stop off then [⟨off, off :: (off + 1) :: vals off, none⟩]
      else ⟨off, off :: (off + 1) :: vals off, some next⟩ :: rest.turns pkt stop vals next

/-! ### REQUEST -/

/-- Where the loop over a renewal or a rebind ends. -/
def renewStop (ccb : DhcpCcb) (off : Nat) : Bool :=
  ccb.pkt.opt off = dhcpOptServerId || ccb.pkt.ipDst = rteIpv4Broadcast

/-- What it reads of a value. -/
def renewVals (ccb : DhcpCcb) (off : Nat) : List Nat :=
  if ccb.pkt.opt off = dhcpOptServerId ∧ ccb.pkt.optLen off = 4 then List.range' (off + 2) 4
  else []

/-- Where the loop over a REQUEST without a `ciaddr` ends: at an option that it refuses. -/
def selectStop (ccb : DhcpCcb) (off : Nat) : Bool :=
  if ccb.pkt.opt off = dhcpOptClientId then
    ccb.pkt.optLen off < 7 || ccb.pkt.optVal off 0 ≠ dhcpHwTypeEthernet
  else if ccb.pkt.opt off = dhcpOptRequestIp then
    ccb.pkt.optLen off ≠ 4 || !dhcpIpAcceptable ccb (ccb.pkt.optU32 off)
  else if ccb.pkt.opt off = dhcpOptServerId then
    ccb.pkt.optLen off ≠ 4 || ccb.pkt.optU32 off ≠ ccb.dhcpServerIp
  else false

/-- What it reads of a value. -/
def selectVals (ccb : DhcpCcb) (off : Nat) : List Nat :=
  if ccb.pkt.opt off = dhcpOptClientId then
    if ccb.pkt.optLen off < 7 then []
    else if ccb.pkt.optVal off 0 ≠ dhcpHwTypeEthernet then [off + 2]
    else List.range' (off + 2) 7
  else if (ccb.pkt.opt off = dhcpOptRequestIp ∨ ccb.pkt.opt off = dhcpOptServerId) ∧
      ccb.pkt.optLen off = 4 then List.range' (off + 2) 4
  else []

/-- The turns of `decode_request`. -/
def requestTurns (ccb : DhcpCcb) : List OptTurn :=
  if ccb.pkt.hdr.clientIp ≠ rteIpv4Any then
    if ¬ dhcpIpAcceptable ccb ccb.pkt.hdr.clientIp then []
    else ccb.pkt.walk.turns ccb.pkt (renewStop ccb) (renewVals ccb) 0
  else ccb.pkt.walk.turns ccb.pkt (selectStop ccb) (selectVals ccb) 0

/-! ### DECLINE -/

/-- The loop over a DECLINE looks at every option. -/
def declineStop (_ : Nat) : Bool := false

/-- What it reads of a value. -/
def declineVals (ccb : DhcpCcb) (off : Nat) : List Nat :=
  if (ccb.pkt.opt off = dhcpOptServerId ∨ ccb.pkt.opt off = dhcpOptRequestIp) ∧
      ccb.pkt.optLen off = 4 then List.range' (off + 2) 4
  else []

/-- The turns of the loop over a DECLINE. -/
def declineTurns (ccb : DhcpCcb) : List OptTurn :=
  ccb.pkt.walk.turns ccb.pkt declineStop (declineVals ccb) 0

/-! ### Decoding -/

/-- The turns that a message type leads to. -/
def msgTurns (ccb : DhcpCcb) (msgType : BitVec 8) : List OptTurn :=
  if msgType = dhcpMsgRequest then requestTurns ccb
  else if msgType = dhcpMsgDecline then declineTurns ccb
  else []

/-- The turns of `dhcp_decode`'s loop, with those of the loops inside it.  The first byte of a
message type's value is read whatever length the option gives itself. -/
def decodeTurns (own : Nat) : DecodeSt → Nat → OptWalk → List OptTurn
  | _, off, .done => [⟨off, [off], none⟩]
  | _, off, .malformed => [⟨off, [off, off + 1], none⟩]
  | st, _, .opt off rest =>
      let next := off + 2 + st.ccb.pkt.optLen off
      if st.ccb.pkt.opt off = dhcpOptIspId then [⟨off, [off, off + 1], none⟩]
      else if st.ccb.pkt.opt off = dhcpOptMsgType then
        ⟨off, [off, off + 1, off + 2], some next⟩ ::
          (msgTurns st.ccb (st.ccb.pkt.optVal off 0) ++
            decodeTurns own (decodeMsgType own st (st.ccb.pkt.optVal off 0)) next rest)
      else ⟨off, [off, off + 1], some next⟩ :: decodeTurns own st next rest

/-- All turns of `dhcp_decode`, for the packet of a client whose slot is `own`. -/
def dhcpDecodeTurns (ccb : DhcpCcb) (own : Nat) (pkt : DhcpPkt) : List OptTurn :=
  let ccb := { ccb with pkt := pkt }.modUser own ({ · with dhcpHdr := some pkt.buf })
  if pkt.dgramLen.toNat < udpHdrLen + dhcpHdrLen then []
  else if swap32 pkt.hdr.magicCookie ≠ dhcpMagicCookie then []
  else decodeTurns own ⟨ccb, own, none⟩ 0 pkt.walk

end FastRG
