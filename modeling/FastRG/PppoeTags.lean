/-
The tags of a PADO, and the PADR that echoes them: `decode_pppoe` and `build_padr` in `codec.c`.

A PADO's tags are copied into a buffer of the subscriber, and every PADR is built from that buffer:
the first one at once, the others when the discovery timer fires.  How much is copied is told by
the length field of the first tag.  Bytes of the buffer that are not copied over stay as they were,
and bytes that are copied from behind the end of a frame are whatever stood there, which comes with
the step.

`build_padr` walks the stored tags by pointer and writes the frame by pointer, into a buffer on the
stack that nobody clears.  A byte that it steps over is `none`.  A walk that leaves the stored
buffer, or writes past the end of the frame's, is `outside`: what it does from there on is not told
by the code.  At a `GENERIC_ERROR` it is `refused`: the length of the frame is left at zero, and
nothing is sent.
-/
import FastRG.Lib.Tag
import FastRG.Pppd

namespace FastRG

/-- `PPPoE_TAG_DEFAULT_MAX_LEN`. -/
def pppoeTagDefaultMaxLen : Nat := 64

def endOfList : BitVec 16 := 0x0
def serviceName : BitVec 16 := 0x0101
def acName : BitVec 16 := 0x0102
def hostUniq : BitVec 16 := 0x0103
def acCookie : BitVec 16 := 0x0104
def relayId : BitVec 16 := 0x0110
def genericError : BitVec 16 := 0x0203

/-! ### Storing the tags -/

/-- `pppoe_phase.pppoe_header_tag`. -/
structure TagBuffer where
  bytes : List (BitVec 8)
  length_eq : bytes.length = pppoeTagDefaultMaxLen

/-- The first bytes from the tags of a frame on; `slack` is what stands behind the frame. -/
def frameMemory (payload : List (BitVec 8)) (slack : Nat → BitVec 8) (n : Nat) : List (BitVec 8) :=
  (List.range n).map fun i => payload.getD i (slack i)

/-- The number of bytes `decode_pppoe` copies. -/
def copiedLen (payload : List (BitVec 8)) (slack : Nat → BitVec 8) : Nat :=
  min (be16At (frameMemory payload slack 4) 2).toNat pppoeTagDefaultMaxLen

/-- The `rte_memcpy` of `decode_pppoe`. -/
def storeTags (payload : List (BitVec 8)) (slack : Nat → BitVec 8) (b : TagBuffer) : TagBuffer where
  bytes := frameMemory payload slack (copiedLen payload slack) ++
    b.bytes.drop (copiedLen payload slack)
  length_eq := by
    have hle : copiedLen payload slack ≤ pppoeTagDefaultMaxLen := Nat.min_le_right _ _
    have hb := b.length_eq
    simp only [frameMemory, List.length_append, List.length_map, List.length_range,
      List.length_drop]
    omega

/-! ### Building the PADR -/

/-- What `build_padr` comes to: it leaves a buffer, refuses, or has built the tags up to where it
stopped writing and counted some of them. -/
inductive Padr
  | outside
  | refused
  | built (tags : List (Option (BitVec 8))) (totalTagLength : Nat)
  deriving DecidableEq

/-- The room for tags in the frame: behind the Ethernet, VLAN and PPPoE headers. -/
def padrRoom : Nat := pppMsgBufLen - 24

/-- The tags that a PADR echoes. -/
def isEchoed (type : BitVec 16) : Bool :=
  type == hostUniq || type == acCookie || type == relayId

/-- The loop of `build_padr`: `cur` is the stored buffer from the tag it is at, `out` what stands
before the place it writes to.  The header of every tag is written there before its type is looked
at; the AC-Name's is written over by the next one. -/
def buildPadrN : Nat → List (BitVec 8) → List (Option (BitVec 8)) → Nat → Padr
  | n + 1, t0 :: t1 :: l0 :: l1 :: rest, out, total =>
      let type := t0 ++ t1
      let len := (l0 ++ l1).toNat
      let header := [t0, t1, l0, l1].map some
      if padrRoom < out.length + 4 then .outside
      else if type = endOfList then .built out total
      else if type = genericError then .refused
      -- the next tag is looked for past the end
      else if rest.length < len then .outside
      else if type = acName then buildPadrN n (rest.drop len) out total
      else if isEchoed type = true ∧ len ≠ 0 then
        if padrRoom < out.length + 4 + len then .outside
        else buildPadrN n (rest.drop len) (out ++ header ++ (rest.take len).map some) (len + 4 + total)
      else buildPadrN n (rest.drop len) (out ++ header ++ List.replicate len none) total
  | _, _, _, _ => .outside

/-- The tag every PADR starts with. -/
def serviceNameTag : Tag := ⟨serviceName, [], by decide⟩

/-- `build_padr`, as far as the tags go.  The length field of the PPPoE header is the total. -/
def buildPadr (b : TagBuffer) : Padr :=
  buildPadrN b.bytes.length b.bytes (serviceNameTag.bytes.map some) serviceNameTag.size

/-! ### Discovery -/

/-- A session with its stored tags. -/
structure Discovery where
  ccb : PppCcb
  tags : TagBuffer

/-- A frame that gets as far as `decode_pppoe`, of this code. -/
def isDiscovery (pkt : List (BitVec 8)) (code : BitVec 8) : Bool :=
  decide (24 ≤ pkt.length) && decide (pkt.length ≤ ethJumbo) && frameNextProto pkt == ethPPppDis &&
    framePppoeCode pkt == code

/-- A PADO that is taken: none was before. -/
def takesPado (pkt : List (BitVec 8)) (s : PppCcb) : Bool :=
  isDiscovery pkt padoCode && !s.pppoePhase.active

/-- A PADT that is taken: it names the session. -/
def takesPadt (pkt : List (BitVec 8)) (s : PppCcb) : Bool :=
  isDiscovery pkt padtCode && s.sessionId != 0 && frameSessionId pkt == s.sessionId

/-- The stored tags after a step. -/
def tagsAfter (s : Discovery) (slack : Nat → BitVec 8) : PppLabel → TagBuffer
  | .recv pkt _ _ =>
      if takesPado pkt s.ccb || takesPadt pkt s.ccb then
        storeTags (framePayload pkt) slack s.tags
      else s.tags
  | _ => s.tags

/-- One step of the control thread, with what stands behind the frame if it is one. -/
def discoveryStep (mac : BitVec 48) (s : Discovery) (l : PppLabel × (Nat → BitVec 8)) : Discovery :=
  ⟨pppStep mac s.ccb l.1, tagsAfter s l.2 l.1⟩

/-- A PADR is sent in a step: a PADO is answered, or the answer is sent again. -/
def sendsPadr (s : PppCcb) : PppLabel → Bool
  | .recv pkt _ _ => takesPado pkt s
  | .pppoeTimer =>
      s.pppoe == some .padr && decide (s.pppoePhase.timerCounter < s.pppoePhase.maxRetransmit)
  | _ => false

end FastRG
