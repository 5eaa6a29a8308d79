/-
IPv6 packets go through the node intact.

A packet that `ipv6_lan_classify` forwards leaves with new headers in front of it and a hop limit
that is one less; one that is delivered to the LAN has lost the PPPoE header and one hop, and is as
it came if it is not delivered.  There and back a packet has other addresses in front and two hops
less.  A packet that is too long is answered with its beginning.

The headers move over their own bytes.  What the moves read has not been written to yet, so each
part of the new frame is one store or what was there before.
-/
import FastRG.DpIpv6

namespace FastRG

variable {dp : Ipv6Dp} {m : Mbuf}

/-! ### Lengths -/

theorem macBytes_length (mac : BitVec 48) : (macBytes mac).length = 6 := rfl

theorem be16Bytes_length (x : BitVec 16) : (be16Bytes x).length = 2 := rfl

theorem le16Bytes_length (x : BitVec 16) : (le16Bytes x).length = 2 := rfl

theorem ipv6Bytes_length (addr : BitVec 128) : (ipv6Bytes addr).length = 16 := by
  unfold ipv6Bytes
  rw [List.length_map, List.length_range]

/-- A frame as `parse_l2_hdr` leaves it. -/
structure Mbuf.Received (m : Mbuf) : Prop where
  ethHdr : m.ethHdr = m.dataOff.toNat
  vlanHdr : m.vlanHdr = m.dataOff.toNat + etherHdrLen

/-- The IPv6 packet of a frame from the LAN. -/
def Mbuf.lanPacket (m : Mbuf) : List (BitVec 8) := m.frame.drop ipv6L2Len

/-- The IPv6 packet of a frame from the WAN. -/
def Mbuf.wanPacket (m : Mbuf) : List (BitVec 8) := m.frame.drop (ipv6L2Len + ipv6PppoeHdrLen)

/-- One hop less. -/
def lessHop (packet : List (BitVec 8)) : List (BitVec 8) := packet.set 7 (packet.getD 7 0 - 1)

/-! ### To the WAN -/

/-- The headers of layer 2: those of a frame with other addresses and another protocol. -/
def l2Headers (dst src : BitVec 48) (middle : List (BitVec 8)) (proto : BitVec 16) :
    List (BitVec 8) :=
  macBytes dst ++ (macBytes src ++ (middle ++ be16Bytes proto))

/-- The PPPoE header, and the protocol field of PPP. -/
def pppoeHeaders (dp : Ipv6Dp) (len : BitVec 16) : List (BitVec 8) :=
  [verType] ++ ([0] ++ (le16Bytes dp.sessionId ++ (be16Bytes len ++ be16Bytes pppIpv6Protocol)))

/-! ### Memory

What the two functions do to the memory, step by step.
-/

/-- The hop limit of the packet at `i` is lowered. -/
def takeHop (b : Octets) (i : Nat) : Octets := b.put8 (i + 7) (b (i + 7) - 1)

/-- Addresses and protocol of the headers at `e` are written over. -/
def readdress (b : Octets) (e : Nat) (dst src : BitVec 48) (proto : BitVec 16) : Octets :=
  ((b.putBytes (e + 6) (macBytes src)).putBytes e (macBytes dst)).putBytes (e + 16)
    (be16Bytes proto)

/-- The headers move to the front, over their own beginning. -/
def moveBack (b : Octets) (c : Nat) : Octets :=
  (b.copy c (c + 8) 14).copy (c + 14) (c + 22) 4

/-- The headers move to the back, over their own end, from copies. -/
def moveOn (b : Octets) (e : Nat) : Octets :=
  (b.putBytes (e + 8) (b.slice e 14)).putBytes (e + 22) (b.slice (e + 14) 4)

/-- The PPPoE header is written field by field. -/
def putPppoe (b : Octets) (p : Nat) (dp : Ipv6Dp) (len : BitVec 16) : Octets :=
  ((((b.putBytes p [verType]).putBytes (p + 1) [0]).putBytes (p + 2)
    (le16Bytes dp.sessionId)).putBytes (p + 4) (be16Bytes len)).putBytes (p + 6)
      (be16Bytes pppIpv6Protocol)

theorem slice_takeHop (b : Octets) (i : Nat) {n : Nat} (hn : 7 < n) :
    (takeHop b i).slice i n = lessHop (b.slice i n) := by
  unfold takeHop lessHop
  rw [Octets.slice_put8, Octets.getD_slice b i hn]

theorem slice_takeHop_of_ne (b : Octets) {i j n : Nat} (h : j + n ≤ i) :
    (takeHop b i).slice j n = b.slice j n :=
  Octets.slice_put8_of_ne _ _ (by omega)

theorem slice_readdress (b : Octets) (e : Nat) (dst src : BitVec 48) (proto : BitVec 16) :
    (readdress b e dst src proto).slice e 18 = l2Headers dst src (b.slice (e + 12) 4) proto := by
  have hsrc := macBytes_length src
  have hdst := macBytes_length dst
  have hproto := be16Bytes_length proto
  unfold readdress l2Headers
  rw [show 18 = 6 + (6 + (4 + 2)) from rfl, Octets.slice_add, Octets.slice_add, Octets.slice_add]
  congr 1
  · rw [Octets.slice_putBytes_of_ne _ _ (by omega), Octets.slice_putBytes _ _ _ hdst]
  congr 1
  · rw [Octets.slice_putBytes_of_ne _ _ (by omega), Octets.slice_putBytes_of_ne _ _ (by omega),
      Octets.slice_putBytes _ _ _ hsrc]
  congr 1
  · rw [Octets.slice_putBytes_of_ne _ _ (by omega), Octets.slice_putBytes_of_ne _ _ (by omega),
      Octets.slice_putBytes_of_ne _ _ (by omega)]
  · exact Octets.slice_putBytes _ _ _ hproto

theorem slice_readdress_of_ne (b : Octets) {e j n : Nat} (dst src : BitVec 48) (proto : BitVec 16)
    (h : e + 18 ≤ j) : (readdress b e dst src proto).slice j n = b.slice j n := by
  have hsrc := macBytes_length src
  have hdst := macBytes_length dst
  have hproto := be16Bytes_length proto
  unfold readdress
  rw [Octets.slice_putBytes_of_ne _ _ (by omega), Octets.slice_putBytes_of_ne _ _ (by omega),
    Octets.slice_putBytes_of_ne _ _ (by omega)]

theorem slice_moveBack (b : Octets) (c : Nat) :
    (moveBack b c).slice c 18 = b.slice (c + 8) 18 := by
  have heth := Octets.length_slice b (c + 8) 14
  have hvlan := Octets.length_slice (b.putBytes c (b.slice (c + 8) 14)) (c + 22) 4
  unfold moveBack
  rw [Octets.copy_eq b 14 (by omega), Octets.copy_eq _ 4 (by omega), show 18 = 14 + 4 from rfl,
    Octets.slice_add, Octets.slice_add]
  congr 1
  · rw [Octets.slice_putBytes_of_ne _ _ (by omega), Octets.slice_putBytes _ _ _ heth]
  · rw [Octets.slice_putBytes _ _ _ hvlan, Octets.slice_putBytes_of_ne _ _ (by omega)]

theorem slice_moveBack_of_ne (b : Octets) {c j n : Nat} (h : c + 18 ≤ j) :
    (moveBack b c).slice j n = b.slice j n := by
  have heth := Octets.length_slice b (c + 8) 14
  have hvlan := Octets.length_slice (b.putBytes c (b.slice (c + 8) 14)) (c + 22) 4
  unfold moveBack
  rw [Octets.copy_eq b 14 (by omega), Octets.copy_eq _ 4 (by omega),
    Octets.slice_putBytes_of_ne _ _ (by omega), Octets.slice_putBytes_of_ne _ _ (by omega)]

theorem slice_moveOn (b : Octets) (e : Nat) :
    (moveOn b e).slice (e + 8) 18 = b.slice e 18 := by
  have heth := Octets.length_slice b e 14
  have hvlan := Octets.length_slice b (e + 14) 4
  unfold moveOn
  rw [show 18 = 14 + 4 from rfl, Octets.slice_add, Octets.slice_add]
  congr 1
  · rw [Octets.slice_putBytes_of_ne _ _ (by omega), Octets.slice_putBytes _ _ _ heth]
  · exact Octets.slice_putBytes _ _ _ hvlan

theorem slice_moveOn_of_ne (b : Octets) {e j n : Nat} (h : e + 26 ≤ j) :
    (moveOn b e).slice j n = b.slice j n := by
  have heth := Octets.length_slice b e 14
  have hvlan := Octets.length_slice b (e + 14) 4
  unfold moveOn
  rw [Octets.slice_putBytes_of_ne _ _ (by omega), Octets.slice_putBytes_of_ne _ _ (by omega)]

theorem slice_putPppoe (b : Octets) (p : Nat) (dp : Ipv6Dp) (len : BitVec 16) :
    (putPppoe b p dp len).slice p 8 = pppoeHeaders dp len := by
  have hver : [verType].length = 1 := rfl
  have hcode : ([0] : List (BitVec 8)).length = 1 := rfl
  have hid := le16Bytes_length dp.sessionId
  have hlen := be16Bytes_length len
  have hproto := be16Bytes_length pppIpv6Protocol
  unfold putPppoe pppoeHeaders
  show Octets.slice _ p (1 + (1 + (2 + (2 + 2)))) = _
  rw [Octets.slice_add, Octets.slice_add, Octets.slice_add, Octets.slice_add]
  congr 1
  · rw [Octets.slice_putBytes_of_ne _ _ (by omega), Octets.slice_putBytes_of_ne _ _ (by omega),
      Octets.slice_putBytes_of_ne _ _ (by omega), Octets.slice_putBytes_of_ne _ _ (by omega),
      Octets.slice_putBytes _ _ _ hver]
  congr 1
  · rw [Octets.slice_putBytes_of_ne _ _ (by omega), Octets.slice_putBytes_of_ne _ _ (by omega),
      Octets.slice_putBytes_of_ne _ _ (by omega), Octets.slice_putBytes _ _ _ hcode]
  congr 1
  · rw [Octets.slice_putBytes_of_ne _ _ (by omega), Octets.slice_putBytes_of_ne _ _ (by omega),
      Octets.slice_putBytes _ _ _ hid]
  congr 1
  · rw [Octets.slice_putBytes_of_ne _ _ (by omega), Octets.slice_putBytes _ _ _ hlen]
  · exact Octets.slice_putBytes _ _ _ hproto

theorem slice_putPppoe_of_ne (b : Octets) {p j n : Nat} (dp : Ipv6Dp) (len : BitVec 16)
    (h : j + n ≤ p ∨ p + 8 ≤ j) : (putPppoe b p dp len).slice j n = b.slice j n := by
  have hver : [verType].length = 1 := rfl
  have hcode : ([0] : List (BitVec 8)).length = 1 := rfl
  have hid := le16Bytes_length dp.sessionId
  have hlen := be16Bytes_length len
  have hproto := be16Bytes_length pppIpv6Protocol
  unfold putPppoe
  rw [Octets.slice_putBytes_of_ne _ _ (by omega), Octets.slice_putBytes_of_ne _ _ (by omega),
    Octets.slice_putBytes_of_ne _ _ (by omega), Octets.slice_putBytes_of_ne _ _ (by omega),
    Octets.slice_putBytes_of_ne _ _ (by omega)]

/-! ### To the WAN -/

/-- The length written into the PPPoE header. -/
def pppoeLen (m : Mbuf) : BitVec 16 := (m.pktLen - BitVec.ofNat 32 ipv6L2Len + 2).setWidth 16

theorem ipv6LanToWanEncap_buf {c : Nat} (heth : m.ethHdr = c + 8) (hvlan : m.vlanHdr = c + 22) :
    (ipv6LanToWanEncap dp m).buf =
      putPppoe (moveBack (readdress (takeHop m.buf (c + 26)) (c + 8) dp.pppDstMac dp.hsiWanSrcMac
        ethPPppSes) c) (c + 18) dp (pppoeLen m) := by
  unfold ipv6LanToWanEncap
  rw [heth, hvlan]
  rfl

/-- The memory of a frame to the WAN: headers, and the packet where it was. -/
theorem slice_encap {c n : Nat} (heth : m.ethHdr = c + 8) (hvlan : m.vlanHdr = c + 22)
    (hn : 7 < n) :
    (ipv6LanToWanEncap dp m).buf.slice c (18 + (8 + n)) =
      l2Headers dp.pppDstMac dp.hsiWanSrcMac (m.buf.slice (c + 20) 4) ethPPppSes ++
        (pppoeHeaders dp (pppoeLen m) ++ lessHop (m.buf.slice (c + 26) n)) := by
  rw [ipv6LanToWanEncap_buf heth hvlan, Octets.slice_add, Octets.slice_add]
  congr 1
  · rw [slice_putPppoe_of_ne _ _ _ (by omega), slice_moveBack, slice_readdress,
      slice_takeHop_of_ne _ (by omega)]
  congr 1
  · exact slice_putPppoe _ _ _ _
  · rw [slice_putPppoe_of_ne _ _ _ (by omega), slice_moveBack_of_ne _ (by omega),
      slice_readdress_of_ne _ _ _ _ (by omega)]
    exact slice_takeHop _ _ hn

/-! ### To the LAN -/

theorem ipv6WanToLanForward_ok {e : Nat} {hostMac : BitVec 48} (heth : m.ethHdr = e)
    (hvlan : m.vlanHdr = e + 14) (hhop : ¬ (m.buf (e + 26 + 7)).toNat ≤ 1)
    (hhost : nd6TableLookup dp.nd6Table (addrAt m.buf (e + 26 + 24)) = some hostMac) :
    ipv6WanToLanForward dp m = (.ok,
      { buf := moveOn (readdress (takeHop m.buf (e + 26)) e hostMac dp.hsiLanMac frameTypeIpv6) e
        dataOff := m.dataOff + 8
        pktLen := m.pktLen - 8
        dataLen := m.dataLen - 8
        ethHdr := e + 8
        vlanHdr := e + 22 }) := by
  subst heth
  unfold ipv6WanToLanForward
  simp only
  have hhop' : ¬ (m.buf (m.ethHdr + ipv6L2Len + ipv6PppoeHdrLen + 7)).toNat ≤ 1 := hhop
  have hhost' : nd6TableLookup dp.nd6Table
      (addrAt m.buf (m.ethHdr + ipv6L2Len + ipv6PppoeHdrLen + 24)) = some hostMac := hhost
  rw [if_neg hhop', hhost', hvlan]
  rfl

/-- The memory of a frame to the LAN: headers, and the packet where it was. -/
theorem slice_forward (b : Octets) (e : Nat) {n : Nat} (hn : 7 < n) (dst src : BitVec 48)
    (proto : BitVec 16) :
    (moveOn (readdress (takeHop b (e + 26)) e dst src proto) e).slice (e + 8) (18 + n) =
      l2Headers dst src (b.slice (e + 12) 4) proto ++ lessHop (b.slice (e + 26) n) := by
  rw [Octets.slice_add]
  congr 1
  · rw [slice_moveOn, slice_readdress, slice_takeHop_of_ne _ (by omega)]
  · rw [slice_moveOn_of_ne _ (by omega), slice_readdress_of_ne _ _ _ _ (by omega)]
    exact slice_takeHop _ _ hn

/-! ### Frames -/

theorem drop_frame {k : Nat} (m : Mbuf) (hk : k ≤ m.pktLen.toNat) :
    m.frame.drop k = m.buf.slice (m.dataOff.toNat + k) (m.pktLen.toNat - k) :=
  Octets.drop_slice _ _ hk

theorem part_frame {k n : Nat} (m : Mbuf) (hk : k + n ≤ m.pktLen.toNat) :
    (m.frame.drop k).take n = m.buf.slice (m.dataOff.toNat + k) n := by
  rw [drop_frame m (by omega), Octets.take_slice _ _ (by omega)]

theorem getD_lessHop (packet : List (BitVec 8)) (hlen : 7 < packet.length)
    (hhop : 1 ≤ (packet.getD 7 0).toNat) :
    ((lessHop packet).getD 7 0).toNat + 1 = (packet.getD 7 0).toNat := by
  have hget : (lessHop packet).getD 7 0 = packet.getD 7 0 - 1 := by
    unfold lessHop
    rw [List.getD_eq_getElem?_getD, List.getElem?_set_self hlen, Option.getD_some]
  have hbyte := (packet.getD 7 0).isLt
  rw [hget, BitVec.toNat_sub, show (1 : BitVec 8).toNat = 1 from rfl]
  omega

/-- What is forwarded to the WAN has its length in its header, may make a hop, and fits. -/
theorem ipv6LanClassify_forward {b : Octets} {e i : Nat} {len : BitVec 32}
    (h : ipv6LanClassify dp b e i len = .forward) :
    len.toNat = ipv6L2Len + ipv6HdrLen + (b.be16 (i + 4)).toNat ∧ 2 ≤ (b (i + 7)).toNat ∧
      ipv6HdrLen + (b.be16 (i + 4)).toNat ≤ ipv6PppoeMtu := by
  unfold ipv6LanClassify at h
  simp only at h
  split at h
  · cases h
  split at h
  · cases h
  rename_i hshape
  split at h
  · cases h
  split at h
  · cases h
  split at h
  · cases h
  split at h
  · cases h
  split at h
  · cases h
  split at h
  · cases h
  rename_i hhop
  split at h
  · cases h
  rename_i hfits
  refine ⟨?_, by omega, by omega⟩
  by_contra hne
  exact hshape (.inr hne)

/-- What is too big for the WAN has its length in its header. -/
theorem ipv6LanClassify_tooBig {b : Octets} {e i : Nat} {len : BitVec 32}
    (h : ipv6LanClassify dp b e i len = .tooBig) :
    len.toNat = ipv6L2Len + ipv6HdrLen + (b.be16 (i + 4)).toNat := by
  unfold ipv6LanClassify at h
  simp only at h
  split at h
  · cases h
  split at h
  · cases h
  rename_i hshape
  by_contra hne
  exact hshape (.inr hne)

/-- `m'` is the frame of the LAN `m` in PPPoE: the packet is the same but for a hop, of which one is
left, and the lengths of the headers are the packet's. -/
structure Mbuf.ToWan (dp : Ipv6Dp) (m m' : Mbuf) : Prop where
  frame : m'.frame =
    l2Headers dp.pppDstMac dp.hsiWanSrcMac ((m.frame.drop 12).take 4) ethPPppSes ++
      (pppoeHeaders dp (BitVec.ofNat 16 (m.lanPacket.length + 2)) ++ lessHop m.lanPacket)
  hop : ((lessHop m.lanPacket).getD 7 0).toNat + 1 = (m.lanPacket.getD 7 0).toNat
  hopLeft : 1 ≤ ((lessHop m.lanPacket).getD 7 0).toNat
  payload : m.lanPacket.length = ipv6HdrLen + (m.buf.be16 (m.dataOff.toNat + 22)).toNat
  fits : m.lanPacket.length ≤ ipv6PppoeMtu
  pktLen : m'.pktLen.toNat = m.pktLen.toNat + 8
  dataLen : m'.dataLen = m.dataLen + 8
  dataOff : m'.dataOff = m.dataOff - 8
  received : m'.Received

/-- `m'` is the frame of the WAN `m` without PPPoE: the packet is the same but for a hop. -/
structure Mbuf.ToLan (dp : Ipv6Dp) (hostMac : BitVec 48) (m m' : Mbuf) : Prop where
  frame : m'.frame =
    l2Headers hostMac dp.hsiLanMac ((m.frame.drop 12).take 4) frameTypeIpv6 ++ lessHop m.wanPacket
  hop : ((lessHop m.wanPacket).getD 7 0).toNat + 1 = (m.wanPacket.getD 7 0).toNat
  hopLeft : 1 ≤ ((lessHop m.wanPacket).getD 7 0).toNat
  pktLen : m'.pktLen.toNat + 8 = m.pktLen.toNat
  dataLen : m'.dataLen = m.dataLen - 8
  dataOff : m'.dataOff = m.dataOff + 8
  received : m'.Received

theorem toNat_back {off : BitVec 16} (h : ipv6PppoeHdrLen ≤ off.toNat) :
    (off - 8).toNat + 8 = off.toNat := by
  have hoff := off.isLt
  have hlen : ipv6PppoeHdrLen = 8 := rfl
  rw [BitVec.toNat_sub, show (8 : BitVec 16).toNat = 8 from rfl]
  omega

theorem toNat_on {off : BitVec 16} (h : off.toNat + ipv6PppoeHdrLen < 65536) :
    (off + 8).toNat = off.toNat + 8 := by
  have hlen : ipv6PppoeHdrLen = 8 := rfl
  rw [BitVec.toNat_add, show (8 : BitVec 16).toNat = 8 from rfl]
  omega

theorem encap_toWan (hm : m.Received) (hroom : ipv6PppoeHdrLen ≤ m.dataOff.toNat)
    (hfwd : ipv6LanClassify dp m.buf m.ethHdr (m.ethHdr + ipv6L2Len) m.pktLen = .forward) :
    m.ToWan dp (ipv6LanToWanEncap dp m) := by
  obtain ⟨hlen, hhop, hfits⟩ := ipv6LanClassify_forward hfwd
  have hback := toNat_back hroom
  have hl2 : ipv6L2Len = 18 := rfl
  have hhdr : ipv6HdrLen = 40 := rfl
  have hmtu : ipv6PppoeMtu = 1492 := rfl
  have heth : m.ethHdr = (m.dataOff - 8).toNat + 8 := by rw [hm.ethHdr, hback]
  have hvlan : m.vlanHdr = (m.dataOff - 8).toNat + 22 := by
    rw [hm.vlanHdr, ← hback]
    rfl
  have heth' : m.ethHdr - 8 = (m.dataOff - 8).toNat := by omega
  rw [hm.ethHdr, hl2] at hlen hhop hfits
  have hpacket : m.lanPacket = m.buf.slice (m.dataOff.toNat + 18) (m.pktLen.toNat - 18) :=
    drop_frame m (by omega)
  have hcount : m.lanPacket.length = m.pktLen.toNat - 18 := by
    rw [hpacket, Octets.length_slice]
  have hbyte : m.lanPacket.getD 7 0 = m.buf (m.dataOff.toNat + 18 + 7) := by
    rw [hpacket, Octets.getD_slice _ _ (by omega)]
  have hlower := getD_lessHop m.lanPacket (by omega) (by rw [hbyte]; omega)
  have hwidth : (m.pktLen + 8).toNat = m.pktLen.toNat + 8 := by
    rw [BitVec.toNat_add, show (8 : BitVec 32).toNat = 8 from rfl]
    omega
  have hpppoe : pppoeLen m = BitVec.ofNat 16 (m.lanPacket.length + 2) := by
    apply BitVec.eq_of_toNat_eq
    unfold pppoeLen
    rw [BitVec.toNat_setWidth, BitVec.toNat_add, BitVec.toNat_sub, BitVec.toNat_ofNat,
      BitVec.toNat_ofNat, hl2, hcount, show (2 : BitVec 32).toNat = 2 from rfl]
    omega
  refine
    { frame := ?_
      hop := hlower
      hopLeft := by rw [hbyte] at hlower; omega
      payload := by
        rw [hcount, hlen, hhdr]
        show 18 + 40 + _ - 18 = 40 + (m.buf.be16 (m.dataOff.toNat + 18 + 4)).toNat
        omega
      fits := by omega
      pktLen := hwidth
      dataLen := rfl
      dataOff := rfl
      received := ⟨heth', congrArg (· + 14) heth'⟩ }
  have hframe : (ipv6LanToWanEncap dp m).frame =
      (ipv6LanToWanEncap dp m).buf.slice (m.dataOff - 8).toNat
        (18 + (8 + (m.pktLen.toNat - 18))) := by
    show Octets.slice _ (m.dataOff - 8).toNat (m.pktLen + 8).toNat = _
    rw [hwidth]
    congr 1
    omega
  rw [hframe, slice_encap heth hvlan (by omega), hpppoe, hpacket, part_frame m (by omega), ← hback]

theorem forward_toLan {hostMac : BitVec 48} (hm : m.Received)
    (hroom : m.dataOff.toNat + ipv6PppoeHdrLen < 65536)
    (hlen : ipv6L2Len + ipv6PppoeHdrLen + ipv6HdrLen ≤ m.pktLen.toNat)
    (hhop : ¬ (m.buf (m.dataOff.toNat + 26 + 7)).toNat ≤ 1)
    (hhost : nd6TableLookup dp.nd6Table (addrAt m.buf (m.dataOff.toNat + 26 + 24)) = some hostMac) :
    (ipv6WanToLanForward dp m).1 = .ok ∧ m.ToLan dp hostMac (ipv6WanToLanForward dp m).2 := by
  have hon := toNat_on hroom
  have hl2 : ipv6L2Len = 18 := rfl
  have hpppoe : ipv6PppoeHdrLen = 8 := rfl
  have hhdr : ipv6HdrLen = 40 := rfl
  rw [ipv6WanToLanForward_ok hm.ethHdr hm.vlanHdr hhop hhost]
  have hpacket : m.wanPacket = m.buf.slice (m.dataOff.toNat + 26) (m.pktLen.toNat - 26) :=
    drop_frame m (by omega)
  have hcount : m.wanPacket.length = m.pktLen.toNat - 26 := by
    rw [hpacket, Octets.length_slice]
  have hbyte : m.wanPacket.getD 7 0 = m.buf (m.dataOff.toNat + 26 + 7) := by
    rw [hpacket, Octets.getD_slice _ _ (by omega)]
  have hlower := getD_lessHop m.wanPacket (by omega) (by rw [hbyte]; omega)
  have hwidth : (m.pktLen - 8).toNat = 18 + (m.pktLen.toNat - 26) := by
    have hword := m.pktLen.isLt
    rw [BitVec.toNat_sub, show (8 : BitVec 32).toNat = 8 from rfl]
    omega
  refine ⟨rfl,
    { frame := ?_
      hop := hlower
      hopLeft := by rw [hbyte] at hlower; omega
      pktLen := by
        show (m.pktLen - 8).toNat + 8 = m.pktLen.toNat
        omega
      dataLen := rfl
      dataOff := rfl
      received := ⟨hon.symm, by
        show m.dataOff.toNat + 22 = (m.dataOff + 8).toNat + 14
        omega⟩ }⟩
  show Octets.slice _ (m.dataOff + 8).toNat (m.pktLen - 8).toNat = _
  rw [hon, hwidth, slice_forward _ _ (by omega), hpacket, part_frame m (by omega)]

/-- A frame that is not delivered is as it was. -/
theorem forward_untouched (h : (ipv6WanToLanForward dp m).1 ≠ .ok) :
    (ipv6WanToLanForward dp m).2 = m := by
  unfold ipv6WanToLanForward at h ⊢
  simp only at h ⊢
  by_cases hhop : (m.buf (m.ethHdr + ipv6L2Len + ipv6PppoeHdrLen + 7)).toNat ≤ 1
  · rw [if_pos hhop]
  rw [if_neg hhop] at h ⊢
  cases hhost : nd6TableLookup dp.nd6Table
      (addrAt m.buf (m.ethHdr + ipv6L2Len + ipv6PppoeHdrLen + 24)) with
  | none => rfl
  | some hostMac =>
      rw [hhost] at h
      exact absurd rfl h

/-- A frame that is delivered had a hop left, and its host is known. -/
theorem forward_ok (heth : m.ethHdr = m.dataOff.toNat) (h : (ipv6WanToLanForward dp m).1 = .ok) :
    ¬ (m.buf (m.dataOff.toNat + 26 + 7)).toNat ≤ 1 ∧
      ∃ hostMac, nd6TableLookup dp.nd6Table (addrAt m.buf (m.dataOff.toNat + 26 + 24)) =
        some hostMac := by
  unfold ipv6WanToLanForward at h
  simp only at h
  rw [heth] at h
  by_cases hhop : (m.buf (m.dataOff.toNat + 26 + 7)).toNat ≤ 1
  · have hhop' : (m.buf (m.dataOff.toNat + ipv6L2Len + ipv6PppoeHdrLen + 7)).toNat ≤ 1 := hhop
    rw [if_pos hhop'] at h
    cases h
  have hhop' : ¬ (m.buf (m.dataOff.toNat + ipv6L2Len + ipv6PppoeHdrLen + 7)).toNat ≤ 1 := hhop
  rw [if_neg hhop'] at h
  refine ⟨hhop, ?_⟩
  cases hhost : nd6TableLookup dp.nd6Table (addrAt m.buf (m.dataOff.toNat + 26 + 24)) with
  | none =>
      have hhost' : nd6TableLookup dp.nd6Table
          (addrAt m.buf (m.dataOff.toNat + ipv6L2Len + ipv6PppoeHdrLen + 24)) = none := hhost
      rw [hhost'] at h
      cases h
  | some hostMac => exact ⟨hostMac, rfl⟩

/-! ### There and back -/

theorem length_middle (h : ipv6L2Len ≤ m.pktLen.toNat) :
    ((m.frame.drop 12).take 4).length = 4 := by
  have hl2 : ipv6L2Len = 18 := rfl
  rw [part_frame m (by omega), Octets.length_slice]

/-- The packet of a frame to the WAN is that of the LAN, a hop later. -/
theorem wanPacket_encap {m' : Mbuf} (h : m.ToWan dp m') (hlen : ipv6L2Len ≤ m.pktLen.toNat) :
    m'.wanPacket = lessHop m.lanPacket := by
  unfold Mbuf.wanPacket
  rw [h.frame, ← List.append_assoc]
  refine List.drop_left' ?_
  unfold l2Headers pppoeHeaders
  simp only [List.length_append, macBytes_length, be16Bytes_length, le16Bytes_length,
    length_middle hlen]
  rfl

theorem middle_encap {m' : Mbuf} (h : m.ToWan dp m') (hlen : ipv6L2Len ≤ m.pktLen.toNat) :
    (m'.frame.drop 12).take 4 = (m.frame.drop 12).take 4 := by
  have hmacs : (macBytes dp.pppDstMac ++ macBytes dp.hsiWanSrcMac).length = 12 := rfl
  rw [h.frame]
  unfold l2Headers
  simp only [List.append_assoc]
  rw [← List.append_assoc, List.drop_left' hmacs, List.take_left' (length_middle hlen)]

/-- The destination of a packet. -/
def destinationOf (packet : List (BitVec 8)) : BitVec 128 :=
  ipv6At ((packet.drop 24).take 16) 0

theorem destinationOf_lessHop (packet : List (BitVec 8)) :
    destinationOf (lessHop packet) = destinationOf packet := by
  unfold destinationOf lessHop
  rw [List.drop_set_of_lt (by omega)]

theorem destinationOf_lanPacket (h : ipv6L2Len + ipv6HdrLen ≤ m.pktLen.toNat) :
    destinationOf m.lanPacket = addrAt m.buf (m.dataOff.toNat + 18 + 24) := by
  have hl2 : ipv6L2Len = 18 := rfl
  have hhdr : ipv6HdrLen = 40 := rfl
  unfold destinationOf Mbuf.lanPacket addrAt
  rw [List.drop_drop, part_frame m (by omega)]
  rfl

theorem destinationOf_wanPacket (h : ipv6L2Len + ipv6PppoeHdrLen + ipv6HdrLen ≤ m.pktLen.toNat) :
    destinationOf m.wanPacket = addrAt m.buf (m.dataOff.toNat + 26 + 24) := by
  have hl2 : ipv6L2Len = 18 := rfl
  have hpppoe : ipv6PppoeHdrLen = 8 := rfl
  have hhdr : ipv6HdrLen = 40 := rfl
  unfold destinationOf Mbuf.wanPacket addrAt
  rw [List.drop_drop, part_frame m (by omega)]
  rfl

/-- `m'` is the frame `m` for another receiver: past the addresses all is the same but for two
hops, and it lies where it lay. -/
structure Mbuf.Readdressed (hostMac lanMac : BitVec 48) (m m' : Mbuf) : Prop where
  frame : m'.frame = macBytes hostMac ++ (macBytes lanMac ++
    ((m.frame.drop 12).take 6 ++ lessHop (lessHop m.lanPacket)))
  hops : ((lessHop (lessHop m.lanPacket)).getD 7 0).toNat + 2 = (m.lanPacket.getD 7 0).toNat
  pktLen : m'.pktLen = m.pktLen
  dataLen : m'.dataLen = m.dataLen
  dataOff : m'.dataOff = m.dataOff
  received : m'.Received

theorem forward_encap {dp' : Ipv6Dp} {hostMac : BitVec 48} (hm : m.Received)
    (hroom : ipv6PppoeHdrLen ≤ m.dataOff.toNat)
    (hfwd : ipv6LanClassify dp m.buf m.ethHdr (m.ethHdr + ipv6L2Len) m.pktLen = .forward)
    (htype : (m.frame.drop 16).take 2 = be16Bytes frameTypeIpv6)
    (hhops : 3 ≤ (m.lanPacket.getD 7 0).toNat)
    (hhost : nd6TableLookup dp'.nd6Table (addrAt m.buf (m.ethHdr + ipv6L2Len + 24)) =
      some hostMac) :
    (ipv6WanToLanForward dp' (ipv6LanToWanEncap dp m)).1 = .ok ∧
      m.Readdressed hostMac dp'.hsiLanMac (ipv6WanToLanForward dp' (ipv6LanToWanEncap dp m)).2 := by
  have hwan := encap_toWan hm hroom hfwd
  have hl2 : ipv6L2Len = 18 := rfl
  have hpppoe : ipv6PppoeHdrLen = 8 := rfl
  have hhdr : ipv6HdrLen = 40 := rfl
  have hlen := (ipv6LanClassify_forward hfwd).1
  have hback := toNat_back hroom
  rw [hm.ethHdr] at hhost
  generalize ipv6LanToWanEncap dp m = m' at hwan ⊢
  have hpacket := wanPacket_encap hwan (by omega)
  have hlen' := hwan.pktLen
  have hhop := hwan.hop
  have hbyte : m'.wanPacket.getD 7 0 = m'.buf (m'.dataOff.toNat + 26 + 7) := by
    unfold Mbuf.wanPacket
    rw [drop_frame m' (by omega), Octets.getD_slice _ _ (by omega)]
    rfl
  have hhost' : nd6TableLookup dp'.nd6Table (addrAt m'.buf (m'.dataOff.toNat + 26 + 24)) =
      some hostMac := by
    rw [← destinationOf_wanPacket (by omega), hpacket, destinationOf_lessHop,
      destinationOf_lanPacket (by omega)]
    exact hhost
  have hroom' : m'.dataOff.toNat + ipv6PppoeHdrLen < 65536 := by
    have hoff := m.dataOff.isLt
    rw [hwan.dataOff]
    omega
  obtain ⟨hok, hlan⟩ := forward_toLan hwan.received hroom' (by omega)
    (by rw [← hbyte, hpacket]; omega) hhost'
  have hlower := hlan.hop
  have hlen'' := hlan.pktLen
  rw [hpacket] at hlower
  refine ⟨hok,
    { frame := ?_
      hops := by omega
      pktLen := BitVec.eq_of_toNat_eq (by omega)
      dataLen := by rw [hlan.dataLen, hwan.dataLen, BitVec.add_sub_cancel]
      dataOff := by rw [hlan.dataOff, hwan.dataOff, BitVec.sub_add_cancel]
      received := hlan.received }⟩
  have hsix : (m.frame.drop 12).take 6 = (m.frame.drop 12).take 4 ++ be16Bytes frameTypeIpv6 := by
    rw [← htype, show 6 = 4 + 2 from rfl, List.take_add, List.drop_drop]
  rw [hlan.frame, middle_encap hwan (by omega), hpacket, hsix]
  unfold l2Headers
  simp only [List.append_assoc]

/-! ### Too big -/

/-- The headers of an answer to a packet that is too big. -/
def tooBigHeaders (dp : Ipv6Dp) (host tci sender : List (BitVec 8)) (quoted : Nat) :
    List (BitVec 8) :=
  host ++ (macBytes dp.hsiLanMac ++ (be16Bytes vlanProto ++ (tci ++ (be16Bytes frameTypeIpv6 ++
    ([0x60, 0, 0, 0] ++ (be16Bytes (BitVec.ofNat 16 (icmp6PtbHdrLen + quoted)) ++
      ([ipprotoIcmpv6] ++ ([ipv6ErrorHopLimit] ++
        (ipv6Bytes (nd6GatewayLinkLocal dp.hsiLanMac) ++ sender)))))))))

/-- The message in it. -/
def tooBigMessage (cksum : BitVec 16) (quote : List (BitVec 8)) : List (BitVec 8) :=
  [icmp6PacketTooBig] ++ ([0] ++ (le16Bytes cksum ++
    (be16Bytes 0 ++ be16Bytes (BitVec.ofNat 16 ipv6PppoeMtu) ++ quote)))

theorem length_tooBigHeaders (dp : Ipv6Dp) {host tci sender : List (BitVec 8)} (quoted : Nat)
    (hhost : host.length = 6) (htci : tci.length = 2) (hsender : sender.length = 16) :
    (tooBigHeaders dp host tci sender quoted).length = ipv6L2Len + ipv6HdrLen := by
  unfold tooBigHeaders
  simp only [List.length_append, macBytes_length, be16Bytes_length, ipv6Bytes_length, hhost, htci,
    hsender]
  rfl

theorem length_tooBigMessage (cksum : BitVec 16) (quote : List (BitVec 8)) :
    (tooBigMessage cksum quote).length = icmp6PtbHdrLen + quote.length := by
  unfold tooBigMessage
  simp only [List.length_append, be16Bytes_length, le16Bytes_length, List.length_cons,
    List.length_nil, icmp6PtbHdrLen]
  omega

/-- The fields of the headers, one after the other. -/
theorem putBytes_tooBigHeaders (b : Octets) (out : Nat) {host tci sender : List (BitVec 8)}
    (quoted : Nat) (hhost : host.length = 6) (htci : tci.length = 2) :
    (((((((((((b.putBytes out host).putBytes (out + 6) (macBytes dp.hsiLanMac)).putBytes (out + 12)
      (be16Bytes vlanProto)).putBytes (out + 14) tci).putBytes (out + 16)
      (be16Bytes frameTypeIpv6)).putBytes (out + 18) [0x60, 0, 0, 0]).putBytes (out + 22)
      (be16Bytes (BitVec.ofNat 16 (icmp6PtbHdrLen + quoted)))).putBytes (out + 24)
      [ipprotoIcmpv6]).putBytes (out + 25) [ipv6ErrorHopLimit]).putBytes (out + 26)
      (ipv6Bytes (nd6GatewayLinkLocal dp.hsiLanMac))).putBytes (out + 42) sender) =
        b.putBytes out (tooBigHeaders dp host tci sender quoted) := by
  have hgateway := ipv6Bytes_length (nd6GatewayLinkLocal dp.hsiLanMac)
  have hlength : ∀ as : List (BitVec 8), ∀ n, as.length = n → out + n = out + as.length := by
    intro as n hn
    rw [hn]
  rw [Octets.putBytes_append _ out _ _ (hlength _ 6 hhost)]
  rw [Octets.putBytes_append _ out _ _ (hlength _ 12 (by simp [hhost, macBytes_length]))]
  rw [Octets.putBytes_append _ out _ _ (hlength _ 14
    (by simp [hhost, macBytes_length, be16Bytes_length]))]
  rw [Octets.putBytes_append _ out _ _ (hlength _ 16
    (by simp [hhost, htci, macBytes_length, be16Bytes_length]))]
  rw [Octets.putBytes_append _ out _ _ (hlength _ 18
    (by simp [hhost, htci, macBytes_length, be16Bytes_length]))]
  rw [Octets.putBytes_append _ out _ _ (hlength _ 22
    (by simp [hhost, htci, macBytes_length, be16Bytes_length]))]
  rw [Octets.putBytes_append _ out _ _ (hlength _ 24
    (by simp [hhost, htci, macBytes_length, be16Bytes_length]))]
  rw [Octets.putBytes_append _ out _ _ (hlength _ 25
    (by simp [hhost, htci, macBytes_length, be16Bytes_length]))]
  rw [Octets.putBytes_append _ out _ _ (hlength _ 26
    (by simp [hhost, htci, macBytes_length, be16Bytes_length]))]
  rw [Octets.putBytes_append _ out _ _ (hlength _ 42
    (by simp [hhost, htci, macBytes_length, be16Bytes_length, hgateway]))]
  unfold tooBigHeaders
  simp only [List.append_assoc]

/-- The message is cleared, and then filled in around its checksum. -/
theorem putBytes_tooBigMessage (b : Octets) (out : Nat) {headers : List (BitVec 8)}
    (hheaders : headers.length = 58) (cksum : BitVec 16) (quote : List (BitVec 8)) :
    (((((b.putBytes out headers).putBytes (out + 58)
      (List.replicate icmp6PtbHdrLen 0)).putBytes (out + 58) [icmp6PacketTooBig]).putBytes
      (out + 62) (be16Bytes 0 ++ be16Bytes (BitVec.ofNat 16 ipv6PppoeMtu))).putBytes (out + 66)
      quote).putBytes (out + 60) (le16Bytes cksum) =
        b.putBytes out (headers ++ tooBigMessage cksum quote) := by
  have hzeros : List.replicate icmp6PtbHdrLen (0 : BitVec 8) = [0] ++ List.replicate 7 0 := rfl
  have hrest : headers ++ ([icmp6PacketTooBig] ++ List.replicate 7 (0 : BitVec 8)) =
      (headers ++ ([icmp6PacketTooBig] ++ List.replicate 3 0)) ++ (List.replicate 4 0 ++ []) := by
    simp only [List.append_assoc]
    rfl
  have hword : (headers ++ ([icmp6PacketTooBig] ++ List.replicate 3 (0 : BitVec 8))) ++
      ((be16Bytes 0 ++ be16Bytes (BitVec.ofNat 16 ipv6PppoeMtu)) ++ []) ++ quote =
      (headers ++ ([icmp6PacketTooBig] ++ [0])) ++ (List.replicate 2 0 ++
        (be16Bytes 0 ++ be16Bytes (BitVec.ofNat 16 ipv6PppoeMtu) ++ quote)) := by
    simp only [List.append_assoc, List.append_nil]
    rfl
  rw [Octets.putBytes_append _ out _ _ (by rw [hheaders]), hzeros,
    Octets.putBytes_within _ out headers _ _ (by rw [hheaders]) (by rfl), hrest,
    Octets.putBytes_within _ out _ _ _ (by simp [hheaders]) (by rfl),
    Octets.putBytes_append _ out _ _ (by simp [hheaders, be16Bytes_length]), hword,
    Octets.putBytes_within _ out _ _ _ (by simp [hheaders]) (by rfl)]
  unfold tooBigMessage
  simp only [List.append_assoc]

/-- What is built in memory. -/
theorem ipv6BuildPacketTooBig_eq (dp : Ipv6Dp) (cksum : Octets → Nat → Nat → BitVec 16)
    (orig : Octets)
    (e v i : Nat) (len : BitVec 16) (b : Octets) (out : Nat) {quote : List (BitVec 8)}
    (hquote : orig.slice i (min len.toNat 1232) = quote) :
    ∃ ck, ipv6BuildPacketTooBig cksum dp orig e v i len b out =
      (BitVec.ofNat 16 (ipv6L2Len + ipv6HdrLen + (icmp6PtbHdrLen + quote.length)),
        b.putBytes out (tooBigHeaders dp (orig.slice (e + 6) 6) (orig.slice v 2)
          (orig.slice (i + 8) 16) quote.length ++ tooBigMessage ck quote)) := by
  have hcount : quote.length = min len.toNat 1232 := by
    rw [← hquote, Octets.length_slice]
  have hheaders := length_tooBigHeaders dp quote.length (Octets.length_slice orig (e + 6) 6)
    (Octets.length_slice orig v 2) (Octets.length_slice orig (i + 8) 16)
  refine ⟨?checksum, Prod.ext ?length ?memory⟩
  case memory =>
    simp only
    rw [← putBytes_tooBigMessage b out hheaders, ← putBytes_tooBigHeaders b out quote.length
      (Octets.length_slice orig (e + 6) 6) (Octets.length_slice orig v 2), hcount, ← hquote]
    rfl
  case length =>
    simp only [hcount]
    rfl

/-- `r` answers `m`, which was too big for the WAN. -/
structure Mbuf.TooBigReply (dp : Ipv6Dp) (m r : Mbuf) (cksum : BitVec 16)
    (quote : List (BitVec 8)) : Prop where
  frame : r.frame = tooBigHeaders dp ((m.frame.drop 6).take 6) ((m.frame.drop 14).take 2)
    ((m.lanPacket.drop 8).take 16) quote.length ++ tooBigMessage cksum quote
  quoted : quote <+: m.lanPacket
  pktLen : r.pktLen.toNat = ipv6L2Len + ipv6HdrLen + (icmp6PtbHdrLen + quote.length)
  dataLen : r.dataLen.toNat = ipv6L2Len + ipv6HdrLen + (icmp6PtbHdrLen + quote.length)
  small : ipv6HdrLen + (icmp6PtbHdrLen + quote.length) ≤ ipv6MinMtu

theorem reply_tooBig (cksum : Octets → Nat → Nat → BitVec 16) {alloc r : Mbuf} (hm : m.Received)
    (hbig : ipv6LanClassify dp m.buf m.ethHdr (m.ethHdr + ipv6L2Len) m.pktLen = .tooBig)
    (hr : buildIpv6PacketTooBigReply cksum dp m (some alloc) = some r) :
    ∃ ck quote, m.TooBigReply dp r ck quote := by
  have hlen := ipv6LanClassify_tooBig hbig
  have hl2 : ipv6L2Len = 18 := rfl
  have hhdr : ipv6HdrLen = 40 := rfl
  have hptb : icmp6PtbHdrLen = 8 := rfl
  have hmin : ipv6MinMtu = 1280 := rfl
  rw [hl2, hhdr] at hlen
  -- The length is a word of 16 bits, so of a very long packet less may be quoted, never more.
  have hword : ((m.pktLen - BitVec.ofNat 32 ipv6L2Len).setWidth 16).toNat ≤
      m.pktLen.toNat - 18 := by
    have hpkt := m.pktLen.isLt
    rw [BitVec.toNat_setWidth, BitVec.toNat_sub, BitVec.toNat_ofNat, hl2]
    omega
  generalize hquoteLen : min ((m.pktLen - BitVec.ofNat 32 ipv6L2Len).setWidth 16).toNat 1232 = n
  obtain ⟨ck, hbuilt⟩ := ipv6BuildPacketTooBig_eq dp cksum m.buf m.ethHdr m.vlanHdr
    (m.ethHdr + ipv6L2Len) ((m.pktLen - BitVec.ofNat 32 ipv6L2Len).setWidth 16) alloc.buf
    alloc.dataOff.toNat (by rw [hquoteLen])
  have hcount := Octets.length_slice m.buf (m.ethHdr + ipv6L2Len) n
  unfold buildIpv6PacketTooBigReply at hr
  simp only [hbuilt, Option.some.injEq] at hr
  subst hr
  have hsize : (BitVec.ofNat 16 (ipv6L2Len + ipv6HdrLen + (icmp6PtbHdrLen +
      (m.buf.slice (m.ethHdr + ipv6L2Len) n).length))).toNat =
        ipv6L2Len + ipv6HdrLen + (icmp6PtbHdrLen +
          (m.buf.slice (m.ethHdr + ipv6L2Len) n).length) := by
    rw [BitVec.toNat_ofNat]
    omega
  have hwide : ((BitVec.ofNat 16 (ipv6L2Len + ipv6HdrLen + (icmp6PtbHdrLen +
      (m.buf.slice (m.ethHdr + ipv6L2Len) n).length))).setWidth 32).toNat =
        ipv6L2Len + ipv6HdrLen + (icmp6PtbHdrLen +
          (m.buf.slice (m.ethHdr + ipv6L2Len) n).length) := by
    rw [BitVec.toNat_setWidth, hsize]
    omega
  have hpacket : m.lanPacket = m.buf.slice (m.ethHdr + ipv6L2Len) (m.pktLen.toNat - 18) := by
    rw [hm.ethHdr]
    exact drop_frame m (by omega)
  refine ⟨ck, m.buf.slice (m.ethHdr + ipv6L2Len) n,
    { frame := ?_
      quoted := ?_
      pktLen := hwide
      dataLen := hsize
      small := by omega }⟩
  · have hsender : (m.lanPacket.drop 8).take 16 = m.buf.slice (m.ethHdr + ipv6L2Len + 8) 16 := by
      rw [hpacket, Octets.drop_slice _ _ (by omega), Octets.take_slice _ _ (by omega)]
    show Octets.slice _ alloc.dataOff.toNat _ = _
    rw [hwide, hsender, part_frame m (by omega), part_frame m (by omega)]
    refine (Octets.slice_putBytes _ _ _ ?_).trans ?_
    · rw [List.length_append, length_tooBigMessage, length_tooBigHeaders _ _
        (Octets.length_slice m.buf _ 6) (Octets.length_slice m.buf _ 2)
        (Octets.length_slice m.buf _ 16)]
    · rw [hm.vlanHdr, hm.ethHdr]
      rfl
  · rw [hpacket, ← Octets.take_slice m.buf (m.ethHdr + ipv6L2Len) (n := m.pktLen.toNat - 18)
      (k := n) (by omega)]
    exact List.take_prefix _ _

/-! ### What goes through -/

/--
**IPv6 packets go through intact.**

To the WAN a packet goes in PPPoE, a hop later, with the length of it in the header and short
enough for it.  To the LAN it goes without PPPoE, a hop later, or stays as it came.  There and back
are two hops and other addresses.  To one that is too big the answer is short, and quotes its
beginning.
-/
theorem ipv6_packets_intact (cksum : Octets → Nat → Nat → BitVec 16) :
    (∀ (dp : Ipv6Dp) (m : Mbuf), m.Received →
      ipv6PppoeHdrLen ≤ m.dataOff.toNat →
      ipv6LanClassify dp m.buf m.ethHdr (m.ethHdr + ipv6L2Len) m.pktLen = .forward →
        m.ToWan dp (ipv6LanToWanEncap dp m)) ∧
    (∀ (dp : Ipv6Dp) (m : Mbuf), (ipv6WanToLanForward dp m).1 ≠ .ok →
      (ipv6WanToLanForward dp m).2 = m) ∧
    (∀ (dp : Ipv6Dp) (m : Mbuf), m.Received →
      m.dataOff.toNat + ipv6PppoeHdrLen < 65536 →
      ipv6L2Len + ipv6PppoeHdrLen + ipv6HdrLen ≤ m.pktLen.toNat →
      (ipv6WanToLanForward dp m).1 = .ok →
        ∃ hostMac, nd6TableLookup dp.nd6Table (destinationOf m.wanPacket) = some hostMac ∧
          m.ToLan dp hostMac (ipv6WanToLanForward dp m).2) ∧
    (∀ (dp dp' : Ipv6Dp) (m : Mbuf) (hostMac : BitVec 48), m.Received →
      ipv6PppoeHdrLen ≤ m.dataOff.toNat →
      ipv6LanClassify dp m.buf m.ethHdr (m.ethHdr + ipv6L2Len) m.pktLen = .forward →
      (m.frame.drop 16).take 2 = be16Bytes frameTypeIpv6 →
      3 ≤ (m.lanPacket.getD 7 0).toNat →
      nd6TableLookup dp'.nd6Table (destinationOf m.lanPacket) = some hostMac →
        (ipv6WanToLanForward dp' (ipv6LanToWanEncap dp m)).1 = .ok ∧
          m.Readdressed hostMac dp'.hsiLanMac
            (ipv6WanToLanForward dp' (ipv6LanToWanEncap dp m)).2) ∧
    (∀ (dp : Ipv6Dp) (m : Mbuf) (alloc : Option Mbuf), m.Received →
      ipv6LanClassify dp m.buf m.ethHdr (m.ethHdr + ipv6L2Len) m.pktLen = .tooBig →
      ∀ r, buildIpv6PacketTooBigReply cksum dp m alloc = some r →
        ∃ ck quote, m.TooBigReply dp r ck quote) := by
  refine ⟨fun dp m => encap_toWan, fun dp m => forward_untouched, ?_, ?_, ?_⟩
  · intro dp m hm hroom hlen hok
    obtain ⟨hhop, hostMac, hhost⟩ := forward_ok hm.ethHdr hok
    refine ⟨hostMac, ?_, (forward_toLan hm hroom hlen hhop hhost).2⟩
    rw [destinationOf_wanPacket hlen]
    exact hhost
  · intro dp dp' m hostMac hm hroom hfwd htype hhops hhost
    have hlen := (ipv6LanClassify_forward hfwd).1
    rw [destinationOf_lanPacket (by omega), ← hm.ethHdr] at hhost
    exact forward_encap hm hroom hfwd htype hhops hhost
  · intro dp m alloc hm hbig r hr
    cases alloc with
    | none => cases hr
    | some alloc => exact reply_tooBig cksum hm hbig hr

/-- A subscriber whose prefix is 2001:db8::/64, and a host elsewhere. -/
def dpOfPrefix : Ipv6Dp where
  hsiLanMac := 0x1
  hsiWanSrcMac := 0x2
  pppDstMac := 0x3
  sessionId := 0x10
  hsiIpv6LanPrefix := 0x20010db800000000
  gateOpen := true
  nd6Table := (nd6TableLearn (Nd6Table.alloc 4) 0x20010db8000000010000000000000001 0xab 0 (some 0)
    none).2

/-- A frame whose IPv6 header has this payload length, from the prefix to that host. -/
def frameFromPrefix (payloadLen : BitVec 16) : Mbuf where
  buf := fun k => (List.replicate 16 0 ++ [1, 0, 0, 0, 0, 0, 7, 0, 0, 0, 0, 0, 0x81, 0, 0, 5, 0x86,
    0xdd, 0x60, 0, 0, 0] ++ be16Bytes payloadLen ++ [59, 64] ++
    ipv6Bytes 0x20010db8000000000000000000000005 ++
    ipv6Bytes 0x20010db8000000010000000000000001).getD k 0
  dataOff := 16
  pktLen := 58 + payloadLen.setWidth 32
  dataLen := 58 + payloadLen
  ethHdr := 16
  vlanHdr := 30

theorem ipv6_packets_intact_prefix :
    ((ipv6WanToLanForward dpOfPrefix (ipv6LanToWanEncap dpOfPrefix (frameFromPrefix 0))).1 = .ok ∧
      (frameFromPrefix 0).Readdressed 0xab 0x1
        (ipv6WanToLanForward dpOfPrefix (ipv6LanToWanEncap dpOfPrefix (frameFromPrefix 0))).2) ∧
    ∃ r, buildIpv6PacketTooBigReply (fun _ _ _ => 0) dpOfPrefix (frameFromPrefix 1500)
        (some (frameFromPrefix 0)) = some r ∧
      ∃ ck quote, (frameFromPrefix 1500).TooBigReply dpOfPrefix r ck quote :=
  ⟨(ipv6_packets_intact fun _ _ _ => 0).2.2.2.1 dpOfPrefix dpOfPrefix (frameFromPrefix 0) 0xab
      ⟨rfl, rfl⟩ (by decide) (by decide) (by decide) (by decide) (by decide),
    _, rfl, (ipv6_packets_intact fun _ _ _ => 0).2.2.2.2 dpOfPrefix (frameFromPrefix 1500)
      (some (frameFromPrefix 0)) ⟨rfl, rfl⟩ (by decide) _ rfl⟩

end FastRG
