/-
The two modes of the data plane: `DP_MODE_RSS` and `DP_MODE_DISTRIBUTOR`.

With RSS the card looks at a frame, by the rules of `setup_port_flows`, and puts it on queue 0 or on
one of the data queues.  In distributor mode one loop takes all the frames of a port; some it gives
to workers, which take them up later.  Which frames a card steers is left open but for what the
rules ask of it.

What one mode does with the packets of a port is a system that answers at once, what the other does
is one that puts work off.
-/
import FastRG.DpRx
import FastRG.Lib.Deferred

namespace FastRG

/-! ### Steering -/

/-- The headers of a frame where `parse_l2_hdr` looks for them. -/
def Mbuf.parsed (pkt : Mbuf) : Mbuf :=
  { pkt with ethHdr := pkt.dataOff.toNat, vlanHdr := pkt.dataOff.toNat + etherHdrLen }

/-- IPv4 with TCP or UDP after `ip`. -/
def isL4 (ip : Octets) : Prop := ip 9 = ipprotoTcp ∨ ip 9 = ipprotoUdp

instance (ip : Octets) : Decidable (isL4 ip) := inferInstanceAs (Decidable (_ ∨ _))

/-- The rules for port 0.  Those for IPv6 are best effort: a card may leave such frames on
queue 0. -/
structure LanSteering (steered : Mbuf → Bool) : Prop where
  only : ∀ pkt, steered pkt →
    (pkt.parsed.nextProto = frameTypeIp ∧ isL4 pkt.parsed.ip) ∨
      pkt.parsed.nextProto = frameTypeIpv6
  all : ∀ pkt, pkt.parsed.nextProto = frameTypeIp → isL4 pkt.parsed.ip → steered pkt

/-- The IPv4 header behind a PPPoE header. -/
def Mbuf.sessionIp (pkt : Mbuf) : Octets :=
  pkt.buf.beyond (pkt.ethHdr + ipv6L2Len + ipv6PppoeHdrLen)

/-- The rules for port 1.  The one of an i40e takes all IPv4 of a session. -/
structure WanSteering (i40e : Bool) (steered : Mbuf → Bool) : Prop where
  only : ∀ pkt, steered pkt → pkt.parsed.nextProto = ethPPppSes ∧
    ((pkt.parsed.pppProtocol = pppIpProtocol ∧ (isL4 pkt.parsed.sessionIp ∨ i40e)) ∨
      pkt.parsed.pppProtocol = pppIpv6Protocol)
  all : ∀ pkt, pkt.parsed.nextProto = ethPPppSes → pkt.parsed.pppProtocol = pppIpProtocol →
    isL4 pkt.parsed.sessionIp → steered pkt

/-! ### The systems -/

/-- The port with RSS. -/
def rssRx (steered : Mbuf → Bool) (dataRx ctrlRx : DpEnv → DpNode → Mbuf →
    DpFate × Option Nat × DpNode) (env : DpEnv) (pkt : Mbuf) (node : DpNode) : DpFate × DpNode :=
  let (fate, _, node) := if steered pkt then dataRx env node pkt else ctrlRx env node pkt
  (fate, node)

/-- The loop that fans out. -/
def distFront (distRx : DpEnv → DpNode → Mbuf → DpFate × Option Nat × DpNode) (env : DpEnv)
    (pkt : Mbuf) (node : DpNode) : (DpFate ⊕ Mbuf × Nat) × DpNode :=
  match distRx env node pkt with
  | (.worker _ pkt, some ccbId, node) => (.inr (pkt, ccbId), node)
  | (fate, _, node) => (.inl fate, node)

/-- A worker; the subscriber is the one the packet was marked with. -/
def distBack (processPkt : DpEnv → DpNode → DpCcb → Mbuf → DpFate × DpCcb) (env : DpEnv)
    (job : Mbuf × Nat) (node : DpNode) : DpFate × DpNode :=
  let (fate, ccb) := processPkt env node (node.ccb job.2) job.1
  (fate, node.setCcb job.2 ccb)

def lanModes (steered : Mbuf → Bool) : Deferred DpNode DpEnv Mbuf (Mbuf × Nat) DpFate where
  direct := rssRx steered lanDataRx lanCtrlRx
  front := distFront lanDistRx
  back := distBack dpLanDistWorkerProcessPkt

def wanModes (steered : Mbuf → Bool) : Deferred DpNode DpEnv Mbuf (Mbuf × Nat) DpFate where
  direct := rssRx steered wanDataRx wanCtrlRx
  front := distFront wanDistRx
  back := distBack dpWanDistWorkerProcessPkt

/-! ### What is compared -/

/-- Where a packet goes, but for what makes no difference outside: whether a reply crosses a ring,
whether a dropped packet is dropped again, and a checksum that was cleared in a message to the
DNS proxy. -/
def DpFate.plain : DpFate → DpFate
  | .dropTwice => .drop .lan
  | .reply _ pkt => .reply false pkt
  | .toCp .dns .wan pkt => .toCp .dns .wan pkt.clearIpCksum
  | fate => fate

/-- What `lan_dist_rx` goes by when it gives a frame of a subscriber to a worker, but for the
gates. -/
structure LanSettings where
  dhcpServerIp : BitVec 32
  subnetMask : BitVec 32
  ipv6Enabled : Bool
  hsiIpv6LanPrefix : BitVec 64

def DpCcb.lanSettings (ccb : DpCcb) : LanSettings :=
  ⟨ccb.dhcpServerIp, ccb.subnetMask, ccb.ipv6Enabled, ccb.hsiIpv6LanPrefix⟩

/-- And of all of them. -/
structure LanConf where
  hsiLanMac : BitVec 48
  userCount : BitVec 16
  vlanUseridMap : Nat → BitVec 16
  settings : Nat → LanSettings

def DpNode.lanConf (node : DpNode) : LanConf :=
  ⟨node.hsiLanMac, node.userCount, node.vlanUseridMap, fun i => (node.ccb i).lanSettings⟩

/-- What `wan_dist_rx` goes by. -/
structure WanSettings where
  ipv6DpBool : Bool
  hsiIpv6LanPrefix : BitVec 64
  dnsProxyEnabled : Bool

def DpCcb.wanSettings (ccb : DpCcb) : WanSettings :=
  ⟨ccb.ipv6DpBool, ccb.hsiIpv6LanPrefix, ccb.dnsProxyEnabled⟩

structure WanConf where
  i40e : Bool
  userCount : BitVec 16
  vlanUseridMap : Nat → BitVec 16
  settings : Nat → WanSettings

def DpNode.wanConf (node : DpNode) : WanConf :=
  ⟨node.i40e, node.userCount, node.vlanUseridMap, fun i => (node.ccb i).wanSettings⟩

/-- An mbuf as a card fills it: in one segment, and with room in front. -/
structure Mbuf.Roomy (pkt : Mbuf) : Prop where
  front : pppoesHdrLen ≤ pkt.dataOff.toNat + ipv6L2Len
  back : pkt.dataOff.toNat + ipv6L2Len < 65536
  oneSegment : pkt.pktLen.setWidth 16 = pkt.dataLen

/-- A session frame carries a protocol of PPP that the node knows. -/
def Mbuf.SpeaksPpp (pkt : Mbuf) : Prop :=
  pkt.nextProto = ethPPppSes →
    isPppControl pkt.pppProtocol ∨ pkt.pppProtocol = pppIpProtocol ∨
      pkt.pppProtocol = pppIpv6Protocol

/-- The node without the hosts' addresses it has learned. -/
def DpCcb.forgetMacs (ccb : DpCcb) : DpCcb := { ccb with macTable := none }

def DpNode.forgetMacs (node : DpNode) : DpNode :=
  { node with ccb := fun i => (node.ccb i).forgetMacs }

end FastRG
