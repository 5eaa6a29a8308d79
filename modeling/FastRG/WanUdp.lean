/-
A UDP packet from the WAN session: the branch of `wan_dist_rx` and `wan_data_rx` that is taken
once the PPPoE header is off.

While the DNS proxy is enabled, a packet from port 53 goes to the control plane and to the proxy,
and is freed there: what the proxy does not relay is gone.  Every other packet goes to the
translator.
-/
import FastRG.DpCodec
import FastRG.Dnsd

namespace FastRG

/-- What becomes of the packet. -/
inductive WanUdpAction
  /-- Handled by the translator. -/
  | decaps (action : DecapsAction)
  /-- Consumed by the proxy, which sent this. -/
  | proxy (event : DnsEvent)
  /-- Freed by the control plane. -/
  | freed
  deriving DecidableEq

/-- The IPv4 header of the packet. -/
def ipv4HdrOf (pkt : List (BitVec 8)) : Ipv4Hdr :=
  ⟨pkt.getD dnsIpOffset 0, le16At pkt (dnsIpOffset + 2), le32At pkt (dnsIpOffset + 12),
    le32At pkt (dnsIpOffset + 16)⟩

def udpSrcPort (pkt : List (BitVec 8)) : BitVec 16 := le16At pkt dnsL4Offset
def udpDstPort (pkt : List (BitVec 8)) : BitVec 16 := le16At pkt (dnsL4Offset + 2)

/-- The packet is from a DNS server's port, and the proxy is enabled. -/
def divertsToProxy (proxy : DnsProxyState) (pkt : List (BitVec 8)) : Bool :=
  udpSrcPort pkt == swap16 dnsPort && proxy.dnsProxyEnabled

/-- The UDP branch of `wan_dist_rx`, with what the control plane or a worker then does. -/
def wanUdpRx (hz now : Nat) (macTable : Option MacTable) (ccb : NatCcb) (proxy : DnsProxyState)
    (pkt : List (BitVec 8)) : WanUdpAction × NatCcb × DnsProxyState :=
  if divertsToProxy proxy pkt then
    match dnsdCpProcessWanUdpResponse hz now proxy pkt with
    | (some event, proxy) => (.proxy event, ccb, proxy)
    | (none, proxy) => (.freed, ccb, proxy)
  else
    match decapsUdp hz now macTable ccb (ipv4HdrOf pkt) (udpSrcPort pkt) (udpDstPort pkt) with
    | (action, ccb) => (.decaps action, ccb, proxy)

end FastRG
