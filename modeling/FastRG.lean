import FastRG.DpCodec
import FastRG.Proofs.TcpConntrack
import FastRG.Proofs.TcpHandshake
import FastRG.Proofs.NatAgreement
import FastRG.Proofs.NatDelivery
import FastRG.Proofs.NatSearch
import FastRG.Proofs.PortForward
import FastRG.Proofs.FirewallIcmp6
import FastRG.Proofs.Recreate
import FastRG.Proofs.Refused
import FastRG.Proofs.DhcpLease
import FastRG.Proofs.DhcpUsable
import FastRG.Proofs.DhcpCoherent
import FastRG.Proofs.DhcpDecline
import FastRG.Proofs.DhcpPadding
import FastRG.Proofs.PppCalls
import FastRG.Proofs.PppReturns
import FastRG.Proofs.PppFrames
import FastRG.Proofs.PppRefine
import FastRG.Proofs.PppDiscovery
import FastRG.Proofs.PppTeardown
import FastRG.Proofs.PppAtomic
import FastRG.Proofs.PppRetransmit
import FastRG.Proofs.DnsCached
import FastRG.Proofs.DnsRelay
import FastRG.Proofs.WanUdp
import FastRG.Proofs.Dhcp6Lease
import FastRG.Proofs.SnapshotEdits
import FastRG.Proofs.ApplyAtomic
import FastRG.Proofs.VlanMap
import FastRG.Proofs.EtcdOrder
import FastRG.Proofs.SnapshotSerial
import FastRG.Proofs.CliRequests
import FastRG.Proofs.KafkaAcks
import FastRG.Proofs.SessionGates
import FastRG.Proofs.PadrEcho
import FastRG.Proofs.TcpLease
import FastRG.Proofs.TcpPayload
import FastRG.Proofs.IcmpEcho
import FastRG.Proofs.NatRewrites
import FastRG.Proofs.CtrlTx
import FastRG.Proofs.DhcpReplies
import FastRG.Proofs.PppAuth
import FastRG.Proofs.SnapshotVersions
import FastRG.Proofs.PortReconcile
import FastRG.Proofs.DnsStaticSet
import FastRG.Proofs.DnsCacheBound
import FastRG.Proofs.DnsFailover
import FastRG.Proofs.DnsExact
import FastRG.Proofs.DnsComplete
import FastRG.Proofs.DnsBuilt
import FastRG.Proofs.DnsFresh
import FastRG.Proofs.PppBuilt
import FastRG.Proofs.MergeLaw
import FastRG.Proofs.ConfigText
import FastRG.Proofs.Dhcp6Messages
import FastRG.Proofs.OptWalk
import FastRG.Proofs.PppWalks
import FastRG.Lib.Stamped
import FastRG.Proofs.Nd6Aging
import FastRG.Proofs.PdumpCapture
import FastRG.Proofs.SubscriberCapacity
import FastRG.Proofs.DpIpv6
import FastRG.Proofs.HsiValue
import FastRG.Proofs.ArpPending
import FastRG.Proofs.GcRound
import FastRG.Proofs.WanModes
import FastRG.Proofs.TxQueues
