/-
When a refused segment leaves the connection it was refused for alone.

Both inbound paths look a segment's mapping or session up, refresh it, and only then ask
connection tracking about the segment.  One that is refused is dropped and changes no
state, no flag and no baseline; but the refresh has happened.  It writes nothing if the
deadline is at most a second short of the one it would set, and for IPv6 if the last stamp
is at most a second old.  `refused_untouched_iff` says that this is exactly when the entry
is as it was; and a stream of segments refused in such moments changes nothing at all.
-/
import FastRG.DpCodec
import FastRG.Proofs.FirewallDeny

namespace FastRG

variable {hz now i : Nat}

/-! ### The IPv4 path -/

/-- The segment matches the mapping in slot `i`, which is alive, and tracking refuses it. -/
structure NatRefuses (now : Nat) (ccb : NatCcb) (ip : Ipv4Hdr) (tcp : TcpHdr) (i : Nat) :
    Prop where
  enabled : ccb.tcpConntrackEnabled = true
  linked : ccb.natReverseHash.lookup ⟨ip.srcAddr, tcp.dstPort, tcp.srcPort⟩ = some i
  unexpired : now ≤ ccb.natExpireAt i
  refused : tcpConntrackWanOk (tcpConntrackNatView ccb i) tcp = false

/-- The mapping in slot `i` is as it was: deadline, state, flags and baselines. -/
structure NatUntouched (s t : NatCcb) (i : Nat) : Prop where
  deadline : t.natExpireAt i = s.natExpireAt i
  entry : t.addrTable i = s.addrTable i

/-- The deadline is at most a second short of what a refresh would set it to. -/
def NatFresh (hz now : Nat) (ccb : NatCcb) (i : Nat) : Prop :=
  natExpiryCycles hz now ≤ ccb.natExpireAt i + natExpireCoalesceSec * hz

/-- A refused segment is dropped, and all that is left of it is the refresh. -/
theorem decapsTcp_refused {ccb : NatCcb} {ip : Ipv4Hdr} {tcp : TcpHdr} (macTable : Option MacTable)
    (h : NatRefuses now ccb ip tcp i) :
    decapsTcp hz now macTable ccb ip tcp = (.drop, natEntryRefresh hz now ccb i) := by
  have hlookup : natReverseLookup hz now ccb tcp.dstPort ip.srcAddr tcp.srcPort
      = (some i, natEntryRefresh hz now ccb i) := by
    have hexp : natEntryIsExpired now ccb i = false := by
      have hle := h.unexpired
      simp only [natEntryIsExpired, gt_iff_lt, decide_eq_false_iff_not]
      omega
    simp only [natReverseLookup, h.linked, hexp, Bool.false_eq_true, if_false]
  have hrefused : tcpConntrackWanOk (tcpConntrackNatView (natEntryRefresh hz now ccb i) i) tcp
      = false := h.refused
  have henabled : (natEntryRefresh hz now ccb i).tcpConntrackEnabled = true := h.enabled
  unfold decapsTcp
  rw [hlookup]
  simp only [hrefused, henabled, Bool.false_eq_true, if_false, if_true]

theorem natEntryRefresh_untouched_iff (hz now : Nat) (ccb : NatCcb) (i : Nat) :
    NatUntouched ccb (natEntryRefresh hz now ccb i) i ↔ NatFresh hz now ccb i := by
  have hdeadline : (natEntryRefresh hz now ccb i).natExpireAt i
      = natExpireRefresh hz (ccb.natExpireAt i) (natExpiryCycles hz now) :=
    Function.update_self _ _ _
  refine ⟨?_, ?_⟩
  · intro h
    exact (natExpireRefresh_eq_self_iff _ _ _).mp (hdeadline.symm.trans h.deadline)
  · intro h
    exact ⟨hdeadline.trans ((natExpireRefresh_eq_self_iff _ _ _).mpr h), rfl⟩

theorem natEntryRefresh_eq_self {ccb : NatCcb} (h : NatFresh hz now ccb i) :
    natEntryRefresh hz now ccb i = ccb := by
  unfold natEntryRefresh
  rw [(natExpireRefresh_eq_self_iff _ _ _).mpr h, Function.update_eq_self]

/-! ### The IPv6 path -/

/-- The TCP header behind the IPv6 header. -/
def Ipv6Packet.tcpHdr (pkt : Ipv6Packet) : TcpHdr :=
  (readTcpHdr pkt.mem (pkt.ip6 + ipv6HdrLen)).val

/-- The segment matches the session in slot `i`, which is alive, and tracking refuses it. -/
structure FwRefuses (now : Nat) (ccb : Ipv6FirewallCcb) (pkt : Ipv6Packet) (i : Nat) : Prop where
  enabled : ccb.tcpConntrackEnabled = true
  tcp : pkt.proto = ipprotoTcp
  whole : tcpHdrLen ≤ pkt.payloadLen
  linked : ∃ k, pkt.key true = some k ∧ ccb.hash.lookup k = some i
  unexpired : now ≤ ccb.expireAt i
  refused : tcpConntrackWanOk (ipv6FirewallConntrackView ccb i) pkt.tcpHdr = false

/-- The session in slot `i` is as it was: deadline, stamp, state, flags and baselines. -/
structure FwUntouched (s t : Ipv6FirewallCcb) (i : Nat) : Prop where
  deadline : t.expireAt i = s.expireAt i
  stamp : t.lastUsed i = s.lastUsed i
  entry : t.table i = s.table i

/--
The deadline is at most a second short of what a refresh would set it to, and the stamp is
at most a second old, and not ahead of the clock.
-/
structure FwFresh (hz now : Nat) (ccb : Ipv6FirewallCcb) (i : Nat) : Prop where
  deadline : ipv6FirewallExpiryCycles hz now ≤ ccb.expireAt i + natExpireCoalesceSec * hz
  stamped : ccb.lastUsed i ≤ now
  recent : now ≤ ccb.lastUsed i + natExpireCoalesceSec * hz

theorem isIcmp6Error_of_tcp {pkt : Ipv6Packet} (h : pkt.proto = ipprotoTcp) :
    pkt.isIcmp6Error = false := by
  have hproto : (ip6Proto pkt.mem pkt.ip6).val = ipprotoTcp := h
  have hne : ¬ ipprotoTcp = ipprotoIcmpv6 := by decide
  unfold Ipv6Packet.isIcmp6Error ip6IsIcmp6Error
  simp only [Rd.val_bind, hproto, hne, false_and, if_false, Rd.val_pure]

/-- A refused segment is not forwarded, and all that is left of it is the mark. -/
theorem inboundPass_refused {ccb : Ipv6FirewallCcb} {pkt : Ipv6Packet}
    (h : FwRefuses now ccb pkt i) :
    (ipv6FirewallInboundPass hz now ccb pkt.mem pkt.ip6).val
      = (false, ipv6FirewallMarkUsed hz now ccb i) := by
  obtain ⟨k, hkey, hk⟩ := h.linked
  have herr : (ip6IsIcmp6Error pkt.mem pkt.ip6).val = false := isIcmp6Error_of_tcp h.tcp
  have hlive : ipv6FirewallLookupLive now ccb k = (some i, ccb) := by
    have hexp : ipv6FirewallEntryIsExpired now ccb i = false := by
      have hle := h.unexpired
      simp only [ipv6FirewallEntryIsExpired, gt_iff_lt, decide_eq_false_iff_not]
      omega
    simp only [ipv6FirewallLookupLive, ipv6FirewallLookup, hk, hexp, Bool.false_eq_true, if_false]
  have hfromPacket : (ipv6FirewallKeyFromPacket pkt.mem pkt.ip6
      (ip6PayloadLen pkt.mem pkt.ip6).val.toNat true).val = some k := hkey
  have hproto : ¬ (ip6Proto pkt.mem pkt.ip6).val ≠ ipprotoTcp := not_not_intro h.tcp
  have hwhole : ¬ (ip6PayloadLen pkt.mem pkt.ip6).val.toNat < tcpHdrLen := Nat.not_lt.mpr h.whole
  have hrefused : tcpConntrackWanOk
      (ipv6FirewallConntrackView (ipv6FirewallMarkUsed hz now ccb i) i)
      (readTcpHdr pkt.mem (pkt.ip6 + ipv6HdrLen)).val = false := h.refused
  have henabled : (ipv6FirewallMarkUsed hz now ccb i).tcpConntrackEnabled = true := h.enabled
  unfold ipv6FirewallInboundPass
  simp only [Rd.val_bind, herr, Bool.false_eq_true, if_false, hfromPacket, hlive, hproto]
  unfold ipv6FirewallTcpInboundPass
  rw [if_neg hwhole]
  simp only [Rd.val_bind, hrefused, henabled, Bool.false_eq_true, if_false, Rd.val_pure,
    Bool.not_true]

theorem markUsed_untouched_iff (hz now : Nat) (ccb : Ipv6FirewallCcb) (i : Nat) :
    FwUntouched ccb (ipv6FirewallMarkUsed hz now ccb i) i ↔ FwFresh hz now ccb i := by
  have hdeadline : (ipv6FirewallMarkUsed hz now ccb i).expireAt i
      = natExpireRefresh hz (ccb.expireAt i) (ipv6FirewallExpiryCycles hz now) :=
    Function.update_self _ _ _
  have hstamp : (ipv6FirewallMarkUsed hz now ccb i).lastUsed i
      = if now < ccb.lastUsed i ∨ now - ccb.lastUsed i > natExpireCoalesceSec * hz then now
        else ccb.lastUsed i := Function.update_self _ _ _
  have hkept : (ipv6FirewallMarkUsed hz now ccb i).lastUsed i = ccb.lastUsed i ↔
      ccb.lastUsed i ≤ now ∧ now ≤ ccb.lastUsed i + natExpireCoalesceSec * hz := by
    rw [hstamp]
    split
    · constructor <;> intro h <;> omega
    · refine ⟨?_, ?_⟩
      · intro _
        omega
      · intro _
        rfl
  refine ⟨?_, ?_⟩
  · intro h
    obtain ⟨hle, hrecent⟩ := hkept.mp h.stamp
    exact ⟨(natExpireRefresh_eq_self_iff _ _ _).mp (hdeadline.symm.trans h.deadline), hle, hrecent⟩
  · intro h
    exact ⟨hdeadline.trans ((natExpireRefresh_eq_self_iff _ _ _).mpr h.deadline),
      hkept.mpr ⟨h.stamped, h.recent⟩, rfl⟩

theorem markUsed_eq_self {ccb : Ipv6FirewallCcb} (h : FwFresh hz now ccb i) :
    ipv6FirewallMarkUsed hz now ccb i = ccb := by
  have hdeadline : natExpireRefresh hz (ccb.expireAt i) (now + ipv6FirewallEntryTimeoutSec * hz)
      = ccb.expireAt i := (natExpireRefresh_eq_self_iff _ _ _).mpr h.deadline
  have hstamp : ¬ (now < ccb.lastUsed i ∨ now - ccb.lastUsed i > natExpireCoalesceSec * hz) := by
    have hle := h.stamped
    have hrecent := h.recent
    omega
  unfold ipv6FirewallMarkUsed
  simp only [hdeadline, hstamp, if_false, Function.update_eq_self]

/-! ### Refused segments -/

/-- A segment from the WAN and when it arrives. -/
structure WanSegment where
  now : Nat
  ip : Ipv4Hdr
  tcp : TcpHdr

/-- The segment is refused for a mapping that a refresh does not change. -/
def NatRefusesFresh (hz : Nat) (ccb : NatCcb) (l : WanSegment) : Prop :=
  ∃ i, NatRefuses l.now ccb l.ip l.tcp i ∧ NatFresh hz l.now ccb i

/-- The segment is refused for a session that a mark does not change. -/
def FwRefusesFresh (hz : Nat) (ccb : Ipv6FirewallCcb) (l : Ipv6FirewallLabel) : Prop :=
  ∃ pkt i, l.op = .inbound pkt ∧ FwRefuses l.now ccb pkt i ∧ FwFresh hz l.now ccb i

/--
**When a refused segment leaves no trace.**  With connection tracking enforced, a segment
that matches a live mapping or session and is refused is dropped; and the entry it matched
is as before exactly if the deadline is at most a second short of what a refresh would set
it to, and for IPv6 the stamp is at most a second old.  Any stream of segments that are all
refused under this condition leaves the whole state as it was.
-/
theorem refused_untouched_iff (hz : Nat) (macTable : Option MacTable) :
    (∀ now ccb ip tcp i, NatRefuses now ccb ip tcp i →
      (decapsTcp hz now macTable ccb ip tcp).1 = .drop ∧
        (NatUntouched ccb (decapsTcp hz now macTable ccb ip tcp).2 i ↔ NatFresh hz now ccb i)) ∧
    (∀ now ccb pkt i, FwRefuses now ccb pkt i →
      pkt.passes hz now ccb = false ∧
        (FwUntouched ccb (ipv6FirewallInboundPass hz now ccb pkt.mem pkt.ip6).val.2 i ↔
          FwFresh hz now ccb i)) ∧
    (∀ s ls s', Run (fun s l => (decapsTcp hz l.now macTable s l.ip l.tcp).2)
      (NatRefusesFresh hz) s ls s' → s' = s) ∧
    (∀ s ls s', Run (ipv6FirewallStep hz) (FwRefusesFresh hz) s ls s' → s' = s) := by
  refine ⟨?_, ?_, ?_,
    ?_⟩
  · intro now ccb ip tcp i h
    rw [decapsTcp_refused macTable h]
    exact ⟨rfl, natEntryRefresh_untouched_iff hz now ccb i⟩
  · intro now ccb pkt i h
    unfold Ipv6Packet.passes
    rw [inboundPass_refused h]
    exact ⟨rfl, markUsed_untouched_iff hz now ccb i⟩
  · intro s ls s' hrun
    refine hrun.inv (fun t => t = s) ?_ rfl
    intro t l heq hguard
    subst heq
    obtain ⟨i, h, hfresh⟩ := hguard
    rw [decapsTcp_refused macTable h]
    exact natEntryRefresh_eq_self hfresh
  · intro s ls s' hrun
    refine hrun.inv (fun t => t = s) ?_ rfl
    intro t l heq hguard
    subst heq
    obtain ⟨pkt, i, hop, h, hfresh⟩ := hguard
    unfold ipv6FirewallStep
    rw [hop]
    show (ipv6FirewallInboundPass hz l.now t pkt.mem pkt.ip6).val.2 = t
    rw [inboundPass_refused h]
    exact markUsed_eq_self hfresh

/-- 192.168.1.6 opens a connection over IPv4, and its peer sends an acknowledgement. -/
def synIp : Ipv4Hdr := ⟨0x45, 40, 0x0601a8c0, 0x22d8b85d⟩
def synTcp : TcpHdr := ⟨0xb09c, 0xbb01, 1000, 0, 0x50, rteTcpSynFlag, 64240⟩
def ackIp : Ipv4Hdr := ⟨0x45, 40, 0x22d8b85d, 0x0100007f⟩
def ackTcp : TcpHdr := ⟨0xbb01, 0x4704, 5000, 1001, 0x50, rteTcpAckFlag, 64240⟩

/-- The same over IPv6, from 2001:db8::a. -/
def synPkt : Ipv6Packet := .ofBytes
  [0x60, 0, 0, 0, 0, 20, 6, 64,
    0x20, 0x01, 0x0d, 0xb8, 0, 0, 0, 0, 0, 0, 0, 0, 0, 0, 0, 0x0a,
    0x20, 0x01, 0x0d, 0xb8, 0, 1, 0, 0, 0, 0, 0, 0, 0, 0, 0, 0x53,
    0xc3, 0x50, 0x01, 0xbb, 0, 0, 0x03, 0xe8, 0, 0, 0, 0, 0x50, 0x02, 0xfa, 0xf0, 0, 0, 0, 0]
def ackPkt : Ipv6Packet := .ofBytes
  [0x60, 0, 0, 0, 0, 20, 6, 64,
    0x20, 0x01, 0x0d, 0xb8, 0, 1, 0, 0, 0, 0, 0, 0, 0, 0, 0, 0x53,
    0x20, 0x01, 0x0d, 0xb8, 0, 0, 0, 0, 0, 0, 0, 0, 0, 0, 0, 0x0a,
    0x01, 0xbb, 0xc3, 0x50, 0, 0, 0x13, 0x88, 0, 0, 0x03, 0xe9, 0x50, 0x10, 0xfa, 0xf0, 0, 0, 0, 0]

/-- The mapping and the session right after the first segment. -/
def natSynSent : NatLearned :=
  natTcpLearning rteHashCrc4byte 1000 5 (fun _ => ⟨⟨0, 0, 0⟩, true, true⟩)
    (natTableInit natBlank) 0x020000000001 synIp synTcp
def fwSynSent : Ipv6FirewallCcb :=
  ipv6FirewallStep 1000 (ipv6FirewallTableInit ipv6FirewallBlank)
    ⟨5, .learn synPkt ⟨0, 0, true⟩⟩

set_option maxRecDepth 8000 in
theorem natSynSent_deadline : natSynSent.ccb.natExpireAt 0 = 30005 := by
  rw [natSynSent, natTableInit_eq]
  decide

set_option maxRecDepth 8000 in
/-- Nothing but an answer to the first segment is let in. -/
theorem natSynSent_refuses (hnow : now ≤ 30005) :
    NatRefuses now natSynSent.ccb ackIp ackTcp 0 where
  enabled := by
    rw [natSynSent, natTableInit_eq]
    decide
  linked := by
    rw [natSynSent, natTableInit_eq]
    decide
  unexpired := by
    rw [natSynSent_deadline]
    exact hnow
  refused := by
    rw [natSynSent, natTableInit_eq]
    decide

theorem fwSynSent_refuses : FwRefuses 2000 fwSynSent ackPkt 0 := by
  rw [fwSynSent, ipv6FirewallTableInit_eq]
  refine ⟨by decide, by decide, by decide, ?_, by decide, by decide⟩
  exact ⟨_, rfl, by decide⟩

/-- Five seconds later the mapping's deadline is still far enough out. -/
theorem refused_untouched_early :
    NatUntouched natSynSent.ccb (decapsTcp 1000 5000 none natSynSent.ccb ackIp ackTcp).2 0 := by
  have hfresh : NatFresh 1000 5000 natSynSent.ccb 0 := by
    unfold NatFresh
    rw [natSynSent_deadline]
    decide
  exact ((refused_untouched_iff 1000 none).1 5000 natSynSent.ccb ackIp ackTcp 0
    (natSynSent_refuses (by decide))).2.mpr hfresh

/--
After twenty-five seconds the acknowledgement is refused just the same, and puts the
mapping's deadline five seconds further out.  Over IPv6 the stamp is renewed already after
two seconds.
-/
theorem refused_refreshes :
    (¬ ∀ now ip tcp i, NatRefuses now natSynSent.ccb ip tcp i →
      NatUntouched natSynSent.ccb (decapsTcp 1000 now none natSynSent.ccb ip tcp).2 i) ∧
    ¬ ∀ now pkt i, FwRefuses now fwSynSent pkt i →
      FwUntouched fwSynSent
        (ipv6FirewallInboundPass 1000 now fwSynSent pkt.mem pkt.ip6).val.2 i := by
  refine ⟨?_, ?_⟩
  · intro h
    have hrefused : NatRefuses 25000 natSynSent.ccb ackIp ackTcp 0 := natSynSent_refuses (by decide)
    have hfresh := h 25000 ackIp ackTcp 0 hrefused
    rw [decapsTcp_refused none hrefused, natEntryRefresh_untouched_iff] at hfresh
    unfold NatFresh at hfresh
    rw [natSynSent_deadline] at hfresh
    exact absurd hfresh (by decide)
  · intro h
    have hfresh := h 2000 ackPkt 0 fwSynSent_refuses
    rw [inboundPass_refused fwSynSent_refuses, markUsed_untouched_iff] at hfresh
    have hrecent := hfresh.recent
    rw [fwSynSent, ipv6FirewallTableInit_eq] at hrecent
    exact absurd hrecent (by decide)

end FastRG
