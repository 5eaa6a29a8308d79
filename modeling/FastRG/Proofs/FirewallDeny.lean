/-
Nothing is let in that was not asked for.

An inbound packet passes only if its key leads to a session, and a key leads to a
session only since an outbound packet with that key put it there.  `openedBy_of_run`
carries the second half through a run: of every link in the table it finds the step that
made it, and that it has been there ever since.

What makes this a statement about packets is that the key is exactly the tuple.  Written
LAN side first, a packet and its reply have one tuple, and by `lanTuple_eq_of_key` two
packets of either direction have one key only if they have one tuple.
-/
import FastRG.Proofs.FirewallPool

namespace FastRG

/-! ### The tuple of a packet -/

/-- What identifies a flow behind the addresses and the protocol. -/
inductive L4Tuple
  | ports (lan remote : BitVec 16)
  | echo (ident : BitVec 16)
  deriving DecidableEq

/-- The tuple of a packet, LAN side first. -/
structure LanTuple where
  lanAddr : List (BitVec 8)
  remoteAddr : List (BitVec 8)
  proto : BitVec 8
  l4 : L4Tuple
  deriving DecidableEq

/-- A packet's tuple, LAN side first. -/
def Ipv6Packet.lanTuple (pkt : Ipv6Packet) (inbound : Bool) : LanTuple where
  lanAddr := if inbound then pkt.dst else pkt.src
  remoteAddr := if inbound then pkt.src else pkt.dst
  proto := pkt.proto
  l4 :=
    if pkt.proto = ipprotoIcmpv6 then .echo pkt.echoIdent
    else .ports (if inbound then pkt.dstPort else pkt.srcPort)
      (if inbound then pkt.srcPort else pkt.dstPort)

/-- Which packets have a key, if `l4Len` bytes behind the header may be read. -/
def Ipv6Packet.TrackableWithin (pkt : Ipv6Packet) (l4Len : Nat) (inbound : Bool) : Prop :=
  (pkt.proto = ipprotoTcp ∨ pkt.proto = ipprotoUdp) ∧ 4 ≤ l4Len ∨
    pkt.proto = ipprotoIcmpv6 ∧ icmp6PtbHdrLen ≤ l4Len ∧
      pkt.icmpType = if inbound then icmp6EchoReply else icmp6EchoRequest

/-- Which packets have a key at all. -/
def Ipv6Packet.Trackable (pkt : Ipv6Packet) (inbound : Bool) : Prop :=
  pkt.TrackableWithin pkt.payloadLen inbound

/-- The key a tuple is written as. -/
def LanTuple.key (t : LanTuple) : Ipv6FirewallKey :=
  match t.l4 with
  | .ports lan remote => ⟨t.lanAddr, t.remoteAddr, lan, remote, t.proto⟩
  | .echo ident => ⟨t.lanAddr, t.remoteAddr, ident, 0, t.proto⟩

theorem keyWithin_eq (pkt : Ipv6Packet) (l4Len : Nat) (inbound : Bool) :
    pkt.keyWithin l4Len inbound =
      if pkt.proto = ipprotoTcp ∨ pkt.proto = ipprotoUdp then
        if l4Len < 4 then none
        else some ⟨if inbound then pkt.dst else pkt.src, if inbound then pkt.src else pkt.dst,
          if inbound then pkt.dstPort else pkt.srcPort,
          if inbound then pkt.srcPort else pkt.dstPort, pkt.proto⟩
      else if pkt.proto = ipprotoIcmpv6 then
        if l4Len < icmp6PtbHdrLen then none
        else if pkt.icmpType ≠ (if inbound then icmp6EchoReply else icmp6EchoRequest) then none
        else some ⟨if inbound then pkt.dst else pkt.src, if inbound then pkt.src else pkt.dst,
          pkt.echoIdent, 0, pkt.proto⟩
      else none := by
  unfold Ipv6Packet.keyWithin ipv6FirewallKeyFromPacket
  simp only [Rd.val_bind, Rd.val_ite, Rd.val_pure]
  rfl

/-- A packet has a key exactly if it can be tracked, and then it is its tuple's. -/
theorem keyWithin_eq_some_iff {pkt : Ipv6Packet} {l4Len : Nat} {inbound : Bool}
    {k : Ipv6FirewallKey} :
    pkt.keyWithin l4Len inbound = some k ↔
      pkt.TrackableWithin l4Len inbound ∧ k = (pkt.lanTuple inbound).key := by
  rw [keyWithin_eq]
  unfold Ipv6Packet.TrackableWithin Ipv6Packet.lanTuple LanTuple.key
  by_cases hports : pkt.proto = ipprotoTcp ∨ pkt.proto = ipprotoUdp
  · have hicmp : pkt.proto ≠ ipprotoIcmpv6 := by
      rcases hports with h | h <;> rw [h] <;> decide
    simp only [hports, hicmp, if_true, if_false, true_and, false_and, or_false]
    by_cases hlen : l4Len < 4
    · simp [hlen, show ¬ 4 ≤ l4Len by omega]
    · simp [hlen, show 4 ≤ l4Len by omega, eq_comm]
  · by_cases hicmp : pkt.proto = ipprotoIcmpv6
    · have hother : ¬ (ipprotoIcmpv6 = ipprotoTcp ∨ ipprotoIcmpv6 = ipprotoUdp) := by decide
      simp only [hicmp, hother, if_true, if_false, true_and, false_and, false_or]
      by_cases hlen : l4Len < icmp6PtbHdrLen
      · simp [hlen, show ¬ icmp6PtbHdrLen ≤ l4Len by omega]
      · by_cases htype : pkt.icmpType = if inbound then icmp6EchoReply else icmp6EchoRequest
        · simp [hlen, htype, show icmp6PtbHdrLen ≤ l4Len by omega, eq_comm]
        · simp [hlen, htype]
    · simp [hports, hicmp]

theorem key_eq_some_iff {pkt : Ipv6Packet} {inbound : Bool} {k : Ipv6FirewallKey} :
    pkt.key inbound = some k ↔ pkt.Trackable inbound ∧ k = (pkt.lanTuple inbound).key :=
  keyWithin_eq_some_iff

/-- A tuple that belongs to its protocol: echo for ICMPv6, ports for anything else. -/
theorem lanTuple_l4 (pkt : Ipv6Packet) (inbound : Bool) :
    (∃ ident, (pkt.lanTuple inbound).l4 = .echo ident) ↔ pkt.proto = ipprotoIcmpv6 := by
  unfold Ipv6Packet.lanTuple
  by_cases hicmp : pkt.proto = ipprotoIcmpv6 <;> simp [hicmp]

/-- Two packets of either direction share a key only if they share a tuple. -/
theorem lanTuple_eq_of_key {pkt pkt' : Ipv6Packet} {inbound inbound' : Bool}
    (h : (pkt.lanTuple inbound).key = (pkt'.lanTuple inbound').key) :
    pkt.lanTuple inbound = pkt'.lanTuple inbound' := by
  have hproto : pkt.proto = pkt'.proto := by
    have hp := congrArg Ipv6FirewallKey.proto h
    unfold LanTuple.key at hp
    split at hp <;> split at hp <;> exact hp
  have hl4 := (lanTuple_l4 pkt inbound).trans
    ((Iff.of_eq (by rw [hproto])).trans (lanTuple_l4 pkt' inbound').symm)
  cases ht : pkt.lanTuple inbound with
  | mk lan remote proto l4 =>
      cases ht' : pkt'.lanTuple inbound' with
      | mk lan' remote' proto' l4' =>
          rw [ht, ht'] at h hl4
          cases l4 <;> cases l4' <;> simp_all [LanTuple.key]

/-! ### A packet and its reply -/

/-- `reply` answers `pkt`: addresses and ports swapped, or the echo answered in kind. -/
structure Mirrors (pkt reply : Ipv6Packet) : Prop where
  proto : reply.proto = pkt.proto
  addrs : reply.dst = pkt.src ∧ reply.src = pkt.dst
  ports : pkt.proto ≠ ipprotoIcmpv6 → reply.dstPort = pkt.srcPort ∧ reply.srcPort = pkt.dstPort
  echo : pkt.proto = ipprotoIcmpv6 → reply.echoIdent = pkt.echoIdent

theorem mirrors_iff {pkt reply : Ipv6Packet} :
    Mirrors pkt reply ↔ pkt.lanTuple false = reply.lanTuple true := by
  unfold Ipv6Packet.lanTuple
  refine ⟨?_, ?_⟩
  · intro hmirror
    obtain ⟨hproto, ⟨hdst, hsrc⟩, hports, hecho⟩ := hmirror
    by_cases hicmp : pkt.proto = ipprotoIcmpv6
    · simp [hproto, hdst, hsrc, hicmp, hecho hicmp]
    · simp [hproto, hdst, hsrc, hicmp, hports hicmp]
  · intro h
    simp only [LanTuple.mk.injEq, Bool.false_eq_true, if_false, if_true] at h
    obtain ⟨hlan, hremote, hproto, hl4⟩ := h
    rw [hproto] at hl4
    refine ⟨hproto.symm, ⟨hlan.symm, hremote.symm⟩, ?_, ?_⟩
    · intro hicmp
      rw [hproto] at hicmp
      rw [if_neg hicmp, if_neg hicmp] at hl4
      obtain ⟨h1, h2⟩ := L4Tuple.ports.inj hl4
      exact ⟨h1.symm, h2.symm⟩
    · intro hicmp
      rw [hproto] at hicmp
      rw [if_pos hicmp, if_pos hicmp] at hl4
      exact (L4Tuple.echo.inj hl4).symm

/-! ### Where a link comes from -/

variable {hz : Nat} {s : Ipv6FirewallCcb} {k : Ipv6FirewallKey} {i : Nat}

/-- A link that is there after a step was there before it, or the step opened it. -/
theorem lookup_of_step {l : Ipv6FirewallLabel}
    (hk : (ipv6FirewallStep hz s l).hash.lookup k = some i) :
    s.hash.lookup k = some i ∨ s.hash.lookup k = none ∧
      ∃ pkt chance, l.op = .learn pkt chance ∧ pkt.key false = some k := by
  rcases ipv6FirewallStep_learned hz s l with hmoves | ⟨pkt, chance, key, hop, hkey, hlearned⟩
  · exact Or.inl (hmoves.lookup hk)
  · cases hlearned with
    | kept hmoves => exact Or.inl (hmoves.lookup hk)
    | @opened s₁ _ hnone h₁ hpub h₂ =>
        cases hpub with
        | @intro _ _ hash _ _ _ hadd =>
            have hk₂ : hash.lookup k = some i := h₂.lookup hk
            by_cases hne : k = key
            · subst hne
              exact Or.inr ⟨hnone, pkt, chance, hop, hkey⟩
            · rw [Rte.Hash.lookup_addKeyData hadd, if_neg hne] at hk₂
              exact Or.inl (h₁.lookup hk₂)

/-- The link is in place when a step begins. -/
def Linked (k : Ipv6FirewallKey) (i : Nat) (s : Ipv6FirewallCcb) (_ : Ipv6FirewallLabel) : Prop :=
  s.hash.lookup k = some i

/-- The outbound packet `pkt` opened `k ↦ i` at some step, and it has been there since. -/
structure OpenedBy (hz : Nat) (s₀ : Ipv6FirewallCcb) (ls : List Ipv6FirewallLabel)
    (k : Ipv6FirewallKey) (i : Nat) (s : Ipv6FirewallCcb) (pkt : Ipv6Packet) : Prop where
  key : pkt.key false = some k
  linked : s.hash.lookup k = some i
  history : ∃ ls₁ l ls₂ s₁ chance, ls = ls₁ ++ l :: ls₂ ∧
    Run (ipv6FirewallStep hz) (fun _ _ => True) s₀ ls₁ s₁ ∧
    l.op = .learn pkt chance ∧ s₁.hash.lookup k = none ∧
    Run (ipv6FirewallStep hz) (Linked k i) (ipv6FirewallStep hz s₁ l) ls₂ s

/-- A link to be found after a run from an empty table was opened during the run. -/
theorem openedBy_of_run {s₀ : Ipv6FirewallCcb} {ls : List Ipv6FirewallLabel}
    (hempty : ∀ k, s₀.hash.lookup k = none)
    (hrun : Run (ipv6FirewallStep hz) (fun _ _ => True) s₀ ls s)
    (hk : s.hash.lookup k = some i) : ∃ pkt, OpenedBy hz s₀ ls k i s pkt := by
  induction hrun with
  | nil => simp [hempty k] at hk
  | @snoc ls s' h l _ ih =>
      rcases lookup_of_step hk with hbefore | ⟨hnone, pkt, chance, hop, hkey⟩
      · -- the step kept the link, so it only makes its history longer
        obtain ⟨pkt, hkey, -, ls₁, l₁, ls₂, s₁, chance, rfl, h₁, hop, hnone, h₂⟩ := ih hbefore
        refine ⟨pkt, hkey, hk, ls₁, l₁, ls₂ ++ [l], s₁, chance, ?_, h₁, hop, hnone, ?_⟩
        · rw [List.append_assoc, List.cons_append]
        · exact h₂.snoc l hbefore
      · exact ⟨pkt, hkey, hk, ls, l, [], s', chance, rfl, h, hop, hnone, .nil⟩

/-! ### What it takes to pass -/

/-- Whether a packet from the WAN is an ICMPv6 error message. -/
def Ipv6Packet.isIcmp6Error (pkt : Ipv6Packet) : Bool := (ip6IsIcmp6Error pkt.mem pkt.ip6).val

/-- Whether a packet from the WAN is forwarded. -/
def Ipv6Packet.passes (pkt : Ipv6Packet) (hz now : Nat) (s : Ipv6FirewallCcb) : Bool :=
  (ipv6FirewallInboundPass hz now s pkt.mem pkt.ip6).val.1

theorem ipv6FirewallLookupLive_eq_some {now : Nat} {s' : Ipv6FirewallCcb}
    (h : ipv6FirewallLookupLive now s k = (some i, s')) :
    s.hash.lookup k = some i ∧ now ≤ s.expireAt i ∧ s' = s := by
  unfold ipv6FirewallLookupLive ipv6FirewallLookup at h
  cases hk : s.hash.lookup k with
  | none =>
      rw [hk] at h
      simp at h
  | some j =>
      rw [hk] at h
      dsimp only at h
      by_cases hexp : ipv6FirewallEntryIsExpired now s j = true
      · rw [if_pos hexp] at h
        simp at h
      · rw [if_neg hexp] at h
        obtain ⟨hj, hs⟩ := Prod.mk.inj h
        obtain rfl := Option.some.inj hj
        unfold ipv6FirewallEntryIsExpired at hexp
        refine ⟨rfl, ?_, hs.symm⟩
        simpa using hexp

/-- Errors apart, only a live session lets a packet in. -/
theorem session_of_passes {now : Nat} {pkt : Ipv6Packet} (herr : pkt.isIcmp6Error = false)
    (hpass : pkt.passes hz now s = true) :
    ∃ k i, pkt.key true = some k ∧ s.hash.lookup k = some i ∧ now ≤ s.expireAt i := by
  unfold Ipv6Packet.isIcmp6Error at herr
  unfold Ipv6Packet.passes ipv6FirewallInboundPass at hpass
  simp only [Rd.val_bind, herr, Bool.false_eq_true, if_false] at hpass
  unfold Ipv6Packet.key Ipv6Packet.keyWithin Ipv6Packet.payloadLen
  cases hkey : (ipv6FirewallKeyFromPacket pkt.mem pkt.ip6
      (ip6PayloadLen pkt.mem pkt.ip6).val.toNat true).val with
  | none =>
      simp [hkey] at hpass
  | some k =>
      rw [hkey] at hpass
      dsimp only at hpass
      split at hpass
      · simp at hpass
      · rename_i i s' hlive
        obtain ⟨hk, hdeadline, -⟩ := ipv6FirewallLookupLive_eq_some hlive
        exact ⟨k, i, rfl, hk, hdeadline⟩

/--
**Default deny.**  After any history from a fresh table, a packet from the WAN that is not
an ICMPv6 error is forwarded only if its key leads to a session whose deadline has not
passed, and that session was opened by an outbound packet that it mirrors and has been in
the table ever since.  The key is the tuple: a packet that can be tracked and a trackable
reply that mirrors it have one key, and packets that share a key share their tuple.
-/
theorem default_deny (hz : Nat) (ccb : Ipv6FirewallCcb) (ls : List Ipv6FirewallLabel) (now : Nat)
    (pkt : Ipv6Packet) :
    let s₀ := ipv6FirewallTableInit ccb
    let s := ls.foldl (ipv6FirewallStep hz) s₀
    (pkt.isIcmp6Error = false → pkt.passes hz now s = true →
      ∃ k i out, pkt.key true = some k ∧ s.hash.lookup k = some i ∧ now ≤ s.expireAt i ∧
        Mirrors out pkt ∧ OpenedBy hz s₀ ls k i s out) ∧
    (∀ out, Mirrors out pkt → out.Trackable false → pkt.Trackable true →
      ∃ k, out.key false = some k ∧ pkt.key true = some k) ∧
    (∀ (pkt' : Ipv6Packet) inbound inbound' k, pkt.key inbound = some k →
      pkt'.key inbound' = some k → pkt.lanTuple inbound = pkt'.lanTuple inbound') := by
  intro s₀ s
  have htuple : ∀ (pkt' : Ipv6Packet) inbound inbound' k, pkt.key inbound = some k →
      pkt'.key inbound' = some k → pkt.lanTuple inbound = pkt'.lanTuple inbound' := by
    intro pkt' inbound inbound' k hk hk'
    have h := (key_eq_some_iff.mp hk).2
    have h' := (key_eq_some_iff.mp hk').2
    exact lanTuple_eq_of_key (h.symm.trans h')
  refine ⟨?_, ?_, htuple⟩
  · intro herr hpass
    obtain ⟨k, i, hkey, hk, hdeadline⟩ := session_of_passes herr hpass
    have hrun : Run (ipv6FirewallStep hz) (fun _ _ => True) s₀ ls s :=
      .of_labels s₀ ls fun _ _ _ => trivial
    obtain ⟨out, hopened⟩ := openedBy_of_run (fun _ => rfl) hrun hk
    have hmirror : Mirrors out pkt :=
      mirrors_iff.mpr (htuple out true false k hkey hopened.key).symm
    exact ⟨k, i, out, hkey, hk, hdeadline, hmirror, hopened⟩
  · intro out hmirror hout hpkt
    have hkeys : (out.lanTuple false).key = (pkt.lanTuple true).key := by
      rw [mirrors_iff.mp hmirror]
    exact ⟨_, key_eq_some_iff.mpr ⟨hout, rfl⟩, key_eq_some_iff.mpr ⟨hpkt, hkeys⟩⟩

/-- A name server is asked from 2001:db8::a, and answers. -/
def dnsQuery : Ipv6Packet := .ofBytes
  [0x60, 0, 0, 0, 0, 8, 17, 64,
    0x20, 0x01, 0x0d, 0xb8, 0, 0, 0, 0, 0, 0, 0, 0, 0, 0, 0, 0x0a,
    0x20, 0x01, 0x0d, 0xb8, 0, 1, 0, 0, 0, 0, 0, 0, 0, 0, 0, 0x53,
    0xc3, 0x50, 0, 53, 0, 8, 0, 0]
def dnsAnswer : Ipv6Packet := .ofBytes
  [0x60, 0, 0, 0, 0, 8, 17, 64,
    0x20, 0x01, 0x0d, 0xb8, 0, 1, 0, 0, 0, 0, 0, 0, 0, 0, 0, 0x53,
    0x20, 0x01, 0x0d, 0xb8, 0, 0, 0, 0, 0, 0, 0, 0, 0, 0, 0, 0x0a,
    0, 53, 0xc3, 0x50, 0, 8, 0, 0]

/-- The answer is let in because of the query. -/
theorem default_deny_dns : ∃ k i out, dnsAnswer.key true = some k ∧ Mirrors out dnsAnswer ∧
    OpenedBy 1000 (ipv6FirewallTableInit ipv6FirewallBlank)
      [⟨5, .learn dnsQuery ⟨0, 0, true⟩⟩] k i
      ([⟨5, .learn dnsQuery ⟨0, 0, true⟩⟩].foldl (ipv6FirewallStep 1000)
        (ipv6FirewallTableInit ipv6FirewallBlank)) out := by
  have hpass : dnsAnswer.passes 1000 6 ([⟨5, .learn dnsQuery ⟨0, 0, true⟩⟩].foldl
      (ipv6FirewallStep 1000) (ipv6FirewallTableInit ipv6FirewallBlank)) = true := by
    rw [ipv6FirewallTableInit_eq]
    decide
  obtain ⟨k, i, out, hkey, -, -, hmirror, hopened⟩ :=
    (default_deny 1000 ipv6FirewallBlank [⟨5, .learn dnsQuery ⟨0, 0, true⟩⟩] 6 dnsAnswer).1
      (by decide) hpass
  exact ⟨k, i, out, hkey, hmirror, hopened⟩

end FastRG
