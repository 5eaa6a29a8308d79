/-
Whether the answers to a forwarded packet find their way back.

A packet for a forwarded port that matches no mapping is sent on to the host of the rule, and leaves
no trace of itself.  The host's answer is then a new flow like any other, and the search for its
port passes over exactly the ports that are forwarded.  So the answer leaves from another port than
the one that was asked, and no peer will take it for an answer.

The answer does leave from that port if the forward table has led its flow there all along, while
the reverse table had lost the mapping.  Where the two tables agree that cannot be.
-/
import FastRG.Proofs.NatSearch

namespace FastRG

variable {crc : BitVec 32 → BitVec 32 → BitVec 32} {hz now : Nat} {s t : NatCcb}

/-! ### Exchanges -/

/-- What an exchange through a rule is about: the host and the port of the rule, the remote end, and
the port that is forwarded. -/
structure PortFwdExchange where
  dip : BitVec 32
  iport : BitVec 16
  rip : BitVec 32
  rport : BitVec 16
  eport : BitVec 16
  deriving DecidableEq

namespace PortFwdExchange

/-- The flow of the answers. -/
def flow (x : PortFwdExchange) : NatForwardKey := ⟨x.dip, x.rip, x.iport, x.rport⟩

/-- The key the requests are looked for under. -/
def key (x : PortFwdExchange) : NatReverseKey := ⟨x.rip, x.eport, x.rport⟩

/-- The rule is in force. -/
def Ruled (x : PortFwdExchange) (s : NatCcb) : Prop :=
  natPortFwdReverseLookup s.portFwdTable x.eport = some (x.dip, x.iport)

/-- A TCP segment or a datagram that is a request of the exchange. -/
def Asks (x : PortFwdExchange) (ip : Ipv4Hdr) (hdr : L4Hdr) : Prop :=
  hdr.proto ≠ ipprotoIcmp ∧ hdr.inboundKey ip = x.key

/-- A TCP segment or a datagram that is an answer of the exchange. -/
def Answers (x : PortFwdExchange) (ip : Ipv4Hdr) (hdr : L4Hdr) : Prop :=
  hdr.proto ≠ ipprotoIcmp ∧ hdr.flow ip = x.flow

/-- A packet of the exchange, from either side. -/
def Of (x : PortFwdExchange) (l : NatPacket) : Prop :=
  match l.event with
  | .lan _ ip hdr _ => x.Answers ip hdr
  | .wan _ ip hdr => x.Asks ip hdr
  | _ => False

/-- A packet of the exchange keeps the pair: an answer leaves from the forwarded port, and a request
is delivered to the host and the port of the rule. -/
def KeepsPair (crc : BitVec 32 → BitVec 32 → BitVec 32) (hz : Nat) (x : PortFwdExchange)
    (s : NatCcb) (l : NatPacket) : Prop :=
  match l.event with
  | .lan srcMac ip hdr chances =>
      (natLearning crc hz l.now chances s srcMac ip hdr).natPort ≠ 0 ∧
        (natLearning crc hz l.now chances s srcMac ip hdr).natPort = x.eport
  | .wan macTable ip hdr =>
      (∃ mac, (decaps hz l.now macTable s ip hdr).1 = .forward mac x.dip x.iport) ∨
        (decaps hz l.now macTable s ip hdr).1 = .hold x.dip x.iport
  | _ => True

/-- From here on, every packet of the exchange keeps the pair. -/
def RoundTrip (crc : BitVec 32 → BitVec 32 → BitVec 32) (hz : Nat) (x : PortFwdExchange)
    (s : NatCcb) : Prop :=
  ∀ (ls : List NatPacket) (l : NatPacket), (∀ q ∈ ls, x.Of q) → x.Of l →
    x.KeepsPair crc hz (ls.foldl (natPacketStep crc hz) s) l

/-- The forward table leads the answers to a mapping from the forwarded port, which the reverse
table does not have. -/
def LedBack (x : PortFwdExchange) (s : NatCcb) : Prop :=
  x.eport ≠ 0 ∧ (∃ i, s.natForwardHash.lookup x.flow = some i ∧ (s.addrTable i).natPort = x.eport) ∧
    ∀ j, s.natReverseHash.lookup x.key = some j → s.fkey j ≠ x.flow

variable {x : PortFwdExchange}

/-! ### Requests -/

theorem ruled_forwarded (h : x.Ruled s) : NatForwarded s x.eport := by
  unfold Ruled natPortFwdReverseLookup portFwdLookupByEport at h
  by_contra hinactive
  have hoff : ¬ (s.portFwdTable (swap16 x.eport).toNat).isActive = true := hinactive
  rw [if_neg hoff] at h
  cases h

/-- Counting a request leaves the rule as it is, and the packet goes where the rule says. -/
theorem decapsPortFwd_ruled (macTable : Option MacTable) (h : x.Ruled s) :
    x.Ruled (decapsPortFwd macTable s x.eport).2 ∧
      ((∃ mac, (decapsPortFwd macTable s x.eport).1 = .forward mac x.dip x.iport) ∨
        (decapsPortFwd macTable s x.eport).1 = .hold x.dip x.iport) := by
  have hactive : (s.portFwdTable (swap16 x.eport).toNat).isActive = true := ruled_forwarded h
  have hrule : natPortFwdReverseLookup s.portFwdTable x.eport = some (x.dip, x.iport) := h
  have hentry : (s.portFwdTable (swap16 x.eport).toNat).dip = x.dip ∧
      (s.portFwdTable (swap16 x.eport).toNat).iport = x.iport := by
    unfold natPortFwdReverseLookup portFwdLookupByEport at hrule
    rw [if_pos hactive] at hrule
    exact Prod.mk.inj (Option.some.inj hrule)
  have hkept : ∀ hits, natPortFwdReverseLookup (Function.update s.portFwdTable (swap16 x.eport).toNat
      { s.portFwdTable (swap16 x.eport).toNat with hitCount := hits }) x.eport
        = some (x.dip, x.iport) := by
    intro hits
    unfold natPortFwdReverseLookup portFwdLookupByEport
    rw [Function.update_self, if_pos hactive]
    show some ((s.portFwdTable (swap16 x.eport).toNat).dip,
      (s.portFwdTable (swap16 x.eport).toNat).iport) = some (x.dip, x.iport)
    rw [hentry.1, hentry.2]
  unfold decapsPortFwd
  rw [hrule]
  dsimp only
  cases macTableLookup macTable x.dip with
  | none => exact ⟨hkept _, Or.inr rfl⟩
  | some mac => exact ⟨hkept _, Or.inl ⟨mac, rfl⟩⟩

/-- A request that matches no live mapping is left to the rule. -/
theorem decaps_asks (macTable : Option MacTable) {ip : Ipv4Hdr} {hdr : L4Hdr}
    (hasks : x.Asks ip hdr) (hmiss : natReverseLookup hz now s x.eport x.rip x.rport = (none, t)) :
    decaps hz now macTable s ip hdr = decapsPortFwd macTable t x.eport := by
  obtain ⟨hproto, hkey⟩ := hasks
  cases hdr with
  | icmp hdr => exact absurd rfl hproto
  | udp srcPort dstPort =>
      obtain ⟨hrip, heport, hrport⟩ := NatReverseKey.mk.inj hkey
      unfold decaps decapsUdp
      dsimp only
      rw [hrip, heport, hrport, hmiss]
  | tcp hdr =>
      obtain ⟨hrip, heport, hrport⟩ := NatReverseKey.mk.inj hkey
      unfold decaps decapsTcp
      dsimp only
      rw [hrip, heport, hrport, hmiss]

/-! ### Answers -/

/-- A flow that is known is given the port of its mapping, and only the mapping is touched. -/
theorem natLearn_known (crc : BitVec 32 → BitVec 32 → BitVec 32) (hz now : Nat)
    (chances : BitVec 16 → NatChance) (origin : NatOrigin) {flow : NatForwardKey} {i : Nat} (hknown : s.natForwardHash.lookup flow = some i) :
    natLearn crc hz now s origin flow chances = natReuse hz now s i (s.addrTable i).natPort := by
  unfold natLearn natLearningPortReuse
  dsimp only
  rw [hknown]

/-- An answer leaves from the forwarded port exactly when the forward table says so. -/
theorem answer_port_iff (h : NatKeyed s) (hruled : x.Ruled s) (heport : x.eport ≠ 0)
    (origin : NatOrigin) (chances : BitVec 16 → NatChance) :
    (natLearn crc hz now s origin x.flow chances).natPort = x.eport ↔
      ∃ i, s.natForwardHash.lookup x.flow = some i ∧ (s.addrTable i).natPort = x.eport := by
  cases hlookup : s.natForwardHash.lookup x.flow with
  | some i =>
      rw [natLearn_known crc hz now chances origin hlookup]
      refine ⟨fun hport => ⟨i, rfl, hport⟩, fun hex => ?_⟩
      obtain ⟨j, hj, hport⟩ := hex
      obtain rfl : i = j := Option.some.inj hj
      exact hport
  | none =>
      refine ⟨fun hport => ?_, fun hex => ?_⟩
      · have hscan : NatMayScan s.natGcCounter natGcScanChunk.toNat s :=
          ⟨h.conserved.cap_pos, fun _ => ⟨rfl, rfl⟩⟩
        rw [natLearn_new crc hz now origin chances hlookup] at hport
        rcases natTryPorts_port (natPortOrder (computeInitialNatPort crc x.flow.srcIp x.flow.srcPort))
          hscan hlookup with hzero | ⟨-, hfwd⟩
        · exact absurd (hport.symm.trans hzero) heport
        · rw [hport] at hfwd
          exact absurd (ruled_forwarded hruled) hfwd
      · obtain ⟨i, hi, -⟩ := hex
        cases hi

/-! ### The whole exchange -/

/-- The mapping the answers are led to, while nothing stands in the way of the rule. -/
structure Kept (x : PortFwdExchange) (i : Nat) (s : NatCcb) : Prop where
  ruled : x.Ruled s
  forward : s.natForwardHash.lookup x.flow = some i
  port : (s.addrTable i).natPort = x.eport
  reverse : s.natReverseHash.lookup x.key = none

theorem Kept.retracked {i j : Nat} (h : x.Kept i s) (ht : NatRetracked j s t)
    (hrules : t.portFwdTable = s.portFwdTable) : x.Kept i t := by
  refine ⟨?_, ?_, ?_, ?_⟩
  · unfold Ruled
    rw [hrules]
    exact h.ruled
  · rw [ht.forward]
    exact h.forward
  · rw [ht.read AddrTable.natPort (fun _ => rfl) i]
    exact h.port
  · rw [ht.reverse]
    exact h.reverse

/-- An answer only touches its mapping, and leaves from the forwarded port. -/
theorem Kept.answer {i : Nat} (hhz : 0 < hz) (heport : x.eport ≠ 0) (h : x.Kept i s)
    (chances : BitVec 16 → NatChance) (srcMac : BitVec 48) {ip : Ipv4Hdr} {hdr : L4Hdr}
    (hanswers : x.Answers ip hdr) :
    x.Kept i (natLearning crc hz now chances s srcMac ip hdr).ccb ∧
      x.KeepsPair crc hz s ⟨now, .lan srcMac ip hdr chances⟩ := by
  obtain ⟨hport, hrules⟩ := natLearning_frame crc hz now chances s srcMac ip hdr
  have hcases := natLearning_cases hhz crc now chances s srcMac ip hdr
  have hknown := natLearn_known crc hz now chances ⟨srcMac, hdr.proto⟩ h.forward
  rw [hanswers.2] at hport hrules hcases
  rw [hknown] at hport hrules hcases
  have hreused : x.Kept i (natEntryRefresh hz now s i) :=
    h.retracked (natEntryRefresh_retracked hz now s i) rfl
  refine ⟨?_, ?_⟩
  · rcases hcases with hsame | ⟨-, j, -, -, htracked⟩
    · rw [hsame]
      exact hreused
    · exact hreused.retracked htracked hrules
  · have hsent := hport.trans h.port
    exact ⟨fun hzero => heport (hsent.symm.trans hzero), hsent⟩

/-- A request is left to the rule. -/
theorem Kept.ask {i : Nat} (h : x.Kept i s) (macTable : Option MacTable) {ip : Ipv4Hdr}
    {hdr : L4Hdr} (hasks : x.Asks ip hdr) :
    x.Kept i (decaps hz now macTable s ip hdr).2 ∧
      x.KeepsPair crc hz s ⟨now, .wan macTable ip hdr⟩ := by
  have hmiss : natReverseLookup hz now s x.eport x.rip x.rport = (none, s) := by
    have hnone : s.natReverseHash.lookup ⟨x.rip, x.eport, x.rport⟩ = none := h.reverse
    unfold natReverseLookup
    rw [hnone]
  have hdecaps := decaps_asks macTable hasks hmiss
  obtain ⟨hruled, hdelivered⟩ := decapsPortFwd_ruled macTable h.ruled
  have htracked := decapsPortFwd_retracked macTable s x.eport
  unfold KeepsPair
  dsimp only
  rw [hdecaps]
  refine ⟨⟨hruled, ?_, ?_, ?_⟩, hdelivered⟩
  · rw [htracked.forward]
    exact h.forward
  · rw [htracked.read AddrTable.natPort (fun _ => rfl) i]
    exact h.port
  · rw [htracked.reverse]
    exact h.reverse

/-- Every packet of the exchange keeps the mapping and the pair. -/
theorem Kept.step {i : Nat} (crc : BitVec 32 → BitVec 32 → BitVec 32) (hhz : 0 < hz)
    (heport : x.eport ≠ 0) (h : x.Kept i s) {l : NatPacket} (hof : x.Of l) : x.Kept i (natPacketStep crc hz s l) ∧ x.KeepsPair crc hz s l := by
  obtain ⟨now, event⟩ := l
  cases event with
  | lan srcMac ip hdr chances => exact h.answer hhz heport chances srcMac hof
  | wan macTable ip hdr => exact h.ask macTable hof
  | gcScan _ _ => exact hof.elim
  | delAll => exact hof.elim
  | reclaimReverse _ => exact hof.elim
  | reclaimForward _ => exact hof.elim

theorem Kept.roundTrip {i : Nat} (hhz : 0 < hz) (heport : x.eport ≠ 0) (h : x.Kept i s) :
    x.RoundTrip crc hz s := by
  intro ls
  induction ls generalizing s with
  | nil =>
      intro l _ hof
      exact (h.step crc hhz heport hof).2
  | cons q rest ih =>
      intro l hrest hof
      have hq := h.step crc hhz heport (hrest q List.mem_cons_self)
      exact ih hq.1 l (fun r hr => hrest r (List.mem_cons_of_mem _ hr)) hof

/-- What a lookup that misses leaves: the table as it was, or without an expired mapping. -/
theorem missed_cases (hmiss : natReverseLookup hz now s x.eport x.rip x.rport = (none, t)) :
    (s.natReverseHash.lookup x.key = none ∧ t = s) ∨
      ∃ j, s.natReverseHash.lookup x.key = some j ∧ t = (natEntryDelKeys s j).2 := by
  unfold natReverseLookup at hmiss
  have hkey : s.natReverseHash.lookup ⟨x.rip, x.eport, x.rport⟩ = s.natReverseHash.lookup x.key := rfl
  rw [hkey] at hmiss
  cases hlookup : s.natReverseHash.lookup x.key with
  | none =>
      rw [hlookup] at hmiss
      exact Or.inl ⟨rfl, (Prod.mk.inj hmiss).2.symm⟩
  | some j =>
      rw [hlookup] at hmiss
      dsimp only at hmiss
      split at hmiss
      · exact Or.inr ⟨j, rfl, (Prod.mk.inj hmiss).2.symm⟩
      · cases (Prod.mk.inj hmiss).1

/-- After the miss, the answers are led back exactly when they were before it. -/
theorem ledBack_missed_iff (heport : x.eport ≠ 0)
    (hmiss : natReverseLookup hz now s x.eport x.rip x.rport = (none, t)) :
    (∃ i, t.natForwardHash.lookup x.flow = some i ∧ (t.addrTable i).natPort = x.eport) ↔
      x.LedBack s := by
  rcases missed_cases hmiss with ⟨hnone, rfl⟩ | ⟨j, hj, rfl⟩
  · refine ⟨fun hled => ⟨heport, hled, fun j hj => ?_⟩, fun hled => hled.2.1⟩
    rw [hnone] at hj
    cases hj
  · have hforward : ∀ i, (natEntryDelKeys s j).2.natForwardHash.lookup x.flow = some i ↔
        s.fkey j ≠ x.flow ∧ s.natForwardHash.lookup x.flow = some i := by
      intro i
      show (s.natForwardHash.delKey (s.fkey j)).2.lookup x.flow = some i ↔ _
      refine ⟨fun hi => ?_, fun hi => ?_⟩
      · obtain ⟨hne, hold⟩ := Rte.Hash.lookup_of_delKey hi
        exact ⟨hne.symm, hold⟩
      · rw [Rte.Hash.lookup_delKey_ne _ hi.1.symm]
        exact hi.2
    refine ⟨fun hled => ?_, fun hled => ?_⟩
    · obtain ⟨i, hi, hport⟩ := hled
      obtain ⟨hne, hold⟩ := (hforward i).mp hi
      refine ⟨heport, ⟨i, hold, hport⟩, ?_⟩
      intro k hk
      obtain rfl : j = k := Option.some.inj (hj.symm.trans hk)
      exact hne
    · obtain ⟨-, ⟨i, hi, hport⟩, hother⟩ := hled
      exact ⟨i, (hforward i).mpr ⟨hother j hj, hi⟩, hport⟩

/-- Where the two tables agree, the answers are never led back. -/
theorem not_ledBack_of_inv (h : NatInv s) : ¬ x.LedBack s := by
  intro hled
  obtain ⟨-, ⟨i, hi, hport⟩, hother⟩ := hled
  obtain ⟨hflow, hrev⟩ := h.paired.ofFwd x.flow i hi
  refine hother i ?_ hflow.symm
  have hkey : s.rkey i = x.key := by
    have hstored : (s.addrTable i).forwardKey = x.flow := hflow.symm
    show (⟨(s.addrTable i).forwardKey.dstIp, (s.addrTable i).natPort,
      (s.addrTable i).forwardKey.dstPort⟩ : NatReverseKey) = x.key
    rw [hstored, hport]
    rfl
  rw [← hkey]
  exact hrev

/-- After the miss, nothing stands under the key, and the rule is in force. -/
theorem missed_frame (h : NatKeyed s) (hruled : x.Ruled s)
    (hmiss : natReverseLookup hz now s x.eport x.rip x.rport = (none, t)) :
    t.natReverseHash.lookup x.key = none ∧ x.Ruled t := by
  rcases missed_cases hmiss with ⟨hnone, rfl⟩ | ⟨j, hj, rfl⟩
  · exact ⟨hnone, hruled⟩
  · refine ⟨?_, hruled⟩
    show (s.natReverseHash.delKey (s.rkey j)).2.lookup x.key = none
    rw [h.stored _ j hj, Rte.Hash.lookup_delKey_self]

/-- Some answer of the exchange. -/
def answer (x : PortFwdExchange) (now : Nat) : NatPacket :=
  ⟨now, .lan 0 ⟨0x45, 28, x.dip, x.rip⟩ (.udp x.iport x.rport) fun _ => ⟨⟨0, 0, 0⟩, true, true⟩⟩

theorem of_answer (x : PortFwdExchange) (now : Nat) : x.Of (x.answer now) := by
  refine ⟨?_, rfl⟩
  show ipprotoUdp ≠ ipprotoIcmp
  decide

end PortFwdExchange

/--
**Answers to forwarded packets.**  In every state a run of packets, upkeep and rule changes reaches:
when a request is left to the rule of its port, the answers and all that follows of the exchange
keep the pair exactly when the forward table leads the answers to a mapping from that port which the
reverse table does not have.  Where the tables agree, they never do.
-/
theorem roundTrip_iff (crc : BitVec 32 → BitVec 32 → BitVec 32) (hz : Nat) (hhz : 0 < hz)
    (ccb : NatCcb) (ls : List NatInput) (s : NatCcb) (hrun : NatRun crc hz ccb ls s)
    (x : PortFwdExchange) (hruled : x.Ruled s) (now : Nat) (macTable : Option MacTable)
    (ip : Ipv4Hdr) (hdr : L4Hdr) (hasks : x.Asks ip hdr)
    (hmiss : (natReverseLookup hz now s x.eport x.rip x.rport).1 = none) :
    (x.RoundTrip crc hz (decaps hz now macTable s ip hdr).2 ↔ x.LedBack s) ∧
      (NatInv s → ¬ x.RoundTrip crc hz (decaps hz now macTable s ip hdr).2) := by
  have hkeyed : NatKeyed s := natKeyed_run hhz hrun
  have hafter : NatKeyed (decaps hz now macTable s ip hdr).2 :=
    (natPacketStep_finds hhz crc hkeyed.conserved ⟨now, .wan macTable ip hdr⟩).keyed hkeyed
  obtain ⟨t, ht⟩ : ∃ t, natReverseLookup hz now s x.eport x.rip x.rport = (none, t) :=
    ⟨_, Prod.ext hmiss rfl⟩
  have hdecaps := PortFwdExchange.decaps_asks macTable hasks ht
  obtain ⟨hnone, hruled'⟩ := PortFwdExchange.missed_frame hkeyed hruled ht
  have htracked := decapsPortFwd_retracked macTable t x.eport
  have hport := htracked.read AddrTable.natPort (fun _ => rfl)
  obtain ⟨hruledAfter, -⟩ := PortFwdExchange.decapsPortFwd_ruled macTable hruled'
  rw [hdecaps] at hafter
  have hiff : x.RoundTrip crc hz (decaps hz now macTable s ip hdr).2 ↔ x.LedBack s := by
    rw [hdecaps]
    refine ⟨?_, ?_⟩
    · intro hround
      obtain ⟨hne, hsent⟩ := hround [] (x.answer now) (fun _ hq => absurd hq List.not_mem_nil)
        (x.of_answer now)
      have heport : x.eport ≠ 0 := fun hzero => hne (hsent.trans hzero)
      obtain ⟨i, hi, hiport⟩ :=
        (PortFwdExchange.answer_port_iff hafter hruledAfter heport _ _).mp hsent
      rw [htracked.forward] at hi
      rw [hport] at hiport
      exact (PortFwdExchange.ledBack_missed_iff heport ht).mp ⟨i, hi, hiport⟩
    · intro hled
      obtain ⟨i, hi, hiport⟩ := (PortFwdExchange.ledBack_missed_iff hled.1 ht).mpr hled
      have hkept : x.Kept i (decapsPortFwd macTable t x.eport).2 := by
        refine ⟨hruledAfter, ?_, ?_, ?_⟩
        · rw [htracked.forward]
          exact hi
        · rw [hport]
          exact hiport
        · rw [htracked.reverse]
          exact hnone
      exact hkept.roundTrip hhz hled.1
  exact ⟨hiff, fun hinv hround => PortFwdExchange.not_ledBack_of_inv hinv (hiff.mp hround)⟩

/-- Port 8080 leads to port 80 of 192.168.1.6, and a peer asks. -/
def webExchange : PortFwdExchange := ⟨0x0601a8c0, 0x5000, 0x22d8b85d, 0xbb01, 0x901f⟩

/-- The rule, on a fresh table. -/
def webRule : NatInput := .rule (.add 8080 0x0601a8c0 80)

def webRequestIp : Ipv4Hdr := ⟨0x45, 28, 0x22d8b85d, 0x0100a8c0⟩

theorem webRequest_asks : webExchange.Asks webRequestIp (.udp 0xbb01 0x901f) := ⟨by decide, rfl⟩

theorem roundTrip_iff_web :
    webExchange.RoundTrip rteHashCrc4byte 2000000000
        (decaps 2000000000 0 none
          (natInputStep rteHashCrc4byte 2000000000 (natTableInit natBlank) webRule) webRequestIp
          (.udp 0xbb01 0x901f)).2 ↔
      webExchange.LedBack
        (natInputStep rteHashCrc4byte 2000000000 (natTableInit natBlank) webRule) :=
  (roundTrip_iff rteHashCrc4byte 2000000000 (by decide) natBlank [webRule] _
    (Run.single webRule trivial) webExchange rfl 0 none webRequestIp (.udp 0xbb01 0x901f)
    webRequest_asks rfl).1

set_option maxRecDepth 8000 in
/-- The answer leaves from another port than the one that was asked. -/
theorem answer_from_other_port : ¬ ∀ ls s, NatRun rteHashCrc4byte 2000000000 natBlank ls s →
    ∀ x : PortFwdExchange, x.Ruled s → ∀ now macTable ip hdr, x.Asks ip hdr →
      (natReverseLookup 2000000000 now s x.eport x.rip x.rport).1 = none →
      x.RoundTrip rteHashCrc4byte 2000000000 (decaps 2000000000 now macTable s ip hdr).2 := by
  intro h
  obtain ⟨-, hsent⟩ := h [webRule] _ (Run.single webRule trivial) webExchange rfl 0 none
    webRequestIp (.udp 0xbb01 0x901f) webRequest_asks rfl [] (webExchange.answer 0)
    (fun _ hq => absurd hq List.not_mem_nil) (webExchange.of_answer 0)
  unfold natInputStep at hsent
  rw [natTableInit_eq] at hsent
  exact absurd hsent (by decide)

end FastRG
