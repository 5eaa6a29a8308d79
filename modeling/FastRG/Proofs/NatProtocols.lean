/-
What the keys of the translator tell apart, and what they do not.

A mapping records the protocol of the packet it was made for, but neither key has it: a flow is
four numbers, and for an ICMP packet its type stands in a port's place.  So a packet finds every
mapping with its numbers, whichever protocol made it.  What does hold, in every run, is that it
finds no other: an inbound packet goes through a mapping that was made for a LAN packet to where it
comes from, and a LAN packet leaves every mapping alone that was not made for its own four numbers.
-/
import FastRG.DpCodec
import FastRG.Proofs.NatStable

namespace FastRG

/-! ### Keys -/

/-- The flow a LAN packet is learned under. -/
def L4Hdr.flow (ip : Ipv4Hdr) : L4Hdr → NatForwardKey
  | .tcp hdr => ⟨ip.srcAddr, ip.dstAddr, hdr.srcPort, hdr.dstPort⟩
  | .udp srcPort dstPort => ⟨ip.srcAddr, ip.dstAddr, srcPort, dstPort⟩
  | .icmp hdr => ⟨ip.srcAddr, ip.dstAddr, hdr.icmpIdent, hdr.icmpType.setWidth 16⟩

/-- The key a WAN packet is looked for under. -/
def L4Hdr.inboundKey (ip : Ipv4Hdr) : L4Hdr → NatReverseKey
  | .tcp hdr => ⟨ip.srcAddr, hdr.dstPort, hdr.srcPort⟩
  | .udp srcPort dstPort => ⟨ip.srcAddr, dstPort, srcPort⟩
  | .icmp hdr => ⟨ip.srcAddr, hdr.icmpIdent, icmpEchoRequest.setWidth 16⟩

/-- The port that may be forwarded. -/
def L4Hdr.dstPort : L4Hdr → Option (BitVec 16)
  | .tcp hdr => some hdr.dstPort
  | .udp _ dstPort => some dstPort
  | .icmp _ => none

/-- An entry without what connection tracking has written to it. -/
def AddrTable.mapping (e : AddrTable) : AddrTable :=
  { e with
    tcpState := .none, tcpFinFlags := 0, maxSeqEndLan := 0, maxSeqEndWan := 0, maxAckLan := 0
    maxAckWan := 0, maxWinLan := 0, maxWinWan := 0 }

/-- The entry was made for this packet, a LAN packet, and is found under this key. -/
def NatPacket.Made (l : NatPacket) (key : NatReverseKey) (e : AddrTable) : Prop :=
  ∃ srcMac ip hdr chances natPort, l.event = .lan srcMac ip hdr chances ∧
    e.mapping = natNewEntry ⟨srcMac, hdr.proto⟩ (hdr.flow ip) natPort ∧
    key = (hdr.flow ip).reverse natPort

variable {hz now n i : Nat} {start : BitVec 32} {s s' t u : NatCcb} {origin : NatOrigin}
  {flow : NatForwardKey} {natPort : BitVec 16}

/-! ### What an operation leaves alone -/

/-- No key is added, and what is still found is as it was. -/
structure NatKeeps (s t : NatCcb) : Prop where
  reverse : ∀ {r i}, t.natReverseHash.lookup r = some i → s.natReverseHash.lookup r = some i
  entry : ∀ {r i}, t.natReverseHash.lookup r = some i →
    t.addrTable i = s.addrTable i ∧ t.natExpireAt i = s.natExpireAt i

theorem NatKeeps.refl (s : NatCcb) : NatKeeps s s := ⟨id, fun _ => ⟨rfl, rfl⟩⟩

theorem NatKeeps.trans (h : NatKeeps s t) (h' : NatKeeps t u) : NatKeeps s u := by
  refine ⟨fun hr => h.reverse (h'.reverse hr), ?_⟩
  intro r i hr
  obtain ⟨htable, hexp⟩ := h'.entry hr
  obtain ⟨htable', hexp'⟩ := h.entry (h'.reverse hr)
  exact ⟨htable.trans htable', hexp.trans hexp'⟩

theorem natEntryDelKeys_keeps (s : NatCcb) (i : Nat) : NatKeeps s (natEntryDelKeys s i).2 :=
  ⟨fun hr => (Rte.Hash.lookup_of_delKey hr).2, fun _ => ⟨rfl, rfl⟩⟩

theorem NatElsewhere.keeps (h : NatElsewhere i s t) : NatKeeps s t := by
  refine ⟨fun hr => (h.reverse _).symm.trans hr, ?_⟩
  intro r j hr
  have hne := h.ne_of_lookup ((h.reverse r).symm.trans hr)
  exact ⟨h.table j hne, h.expire j hne⟩

theorem NatMove.keeps (hmove : NatMove now start n s t) (h : NatConserved s) : NatKeeps s t := by
  cases hmove with
  | count => exact ⟨id, fun _ => ⟨rfl, rfl⟩⟩
  | evict _ _ => exact natEntryDelKeys_keeps s _
  | collect _ => exact natEntryDelKeys_keeps s _
  | reclaim hpop => exact (natElsewhere_reclaim h hpop).keeps
  | giveBack hdeq he => exact (natElsewhere_giveBack _ h hdeq he).keeps

theorem NatMoves.keeps (hmoves : NatMoves now start n s t) (h : NatConserved s) :
    NatKeeps s t := by
  induction hmoves with
  | refl => exact NatKeeps.refl s
  | tail hmoves hmove ih => exact ih.trans (hmove.keeps (NatMoves.conserved hmoves h))

theorem natDelAllVisits_keeps (is : List Nat) (s : NatCcb) :
    NatKeeps s (is.foldl natDelAllVisit s) := by
  induction is generalizing s with
  | nil => exact NatKeeps.refl s
  | cons i rest ih =>
      refine NatKeeps.trans ?_ (ih _)
      unfold natDelAllVisit
      split
      · exact NatKeeps.refl s
      · split
        · exact natEntryDelKeys_keeps s i
        · exact NatKeeps.refl s

theorem natResetCounters_keeps (h : NatKeeps s t) : NatKeeps s (natResetCounters t) :=
  ⟨h.reverse, h.entry⟩

theorem natTableDelAll_keeps (s : NatCcb) : NatKeeps s (natTableDelAllEntriesFromHash s) :=
  natResetCounters_keeps (natDelAllVisits_keeps (List.range maxNatEntries) s)

/-! ### What learning adds -/

/-- What is found is as it was, or is a new entry for the flow, under the key it stores. -/
def NatAdds (origin : NatOrigin) (flow : NatForwardKey) (s t : NatCcb) : Prop :=
  ∀ r i, t.natReverseHash.lookup r = some i →
    (s.natReverseHash.lookup r = some i ∧ t.addrTable i = s.addrTable i) ∨
      ∃ natPort, t.addrTable i = natNewEntry origin flow natPort ∧ r = flow.reverse natPort

theorem NatKeeps.adds (h : NatKeeps s t) (h' : NatAdds origin flow t u) :
    NatAdds origin flow s u := by
  intro r i hr
  rcases h' r i hr with ⟨hold, htable⟩ | hnew
  · exact Or.inl ⟨h.reverse hold, htable.trans (h.entry hold).1⟩
  · exact Or.inr hnew

theorem natAdds_same (h : t.natReverseHash = s.natReverseHash) (h' : t.addrTable = s.addrTable) :
    NatAdds origin flow s t := by
  intro r i hr
  rw [h] at hr
  rw [h']
  exact Or.inl ⟨hr, rfl⟩

/-- A slot is taken off the ring, filled in and given its reverse key. -/
theorem natAdds_fill {ring : Rte.Ring} {rev : Rte.Hash NatReverseKey Nat} {room : Bool}
    (h : NatConserved s) (hdeq : s.natFreeRing.dequeue = some (i, ring))
    (hadd : s.natReverseHash.addKeyData (flow.reverse natPort) i room = some rev)
    (htable : t.addrTable = Function.update s.addrTable i (natNewEntry origin flow natPort))
    (hrev : ∀ r j, t.natReverseHash.lookup r = some j → rev.lookup r = some j) :
    NatAdds origin flow s t := by
  intro r j hr
  have hr := hrev r j hr
  rw [Rte.Hash.lookup_addKeyData hadd] at hr
  by_cases hkey : r = flow.reverse natPort
  · rw [if_pos hkey] at hr
    obtain rfl := Option.some.inj hr
    refine Or.inr ⟨natPort, ?_, hkey⟩
    rw [htable, Function.update_self]
  · rw [if_neg hkey] at hr
    have hne : j ≠ i := by
      intro heq
      obtain ⟨rest, hitems, -⟩ := Rte.Ring.dequeue_eq_some.mp hdeq
      have hmem : j ∈ s.natReverseHash.values := Rte.Hash.mem_values_of_lookup hr
      refine h.value_not_free hmem ?_
      rw [heq]
      show i ∈ s.natFreeRing.items
      rw [hitems]
      exact List.mem_cons_self
    refine Or.inl ⟨hr, ?_⟩
    rw [htable, Function.update_of_ne hne]

theorem natInsert_adds {learned : NatLearned} (hscan : NatMayScan start n s) (h : NatConserved s)
    {chance : NatChance} (hins : natInsert hz now s origin flow natPort chance = .done learned) :
    NatAdds origin flow s learned.ccb := by
  unfold natInsert at hins
  dsimp only at hins
  split at hins
  · obtain rfl := NatAttempt.done.inj hins
    exact natAdds_same rfl rfl
  · split at hins
    · split at hins
      · obtain rfl := NatAttempt.done.inj hins
        exact natAdds_same rfl rfl
      · cases hins
    · obtain ⟨s₁, hmoves, halloc⟩ := natSlotAlloc_moves now hscan chance.grace
      rw [halloc] at hins
      refine (hmoves.keeps h).adds ?_
      have h₁ : NatConserved s₁ := hmoves.conserved h
      cases hdeq : s₁.natFreeRing.dequeue with
      | none =>
          rw [hdeq] at hins
          obtain rfl := NatAttempt.done.inj hins
          exact natAdds_same rfl rfl
      | some found =>
          obtain ⟨idx, ring⟩ := found
          rw [hdeq] at hins
          dsimp only at hins
          split at hins
          · cases hins
          · rename_i rev hadd
            split at hins
            · obtain rfl := NatAttempt.done.inj hins
              refine natAdds_fill h₁ hdeq hadd rfl ?_
              intro r j hr
              exact (Rte.Hash.lookup_of_delKey hr).2
            · obtain rfl := NatAttempt.done.inj hins
              exact natAdds_fill h₁ hdeq hadd rfl fun _ _ hr => hr

theorem natTryPort_adds {learned : NatLearned} (hscan : NatMayScan start n s) (h : NatConserved s)
    {chance : NatChance} (htry : natTryPort hz now s origin flow natPort chance = .done learned) :
    NatAdds origin flow s learned.ccb := by
  unfold natTryPort at htry
  dsimp only at htry
  split at htry
  · cases htry
  · split at htry
    · exact natInsert_adds hscan h htry
    · rename_i i hr
      split at htry
      · obtain rfl := NatAttempt.done.inj htry
        exact natAdds_same rfl rfl
      · split at htry
        · cases htry
        · have hscan' : NatMayScan start n (natEntryDelKeys s i).2 := ⟨hscan.cap, hscan.scan⟩
          have hadds := natInsert_adds hscan' (natEntryDelKeys_conserved h i) htry
          exact (natEntryDelKeys_keeps s i).adds hadds

/-- The walk over the ports: the ports it passes over only lose keys. -/
theorem natWalkPorts_adds (hz now : Nat) (startNatPort : BitVec 16)
    (chances : BitVec 16 → NatChance) (fuel : Nat) (hscan : NatMayScan start n s)
    (h : NatConserved s) (natPort : BitVec 16) :
    NatAdds origin flow s
      (natWalkPorts hz now origin flow startNatPort chances fuel s natPort).ccb := by
  induction fuel generalizing s natPort with
  | zero => exact natAdds_same rfl rfl
  | succ fuel ih =>
      rw [natWalkPorts]
      cases htry : natTryPort hz now s origin flow natPort (chances natPort) with
      | done learned => exact natTryPort_adds hscan h htry
      | nextNatPort s₁ =>
          have hattempt := natTryPort_attempted hz now hscan origin flow natPort (chances natPort)
          rw [htry] at hattempt
          obtain ⟨hmoves, hscan₁⟩ := hattempt
          refine (hmoves.keeps h).adds ?_
          dsimp only
          split
          · exact natAdds_same rfl rfl
          · exact ih hscan₁ (hmoves.conserved h) _

theorem natLearn_adds (crc : BitVec 32 → BitVec 32 → BitVec 32) (hz now : Nat)
    (h : NatConserved s) (origin : NatOrigin) (flow : NatForwardKey)
    (chances : BitVec 16 → NatChance) :
    NatAdds origin flow s (natLearn crc hz now s origin flow chances).ccb := by
  unfold natLearn natLearningPortReuse
  dsimp only
  split
  · exact natAdds_same rfl rfl
  · rename_i hf
    have hscan : NatMayScan s.natGcCounter (natLearnScans s flow) s :=
      ⟨h.cap_pos, fun hnil => ⟨rfl, if_pos ⟨hf, hnil⟩⟩⟩
    exact natWalkPorts_adds hz now _ chances natPortRange hscan h _

/-! ### What connection tracking leaves alone -/

/-- A handler that leaves a running deadline running. -/
def TcpHandler.Arms (hz now : Nat) (hdl : TcpHandler) : Prop :=
  ∀ v isReply, v.expireSlot ≠ 0 → (hdl hz now v isReply).2.expireSlot ≠ 0

theorem arms_timeout (hhz : 0 < hz) (now : Nat) {secs : Nat} (hsecs : 0 < secs) :
    TcpHandler.Arms hz now (tcpActTimeout secs) := by
  intro v isReply _
  have hpos : 0 < secs * hz := Nat.mul_pos hsecs hhz
  show now + secs * hz ≠ 0
  omega

theorem natExpireRefresh_ne_zero {cur : Nat} (h : cur ≠ 0) (hz target : Nat) :
    natExpireRefresh hz cur target ≠ 0 := by
  have hle := le_natExpireRefresh hz cur target
  omega

theorem tcpConntrackTbl_arms (hhz : 0 < hz) (now : Nat) :
    ∀ row ∈ tcpConntrackTbl, ∀ hdl ∈ row.hdl, TcpHandler.Arms hz now hdl := by
  have htimeout : ∀ secs, 0 < secs → TcpHandler.Arms hz now (tcpActTimeout secs) :=
    fun _ hsecs => arms_timeout hhz now hsecs
  have hrefresh : TcpHandler.Arms hz now tcpActRefreshEstablished :=
    fun _ _ hv => natExpireRefresh_ne_zero hv hz _
  have hmid : TcpHandler.Arms hz now tcpActMidStreamAck := by
    intro v isReply hv
    unfold tcpActMidStreamAck
    split
    · exact htimeout tcpTimeoutEstablished (by decide) v isReply hv
    · exact natExpireRefresh_ne_zero hv hz _
  have hlan : TcpHandler.Arms hz now tcpActSetFinLan := fun _ _ hv => hv
  have hwan : TcpHandler.Arms hz now tcpActSetFinWan := fun _ _ hv => hv
  have hreset : TcpHandler.Arms hz now tcpActResetFinFlags := fun _ _ hv => hv
  simp [tcpConntrackTbl, htimeout, hrefresh, hmid, hlan, hwan, hreset, tcpActTimeoutSynSent,
    tcpActTimeoutSynRecv, tcpActTimeoutEstablished, tcpActTimeoutFinWait, tcpActTimeoutCloseWait,
    tcpActTimeoutLastAck, tcpActTimeoutTimeWait, tcpActTimeoutClose, tcpActTimeoutMidStream,
    tcpTimeoutSynSent, tcpTimeoutSynRecv, tcpTimeoutEstablished, tcpTimeoutFinWait,
    tcpTimeoutCloseWait, tcpTimeoutLastAck, tcpTimeoutTimeWait, tcpTimeoutClose,
    tcpTimeoutMidStream]

theorem tcpRunHandlers_arms {hdls : List TcpHandler} (h : ∀ hdl ∈ hdls, TcpHandler.Arms hz now hdl)
    {v : TcpConntrackView} (hv : v.expireSlot ≠ 0) (isReply : Bool) :
    (tcpRunHandlers hz now isReply hdls v).2.expireSlot ≠ 0 := by
  induction hdls generalizing v with
  | nil => exact hv
  | cons hdl rest ih =>
      have hthis := h hdl List.mem_cons_self v isReply hv
      rw [tcpRunHandlers]
      cases hrun : hdl hz now v isReply with
      | mk status v' =>
          rw [hrun] at hthis
          cases status with
          | error => exact hthis
          | success => exact ih (fun hdl hmem => h hdl (List.mem_cons_of_mem _ hmem)) hthis

/-- A segment leaves a running deadline running. -/
theorem tcpConntrackFsmView_armed (hhz : 0 < hz) (now : Nat) {v : TcpConntrackView}
    (hv : v.expireSlot ≠ 0) (tcpFlags : BitVec 8) (isReply : Bool) :
    (tcpConntrackFsmView hz now v tcpFlags isReply).2.expireSlot ≠ 0 := by
  unfold tcpConntrackFsmView
  dsimp only
  split
  · exact hv
  · split
    · exact hv
    · split
      · exact hv
      · rename_i row hrow
        refine tcpRunHandlers_arms (v := { v with tcpState := row.nextState }) ?_ hv isReply
        exact tcpConntrackTbl_arms hhz now row (List.mem_of_find?_eq_some hrow)

/-- Nothing has changed but what connection tracking writes to slot `i`. -/
structure NatRetracked (i : Nat) (s t : NatCcb) : Prop where
  forward : t.natForwardHash = s.natForwardHash
  reverse : t.natReverseHash = s.natReverseHash
  ring : t.natFreeRing = s.natFreeRing
  others : ∀ j, j ≠ i → t.addrTable j = s.addrTable j ∧ t.natExpireAt j = s.natExpireAt j
  mapping : ∀ j, (t.addrTable j).mapping = (s.addrTable j).mapping
  armed : ∀ j, s.natExpireAt j ≠ 0 → t.natExpireAt j ≠ 0

theorem natSetConntrack_retracked {v : TcpConntrackView}
    (hv : s.natExpireAt i ≠ 0 → v.expireSlot ≠ 0) : NatRetracked i s (natSetConntrack s i v) := by
  refine ⟨rfl, rfl, rfl, ?_, ?_, ?_⟩
  · intro j hj
    exact ⟨Function.update_of_ne hj _ _, Function.update_of_ne hj _ _⟩
  · intro j
    show (Function.update s.addrTable i _ j).mapping = _
    by_cases hj : j = i
    · rw [hj, Function.update_self]
      rfl
    · rw [Function.update_of_ne hj]
  · intro j harmed
    show Function.update s.natExpireAt i _ j ≠ 0
    by_cases hj : j = i
    · rw [hj, Function.update_self]
      exact hv (hj ▸ harmed)
    · rw [Function.update_of_ne hj]
      exact harmed

theorem natEntryRefresh_retracked (hz now : Nat) (s : NatCcb) (i : Nat) :
    NatRetracked i s (natEntryRefresh hz now s i) := by
  refine ⟨rfl, rfl, rfl, fun j hj => ⟨rfl, Function.update_of_ne hj _ _⟩, fun _ => rfl, ?_⟩
  intro j harmed
  show Function.update s.natExpireAt i _ j ≠ 0
  by_cases hj : j = i
  · rw [hj, Function.update_self]
    exact natExpireRefresh_ne_zero (hj ▸ harmed) hz _
  · rw [Function.update_of_ne hj]
    exact harmed

namespace NatRetracked

/-- Whatever is read off an entry and is not tracking's. -/
theorem read {α : Type} (h : NatRetracked i s t) (f : AddrTable → α)
    (hf : ∀ e : AddrTable, f e.mapping = f e) (j : Nat) :
    f (t.addrTable j) = f (s.addrTable j) := by
  rw [← hf, h.mapping, hf]

theorem fkey (h : NatRetracked i s t) (j : Nat) : t.fkey j = s.fkey j :=
  h.read AddrTable.forwardKey (fun _ => rfl) j

theorem rkey (h : NatRetracked i s t) (j : Nat) : t.rkey j = s.rkey j :=
  h.read AddrTable.reverseKey (fun _ => rfl) j

theorem conserved (h : NatRetracked i s t) (hs : NatConserved s) : NatConserved t := by
  have hpool : t.pool = s.pool := by
    unfold NatCcb.pool
    rw [h.ring, h.reverse]
  unfold NatConserved
  rw [hpool]
  exact hs

theorem inv (h : NatRetracked i s t) (hs : NatInv s) : NatInv t := by
  have hfill : ∀ j, (t.addrTable j).isFill = (s.addrTable j).isFill :=
    h.read AddrTable.isFill fun _ => rfl
  refine ⟨h.conserved hs.conserved, ?_, ?_, ?_⟩
  · intro j hj
    rw [h.ring] at hj
    rw [hfill]
    exact hs.free j hj
  · intro j hj
    rw [h.reverse] at hj
    rw [hfill]
    exact ⟨(hs.linked j hj).1, h.armed j (hs.linked j hj).2⟩
  · rw [h.forward, h.reverse, funext h.fkey, funext h.rkey]
    exact hs.paired

end NatRetracked

/-! ### Packets -/

/-- Learning a packet is learning its flow; a TCP segment is then tracked, in the slot it was given. -/
theorem natLearning_cases (hhz : 0 < hz) (crc : BitVec 32 → BitVec 32 → BitVec 32) (now : Nat)
    (chances : BitVec 16 → NatChance) (s : NatCcb) (srcMac : BitVec 48) (ip : Ipv4Hdr) (hdr : L4Hdr) :
    natLearning crc hz now chances s srcMac ip hdr =
        natLearn crc hz now s ⟨srcMac, hdr.proto⟩ (hdr.flow ip) chances ∨
      hdr.proto = ipprotoTcp ∧ ∃ i,
        (natLearn crc hz now s ⟨srcMac, hdr.proto⟩ (hdr.flow ip) chances).outEntry = some i ∧
        (natLearn crc hz now s ⟨srcMac, hdr.proto⟩ (hdr.flow ip) chances).natPort ≠ 0 ∧
        NatRetracked i (natLearn crc hz now s ⟨srcMac, hdr.proto⟩ (hdr.flow ip) chances).ccb
          (natLearning crc hz now chances s srcMac ip hdr).ccb := by
  cases hdr with
  | udp srcPort dstPort => exact Or.inl rfl
  | icmp hdr => exact Or.inl rfl
  | tcp tcp =>
      have hpacket : natLearning crc hz now chances s srcMac ip (.tcp tcp) =
          natTcpLearning crc hz now chances s srcMac ip tcp := rfl
      have hlearn : natLearningPortReuse crc hz now chances s ⟨srcMac, ipprotoTcp⟩ ip.srcAddr
          ip.dstAddr tcp.srcPort tcp.dstPort =
          natLearn crc hz now s ⟨srcMac, (L4Hdr.tcp tcp).proto⟩ ((L4Hdr.tcp tcp).flow ip) chances := rfl
      rw [hpacket]
      unfold natTcpLearning
      rw [hlearn]
      generalize natLearn crc hz now s ⟨srcMac, (L4Hdr.tcp tcp).proto⟩ ((L4Hdr.tcp tcp).flow ip) chances
        = learned
      obtain ⟨ccb, natPort, outEntry⟩ := learned
      cases outEntry with
      | none => exact Or.inl rfl
      | some i =>
          dsimp only
          by_cases hport : natPort = 0
          · rw [if_pos hport]
            exact Or.inl rfl
          · rw [if_neg hport]
            refine Or.inr ⟨rfl, i, rfl, hport, natSetConntrack_retracked ?_⟩
            intro harmed
            exact tcpConntrackFsmView_armed hhz now (v := tcpConntrackNatView ccb i) harmed
              tcp.tcpFlags false

/-- Tracking changes neither the port that is reported nor the rules. -/
theorem natLearning_frame (crc : BitVec 32 → BitVec 32 → BitVec 32) (hz now : Nat)
    (chances : BitVec 16 → NatChance) (s : NatCcb) (srcMac : BitVec 48) (ip : Ipv4Hdr)
    (hdr : L4Hdr) :
    let learned := natLearning crc hz now chances s srcMac ip hdr
    let plain := natLearn crc hz now s ⟨srcMac, hdr.proto⟩ (hdr.flow ip) chances
    learned.natPort = plain.natPort ∧ learned.ccb.portFwdTable = plain.ccb.portFwdTable := by
  cases hdr with
  | udp srcPort dstPort => exact ⟨rfl, rfl⟩
  | icmp hdr => exact ⟨rfl, rfl⟩
  | tcp tcp =>
      have hlearn : natLearningPortReuse crc hz now chances s ⟨srcMac, ipprotoTcp⟩ ip.srcAddr
          ip.dstAddr tcp.srcPort tcp.dstPort =
          natLearn crc hz now s ⟨srcMac, (L4Hdr.tcp tcp).proto⟩ ((L4Hdr.tcp tcp).flow ip) chances := rfl
      have hpacket : natLearning crc hz now chances s srcMac ip (.tcp tcp)
          = natTcpLearning crc hz now chances s srcMac ip tcp := rfl
      rw [hpacket]
      unfold natTcpLearning
      rw [hlearn]
      dsimp only
      split
      · exact ⟨rfl, rfl⟩
      · split <;> exact ⟨rfl, rfl⟩

/-- Forwarding a port changes nothing but how often it was used. -/
theorem decapsPortFwd_retracked (macTable : Option MacTable) (s : NatCcb) (dstPort : BitVec 16) :
    NatRetracked 0 s (decapsPortFwd macTable s dstPort).2 := by
  have hsame : ∀ table : Nat → PortFwdEntry, NatRetracked 0 s { s with portFwdTable := table } :=
    fun _ => ⟨rfl, rfl, rfl, fun _ _ => ⟨rfl, rfl⟩, fun _ => rfl, fun _ h => h⟩
  unfold decapsPortFwd
  split
  · exact hsame s.portFwdTable
  · dsimp only
    split <;> exact hsame _

/-- A packet from the WAN is dropped at once, or looked for under its key and perhaps tracked. -/
theorem decaps_state (hhz : 0 < hz) (now : Nat) (macTable : Option MacTable) (s : NatCcb)
    (ip : Ipv4Hdr) (hdr : L4Hdr) :
    (decaps hz now macTable s ip hdr).2 = s ∨ ∃ i, NatRetracked i
      (natReverseLookup hz now s (hdr.inboundKey ip).natPort (hdr.inboundKey ip).dstIp
        (hdr.inboundKey ip).dstPort).2 (decaps hz now macTable s ip hdr).2 := by
  have hrefl : ∀ s : NatCcb, NatRetracked 0 s s :=
    fun _ => ⟨rfl, rfl, rfl, fun _ _ => ⟨rfl, rfl⟩, fun _ => rfl, fun _ h => h⟩
  cases hdr with
  | udp srcPort dstPort =>
      refine Or.inr ?_
      show ∃ i, NatRetracked i (natReverseLookup hz now s dstPort ip.srcAddr srcPort).2
        (decapsUdp hz now macTable s ip srcPort dstPort).2
      unfold decapsUdp
      cases natReverseLookup hz now s dstPort ip.srcAddr srcPort with
      | mk found looked =>
          cases found with
          | none => exact ⟨0, decapsPortFwd_retracked macTable looked dstPort⟩
          | some i => exact ⟨0, hrefl looked⟩
  | tcp tcp =>
      refine Or.inr ?_
      show ∃ i, NatRetracked i (natReverseLookup hz now s tcp.dstPort ip.srcAddr tcp.srcPort).2
        (decapsTcp hz now macTable s ip tcp).2
      unfold decapsTcp
      cases natReverseLookup hz now s tcp.dstPort ip.srcAddr tcp.srcPort with
      | mk found looked =>
          cases found with
          | none => exact ⟨0, decapsPortFwd_retracked macTable looked tcp.dstPort⟩
          | some i =>
              dsimp only
              split
              · refine ⟨i, natSetConntrack_retracked ?_⟩
                intro harmed
                exact tcpConntrackFsmView_armed hhz now (v := tcpConntrackNatView looked i) harmed
                  tcp.tcpFlags true
              · split <;> exact ⟨0, hrefl looked⟩
  | icmp icmp =>
      show (decapsIcmp hz now s ip icmp).2 = s ∨ ∃ i, NatRetracked i (natReverseLookup hz now s
        icmp.icmpIdent ip.srcAddr (icmpEchoRequest.setWidth 16)).2 (decapsIcmp hz now s ip icmp).2
      unfold decapsIcmp
      split
      · exact Or.inl rfl
      · refine Or.inr ?_
        cases natReverseLookup hz now s icmp.icmpIdent ip.srcAddr (icmpEchoRequest.setWidth 16) with
        | mk found looked =>
            cases found with
            | none => exact ⟨0, hrefl looked⟩
            | some i => exact ⟨0, hrefl looked⟩

/-- Looking for a mapping drops it, or refreshes it. -/
theorem natReverseLookup_cases (hz now : Nat) (s : NatCcb) (port : BitVec 16) (remoteIp : BitVec 32)
    (remotePort : BitVec 16) :
    NatKeeps s (natReverseLookup hz now s port remoteIp remotePort).2 ∨
      ∃ i, NatRetracked i s (natReverseLookup hz now s port remoteIp remotePort).2 := by
  unfold natReverseLookup
  split
  · exact Or.inl (NatKeeps.refl s)
  · rename_i i hr
    split
    · exact Or.inl (natEntryDelKeys_keeps s i)
    · exact Or.inr ⟨i, natEntryRefresh_retracked hz now s i⟩

/-- Where a packet that is forwarded goes: a forwarded port leads there, or a mapping `P` holds of. -/
def ForwardedBy (P : Nat → Prop) (s : NatCcb) (ip : Ipv4Hdr) (hdr : L4Hdr) (mac : BitVec 48)
    (addr : BitVec 32) (port : BitVec 16) : Prop :=
  hdr.dstPort.bind (natPortFwdReverseLookup s.portFwdTable) = some (addr, port) ∨
    ∃ i, s.natReverseHash.lookup (hdr.inboundKey ip) = some i ∧
      decapsForward s i = .forward mac addr port ∧ P i

theorem natReverseLookup_found {port : BitVec 16} {remoteIp : BitVec 32} {remotePort : BitVec 16}
    {looked : NatCcb} (h : natReverseLookup hz now s port remoteIp remotePort = (some i, looked)) :
    s.natReverseHash.lookup ⟨remoteIp, port, remotePort⟩ = some i ∧
      looked.addrTable = s.addrTable := by
  unfold natReverseLookup at h
  split at h
  · cases (Prod.mk.inj h).1
  · rename_i j hr
    split at h
    · cases (Prod.mk.inj h).1
    · obtain ⟨hj, hlooked⟩ := Prod.mk.inj h
      rw [← Option.some.inj hj, ← hlooked]
      exact ⟨hr, rfl⟩

theorem natReverseLookup_portFwdTable (hz now : Nat) (s : NatCcb) (port : BitVec 16)
    (remoteIp : BitVec 32) (remotePort : BitVec 16) :
    (natReverseLookup hz now s port remoteIp remotePort).2.portFwdTable = s.portFwdTable := by
  unfold natReverseLookup
  split
  · rfl
  · split <;> rfl

theorem decapsPortFwd_forward {macTable : Option MacTable} {dstPort : BitVec 16} {mac : BitVec 48}
    {addr : BitVec 32} {port : BitVec 16}
    (h : (decapsPortFwd macTable s dstPort).1 = .forward mac addr port) :
    natPortFwdReverseLookup s.portFwdTable dstPort = some (addr, port) := by
  unfold decapsPortFwd at h
  split at h
  · cases h
  · rename_i dip iport hfwd
    dsimp only at h
    split at h
    · obtain ⟨-, rfl, rfl⟩ := DecapsAction.forward.inj h
      exact hfwd
    · cases h

/-- A packet is forwarded only to where a forwarded port or the mapping under its key leads. -/
theorem decaps_forward {macTable : Option MacTable} {ip : Ipv4Hdr} {hdr : L4Hdr} {mac : BitVec 48}
    {addr : BitVec 32} {port : BitVec 16}
    (h : (decaps hz now macTable s ip hdr).1 = .forward mac addr port) :
    ForwardedBy (fun _ => True) s ip hdr mac addr port := by
  -- through the mapping that was found
  have hmapped : ∀ {looked : NatCcb} {i : Nat}, natReverseLookup hz now s (hdr.inboundKey ip).natPort
      (hdr.inboundKey ip).dstIp (hdr.inboundKey ip).dstPort = (some i, looked) →
      decapsForward looked i = .forward mac addr port →
      ForwardedBy (fun _ => True) s ip hdr mac addr port := by
    intro looked i hlook hfwd
    obtain ⟨hr, htable⟩ := natReverseLookup_found hlook
    refine Or.inr ⟨i, hr, ?_, trivial⟩
    unfold decapsForward at hfwd ⊢
    rw [← htable]
    exact hfwd
  cases hdr with
  | udp srcPort dstPort =>
      have htable := natReverseLookup_portFwdTable hz now s dstPort ip.srcAddr srcPort
      simp only [decaps, decapsUdp] at h
      cases hlook : natReverseLookup hz now s dstPort ip.srcAddr srcPort with
      | mk found looked =>
          rw [hlook] at h htable
          cases found with
          | none =>
              refine Or.inl ?_
              rw [← htable]
              exact decapsPortFwd_forward h
          | some i => exact hmapped hlook h
  | tcp tcp =>
      have htable := natReverseLookup_portFwdTable hz now s tcp.dstPort ip.srcAddr tcp.srcPort
      simp only [decaps, decapsTcp] at h
      cases hlook : natReverseLookup hz now s tcp.dstPort ip.srcAddr tcp.srcPort with
      | mk found looked =>
          rw [hlook] at h htable
          cases found with
          | none =>
              refine Or.inl ?_
              rw [← htable]
              exact decapsPortFwd_forward h
          | some i =>
              dsimp only at h
              split at h
              · exact hmapped hlook h
              · split at h
                · cases h
                · exact hmapped hlook h
  | icmp icmp =>
      simp only [decaps, decapsIcmp] at h
      split at h
      · cases h
      · cases hlook : natReverseLookup hz now s icmp.icmpIdent ip.srcAddr
            (icmpEchoRequest.setWidth 16) with
        | mk found looked =>
            rw [hlook] at h
            cases found with
            | none => cases h
            | some i => exact hmapped hlook h

/-! ### One event -/

/-- What an event leaves to be found: a mapping that was there and has only been tracked, or one
made for the event's own packet. -/
structure NatFinds (l : NatPacket) (s t : NatCcb) : Prop where
  conserved : NatConserved t
  found : ∀ r i, t.natReverseHash.lookup r = some i →
    (s.natReverseHash.lookup r = some i ∧ (t.addrTable i).mapping = (s.addrTable i).mapping) ∨
      l.Made r (t.addrTable i)

theorem NatKeeps.finds (hkeeps : NatKeeps s t) (ht : NatConserved t) (l : NatPacket) :
    NatFinds l s t := by
  refine ⟨ht, ?_⟩
  intro r i hr
  exact Or.inl ⟨hkeeps.reverse hr, congrArg AddrTable.mapping (hkeeps.entry hr).1⟩

theorem NatFinds.retracked {l : NatPacket} (h : NatFinds l s t) (hu : NatRetracked i t u) :
    NatFinds l s u := by
  refine ⟨hu.conserved h.conserved, ?_⟩
  intro r j hr
  rw [hu.reverse] at hr
  rcases h.found r j hr with ⟨hold, hmapping⟩ | ⟨mac, ip, hdr, chances, port, hevent, hmapping, hkey⟩
  · exact Or.inl ⟨hold, (hu.mapping j).trans hmapping⟩
  · exact Or.inr ⟨mac, ip, hdr, chances, port, hevent, (hu.mapping j).trans hmapping, hkey⟩

/-- Learning a packet adds a mapping made for that packet. -/
theorem natLearn_finds (crc : BitVec 32 → BitVec 32 → BitVec 32) (hz now : Nat)
    (h : NatConserved s) (srcMac : BitVec 48) (ip : Ipv4Hdr) (hdr : L4Hdr)
    (chances : BitVec 16 → NatChance) :
    NatFinds ⟨now, .lan srcMac ip hdr chances⟩ s
      (natLearn crc hz now s ⟨srcMac, hdr.proto⟩ (hdr.flow ip) chances).ccb := by
  have hcons : NatConserved (natLearn crc hz now s ⟨srcMac, hdr.proto⟩ (hdr.flow ip) chances).ccb :=
    natStep_conserved crc ⟨now, .learn ⟨srcMac, hdr.proto⟩ (hdr.flow ip) chances⟩ h
  refine ⟨hcons, ?_⟩
  intro r i hr
  rcases natLearn_adds crc hz now h ⟨srcMac, hdr.proto⟩ (hdr.flow ip) chances r i hr with
    ⟨hold, htable⟩ | ⟨natPort, htable, hkey⟩
  · exact Or.inl ⟨hold, congrArg AddrTable.mapping htable⟩
  · refine Or.inr ⟨srcMac, ip, hdr, chances, natPort, rfl, ?_, hkey⟩
    rw [htable]
    rfl

theorem natPacketStep_finds (hhz : 0 < hz) (crc : BitVec 32 → BitVec 32 → BitVec 32)
    (h : NatConserved s) (l : NatPacket) : NatFinds l s (natPacketStep crc hz s l) := by
  obtain ⟨now, event⟩ := l
  cases event with
  | lan srcMac ip hdr chances =>
      show NatFinds _ s (natLearning crc hz now chances s srcMac ip hdr).ccb
      have hlearn := natLearn_finds crc hz now h srcMac ip hdr chances
      rcases natLearning_cases hhz crc now chances s srcMac ip hdr with hsame | ⟨-, i, -, -, htracked⟩
      · rw [hsame]
        exact hlearn
      · exact hlearn.retracked htracked
  | wan macTable ip hdr =>
      show NatFinds _ s (decaps hz now macTable s ip hdr).2
      have hrefl := (NatKeeps.refl s).finds h ⟨now, .wan macTable ip hdr⟩
      rcases decaps_state hhz now macTable s ip hdr with hsame | ⟨i, htracked⟩
      · rw [hsame]
        exact hrefl
      · refine NatFinds.retracked ?_ htracked
        rcases natReverseLookup_cases hz now s (hdr.inboundKey ip).natPort (hdr.inboundKey ip).dstIp
          (hdr.inboundKey ip).dstPort with hkeeps | ⟨j, hfresh⟩
        · exact hkeeps.finds (natReverseLookup_conserved h _ _ _) _
        · exact hrefl.retracked hfresh
  | gcScan maxSlots grace =>
      have hmoves := natGcScan_moves now s maxSlots grace
      exact (hmoves.keeps h).finds (hmoves.conserved h) _
  | delAll => exact (natTableDelAll_keeps s).finds (natTableDelAll_conserved h) _
  | reclaimReverse m =>
      have hmoves : NatMoves now 0 0 s (natReverseDqReclaim m s) := natReverseDqReclaim_moves m s
      exact (hmoves.keeps h).finds (hmoves.conserved h) _
  | reclaimForward m =>
      have hmoves : NatMoves now 0 0 s (natForwardDqReclaim m s) := natForwardDqReclaim_moves m s
      exact (hmoves.keeps h).finds (hmoves.conserved h) _

/-! ### Runs -/

/-- Every mapping that is found was made for a LAN packet of the history. -/
structure NatMade (ls : List NatPacket) (s : NatCcb) : Prop where
  conserved : NatConserved s
  made : ∀ r i, s.natReverseHash.lookup r = some i → ∃ l ∈ ls, l.Made r (s.addrTable i)

namespace NatMade

variable {ls : List NatPacket}

theorem step (h : NatMade ls s) {l : NatPacket} (hfinds : NatFinds l s t) :
    NatMade (ls ++ [l]) t := by
  refine ⟨hfinds.conserved, ?_⟩
  intro r i hr
  rcases hfinds.found r i hr with ⟨hold, hmapping⟩ | hmade
  · obtain ⟨q, hq, srcMac, ip, hdr, chances, natPort, hevent, hnew, hkey⟩ := h.made r i hold
    exact ⟨q, List.mem_append_left _ hq, srcMac, ip, hdr, chances, natPort, hevent,
      hmapping.trans hnew, hkey⟩
  · exact ⟨l, List.mem_append_right _ List.mem_cons_self, hmade⟩

theorem run (hhz : 0 < hz) {crc : BitVec 32 → BitVec 32 → BitVec 32} {ccb : NatCcb}
    {guard : NatCcb → NatPacket → Prop}
    (hrun : Run (natPacketStep crc hz) guard (natTableInit ccb) ls s) : NatMade ls s := by
  induction hrun with
  | nil =>
      refine ⟨natTableInit_conserved ccb, ?_⟩
      intro r i hr
      rw [natTableInit_reverseHash, Rte.Hash.lookup_empty] at hr
      cases hr
  | snoc _ l _ ih => exact ih.step (natPacketStep_finds hhz crc ih.conserved l)

end NatMade

/-- How many slots an event that begins in `s` may scan. -/
def NatEvent.scans (s : NatCcb) : NatEvent → Nat
  | .lan _ ip hdr _ => natLearnScans s (hdr.flow ip)
  | .gcScan maxSlots _ => maxSlots.toNat
  | _ => 0

/-- No stale slot an event may scan names keys of two different mappings. -/
def NatPacketApart (s : NatCcb) (l : NatPacket) : Prop :=
  NatSafeScan (fun _ => True) l.now s.natGcCounter (l.event.scans s) s

theorem natPacketStep_inv (hhz : 0 < hz) (crc : BitVec 32 → BitVec 32 → BitVec 32) (l : NatPacket)
    (h : NatInv s) (hguard : NatPacketApart s l) : NatInv (natPacketStep crc hz s l) := by
  obtain ⟨now, event⟩ := l
  have hop : ∀ op, natScans s op = event.scans s → NatInv (natStep crc hz s ⟨now, op⟩) := by
    intro op hscans
    refine natStep_inv (fun _ _ _ => trivial) crc hhz ⟨now, op⟩ h ?_
    show NatSafeScan _ now s.natGcCounter (natScans s op) s
    rw [hscans]
    exact hguard
  cases event with
  | lan srcMac ip hdr chances =>
      show NatInv (natLearning crc hz now chances s srcMac ip hdr).ccb
      have hlearn := hop (.learn ⟨srcMac, hdr.proto⟩ (hdr.flow ip) chances) rfl
      rcases natLearning_cases hhz crc now chances s srcMac ip hdr with hsame | ⟨-, i, -, -, htracked⟩
      · rw [hsame]
        exact hlearn
      · exact htracked.inv hlearn
  | wan macTable ip hdr =>
      show NatInv (decaps hz now macTable s ip hdr).2
      rcases decaps_state hhz now macTable s ip hdr with hsame | ⟨i, htracked⟩
      · rw [hsame]
        exact h
      · exact htracked.inv (natReverseLookup_inv h _ _ _)
  | gcScan maxSlots grace => exact hop (.gcScan maxSlots grace) rfl
  | delAll => exact natTableDelAll_inv h
  | reclaimReverse m => exact hop (.reclaimReverse m) rfl
  | reclaimForward m => exact hop (.reclaimForward m) rfl

/-! ### What a LAN packet leaves alone -/

/-- The mapping found under `r` in slot `i` was there before, and is as it was. -/
def NatUntouchedAt (r : NatReverseKey) (i : Nat) (s t : NatCcb) : Prop :=
  s.natReverseHash.lookup r = some i ∧ t.addrTable i = s.addrTable i ∧
    t.natExpireAt i = s.natExpireAt i

theorem NatEnding.others {learned : NatLearned} (hend : NatEnding hz now flow s learned)
    (h : NatInv s) {r : NatReverseKey} (hr : learned.ccb.natReverseHash.lookup r = some i) :
    NatUntouchedAt r i s learned.ccb ∨ learned.ccb.fkey i = flow := by
  -- a refresh is of the flow's own slot
  have hrefresh : ∀ j, s.fkey j = flow → s.natReverseHash.lookup r = some i →
      NatUntouchedAt r i s (natEntryRefresh hz now s j) ∨
        (natEntryRefresh hz now s j).fkey i = flow := by
    intro j hj hr
    by_cases hij : i = j
    · exact Or.inr (hij ▸ hj)
    · exact Or.inl ⟨hr, rfl, Function.update_of_ne hij _ _⟩
  cases hend with
  | @known j hf => exact hrefresh j (h.paired.ofFwd flow j hf).1.symm hr
  | @same j natPort hrev hsame => exact hrefresh j (forwardKey_of_sameFlow hsame).1 hr
  | failed => exact Or.inl ⟨hr, rfl, rfl⟩
  | @unpublished j natPort ring origin rev room hnone hdeq hadd =>
      have helse := natElsewhere_fill hz now origin flow natPort h.conserved hdeq (fun _ => rfl)
      have hrev : rev.lookup r = some i := (Rte.Hash.lookup_of_delKey hr).2
      rw [Rte.Hash.lookup_addKeyData hadd] at hrev
      by_cases hkey : r = flow.reverse natPort
      · have hdel : (rev.delKey (flow.reverse natPort)).2.lookup r = some i := hr
        rw [hkey, Rte.Hash.lookup_delKey_self] at hdel
        cases hdel
      · rw [if_neg hkey] at hrev
        have hne := helse.ne_of_lookup hrev
        exact Or.inl ⟨hrev, helse.table i hne, helse.expire i hne⟩
  | @published j natPort ring origin rev fwd room room' hf hnone hdeq hradd hfadd =>
      have helse := natElsewhere_fill hz now origin flow natPort h.conserved hdeq (fun _ => rfl)
      have hrev : rev.lookup r = some i := hr
      rw [Rte.Hash.lookup_addKeyData hradd] at hrev
      by_cases hkey : r = flow.reverse natPort
      · rw [if_pos hkey] at hrev
        obtain rfl := Option.some.inj hrev
        refine Or.inr ?_
        show (Function.update s.addrTable j _ j).forwardKey = flow
        rw [Function.update_self]
        rfl
      · rw [if_neg hkey] at hrev
        have hne := helse.ne_of_lookup hrev
        exact Or.inl ⟨hrev, helse.table i hne, helse.expire i hne⟩

/-- A LAN packet leaves every mapping alone that is not its own flow's. -/
theorem natLearning_others (hhz : 0 < hz) (crc : BitVec 32 → BitVec 32 → BitVec 32) (now : Nat)
    (chances : BitVec 16 → NatChance) (h : NatInv s) (srcMac : BitVec 48) (ip : Ipv4Hdr) (hdr : L4Hdr)
    (hguard : NatPacketApart s ⟨now, .lan srcMac ip hdr chances⟩) {r : NatReverseKey}
    (hr : (natLearning crc hz now chances s srcMac ip hdr).ccb.natReverseHash.lookup r = some i) :
    NatUntouchedAt r i s (natLearning crc hz now chances s srcMac ip hdr).ccb ∨
      (natLearning crc hz now chances s srcMac ip hdr).ccb.fkey i = hdr.flow ip := by
  obtain ⟨s₁, hmoves, hend⟩ := natLearn_moves crc hz now h.conserved.cap_pos
    ⟨srcMac, hdr.proto⟩ (hdr.flow ip) chances
  have hscan : NatScannable (fun _ => True) now s.natGcCounter (natLearnScans s (hdr.flow ip)) s :=
    ⟨h, hguard⟩
  have h₁ : NatInv s₁ := (hmoves.scannable (fun _ _ => trivial) hscan).inv
  have hkeeps := hmoves.keeps h.conserved
  -- what the learning itself leaves alone
  have hlearn : ∀ {j}, (natLearn crc hz now s ⟨srcMac, hdr.proto⟩ (hdr.flow ip)
      chances).ccb.natReverseHash.lookup r = some j →
      NatUntouchedAt r j s (natLearn crc hz now s ⟨srcMac, hdr.proto⟩ (hdr.flow ip) chances).ccb ∨
        (natLearn crc hz now s ⟨srcMac, hdr.proto⟩ (hdr.flow ip) chances).ccb.fkey j = hdr.flow ip := by
    intro j hj
    rcases hend.others h₁ hj with ⟨hold, htable, hexp⟩ | hflow
    · obtain ⟨htable₁, hexp₁⟩ := hkeeps.entry hold
      exact Or.inl ⟨hkeeps.reverse hold, htable.trans htable₁, hexp.trans hexp₁⟩
    · exact Or.inr hflow
  rcases natLearning_cases hhz crc now chances s srcMac ip hdr with
    hsame | ⟨-, j, hout, hport, htracked⟩
  · rw [hsame] at hr ⊢
    exact hlearn hr
  · rw [htracked.reverse] at hr
    by_cases hij : i = j
    · obtain ⟨k, hk, hlinked⟩ := hend.linked h₁ hport
      have hkj : k = j := Option.some.inj (hk.symm.trans hout)
      have hinv := hend.inv hhz h₁
      refine Or.inr ?_
      rw [htracked.fkey, hij, ← hkj]
      exact (hinv.paired.ofFwd _ _ hlinked.forward).1.symm
    · rcases hlearn hr with ⟨hold, htable, hexp⟩ | hflow
      · obtain ⟨htable', hexp'⟩ := htracked.others i hij
        exact Or.inl ⟨hold, htable'.trans htable, hexp'.trans hexp⟩
      · refine Or.inr ?_
        rw [htracked.fkey]
        exact hflow

/-! ### Protocols -/

/-- The protocols are kept apart: a WAN packet goes through mappings of its own protocol only, and a
LAN packet leaves those of every other protocol alone. -/
structure NatSeparate (crc : BitVec 32 → BitVec 32 → BitVec 32) (hz : Nat) (ccb : NatCcb) : Prop where
  inbound : ∀ ls s, Run (natPacketStep crc hz) (fun _ _ => True) (natTableInit ccb) ls s →
    ∀ now macTable ip hdr mac addr port,
      (decaps hz now macTable s ip hdr).1 = .forward mac addr port →
      ForwardedBy (fun i => (s.addrTable i).proto = hdr.proto) s ip hdr mac addr port
  outbound : ∀ ls s, Run (natPacketStep crc hz) (fun _ _ => True) (natTableInit ccb) ls s →
    ∀ now srcMac ip hdr chances r i,
      let t := (natLearning crc hz now chances s srcMac ip hdr).ccb
      t.natReverseHash.lookup r = some i → (t.addrTable i).proto ≠ hdr.proto →
      NatUntouchedAt r i s t

/-- The keys are kept apart: a WAN packet goes through a mapping that was made for a LAN packet to
where it comes from, a LAN packet leaves the mappings of every other flow alone, and only a TCP
segment changes what was tracked of a mapping. -/
structure NatByKey (crc : BitVec 32 → BitVec 32 → BitVec 32) (hz : Nat) (ccb : NatCcb) : Prop where
  inbound : ∀ ls s, Run (natPacketStep crc hz) (fun _ _ => True) (natTableInit ccb) ls s →
    ∀ now macTable ip hdr mac addr port,
      (decaps hz now macTable s ip hdr).1 = .forward mac addr port →
      ForwardedBy (fun i => ∃ l ∈ ls, l.Made (hdr.inboundKey ip) (s.addrTable i)) s ip hdr mac addr
        port
  outbound : ∀ ls s, Run (natPacketStep crc hz) NatPacketApart (natTableInit ccb) ls s →
    ∀ now srcMac ip hdr chances r i, NatPacketApart s ⟨now, .lan srcMac ip hdr chances⟩ →
      let t := (natLearning crc hz now chances s srcMac ip hdr).ccb
      t.natReverseHash.lookup r = some i → NatUntouchedAt r i s t ∨ t.fkey i = hdr.flow ip
  tracking : ∀ ls s, Run (natPacketStep crc hz) (fun _ _ => True) (natTableInit ccb) ls s →
    ∀ now srcMac ip hdr chances, hdr.proto ≠ ipprotoTcp →
      NatAdds ⟨srcMac, hdr.proto⟩ (hdr.flow ip) s (natLearning crc hz now chances s srcMac ip hdr).ccb

/--
**Mappings are told apart by their keys, not by their protocol.**  In every run from a fresh table,
whatever packets of whatever protocols it is made of.  For what a LAN packet leaves alone, no event
may scan a stale slot that names the keys of two different mappings.
-/
theorem natByKey_of_packets (crc : BitVec 32 → BitVec 32 → BitVec 32) (hz : Nat) (hhz : 0 < hz)
    (ccb : NatCcb) : NatByKey crc hz ccb := by
  refine ⟨?_, ?_, ?_⟩
  · intro ls s hrun now macTable ip hdr mac addr port hfwd
    rcases decaps_forward hfwd with hport | ⟨i, hr, hentry, -⟩
    · exact Or.inl hport
    · exact Or.inr ⟨i, hr, hentry, (NatMade.run hhz hrun).made _ i hr⟩
  · intro ls s hrun now srcMac ip hdr chances r i hguard
    have hinv : NatInv s :=
      hrun.inv NatInv (fun _ l h hl => natPacketStep_inv hhz crc l h hl) (NatInv.init ccb)
    exact natLearning_others hhz crc now chances hinv srcMac ip hdr hguard
  · intro ls s hrun now srcMac ip hdr chances hproto
    rcases natLearning_cases hhz crc now chances s srcMac ip hdr with hsame | ⟨htcp, -⟩
    · rw [hsame]
      exact natLearn_adds crc hz now (NatMade.run hhz hrun).conserved _ _ chances
    · exact absurd htcp hproto

/-- A datagram from 192.168.1.6. -/
def udpOut : NatPacket :=
  ⟨0, .lan 0x020000000001 ⟨0x45, 28, 0x0601a8c0, 0x22d8b85d⟩ (.udp 0xb09c 0xbb01)
    fun _ => ⟨⟨0, 0, 0⟩, true, true⟩⟩

/-- A segment that comes from where the datagram went, to the port it was translated to. -/
def tcpIn : TcpHdr := ⟨0xbb01, 0x4704, 1, 1, 0x50, rteTcpAckFlag, 100⟩
def tcpInIp : Ipv4Hdr := ⟨0x45, 40, 0x22d8b85d, 0x0100a8c0⟩

theorem run_udpOut : Run (natPacketStep rteHashCrc4byte 2000000000) (fun _ _ => True)
    (natTableInit natBlank) [udpOut]
    (natPacketStep rteHashCrc4byte 2000000000 (natTableInit natBlank) udpOut) :=
  .single _ trivial

set_option maxRecDepth 8000 in
theorem decaps_tcpIn :
    (decaps 2000000000 1000 none
      (natPacketStep rteHashCrc4byte 2000000000 (natTableInit natBlank) udpOut) tcpInIp
      (.tcp tcpIn)).1 = .forward 0x020000000001 0x0601a8c0 0xb09c := by
  rw [natTableInit_eq]
  decide

/-- The segment goes to the host of the datagram, whose mapping it found. -/
theorem natByKey_of_packets_udp :
    ForwardedBy (fun i => ∃ l ∈ [udpOut], l.Made ((L4Hdr.tcp tcpIn).inboundKey tcpInIp)
        ((natPacketStep rteHashCrc4byte 2000000000 (natTableInit natBlank) udpOut).addrTable i))
      (natPacketStep rteHashCrc4byte 2000000000 (natTableInit natBlank) udpOut) tcpInIp
      (.tcp tcpIn) 0x020000000001 0x0601a8c0 0xb09c :=
  (natByKey_of_packets rteHashCrc4byte 2000000000 (by decide) natBlank).inbound _ _ run_udpOut 1000
    none tcpInIp (.tcp tcpIn) _ _ _ decaps_tcpIn

set_option maxRecDepth 8000 in
/-- A TCP segment goes through a mapping that was made for a datagram. -/
theorem tcp_through_udp : ¬ NatSeparate rteHashCrc4byte 2000000000 natBlank := by
  intro h
  have hforwarded := h.inbound _ _ run_udpOut 1000 none tcpInIp (.tcp tcpIn) _ _ _ decaps_tcpIn
  rw [natTableInit_eq] at hforwarded
  rcases hforwarded with hport | ⟨i, hr, -, hproto⟩
  · cases hport
  · obtain rfl : i = 0 := Option.some.inj (hr.symm.trans (by decide))
    exact absurd hproto (by decide)

end FastRG
