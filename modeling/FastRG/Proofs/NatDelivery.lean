/-
Which host an inbound packet is delivered to.

The Ethernet address of a host is written into its mapping once, from the packet the mapping was
made for.  A packet that finds the mapping again only refreshes it, so when an address of the LAN
moves to another device the mapping goes on delivering to the first.  A forwarded port does not: it
asks the table of addresses, which every LAN packet keeps current.

So a delivery is current exactly when the last LAN packet of the flow came from the device the
mapping was made for.  In a run in which no packet finds a mapping of its flow that was made for
another device, every delivery is.
-/
import FastRG.Proofs.NatProtocols

namespace FastRG

variable {hz : Nat} {s t : NatCcb} {ls : List NatPacket}

/-- The device a packet comes from, if it is a LAN packet of the flow. -/
def NatPacket.lanMac (l : NatPacket) (flow : NatForwardKey) : Option (BitVec 48) :=
  match l.event with
  | .lan srcMac ip hdr _ => if hdr.flow ip = flow then some srcMac else none
  | _ => none

/-- The device the last LAN packet of the flow came from. -/
def latestMac (ls : List NatPacket) (flow : NatForwardKey) : Option (BitVec 48) :=
  ls.foldl (fun last l => (l.lanMac flow).or last) none

theorem latestMac_snoc (ls : List NatPacket) (l : NatPacket) (flow : NatForwardKey) :
    latestMac (ls ++ [l]) flow = (l.lanMac flow).or (latestMac ls flow) := by
  simp [latestMac]

/-- A packet comes from the device it has made a mapping for. -/
theorem NatPacket.Made.lanMac {l : NatPacket} {r : NatReverseKey} {e : AddrTable}
    (h : l.Made r e) : l.lanMac e.forwardKey = some e.macAddr := by
  obtain ⟨srcMac, ip, hdr, chances, natPort, hevent, hmapping, -⟩ := h
  have hflow : hdr.flow ip = e.forwardKey := (congrArg AddrTable.forwardKey hmapping).symm
  have hmac : srcMac = e.macAddr := (congrArg AddrTable.macAddr hmapping).symm
  unfold NatPacket.lanMac
  rw [hevent]
  show (if hdr.flow ip = e.forwardKey then some srcMac else none) = some e.macAddr
  rw [if_pos hflow, hmac]

/-- No mapping of the packet's flow was made for another device. -/
def MacSteady (s : NatCcb) (l : NatPacket) : Prop :=
  ∀ r i, s.natReverseHash.lookup r = some i →
    ∀ mac, l.lanMac (s.fkey i) = some mac → (s.addrTable i).macAddr = mac

/-- Every mapping names the device its flow was last seen from. -/
def MacsCurrent (ls : List NatPacket) (s : NatCcb) : Prop :=
  ∀ r i, s.natReverseHash.lookup r = some i →
    latestMac ls (s.fkey i) = some (s.addrTable i).macAddr

theorem MacsCurrent.step {l : NatPacket} (h : MacsCurrent ls s) (hsteady : MacSteady s l)
    (hfinds : NatFinds l s t) : MacsCurrent (ls ++ [l]) t := by
  intro r i hr
  rw [latestMac_snoc]
  rcases hfinds.found r i hr with ⟨hold, hmapping⟩ | hmade
  · have hflow : t.fkey i = s.fkey i := by
      show (t.addrTable i).mapping.forwardKey = (s.addrTable i).mapping.forwardKey
      rw [hmapping]
    have hmac : (t.addrTable i).macAddr = (s.addrTable i).macAddr := by
      show (t.addrTable i).mapping.macAddr = (s.addrTable i).mapping.macAddr
      rw [hmapping]
    rw [hflow, hmac]
    cases hlan : l.lanMac (s.fkey i) with
    | none => exact h r i hold
    | some mac =>
        rw [hsteady r i hold mac hlan]
        rfl
  · have hlan : l.lanMac (t.fkey i) = some (t.addrTable i).macAddr := hmade.lanMac
    rw [hlan]
    rfl

theorem MacsCurrent.run (hhz : 0 < hz) {crc : BitVec 32 → BitVec 32 → BitVec 32} {ccb : NatCcb}
    (hrun : Run (natPacketStep crc hz) MacSteady (natTableInit ccb) ls s) : MacsCurrent ls s := by
  induction hrun with
  | nil =>
      intro r i hr
      rw [natTableInit_reverseHash, Rte.Hash.lookup_empty] at hr
      cases hr
  | snoc hrun l hsteady ih =>
      exact ih.step hsteady (natPacketStep_finds hhz crc (NatMade.run hhz hrun).conserved l)

/-- Every delivery through a mapping, in every run, is to the device its flow was last seen from. -/
def MacsDelivered (crc : BitVec 32 → BitVec 32 → BitVec 32) (hz : Nat) (ccb : NatCcb)
    (guard : NatCcb → NatPacket → Prop) : Prop :=
  ∀ ls s, Run (natPacketStep crc hz) guard (natTableInit ccb) ls s →
    ∀ now macTable ip hdr mac addr port,
      (decaps hz now macTable s ip hdr).1 = .forward mac addr port →
      ForwardedBy (fun i => latestMac ls (s.fkey i) = some mac) s ip hdr mac addr port

/-- What does hold of a delivery: in every run, it is current exactly when the last LAN packet of
the flow is from the device of the packet the mapping was made for; and it is current where no step
of the run brings a flow from another device than its mapping's. -/
structure MacOfMapping (crc : BitVec 32 → BitVec 32 → BitVec 32) (hz : Nat) (ccb : NatCcb) : Prop where
  exact : ∀ ls s, Run (natPacketStep crc hz) (fun _ _ => True) (natTableInit ccb) ls s →
    ∀ now macTable ip hdr mac addr port,
      (decaps hz now macTable s ip hdr).1 = .forward mac addr port →
      ForwardedBy (fun i => ∃ made ∈ ls, made.Made (hdr.inboundKey ip) (s.addrTable i) ∧
        (latestMac ls (s.fkey i) = some mac ↔ made.lanMac (s.fkey i) = latestMac ls (s.fkey i)))
        s ip hdr mac addr port
  steady : MacsDelivered crc hz ccb MacSteady

theorem mac_of_decapsForward {i : Nat} {mac : BitVec 48} {addr : BitVec 32} {port : BitVec 16}
    (h : decapsForward s i = .forward mac addr port) : (s.addrTable i).macAddr = mac :=
  (DecapsAction.forward.inj h).1

/--
**Deliveries go to the device a mapping was made for.**  In every run from a fresh table, for
packets of every protocol.
-/
theorem macOfMapping_of_packets (crc : BitVec 32 → BitVec 32 → BitVec 32) (hz : Nat) (hhz : 0 < hz)
    (ccb : NatCcb) : MacOfMapping crc hz ccb := by
  refine ⟨?_, ?_⟩
  · intro ls s hrun now macTable ip hdr mac addr port hfwd
    rcases decaps_forward hfwd with hport | ⟨i, hr, hentry, -⟩
    · exact Or.inl hport
    · obtain ⟨made, hmem, hmade⟩ := (NatMade.run hhz hrun).made _ i hr
      have hlan : made.lanMac (s.fkey i) = some mac := by
        rw [← mac_of_decapsForward hentry]
        exact hmade.lanMac
      refine Or.inr ⟨i, hr, hentry, made, hmem, hmade, ?_⟩
      rw [hlan]
      exact eq_comm
  · intro ls s hrun now macTable ip hdr mac addr port hfwd
    rcases decaps_forward hfwd with hport | ⟨i, hr, hentry, -⟩
    · exact Or.inl hport
    · refine Or.inr ⟨i, hr, hentry, ?_⟩
      rw [← mac_of_decapsForward hentry]
      exact MacsCurrent.run hhz hrun _ i hr

/-- Where all of a flow's packets so far came from the device of the next one, the next is steady. -/
theorem macSteady_of_current {l : NatPacket} (h : MacsCurrent ls s)
    (hsame : ∀ flow mac, l.lanMac flow = some mac → ∀ last, latestMac ls flow = some last →
      last = mac) : MacSteady s l := by
  intro r i hr mac hmac
  exact hsame (s.fkey i) mac hmac _ (h r i hr)

/-- A datagram of one flow, from the device with this address. -/
def datagramFrom (now : Nat) (srcMac : BitVec 48) : NatPacket :=
  ⟨now, .lan srcMac ⟨0x45, 28, 0x0601a8c0, 0x22d8b85d⟩ (.udp 0xb09c 0xbb01)
    fun _ => ⟨⟨0, 0, 0⟩, true, true⟩⟩

/-- The answer to it. -/
def answerIp : Ipv4Hdr := ⟨0x45, 28, 0x22d8b85d, 0x0100a8c0⟩

/-- The table after two datagrams. -/
def afterTwo (first second : BitVec 48) : NatCcb :=
  natPacketStep rteHashCrc4byte 2000000000
    (natPacketStep rteHashCrc4byte 2000000000 (natTableInit natBlank) (datagramFrom 0 first))
    (datagramFrom 500 second)

theorem run_afterTwo {guard : NatCcb → NatPacket → Prop} {first second : BitVec 48}
    (hfirst : guard (natTableInit natBlank) (datagramFrom 0 first))
    (hsecond : guard (natPacketStep rteHashCrc4byte 2000000000 (natTableInit natBlank)
      (datagramFrom 0 first)) (datagramFrom 500 second)) :
    Run (natPacketStep rteHashCrc4byte 2000000000) guard (natTableInit natBlank)
      [datagramFrom 0 first, datagramFrom 500 second] (afterTwo first second) :=
  (Run.single (datagramFrom 0 first) hfirst).snoc (datagramFrom 500 second) hsecond

theorem steady_init {l : NatPacket} : MacSteady (natTableInit natBlank) l := by
  intro r i hr
  rw [natTableInit_reverseHash, Rte.Hash.lookup_empty] at hr
  cases hr

theorem steady_afterOne : MacSteady (natPacketStep rteHashCrc4byte 2000000000
    (natTableInit natBlank) (datagramFrom 0 0x020000000001)) (datagramFrom 500 0x020000000001) := by
  refine macSteady_of_current (MacsCurrent.run (by decide) (Run.single _ steady_init)) ?_
  intro flow mac hmac last hlast
  -- both packets ask the same question of the flow, and have the same answer
  have hsame : (datagramFrom 0 0x020000000001).lanMac flow = some last := by
    rw [← hlast, ← List.nil_append [datagramFrom 0 0x020000000001], latestMac_snoc]
    exact (Option.or_none).symm
  exact Option.some.inj (hsame.symm.trans hmac)

set_option maxRecDepth 8000 in
theorem decaps_afterOne :
    (decaps 2000000000 1000 none (afterTwo 0x020000000001 0x020000000001) answerIp
      (.udp 0xbb01 0x4704)).1 = .forward 0x020000000001 0x0601a8c0 0xb09c := by
  unfold afterTwo
  rw [natTableInit_eq]
  decide

/-- The address stays with one device, and the answer goes there. -/
theorem macOfMapping_of_packets_one :
    ForwardedBy (fun i => latestMac [datagramFrom 0 0x020000000001, datagramFrom 500 0x020000000001]
        ((afterTwo 0x020000000001 0x020000000001).fkey i) = some 0x020000000001)
      (afterTwo 0x020000000001 0x020000000001) answerIp (.udp 0xbb01 0x4704) 0x020000000001
      0x0601a8c0 0xb09c :=
  (macOfMapping_of_packets rteHashCrc4byte 2000000000 (by decide) natBlank).steady _ _
    (run_afterTwo steady_init steady_afterOne) 1000 none answerIp (.udp 0xbb01 0x4704) _ _ _
    decaps_afterOne

set_option maxRecDepth 8000 in
theorem decaps_afterTwo :
    (decaps 2000000000 1000 none (afterTwo 0x020000000001 0x020000000002) answerIp
      (.udp 0xbb01 0x4704)).1 = .forward 0x020000000001 0x0601a8c0 0xb09c := by
  unfold afterTwo
  rw [natTableInit_eq]
  decide

set_option maxRecDepth 8000 in
/-- The address moves to a second device, and the answer goes to the first. -/
theorem mac_of_first_device :
    ¬ MacsDelivered rteHashCrc4byte 2000000000 natBlank (fun _ _ => True) := by
  intro h
  have hforwarded := h _ _ (run_afterTwo trivial trivial) 1000 none answerIp (.udp 0xbb01 0x4704)
    _ _ _ decaps_afterTwo
  unfold afterTwo at hforwarded
  rw [natTableInit_eq] at hforwarded
  rcases hforwarded with hport | ⟨i, hr, -, hmac⟩
  · cases hport
  · obtain rfl : i = 0 := Option.some.inj (hr.symm.trans (by decide))
    exact absurd hmac (by decide)

end FastRG
