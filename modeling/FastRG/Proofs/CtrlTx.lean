/-
What the control thread sends of a buffer.

A frame is sound when every byte of it was received or written by the code, when it fits the
buffer it is copied into, and when, on the LAN, its length is the one its IP header states.  An
answer that is built states its own length, and is sound.  A packet that goes out as it came,
but for its addresses, is sent by the length that its sender put into the IP header, which
nobody has compared with the length it was received with: that is a DHCP message that is
answered by no reply, and a response of a DNS server.
-/
import FastRG.CtrlTx
import FastRG.Proofs.DhcpLease
import FastRG.Proofs.DnsCached

namespace FastRG

variable {hz now : Nat} {ccb ccb' c : DhcpCcb} {mac : BitVec 48} {i cur : Nat}

/-! ### Sound frames -/

/-- A byte of the buffer that was received, or that the code has written. -/
def CtrlTx.Known (t : CtrlTx) (i : Nat) : Prop :=
  i < t.received ∨ ∃ w ∈ t.written, w.1 ≤ i ∧ i < w.1 + w.2

/-- Nothing else is sent, it fits the buffer it is sent from, and the LAN gets it whole. -/
structure CtrlTx.Sound (t : CtrlTx) : Prop where
  known : ∀ i < t.mulen.toNat, t.Known i
  fits : t.mulen.toNat ≤ rteMbufDefaultDataroom
  whole : t.port = .lan → t.mulen.toNat = ctrlL2Len + t.ipTotal.toNat

theorem toNat_lanOutLen {ipTotal : BitVec 16}
    (h : ctrlL2Len + ipTotal.toNat ≤ rteMbufDefaultDataroom) :
    (lanOutLen ipTotal).toNat = ctrlL2Len + ipTotal.toNat := by
  unfold lanOutLen ctrlL2Len
  unfold ctrlL2Len rteMbufDefaultDataroom at h
  rw [BitVec.toNat_add]
  simp only [BitVec.toNat_ofNat]
  omega

/-- A frame for the LAN in which nothing was written. -/
theorem sound_unwritten_iff {ipTotal : BitVec 16} {received : Nat}
    (hfits : received ≤ rteMbufDefaultDataroom) :
    (CtrlTx.mk .lan (lanOutLen ipTotal) ipTotal received []).Sound ↔
      ctrlL2Len + ipTotal.toNat ≤ received := by
  refine ⟨?_, ?_⟩
  · intro h
    have hwhole := h.whole rfl
    simp only at hwhole
    by_contra hlong
    -- the byte right after the last one received
    have hlast : received < (lanOutLen ipTotal).toNat := by omega
    rcases h.known received hlast with hin | ⟨w, hw, -⟩
    · exact absurd hin (Nat.lt_irrefl received)
    · exact absurd hw List.not_mem_nil
  · intro h
    have hlen := toNat_lanOutLen (Nat.le_trans h hfits)
    refine ⟨?_, ?_, ?_⟩
    · intro k hk
      simp only [hlen] at hk
      exact .inl (Nat.lt_of_lt_of_le hk h)
    · show (lanOutLen ipTotal).toNat ≤ _
      omega
    · intro _
      exact hlen

/-- A frame for the LAN that ends where the code has stopped writing. -/
theorem sound_written {ipTotal : BitVec 16} {received start len : Nat}
    (hstart : start ≤ received) (hlen : ctrlL2Len + ipTotal.toNat = start + len)
    (hfits : start + len ≤ rteMbufDefaultDataroom) :
    (CtrlTx.mk .lan (lanOutLen ipTotal) ipTotal received [(start, len)]).Sound := by
  have hout := toNat_lanOutLen (hlen ▸ hfits)
  refine ⟨?_, ?_, fun _ => hout⟩
  · intro k hk
    simp only [hout, hlen] at hk
    by_cases hin : k < received
    · exact .inl hin
    · exact .inr ⟨(start, len), List.mem_cons_self, by omega, hk⟩
  · show (lanOutLen ipTotal).toNat ≤ _
    omega

/-! ### Handlers -/

/-- An address is picked by noting the client at one entry, or not even that. -/
theorem pickFrom_moves {l : List Nat} {ip : BitVec 32} (h : pickFrom ccb mac l = some (ccb', ip)) :
    ccb' = ccb ∨ ∃ k, ccb' = ccb.modUser k ({ · with poolMac := mac }) := by
  induction l with
  | nil => simp [pickFrom] at h
  | cons k rest ih =>
      unfold pickFrom at h
      simp only at h
      split at h
      · exact ih h
      split at h
      · exact .inl (congrArg Prod.fst (Option.some.inj h)).symm
      split at h
      · exact .inr ⟨k, (congrArg Prod.fst (Option.some.inj h)).symm⟩
      · exact ih h

/-- The length of an offer does not depend on the address that is picked. -/
theorem leaseOpts_of_pick {ip : BitVec 32} (h : pickIpFromPool ccb i mac = some (ccb', ip)) :
    leaseOpts ccb' = leaseOpts ccb ∧ ccb'.pkt = ccb.pkt ∧
      (ccb'.user i).dhcpHdr = (ccb.user i).dhcpHdr := by
  rcases pickFrom_moves h with rfl | ⟨k, rfl⟩
  · exact ⟨rfl, rfl, rfl⟩
  · refine ⟨rfl, rfl, ?_⟩
    rw [DhcpCcb.user_modUser]
    split
    · rfl
    · rfl

/-- A handler that comes to its end: there is an address to offer, and a header to build the
reply in. -/
def DhcpHandler.completes (ccb : DhcpCcb) (i : Nat) : DhcpHandler → Bool
  | .sendDhcpOffer =>
      (pickIpFromPool ccb i ccb.pkt.srcMac).isSome && (ccb.user i).dhcpHdr.isSome
  | .sendDhcpAck => (ccb.user i).dhcpHdr.isSome
  | .sendDhcpNak => (ccb.user i).dhcpHdr.isSome
  | .sendDhcpAckInform => (ccb.user i).dhcpHdr.isSome
  | .waitRequestTimer => true
  | .waitLeaseTimer => true
  | .release => true
  | .markIpConflicted => true

/-- The reply of a handler: none, or one with the handler's options, if it is in the packet's own
buffer. -/
def DhcpHandler.Replies (ccb : DhcpCcb) (i : Nat) (h : DhcpHandler) (reply : Option DhcpReply) :
    Prop :=
  match h.opts ccb with
  | none => reply = none
  | some opts =>
      ∃ r, reply = some r ∧ r.body.map (·.opts) =
        if (ccb.user i).dhcpHdr = some ccb.pkt.buf then some opts else none

theorem opts_dhcpReply (ccb : DhcpCcb) (buf : Nat) (broadcast : Bool) (ipDst : BitVec 32)
    (body : DhcpBody) :
    (dhcpReply ccb buf broadcast ipDst body).body.map (·.opts) =
      if some buf = some ccb.pkt.buf then some body.opts else none := by
  by_cases hbuf : buf = ccb.pkt.buf
  · simp [dhcpReply, hbuf]
  · simp [dhcpReply, hbuf]

/-- A handler that comes to its end leaves the reply that its frame is of. -/
theorem DhcpHandler.run_of_completes {h : DhcpHandler} (hz now : Nat)
    (hdone : h.completes ccb i = true) :
    ∃ c reply, h.run hz now ccb i = some ⟨.success, c, reply⟩ ∧ h.Replies ccb i reply := by
  cases h with
  | sendDhcpOffer =>
      obtain ⟨hpick, hbuf⟩ := Bool.and_eq_true_iff.mp hdone
      obtain ⟨⟨c, ip⟩, hpick⟩ := Option.isSome_iff_exists.mp hpick
      obtain ⟨buf, hbuf⟩ := Option.isSome_iff_exists.mp hbuf
      obtain ⟨hopts, hpkt, hhdr⟩ := leaseOpts_of_pick hpick
      rw [hbuf] at hhdr
      simp only [run, FastRG.sendDhcpOffer, hpick, hhdr]
      refine ⟨_, _, rfl, _, rfl, ?_⟩
      rw [opts_dhcpReply, hbuf, hpkt, hopts]
  | sendDhcpAck =>
      obtain ⟨buf, hbuf⟩ := Option.isSome_iff_exists.mp hdone
      simp only [run, FastRG.sendDhcpAck, hbuf]
      refine ⟨_, _, rfl, _, rfl, ?_⟩
      rw [opts_dhcpReply, hbuf]
  | sendDhcpNak =>
      obtain ⟨buf, hbuf⟩ := Option.isSome_iff_exists.mp hdone
      simp only [run, FastRG.sendDhcpNak, hbuf]
      refine ⟨_, _, rfl, _, rfl, ?_⟩
      rw [opts_dhcpReply, hbuf]
  | sendDhcpAckInform =>
      obtain ⟨buf, hbuf⟩ := Option.isSome_iff_exists.mp hdone
      simp only [run, FastRG.sendDhcpAckInform, hbuf]
      refine ⟨_, _, rfl, _, rfl, ?_⟩
      rw [opts_dhcpReply, hbuf]
  | waitRequestTimer => exact ⟨_, _, rfl, rfl⟩
  | waitLeaseTimer => exact ⟨_, _, rfl, rfl⟩
  | release => exact ⟨_, _, rfl, rfl⟩
  | markIpConflicted => exact ⟨_, _, rfl, rfl⟩

/-- A handler that does not has failed, or has ended the process. -/
theorem DhcpHandler.run_of_not_completes {h : DhcpHandler} (hz now : Nat)
    (hdone : h.completes ccb i = false) :
    h.run hz now ccb i = none ∨ ∃ c reply, h.run hz now ccb i = some ⟨.error, c, reply⟩ := by
  cases h with
  | sendDhcpOffer =>
      show FastRG.sendDhcpOffer ccb i = none ∨ ∃ c reply, FastRG.sendDhcpOffer ccb i = some ⟨.error, c, reply⟩
      unfold FastRG.sendDhcpOffer
      cases hpick : pickIpFromPool ccb i ccb.pkt.srcMac with
      | none => exact .inr ⟨_, _, rfl⟩
      | some r =>
          obtain ⟨c, ip⟩ := r
          obtain ⟨-, -, hhdr⟩ := leaseOpts_of_pick hpick
          have hbuf : (ccb.user i).dhcpHdr = none := by
            simpa [completes, hpick] using hdone
          left
          simp only [hhdr, hbuf]
  | sendDhcpAck =>
      left
      have hbuf : (ccb.user i).dhcpHdr = none := by simpa [completes] using hdone
      simp only [run, FastRG.sendDhcpAck, hbuf]
  | sendDhcpNak =>
      left
      have hbuf : (ccb.user i).dhcpHdr = none := by simpa [completes] using hdone
      simp only [run, FastRG.sendDhcpNak, hbuf]
  | sendDhcpAckInform =>
      left
      have hbuf : (ccb.user i).dhcpHdr = none := by simpa [completes] using hdone
      simp only [run, FastRG.sendDhcpAckInform, hbuf]
  | waitRequestTimer => exact absurd hdone (by simp [completes])
  | waitLeaseTimer => exact absurd hdone (by simp [completes])
  | release => exact absurd hdone (by simp [completes])
  | markIpConflicted => exact absurd hdone (by simp [completes])

/-- The handlers that build nothing come to their end in whatever state. -/
theorem runHandlers_quiet {hdl : List DhcpHandler} (hquiet : ∀ h ∈ hdl, h.opts ccb = none)
    (hz now i : Nat) (c : DhcpCcb) (reply : Option DhcpReply) :
    ∃ c', runHandlers hz now i ⟨.success, c, reply⟩ hdl = some ⟨.success, c', reply⟩ := by
  induction hdl generalizing c with
  | nil => exact ⟨c, rfl⟩
  | cons h rest ih =>
      obtain ⟨c', hrun⟩ : ∃ c', h.run hz now c i = some ⟨.success, c', none⟩ := by
        have hnone := hquiet h List.mem_cons_self
        cases h with
        | sendDhcpOffer => exact absurd hnone (by simp [DhcpHandler.opts])
        | sendDhcpAck => exact absurd hnone (by simp [DhcpHandler.opts])
        | sendDhcpNak => exact absurd hnone (by simp [DhcpHandler.opts])
        | sendDhcpAckInform => exact absurd hnone (by simp [DhcpHandler.opts])
        | waitRequestTimer => exact ⟨_, rfl⟩
        | waitLeaseTimer => exact ⟨_, rfl⟩
        | release => exact ⟨_, rfl⟩
        | markIpConflicted => exact ⟨_, rfl⟩
      obtain ⟨c'', hrest⟩ := ih (fun h' hh' => hquiet h' (List.mem_cons_of_mem h hh')) c'
      refine ⟨c'', ?_⟩
      simp only [runHandlers, hrun, Option.none_or]
      exact hrest

/-- Nor do they touch the buffer. -/
theorem foldl_rewrites_quiet {hdl : List DhcpHandler} (hquiet : ∀ h ∈ hdl, h.opts ccb = none)
    (i : Nat) (buf : DhcpBuf) : hdl.foldl (DhcpHandler.rewrites ccb i) buf = buf := by
  induction hdl with
  | nil => rfl
  | cons h rest ih =>
      have hkeep : DhcpHandler.rewrites ccb i buf h = buf := by
        unfold DhcpHandler.rewrites
        rw [hquiet h List.mem_cons_self]
      rw [List.foldl_cons, hkeep]
      exact ih fun h' hh' => hquiet h' (List.mem_cons_of_mem h hh')

/-- A row starts with the handler that decides what is sent, and goes on with ones that build
nothing. -/
theorem dhcpFsmTbl_hdl (ccb : DhcpCcb) {row : DhcpRow} (hrow : row ∈ dhcpFsmTbl) :
    ∃ h rest, row.hdl = h :: rest ∧ ∀ h' ∈ rest, h'.opts ccb = none := by
  simp only [dhcpFsmTbl, List.mem_cons, List.not_mem_nil, or_false] at hrow
  rcases hrow with rfl | rfl | rfl | rfl | rfl | rfl | rfl | rfl | rfl | rfl | rfl | rfl | rfl |
    rfl | rfl
  all_goals exact ⟨_, _, rfl, by simp [DhcpHandler.opts]⟩

/-! ### The server -/

/-- A packet that is decoded has its fixed header. -/
theorem dgramLen_of_dhcpDecode {own : Nat} {pkt : DhcpPkt} {event : DhcpEvent}
    (h : dhcpDecode ccb own pkt = (.event event, c, cur)) :
    udpHdrLen + dhcpHdrLen ≤ pkt.dgramLen.toNat := by
  unfold dhcpDecode at h
  simp only at h
  split at h
  · exact absurd (congrArg Prod.fst h) (by simp)
  · rename_i hlen
    omega

/-- What is known of a packet that gets to a row. -/
theorem dhcpdRow_some {pkt : DhcpPkt} {row : DhcpRow}
    (h : dhcpdRow hz now ccb pkt = some (c, cur, row)) :
    row ∈ dhcpFsmTbl ∧ udpHdrLen + dhcpHdrLen ≤ pkt.room ∧
      dhcpd hz now ccb pkt =
        match runHandlers hz now cur ⟨.success, c, none⟩ row.hdl with
        | none => none
        | some ⟨.error, c, _⟩ => some ⟨.drop, c.modUser cur PerLanUser.releaseLanUser, none⟩
        | some ⟨.success, c, reply⟩ => some ⟨.toLan, c, reply⟩ := by
  unfold dhcpdRow at h
  split at h
  · exact absurd h (by simp)
  rename_i hon
  split at h
  · exact absurd h (by simp)
  rename_i htr
  split at h
  · exact absurd h (by simp)
  rename_i slot hslot
  split at h
  · exact absurd h (by simp)
  · exact absurd h (by simp)
  rename_i event c₀ cur₀ hdec
  obtain ⟨row₀, hrow, heq⟩ := Option.map_eq_some_iff.mp h
  obtain ⟨rfl, rfl, rfl⟩ : c₀.modUser cur₀ ({ · with state := row₀.nextState }) = c ∧ cur₀ = cur ∧
      row₀ = row := by
    simpa using heq
  refine ⟨(dhcpFindRow_some hrow).1, ?_, ?_⟩
  · have hlen := dgramLen_of_dhcpDecode hdec
    have hroom : ¬ pkt.dgramLen.toNat > pkt.room := by
      intro hlong
      exact htr (decide_eq_true hlong)
    omega
  · unfold dhcpd dhcpdAt dhcpFsm
    simp only [hon, htr, hslot, hdec, hrow, if_false]
    rfl

/-- A packet that gets to none is not sent to the LAN. -/
theorem dhcpd_of_no_row {pkt : DhcpPkt} {d : DhcpdDone} (h : dhcpdRow hz now ccb pkt = none)
    (hd : dhcpd hz now ccb pkt = some d) : d.ret ≠ .toLan := by
  intro hret
  unfold dhcpd dhcpdAt at hd
  unfold dhcpdRow at h
  split at hd
  · obtain rfl := Option.some.inj hd
    exact absurd hret (by simp)
  rename_i hon
  rw [if_neg hon] at h
  split at hd
  · obtain rfl := Option.some.inj hd
    exact absurd hret (by simp)
  rename_i htr
  rw [if_neg htr] at h
  split at hd
  · obtain rfl := Option.some.inj hd
    exact absurd hret (by simp)
  rename_i slot hslot
  rw [hslot] at h
  simp only at h hd
  split at hd
  · obtain rfl := Option.some.inj hd
    exact absurd hret (by simp)
  · obtain rfl := Option.some.inj hd
    exact absurd hret (by simp)
  · -- an event for which the state has no row
    rename_i event c cur hdec
    rw [hdec] at h
    have hrow : dhcpFindRow (c.user cur).state event = none := Option.map_eq_none_iff.mp h
    unfold dhcpFsm at hd
    simp only [hrow] at hd
    obtain rfl := Option.some.inj hd
    exact absurd hret (by simp)

/-! ### What DHCP sends -/

/-- An answer at an index is sound: a reply in the packet's own buffer always, one in an earlier
packet's if this packet is no shorter, and no reply at all if the sender's length is not more
than was received. -/
def DhcpFrame.FitsAt (frame : DhcpFrame) (ccb : DhcpCcb) (i : Nat) (h : DhcpHandler) : Prop :=
  match h.opts ccb with
  | none => ctrlL2Len + frame.ipTotal.toNat ≤ frame.len
  | some opts =>
      (ccb.user i).dhcpHdr = some ccb.pkt.buf ∨ dhcpOptOffset + dhcpReplyOptLen opts ≤ frame.len

/-- The same of a packet: its row decides. -/
def DhcpFrame.Fits (hz now : Nat) (ccb : DhcpCcb) (frame : DhcpFrame) : Prop :=
  ∀ c cur row, dhcpdRow hz now ccb frame.pkt = some (c, cur, row) →
    ∀ h ∈ row.hdl.head?, h.completes c cur = true → frame.FitsAt c cur h

/-- A reply is small. -/
theorem dhcpReplyOptLen_le {h : DhcpHandler} {opts : List DhcpReplyOpt}
    (hopts : h.opts ccb = some opts) : dhcpReplyOptLen opts ≤ 38 := by
  cases h with
  | sendDhcpOffer =>
      obtain rfl := Option.some.inj hopts
      simp [dhcpReplyOptLen, dhcpOptsSize, leaseOpts, DhcpReplyOpt.size]
  | sendDhcpAck =>
      obtain rfl := Option.some.inj hopts
      simp [dhcpReplyOptLen, dhcpOptsSize, leaseOpts, DhcpReplyOpt.size]
  | sendDhcpNak =>
      obtain rfl := Option.some.inj hopts
      simp [dhcpReplyOptLen, dhcpOptsSize, DhcpReplyOpt.size]
  | sendDhcpAckInform =>
      obtain rfl := Option.some.inj hopts
      simp [dhcpReplyOptLen, dhcpOptsSize, DhcpReplyOpt.size]
  | waitRequestTimer => cases hopts
  | waitLeaseTimer => cases hopts
  | release => cases hopts
  | markIpConflicted => cases hopts

theorem dhcpReplyIpTotal_eq {opts : List DhcpReplyOpt} (h : dhcpReplyOptLen opts ≤ 38) :
    ctrlL2Len + (dhcpReplyIpTotal opts).toNat = dhcpOptOffset + dhcpReplyOptLen opts := by
  unfold dhcpReplyIpTotal dhcpOptOffset rteIpv4HdrSize udpHdrLen dhcpHdrLen
  rw [BitVec.toNat_ofNat]
  omega

/-- What the server does with a packet whose row starts with a handler that comes to its end. -/
theorem dhcpd_of_completes {pkt : DhcpPkt} {row : DhcpRow} {h : DhcpHandler}
    {rest : List DhcpHandler} (hrow : dhcpdRow hz now ccb pkt = some (c, cur, row))
    (hhdl : row.hdl = h :: rest) (hrest : ∀ h' ∈ rest, h'.opts c = none)
    (hdone : h.completes c cur = true) :
    ∃ c' c'' reply, h.run hz now c cur = some ⟨.success, c', reply⟩ ∧ h.Replies c cur reply ∧
      dhcpd hz now ccb pkt = some ⟨.toLan, c'', reply⟩ := by
  obtain ⟨c', reply, hrun, hreply⟩ := DhcpHandler.run_of_completes hz now hdone
  obtain ⟨c'', hquiet⟩ := runHandlers_quiet hrest hz now cur c' reply
  refine ⟨c', c'', reply, hrun, hreply, ?_⟩
  rw [(dhcpdRow_some hrow).2.2, hhdl]
  simp only [runHandlers, hrun, Option.or_none, hquiet]

/-- And with one that does not. -/
theorem dhcpd_of_not_completes {pkt : DhcpPkt} {row : DhcpRow} {h : DhcpHandler}
    {rest : List DhcpHandler} (hrow : dhcpdRow hz now ccb pkt = some (c, cur, row))
    (hhdl : row.hdl = h :: rest) (hdone : h.completes c cur = false) :
    dhcpd hz now ccb pkt = none ∨ ∃ c', dhcpd hz now ccb pkt = some ⟨.drop, c', none⟩ := by
  rw [(dhcpdRow_some hrow).2.2, hhdl]
  rcases DhcpHandler.run_of_not_completes hz now hdone with hrun | ⟨c', reply, hrun⟩
  · exact Or.inl (by simp only [runHandlers, hrun])
  · refine Or.inr ⟨c'.modUser cur PerLanUser.releaseLanUser, ?_⟩
    simp only [runHandlers, hrun]

/-- A packet that gets to a row has been received as far as its DHCP options. -/
theorem len_of_dhcpdRow {frame : DhcpFrame} {row : DhcpRow}
    (hrow : dhcpdRow hz now ccb frame.pkt = some (c, cur, row)) :
    ¬ frame.len < ctrlL2Len + rteIpv4HdrSize := by
  obtain ⟨-, hroom, -⟩ := dhcpdRow_some hrow
  rw [frame.room_eq] at hroom
  simp only [udpHdrLen, dhcpHdrLen] at hroom
  omega

/-- What leaves for a packet that gets to a row. -/
theorem fastrgLoopDhcp_of_row {frame : DhcpFrame} {row : DhcpRow} {h : DhcpHandler}
    {rest : List DhcpHandler} (hrow : dhcpdRow hz now ccb frame.pkt = some (c, cur, row))
    (hhdl : row.hdl = h :: rest) (hrest : ∀ h' ∈ rest, h'.opts c = none) :
    fastrgLoopDhcp hz now ccb frame =
      if h.completes c cur then
        some ⟨.lan, lanOutLen (h.rewrites c cur ⟨frame.ipTotal, []⟩).ipTotal,
          (h.rewrites c cur ⟨frame.ipTotal, []⟩).ipTotal, frame.len,
          (h.rewrites c cur ⟨frame.ipTotal, []⟩).written⟩
      else none := by
  have hbuf : dhcpdBuf hz now ccb frame = h.rewrites c cur ⟨frame.ipTotal, []⟩ := by
    unfold dhcpdBuf
    rw [hrow]
    simp only [hhdl, List.foldl_cons]
    exact foldl_rewrites_quiet hrest cur _
  unfold fastrgLoopDhcp
  rw [if_neg (len_of_dhcpdRow hrow), hbuf]
  by_cases hdone : h.completes c cur = true
  · obtain ⟨-, c'', reply, -, -, hdhcpd⟩ := dhcpd_of_completes hrow hhdl hrest hdone
    simp only [hdhcpd, if_pos hdone]
  · rw [if_neg hdone]
    rcases dhcpd_of_not_completes hrow hhdl (Bool.eq_false_of_not_eq_true hdone) with
      hdhcpd | ⟨c', hdhcpd⟩
    · simp only [hdhcpd]
    · simp only [hdhcpd]

/-- The frame of a handler is sound when its answer fits. -/
theorem sound_rewrites_iff {frame : DhcpFrame} {h : DhcpHandler}
    (hlen : dhcpOptOffset ≤ frame.len) :
    (CtrlTx.mk .lan (lanOutLen (h.rewrites ccb i ⟨frame.ipTotal, []⟩).ipTotal)
      (h.rewrites ccb i ⟨frame.ipTotal, []⟩).ipTotal frame.len
      (h.rewrites ccb i ⟨frame.ipTotal, []⟩).written).Sound ↔ frame.FitsAt ccb i h := by
  unfold DhcpHandler.rewrites DhcpFrame.FitsAt
  cases hopts : h.opts ccb with
  | none => exact sound_unwritten_iff frame.fits
  | some opts =>
      have hsize := dhcpReplyOptLen_le hopts
      have htotal := dhcpReplyIpTotal_eq hsize
      simp only
      by_cases hown : (ccb.user i).dhcpHdr = some ccb.pkt.buf
      · rw [if_pos hown]
        refine ⟨fun _ => .inl hown, fun _ => sound_written hlen htotal ?_⟩
        show dhcpOptOffset + dhcpReplyOptLen opts ≤ 2048
        have hoffset : dhcpOptOffset = 286 := rfl
        omega
      · rw [if_neg hown, sound_unwritten_iff frame.fits, htotal]
        refine ⟨Or.inr, ?_⟩
        intro hfit
        rcases hfit with hin | hlong
        · exact absurd hin hown
        · exact hlong

/-- What is sent for a packet from DHCP is sound when its answer fits. -/
theorem dhcpSound_iff (hz now : Nat) (ccb : DhcpCcb) (frame : DhcpFrame) :
    (∀ t ∈ fastrgLoopDhcp hz now ccb frame, t.Sound) ↔ frame.Fits hz now ccb := by
  cases hrow : dhcpdRow hz now ccb frame.pkt with
  | none =>
      refine ⟨?_, ?_⟩
      · intro _ c cur row h
        rw [hrow] at h
        exact absurd h (by simp)
      · intro _ t ht
        unfold fastrgLoopDhcp at ht
        split at ht
        · exact absurd ht (by simp)
        split at ht
        · exact absurd ht (by simp)
        · exact absurd ht (by simp)
        · -- on to the WAN, as long as it came
          obtain rfl := Option.mem_some_iff.mp ht
          have hfits := frame.fits
          have hlen : (BitVec.ofNat 16 frame.len).toNat = frame.len := by
            rw [BitVec.toNat_ofNat]
            unfold rteMbufDefaultDataroom at hfits
            omega
          refine ⟨?_, ?_, ?_⟩
          · intro k hk
            exact .inl (hlen ▸ hk)
          · show (BitVec.ofNat 16 frame.len).toNat ≤ _
            rw [hlen]
            exact hfits
          · intro hport
            exact absurd hport (by simp)
        · rename_i hdhcpd
          exact absurd rfl (dhcpd_of_no_row hrow hdhcpd)
  | some r =>
      obtain ⟨c, cur, row⟩ := r
      obtain ⟨hmem, hroom, -⟩ := dhcpdRow_some hrow
      obtain ⟨h, rest, hhdl, hrest⟩ := dhcpFsmTbl_hdl c hmem
      have hlen : dhcpOptOffset ≤ frame.len := by
        rw [frame.room_eq] at hroom
        simp only [udpHdrLen, dhcpHdrLen, ctrlL2Len, rteIpv4HdrSize] at hroom
        simp only [dhcpOptOffset, udpHdrLen, dhcpHdrLen, ctrlL2Len, rteIpv4HdrSize]
        omega
      rw [fastrgLoopDhcp_of_row hrow hhdl hrest]
      refine ⟨?_, ?_⟩
      · intro hsound c' cur' row' h' handler hhead hdone
        obtain ⟨rfl, rfl, rfl⟩ : c = c' ∧ cur = cur' ∧ row = row' := by
          rw [hrow] at h'
          simpa using h'
        rw [hhdl] at hhead
        obtain rfl := Option.mem_some_iff.mp hhead
        rw [if_pos hdone] at hsound
        exact (sound_rewrites_iff hlen).mp (hsound _ rfl)
      · intro hfits t ht
        by_cases hdone : h.completes c cur = true
        · rw [if_pos hdone] at ht
          obtain rfl := Option.mem_some_iff.mp ht
          refine (sound_rewrites_iff hlen).mpr (hfits c cur row hrow h ?_ hdone)
          rw [hhdl]
          rfl
        · rw [if_neg hdone] at ht
          exact absurd ht (by simp)

/-! ### Lengths of DNS messages -/

theorem length_buildResponseBase {query base : List (BitVec 8)} {rcode ancount : BitVec 16}
    {bufLen : Nat} (h : buildResponseBase query rcode ancount bufLen = some base) :
    base.length ≤ query.length ∧ query.length ≤ bufLen := by
  unfold buildResponseBase at h
  split at h
  · exact absurd h (by simp)
  rename_i hlen
  rw [not_or, Nat.not_lt, Nat.not_lt] at hlen
  obtain ⟨⟨question, qend⟩, -, hbase⟩ := Option.bind_eq_some_iff.mp h
  obtain rfl := Option.some.inj hbase
  have hhdr : dnsHdrLen = 12 := rfl
  refine ⟨?_, hlen.2⟩
  simp only [List.length_append, List.length_take, List.length_drop, be16Bytes, List.length_cons,
    List.length_nil]
  omega

theorem length_dnsBuildResponseA {query payload : List (BitVec 8)} {ipAddr ttl : BitVec 32}
    {bufLen : Nat} (h : dnsBuildResponseA query ipAddr ttl bufLen = some payload) :
    payload.length ≤ bufLen := by
  unfold dnsBuildResponseA at h
  split at h
  · exact absurd h (by simp)
  rename_i hlen
  obtain ⟨base, hbase, hpayload⟩ := Option.bind_eq_some_iff.mp h
  obtain rfl := Option.some.inj hpayload
  have hle := (length_buildResponseBase hbase).1
  simp only [List.length_append, be16Bytes, List.length_cons, List.length_nil]
  omega

theorem length_dnsFromStatic {state : DnsProxyState} {query : DnsQuery}
    {data payload : List (BitVec 8)} (h : dnsFromStatic state query data = some payload) :
    payload.length ≤ dnsMaxPacketLen := by
  obtain ⟨record, -, hpayload⟩ := Option.bind_eq_some_iff.mp h
  split at hpayload
  · exact length_dnsBuildResponseA hpayload
  · exact absurd hpayload (by simp)

theorem length_setDnsId (id : BitVec 16) {data : List (BitVec 8)} {n : Nat} (hn : 2 ≤ n)
    (h : data.length ≤ n) : (setDnsId id data).length ≤ n := by
  simp only [setDnsId, be16Bytes, List.length_append, List.length_cons, List.length_nil,
    List.length_drop]
  omega

/-- A message in a packet has its header there. -/
theorem length_of_dnsUdpPayload {pkt data : List (BitVec 8)} (h : dnsUdpPayload pkt = some data) :
    dnsL4Offset + udpHdrLen ≤ pkt.length := by
  unfold dnsUdpPayload at h
  simp only at h
  split at h
  · exact absurd h (by simp)
  · omega

theorem length_of_dnsTcpPayload {pkt data : List (BitVec 8)} (h : dnsTcpPayload pkt = some data) :
    dnsL4Offset + ((pkt.getD (dnsL4Offset + 12) 0) >>> 4).toNat * 4 ≤ pkt.length := by
  unfold dnsTcpPayload at h
  simp only at h
  split at h
  · exact absurd h (by simp)
  split at h
  · exact absurd h (by simp)
  · omega

/-! ### What the cache holds -/

/-- Every response in the cache fits an answer. -/
def CacheFits (state : DnsProxyState) : Prop :=
  ∀ e, state.cache.Mem e → e.response.length ≤ dnsMaxPacketLen

/-- A call keeps that. -/
theorem cacheFits_dnsdCall (hz now : Nat) {state : DnsProxyState} (call : DnsCall)
    (h : CacheFits state) : CacheFits (dnsdCall hz now state call).2 := by
  have hmove := dnsdCall_move hz now state call
  generalize (dnsdCall hz now state call).1 = event at hmove
  generalize (dnsdCall hz now state call).2 = state' at hmove ⊢
  intro e he
  cases hmove with
  | quiet hpend hnext hcache hevent => exact h e (hcache e he)
  | clear hpend hcache => exact h e (hcache e he)
  | hit hdata hquery hmem hfor hcache => exact h e (hcache e he)
  | forward hfree hpend hnext hcache => exact h e (hcache e he)
  | stale => exact h e he
  | relay hdata hfound =>
      simp only [dnsCacheResponse] at he
      split at he
      · exact h e he
      split at he
      · rcases DnsCache.mem_insert_cases he with hold | ⟨-, hresponse, hlen⟩
        · exact h e hold
        · rw [hresponse]
          exact hlen
      · exact h e he

/-- So it holds in every run. -/
theorem run_cacheFits {hz : Nat} {ls : List (Nat × DnsCall)} {s : DnsSystem}
    (h : Run (DnsSystem.step hz) (fun _ _ => True) DnsSystem.start ls s) : CacheFits s.proxy := by
  refine h.inv (fun s => CacheFits s.proxy) ?_ ?_
  · intro s l hs _
    exact cacheFits_dnsdCall hz (s.now + l.1) l.2 hs
  · intro e he
    exact absurd he (DnsCache.not_mem_empty e)

/-! ### What DNS sends -/

/-- An answer over UDP. -/
theorem sound_dnsUdpAnswer {pkt payload : List (BitVec 8)}
    (hpkt : dnsL4Offset + udpHdrLen ≤ pkt.length) (hlen : payload.length ≤ dnsMaxPacketLen) :
    (cpSendDnsUdpResponseToLan pkt payload).Sound := by
  unfold dnsMaxPacketLen at hlen
  refine sound_written hpkt ?_ ?_
  · rw [BitVec.toNat_ofNat]
    simp only [ctrlL2Len, rteIpv4HdrSize, udpHdrLen, dnsL4Offset]
    omega
  · simp only [dnsL4Offset, udpHdrLen, rteMbufDefaultDataroom]
    omega

/-- An answer over TCP. -/
theorem sound_dnsTcpAnswer {pkt payload : List (BitVec 8)}
    (hpkt : dnsL4Offset + ((pkt.getD (dnsL4Offset + 12) 0) >>> 4).toNat * 4 ≤ pkt.length)
    (hlen : payload.length ≤ dnsMaxPacketLen) : (cpSendDnsTcpResponseToLan pkt payload).Sound := by
  unfold dnsMaxPacketLen at hlen
  have hoff : ((pkt.getD (dnsL4Offset + 12) 0) >>> 4).toNat < 16 := by
    rw [BitVec.toNat_ushiftRight, Nat.shiftRight_eq_div_pow]
    have hbyte := (pkt.getD (dnsL4Offset + 12) 0).isLt
    omega
  refine sound_written hpkt ?_ ?_
  · rw [BitVec.toNat_ofNat]
    simp only [ctrlL2Len, rteIpv4HdrSize, dnsL4Offset] at hoff ⊢
    omega
  · simp only [dnsL4Offset, rteMbufDefaultDataroom] at hoff ⊢
    omega

/-- A query on its way upstream is eight bytes longer than it came. -/
theorem sound_dnsForward_iff {frame : DnsFrame} (hpkt : ctrlL2Len ≤ frame.bytes.length) :
    (cpForwardDnsQueryToWan frame.bytes).Sound ↔
      frame.bytes.length + pppoeExtra ≤ rteMbufDefaultDataroom := by
  have hfits := frame.fits
  have hlen : (cpForwardDnsQueryToWan frame.bytes).mulen.toNat =
      frame.bytes.length + pppoeExtra := by
    unfold ctrlL2Len at hpkt
    unfold rteMbufDefaultDataroom at hfits
    simp only [cpForwardDnsQueryToWan, BitVec.toNat_ofNat, ctrlL2Len, pppoeExtra]
    omega
  refine ⟨?_, ?_⟩
  · intro h
    rw [← hlen]
    exact h.fits
  · intro h
    refine ⟨?_, hlen ▸ h, ?_⟩
    · intro k hk
      rw [hlen] at hk
      by_cases hhdr : k < ctrlL2Len + pppoeExtra
      · exact .inr ⟨(0, ctrlL2Len + pppoeExtra), List.mem_cons_self, Nat.zero_le k, by omega⟩
      · refine .inr ⟨(ctrlL2Len + pppoeExtra, frame.bytes.length - ctrlL2Len), ?_, ?_, ?_⟩
        · exact List.mem_cons_of_mem _ List.mem_cons_self
        · show ctrlL2Len + pppoeExtra ≤ k
          omega
        · show k < ctrlL2Len + pppoeExtra + (frame.bytes.length - ctrlL2Len)
          omega
    · intro hport
      exact absurd hport (by simp [cpForwardDnsQueryToWan])

/-- A query that the proxy can only ask a server for. -/
def GoesUpstream (hz now : Nat) (dpStart : Bool) (state : DnsProxyState) (pkt : List (BitVec 8)) :
    Prop :=
  state.dnsProxyEnabled = true ∧ ∃ data query, dnsUdpPayload pkt = some data ∧
    dnsParseQuery data = some query ∧ dnsFromStatic state query data = none ∧
    (state.cache.lookup hz now query.question.name query.question.qtype).1 = none ∧
    dpStart = true ∧ state.activeDns ≠ 0 ∧ findFreePending hz now state.pending ≠ none

/-- A response that a slot waits for. -/
def Relayed (hz now : Nat) (state : DnsProxyState) (pkt : List (BitVec 8)) : Prop :=
  ∃ data i, dnsUdpPayload pkt = some data ∧
    (findPendingByUpstreamId hz now state.pending (be16At data 0)).1 = some i

/-- A query that no record and no entry answers goes to the server, or is refused. -/
theorem dnsForwardQuery_event (hz now : Nat) (dpStart : Bool) (state : DnsProxyState)
    (client : DnsClient) (query : DnsQuery) (data : List (BitVec 8)) :
    if dpStart = true ∧ state.activeDns ≠ 0 ∧ findFreePending hz now state.pending ≠ none then
      ∃ i id server, (dnsForwardQuery hz now dpStart state client query data).1 =
        some (.forward i id client server query)
    else (dnsForwardQuery hz now dpStart state client query data).1 = dnsServfail client data := by
  unfold dnsForwardQuery
  by_cases hup : dpStart = true ∧ state.activeDns ≠ 0
  · obtain ⟨s, hs, hpend⟩ : ∃ s : DnsProxyState,
        (if dnsdHasPendingQuery hz now state.pending then dnsdCheckFailover hz now state
        else state) = s ∧ s.pending = state.pending := by
      split
      · exact ⟨_, rfl, (dnsdCheckFailover_keeps hz now state).1⟩
      · exact ⟨_, rfl, rfl⟩
    rw [if_pos hup]
    simp only [hs, hpend]
    cases hfree : findFreePending hz now state.pending with
    | none =>
        rw [if_neg (by simp)]
    | some i =>
        rw [if_pos ⟨hup.1, hup.2, by simp⟩]
        exact ⟨_, _, _, rfl⟩
  · rw [if_neg hup, if_neg]
    intro h
    exact hup ⟨h.1, h.2.1⟩

theorem dnsUdpQuery_upstream {dpStart : Bool} {state : DnsProxyState} {pkt : List (BitVec 8)}
    (h : GoesUpstream hz now dpStart state pkt) :
    ∃ ev, (dnsdCpProcessLanUdpQuery hz now dpStart state pkt).1 = some ev ∧
      dnsUdpTx pkt ev = cpForwardDnsQueryToWan pkt := by
  obtain ⟨hon, data, query, hdata, hquery, hstatic, hcache, hstart, hactive, hfree⟩ := h
  obtain ⟨cache, hlookup⟩ : ∃ cache,
      state.cache.lookup hz now query.question.name query.question.qtype = (none, cache) :=
    ⟨_, Prod.ext hcache rfl⟩
  have hforward := dnsForwardQuery_event hz now dpStart { state with cache := cache }
    (dnsClientOf pkt query) query data
  rw [if_pos ⟨hstart, hactive, hfree⟩] at hforward
  obtain ⟨i, id, server, hevent⟩ := hforward
  refine ⟨.forward i id (dnsClientOf pkt query) server query, ?_, rfl⟩
  unfold dnsdCpProcessLanUdpQuery dnsResolve
  rw [if_neg (by simp [hon])]
  simp only [hdata, hquery, hstatic, hlookup]
  exact hevent

/-- What a query over UDP comes to. -/
theorem dnsUdpQuery_event (hz now : Nat) (dpStart : Bool) {state : DnsProxyState}
    (hcache : CacheFits state) (pkt : List (BitVec 8)) :
    ∀ ev ∈ (dnsdCpProcessLanUdpQuery hz now dpStart state pkt).1,
      dnsL4Offset + udpHdrLen ≤ pkt.length ∧
        (GoesUpstream hz now dpStart state pkt ∧ dnsUdpTx pkt ev = cpForwardDnsQueryToWan pkt ∨
          ∃ payload, payload.length ≤ dnsMaxPacketLen ∧
            dnsUdpTx pkt ev = cpSendDnsUdpResponseToLan pkt payload) := by
  intro ev hev
  unfold dnsdCpProcessLanUdpQuery at hev
  split at hev
  · exact absurd hev (by simp)
  rename_i hon
  split at hev
  · exact absurd hev (by simp)
  rename_i data hdata
  split at hev
  · exact absurd hev (by simp)
  rename_i query hquery
  refine ⟨length_of_dnsUdpPayload hdata, ?_⟩
  unfold dnsResolve at hev
  split at hev
  · rename_i payload hstatic
    obtain rfl := Option.mem_some_iff.mp hev
    exact .inr ⟨payload, length_dnsFromStatic hstatic, rfl⟩
  rename_i hstatic
  split at hev
  · rename_i entry cache hlookup
    obtain rfl := Option.mem_some_iff.mp hev
    have hmem := (DnsCache.mem_of_lookup (congrArg Prod.fst hlookup)).1
    refine .inr ⟨_, length_setDnsId _ ?_ (hcache entry hmem), rfl⟩
    decide
  rename_i cache hlookup
  have hforward := dnsForwardQuery_event hz now dpStart { state with cache := cache }
    (dnsClientOf pkt query) query data
  split at hforward
  · rename_i hup
    obtain ⟨i, id, server, hevent⟩ := hforward
    rw [hevent] at hev
    obtain rfl := Option.mem_some_iff.mp hev
    refine .inl ⟨⟨by simpa using hon, data, query, hdata, hquery, hstatic, ?_, hup⟩, rfl⟩
    exact congrArg Prod.fst hlookup
  · rw [hforward] at hev
    obtain ⟨payload, hpayload, rfl⟩ := Option.map_eq_some_iff.mp (Option.mem_def.mp hev)
    have hlen := length_buildResponseBase hpayload
    exact .inr ⟨payload, Nat.le_trans hlen.1 hlen.2, rfl⟩

/-- What a query over TCP comes to. -/
theorem dnsTcpQuery_event {state : DnsProxyState} {pkt : List (BitVec 8)} :
    ∀ ev ∈ dnsdCpProcessLanTcpQuery state pkt, ∀ t ∈ dnsTcpTx pkt ev, t.Sound := by
  intro ev hev t ht
  unfold dnsdCpProcessLanTcpQuery at hev
  split at hev
  · exact absurd hev (by simp)
  obtain ⟨data, hdata, hev⟩ := Option.bind_eq_some_iff.mp hev
  obtain ⟨query, -, hev⟩ := Option.bind_eq_some_iff.mp hev
  obtain ⟨payload, hpayload, hev⟩ := Option.bind_eq_some_iff.mp hev
  obtain rfl := Option.some.inj hev
  obtain rfl := Option.mem_some_iff.mp ht
  exact sound_dnsTcpAnswer (length_of_dnsTcpPayload hdata) (length_dnsFromStatic hpayload)

/-- What a response comes to. -/
theorem dnsResponse_event (hz now : Nat) (state : DnsProxyState) (pkt : List (BitVec 8)) :
    (Relayed hz now state pkt → ∃ ev, (dnsdCpProcessWanUdpResponse hz now state pkt).1 = some ev ∧
        dnsUdpTx pkt ev = cpRelayDnsResponseToLan pkt) ∧
      ∀ ev ∈ (dnsdCpProcessWanUdpResponse hz now state pkt).1,
        Relayed hz now state pkt ∧ dnsUdpTx pkt ev = cpRelayDnsResponseToLan pkt := by
  unfold dnsdCpProcessWanUdpResponse
  cases hdata : dnsUdpPayload pkt with
  | none =>
      refine ⟨?_, fun ev hev => absurd hev (by simp)⟩
      intro h
      obtain ⟨data, i, hsome, -⟩ := h
      rw [hdata] at hsome
      exact absurd hsome (by simp)
  | some data =>
      simp only
      cases hfound : findPendingByUpstreamId hz now state.pending (be16At data 0) with
      | mk found pend =>
          cases found with
          | none =>
              refine ⟨?_, fun ev hev => absurd hev (by simp)⟩
              intro h
              obtain ⟨data', i, hsome, hfind⟩ := h
              obtain rfl : data = data' := by
                rw [hdata] at hsome
                exact Option.some.inj hsome
              rw [hfound] at hfind
              exact absurd hfind (by simp)
          | some i =>
              refine ⟨fun _ => ⟨_, rfl, rfl⟩, ?_⟩
              intro ev hev
              obtain rfl := Option.mem_some_iff.mp hev
              exact ⟨⟨data, i, hdata, congrArg Prod.fst hfound⟩, rfl⟩

/-! ### The control thread -/

/-- The frame that a mail leads to is not longer than what there is of it. -/
def CtrlMail.Fits (hz now : Nat) (dhcp : DhcpCcb) (state : DnsProxyState) : CtrlMail → Prop
  | .dhcp frame => frame.Fits hz now dhcp
  | .dns .lan dpStart frame =>
      frame.bytes.getD (dnsIpOffset + 9) 0 = ipprotoUdp →
        GoesUpstream hz now dpStart state frame.bytes →
        frame.bytes.length + pppoeExtra ≤ rteMbufDefaultDataroom
  | .dns .wan _ frame =>
      Relayed hz now state frame.bytes →
        ctrlL2Len + (be16At frame.bytes (dnsIpOffset + 2)).toNat ≤ frame.bytes.length

theorem dnsSound_iff (hz now : Nat) (dhcp : DhcpCcb) {state : DnsProxyState}
    (hcache : CacheFits state) (port : CtrlPort) (dpStart : Bool) (frame : DnsFrame) :
    (∀ t ∈ fastrgLoopDns hz now dpStart state port frame, t.Sound) ↔
      (CtrlMail.dns port dpStart frame).Fits hz now dhcp state := by
  cases port with
  | wan =>
      obtain ⟨hsends, hsent⟩ := dnsResponse_event hz now state frame.bytes
      simp only [fastrgLoopDns, CtrlMail.Fits]
      refine ⟨?_, ?_⟩
      · intro hsound hrelayed
        obtain ⟨ev, hev, htx⟩ := hsends hrelayed
        have hthis := hsound (cpRelayDnsResponseToLan frame.bytes) (by rw [hev, ← htx]; rfl)
        exact (sound_unwritten_iff frame.fits).mp hthis
      · intro hfits t ht
        obtain ⟨ev, hev, rfl⟩ := Option.map_eq_some_iff.mp (Option.mem_def.mp ht)
        obtain ⟨hrelayed, htx⟩ := hsent ev hev
        rw [htx]
        exact (sound_unwritten_iff frame.fits).mpr (hfits hrelayed)
  | lan =>
      simp only [fastrgLoopDns, CtrlMail.Fits]
      by_cases hudp : frame.bytes.getD (dnsIpOffset + 9) 0 = ipprotoUdp
      · rw [if_pos hudp]
        have hsent := dnsUdpQuery_event hz now dpStart hcache frame.bytes
        refine ⟨?_, ?_⟩
        · intro hsound _ hup
          obtain ⟨ev, hev, htx⟩ := dnsUdpQuery_upstream hup
          have hlen := (hsent ev hev).1
          have hthis := hsound (cpForwardDnsQueryToWan frame.bytes) (by rw [hev, ← htx]; rfl)
          refine (sound_dnsForward_iff ?_).mp hthis
          simp only [ctrlL2Len, dnsL4Offset] at hlen ⊢
          omega
        · intro hfits t ht
          obtain ⟨ev, hev, rfl⟩ := Option.map_eq_some_iff.mp (Option.mem_def.mp ht)
          obtain ⟨hlen, hcase⟩ := hsent ev hev
          rcases hcase with ⟨hup, htx⟩ | ⟨payload, hpayload, htx⟩
          · rw [htx]
            refine (sound_dnsForward_iff ?_).mpr (hfits hudp hup)
            simp only [ctrlL2Len, dnsL4Offset] at hlen ⊢
            omega
          · rw [htx]
            exact sound_dnsUdpAnswer hlen hpayload
      · rw [if_neg hudp]
        refine ⟨fun _ h => absurd h hudp, ?_⟩
        intro _ t ht
        split at ht
        · obtain ⟨ev, hev, htx⟩ := Option.bind_eq_some_iff.mp (Option.mem_def.mp ht)
          exact dnsTcpQuery_event ev hev t htx
        · exact absurd ht (by simp)

/--
**Control-plane frames.**  In every run of the DNS proxy and in every state of the DHCP server,
whatever is handed to the control thread: a frame that it sends is made of bytes that were
received or written, fits a buffer, and has the length its IP header states when it is for the
LAN, if and only if: a DHCP message that is answered by no reply, and a response of a DNS server
that is relayed, states no more than was received; a reply that is built in an earlier packet's
buffer is not longer than this packet; and a query that goes to a DNS server leaves room for a
PPPoE header.
-/
theorem ctrlFramesSound_iff (hz now : Nat) (dhcp : DhcpCcb) {ls : List (Nat × DnsCall)}
    {s : DnsSystem} (hrun : Run (DnsSystem.step hz) (fun _ _ => True) DnsSystem.start ls s)
    (mail : CtrlMail) :
    (∀ t ∈ fastrgLoopTx hz now dhcp s.proxy mail, t.Sound) ↔ mail.Fits hz now dhcp s.proxy := by
  cases mail with
  | dhcp frame => exact dhcpSound_iff hz now dhcp frame
  | dns port dpStart frame => exact dnsSound_iff hz now dhcp (run_cacheFits hrun) port dpStart frame

/-! ### Lengths that are taken from the sender -/

/-- A RELEASE of 290 bytes, whose IP header states a total length. -/
def releaseFrame (ipTotal : BitVec 16) : DhcpFrame where
  pkt := clientPkt 1 0 [53, 1, 7, 255]
  len := 290
  ipTotal := ipTotal
  room_eq := by decide
  fits := by decide

/-- A response of 81 bytes under the first identifier, whose IP header states a total length. -/
def toldFrame (ipTotal : BitVec 16) : DnsFrame where
  bytes := List.replicate 20 0 ++ be16Bytes ipTotal ++ (dnsFrame (dnsTell 0x61)).drop 22
  fits := by simp [be16Bytes, dnsFrame, dnsTell, rteMbufDefaultDataroom]

/-- A client has asked for `a`. -/
def dnsAsked : List (Nat × DnsCall) :=
  [(0, .sessionUp 8 0), (0, .lan true (dnsFrame (dnsAsk 0x61)))]

theorem run_dnsAsked : Run (DnsSystem.step 1) (fun _ _ => True) DnsSystem.start dnsAsked
    (dnsAsked.foldl (DnsSystem.step 1) DnsSystem.start) :=
  Run.of_labels _ _ fun _ _ _ => trivial

set_option maxRecDepth 8000 in
/-- A response that states its own length is relayed whole. -/
theorem ctrlFramesSound_iff_told :
    (fastrgLoopTx 1 0 dhcpInitByUser (dnsAsked.foldl (DnsSystem.step 1) DnsSystem.start).proxy
      (.dns .wan true (toldFrame 63))).isSome = true ∧
      ∀ t ∈ fastrgLoopTx 1 0 dhcpInitByUser
        (dnsAsked.foldl (DnsSystem.step 1) DnsSystem.start).proxy
        (.dns .wan true (toldFrame 63)), t.Sound := by
  refine ⟨by decide, ?_⟩
  exact (ctrlFramesSound_iff 1 0 dhcpInitByUser run_dnsAsked _).mpr fun _ => by decide

set_option maxRecDepth 8000 in
/-- A client that has a lease releases it, in a packet that states 1500 bytes, and 1518 bytes go
back to the LAN for the 290 that came.  A response that states as much is relayed likewise. -/
theorem overread_sent :
    DhcpRun 1 (fun _ _ => True) (served [clientPkt 1 0 (askFor 2)])
        (servedTo [clientPkt 1 0 (askFor 2)]) ∧
      Run (DnsSystem.step 1) (fun _ _ => True) DnsSystem.start dnsAsked
        (dnsAsked.foldl (DnsSystem.step 1) DnsSystem.start) ∧
      (∃ t ∈ fastrgLoopTx 1 1 (servedTo [clientPkt 1 0 (askFor 2)])
          (dnsAsked.foldl (DnsSystem.step 1) DnsSystem.start).proxy (.dhcp (releaseFrame 1500)),
        t.mulen = 1518 ∧ t.received = 290 ∧ ¬ t.Sound) ∧
      ∃ t ∈ fastrgLoopTx 1 1 (servedTo [clientPkt 1 0 (askFor 2)])
          (dnsAsked.foldl (DnsSystem.step 1) DnsSystem.start).proxy
          (.dns .wan true (toldFrame 1500)),
        t.mulen = 1518 ∧ t.received = 81 ∧ ¬ t.Sound := by
  refine ⟨run_servedTo _, run_dnsAsked, ⟨⟨.lan, lanOutLen 1500, 1500, 290, []⟩, ?_, rfl, rfl, ?_⟩,
    ⟨⟨.lan, lanOutLen 1500, 1500, 81, []⟩, ?_, rfl, rfl, ?_⟩⟩
  · decide
  · rw [sound_unwritten_iff (by decide)]
    decide
  · decide
  · rw [sound_unwritten_iff (by decide)]
    decide

end FastRG
