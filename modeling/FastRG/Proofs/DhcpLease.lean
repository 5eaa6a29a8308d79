/-
Leases.

An address handed out is one of the window's, and no network or broadcast address, unless
a REQUEST that asks for no address has another one lying in its `yiaddr`.  No two clients
are acknowledged the same address, as long as every REQUEST asks for the address of the
entry it is recorded at; the server does not compare the two.  And a packet that comes to
nothing leaves the leases as they were unless it comes from a slot that has one: the entry
that is given up again then is not always the one that was taken for the packet.
-/
import FastRG.Proofs.DhcpStep

namespace FastRG

variable {hz now : Nat} {ccb ccb' : DhcpCcb} {mac : BitVec 48} {i j : Nat}

/-! ### A subscriber to try things on -/

/-- A packet of a client, in one buffer, with a `yiaddr` and options. -/
def clientPkt (mac : BitVec 48) (ur : BitVec 32) (opts : List (BitVec 8)) : DhcpPkt where
  buf := 0
  srcMac := mac
  ipDst := rteIpv4Broadcast
  room := udpHdrLen + dhcpHdrLen + opts.length
  dgramLen := BitVec.ofNat 16 (udpHdrLen + dhcpHdrLen + opts.length)
  hdr := ⟨0, 0, ur, swap32 dhcpMagicCookie⟩
  opt := fun n => opts.getD n 0
  freed := fun _ => ⟨0, 0, 0, 0⟩

/-- A REQUEST for 192.168.1.`n`. -/
def askFor (n : BitVec 8) : List (BitVec 8) := [53, 1, 3, 50, 4, 192, 168, 1, n, 255]

/-- A window from 192.168.1.2 to 192.168.1.10. -/
def servedConf : DhcpLabel :=
  .applyConfig (swap32 0xc0a80101) (swap32 0xc0a80102) (swap32 0xc0a8010a) (swap32 0xffffff00)

/-- The server with that window, turned on, and then some packets. -/
def served (pkts : List DhcpPkt) : List DhcpLabel :=
  servedConf :: .onOff true :: pkts.map (.packet 1)

/-- Where that leads. -/
def servedTo (pkts : List DhcpPkt) : DhcpCcb := (served pkts).foldl (dhcpStep 1) dhcpInitByUser

theorem run_servedTo (pkts : List DhcpPkt) :
    DhcpRun 1 (fun _ _ => True) (served pkts) (servedTo pkts) :=
  Run.of_labels _ _ fun _ _ _ => trivial

/-! ### Addresses handed out -/

/-- The address that a reply hands out: the `yiaddr` of an OFFER, or of an ACK with a lease. -/
def HandsOut (reply : DhcpReply) (ip : BitVec 32) : Prop :=
  ∃ body, reply.body = some body ∧ ip = body.urClientIp ∧
    (body.msg = .offer ∨ body.msg = .ack ∧ .leaseTime leaseTimeout ∈ body.opts)

/-- An address of the configured range, and of no entry that must not be leased. -/
def Leasable (ccb : DhcpCcb) (ip : BitVec 32) : Prop :=
  ccb.poolStart ≤ swap32 ip ∧ swap32 ip ≤ ccb.poolEnd ∧
    ∀ i, i < ccb.perLanUserPoolLen → (ccb.user i).reserved = true → (ccb.user i).ipAddr ≠ ip

theorem DhcpCcb.Calm.leasable_iff {ip : BitVec 32} (hc : ccb.Calm ccb') :
    Leasable ccb' ip ↔ Leasable ccb ip := by
  simp only [Leasable, hc.poolStart, hc.poolEnd, hc.len, (hc.entry _).ipAddr,
    (hc.entry _).reserved]

/-- An entry that may be leased has an address that may be. -/
theorem DhcpInv.leasable_entry {k : Nat} (h : DhcpInv ccb) (hk : k < ccb.perLanUserPoolLen)
    (hres : (ccb.user k).reserved = false) : Leasable ccb (ccb.user k).ipAddr := by
  have hspan := h.span k hk
  have hres' := h.reserved k hk
  rw [h.ipAddr k hk, Leasable, swap32_swap32]
  refine ⟨?_, ?_, fun i hi hi' heq => ?_⟩
  · bv_omega
  · bv_omega
  · rw [h.ipAddr i hi, swap32_inj] at heq
    rw [h.reserved i hi, heq, ← hres', hres] at hi'
    cases hi'

/-- An address the server accepts from a client may be leased. -/
theorem DhcpInv.leasable_acceptable {ip : BitVec 32} (h : DhcpInv ccb)
    (hacc : dhcpIpAcceptable ccb ip = true) : Leasable ccb ip := by
  simp only [dhcpIpAcceptable, Bool.and_eq_true, Bool.not_eq_true', Bool.or_eq_false_iff,
    decide_eq_false_iff_not, BitVec.not_lt] at hacc
  obtain ⟨⟨-, hge, hle⟩, hres⟩ := hacc
  refine ⟨hge, hle, fun i hi hi' heq => ?_⟩
  rw [h.reserved i hi] at hi'
  rw [h.ipAddr i hi] at heq
  rw [← heq, swap32_swap32, hi'] at hres
  cases hres

theorem pickIpFromPool_leasable {ip : BitVec 32} (h : DhcpInv ccb) (hi : i < ccb.perLanUserPoolLen)
    (hpick : pickIpFromPool ccb i mac = some (ccb', ip)) : Leasable ccb ip := by
  obtain ⟨⟨k, hk, hres, rfl⟩, -⟩ := pickFrom_some hpick
  rw [List.mem_append, List.mem_range'_1, List.mem_range] at hk
  exact h.leasable_entry (by omega) hres

/-- The body of a reply is what the server built, if it is there. -/
theorem dhcpReply_body {c : DhcpCcb} {buf : Nat} {broadcast : Bool} {ipDst : BitVec 32}
    {body body' : DhcpBody} (h : (dhcpReply c buf broadcast ipDst body).body = some body') :
    buf = c.pkt.buf ∧ body' = body := by
  unfold dhcpReply at h
  by_cases hb : buf = c.pkt.buf
  · simp only [hb, if_true, Option.some.injEq] at h
    exact ⟨hb, h.symm⟩
  · simp [hb] at h

theorem sendDhcpNak_handsOut {c : DhcpCcb} {reply : DhcpReply} {ip : BitVec 32}
    (h : sendDhcpNak ccb i = some ⟨.success, c, some reply⟩) : ¬ HandsOut reply ip := by
  intro ⟨body, hbody, _, hmsg⟩
  unfold sendDhcpNak at h
  cases hbuf : (ccb.user i).dhcpHdr with
  | none => rw [hbuf] at h; cases h
  | some buf =>
      rw [hbuf] at h
      obtain ⟨-, -, hr⟩ := DhcpDone.mk.inj (Option.some.inj h)
      rw [← Option.some.inj hr] at hbody
      obtain ⟨-, rfl⟩ := dhcpReply_body hbody
      simp at hmsg

theorem sendDhcpAckInform_handsOut {c : DhcpCcb} {reply : DhcpReply} {ip : BitVec 32}
    (h : sendDhcpAckInform ccb i = some ⟨.success, c, some reply⟩) : ¬ HandsOut reply ip := by
  intro ⟨body, hbody, _, hmsg⟩
  unfold sendDhcpAckInform at h
  cases hbuf : (ccb.user i).dhcpHdr with
  | none => rw [hbuf] at h; cases h
  | some buf =>
      rw [hbuf] at h
      obtain ⟨-, -, hr⟩ := DhcpDone.mk.inj (Option.some.inj h)
      rw [← Option.some.inj hr] at hbody
      obtain ⟨-, rfl⟩ := dhcpReply_body hbody
      simp at hmsg

/-- What the automaton hands out is leasable, if what it acknowledges is. -/
theorem FsmStep.handsOut {ev : DhcpEvent} {d : DhcpDone} {reply : DhcpReply} {ip : BitVec 32}
    (hinv : DhcpInv ccb) (hi : i < ccb.perLanUserPoolLen)
    (hack : ev = .goodRequest → Leasable ccb ccb.pkt.hdr.urClientIp)
    (h : FsmStep hz now ccb i ev (some d)) (hreply : d.reply = some reply)
    (hout : HandsOut reply ip) : Leasable ccb ip := by
  cases h with
  | noRow _ => cases hreply
  | offerFailed => cases hreply
  | offered hpick =>
      obtain rfl := Option.some.inj hreply
      obtain ⟨body, hbody, rfl, -⟩ := hout
      obtain ⟨-, rfl⟩ := dhcpReply_body hbody
      have hset : ccb.Calm (setState ccb i .offerSent) := .setState ccb i (by simp)
      exact hset.leasable_iff.mp (pickIpFromPool_leasable (hinv.calm hset) hi hpick)
  | acked hev hsend =>
      obtain rfl := Option.some.inj hreply
      obtain ⟨buf, -, -, rfl⟩ := sendDhcpAck_some hsend
      obtain ⟨body, hbody, rfl, -⟩ := hout
      obtain ⟨hbuf, rfl⟩ := dhcpReply_body hbody
      have hur : ((setState ccb i .ackSent).hdrAt buf).urClientIp = ccb.pkt.hdr.urClientIp := by
        simp only [DhcpCcb.hdrAt, hbuf, if_true]
        rfl
      rw [hur]
      exact hack hev
  | naked hsend => exact absurd hout (Option.some.inj hreply ▸ sendDhcpNak_handsOut hsend)
  | nakReleased hsend => exact absurd hout (Option.some.inj hreply ▸ sendDhcpNak_handsOut hsend)
  | informed hsend => exact absurd hout (Option.some.inj hreply ▸ sendDhcpAckInform_handsOut hsend)
  | released => cases hreply
  | conflicted => cases hreply

/-- What a packet can be acknowledged with is leasable, if a REQUEST that asks for nothing
has something leasable in it. -/
theorem AckAddr.leasable {pkt : DhcpPkt} {ip : BitVec 32} (h : DhcpInv ccb)
    (hpkt : pkt.NamesNone → Leasable ccb pkt.hdr.urClientIp) (hip : AckAddr ccb pkt ip) :
    Leasable ccb ip := by
  rcases hip with ⟨-, hacc⟩ | ⟨hnone, rfl⟩
  · exact h.leasable_acceptable hacc
  · exact hpkt hnone

/-- A reply comes from what the automaton does. -/
theorem dhcpdSends_some {pkt : DhcpPkt} {reply : DhcpReply}
    (h : dhcpdSends hz now ccb pkt = some reply) :
    ∃ slot e c cur d, IsSlot ccb pkt.srcMac slot ∧
      dhcpDecode (claimed hz now ccb pkt slot) slot pkt = (.event e, c, cur) ∧
      dhcpFsm hz now c cur e = some d ∧ d.reply = some reply := by
  obtain ⟨d, hd, hreply⟩ := Option.bind_eq_some_iff.mp h
  rcases dhcpd_some hd with rfl | ⟨slot, hslot, hat⟩
  · cases hreply
  · obtain ⟨dec, c, cur, hres, hcase⟩ := dhcpdAt_cases hat
    rcases hcase with ⟨-, ret, rfl⟩ | ⟨e, r, rfl, hfsm, hr⟩
    · cases hreply
    · rcases hr with ⟨-, rfl⟩ | ⟨-, rfl⟩
      · cases hreply
      · exact ⟨slot, e, c, cur, r, hslot, hres, hfsm, hreply⟩

/--
**Addresses handed out are legal.**  Whatever has happened since set-up, the `yiaddr` of
every OFFER and of every ACK with a lease is in the configured range and is not the
address of a reserved entry, when a REQUEST that asks for no address, neither in `ciaddr`
nor in an option, has such an address in its own `yiaddr`.
-/
theorem handed_out_leasable {ls : List DhcpLabel} {s : DhcpCcb}
    (h : DhcpRun hz (fun _ _ => True) ls s) {pkt : DhcpPkt} {reply : DhcpReply} {ip : BitVec 32}
    (hpkt : pkt.HasMsg dhcpMsgRequest → pkt.NamesNone → Leasable s pkt.hdr.urClientIp)
    (hsent : dhcpdSends hz now s pkt = some reply) (hout : HandsOut reply ip) :
    Leasable s ip := by
  obtain ⟨slot, e, c, cur, d, hslot, hdec, hfsm, hreply⟩ := dhcpdSends_some hsent
  obtain ⟨ev, hst, hev⟩ := dhcpDecode_decoding (claimed hz now s pkt slot) pkt hslot.1
  rw [hdec] at hst hev
  obtain rfl := hev e rfl
  have hstart := calm_decodeStart hz now s pkt slot
  have hcalm := hstart.trans (.of_kept hst.kept)
  have hcur : cur < c.perLanUserPoolLen := hst.cur_lt hslot.1
  have hstep := dhcpFsm_step hz now c cur e
  rw [hfsm] at hstep
  refine hcalm.leasable_iff.mp (hstep.handsOut (h.inv.calm hcalm) hcur ?_ hreply hout)
  intro hgood
  subst hgood
  obtain ⟨-, hmsg, hack⟩ := hst.good rfl
  have hack' : AckAddr s pkt c.pkt.hdr.urClientIp := hack
  exact hcalm.leasable_iff.mpr (hack'.leasable h.inv (hpkt hmsg))

/-- A client that asks for 192.168.1.5 is acknowledged an address of the range. -/
theorem handed_out_leasable_five :
    ∃ reply, dhcpdSends 1 1 (servedTo []) (clientPkt 1 0 (askFor 5)) = some reply ∧
      HandsOut reply (swap32 0xc0a80105) ∧ Leasable (servedTo []) (swap32 0xc0a80105) := by
  obtain ⟨reply, hsent⟩ := Option.isSome_iff_exists.mp
    (show (dhcpdSends 1 1 (servedTo []) (clientPkt 1 0 (askFor 5))).isSome = true by decide)
  have hout : HandsOut reply (swap32 0xc0a80105) := by
    have hbody : (dhcpdSends 1 1 (servedTo []) (clientPkt 1 0 (askFor 5))).bind (·.body) =
        some ⟨.ack, 0, swap32 0xc0a80105, swap32 0xc0a80101, leaseOpts (servedTo [])⟩ := by
      decide
    rw [hsent] at hbody
    refine ⟨_, hbody, rfl, Or.inr ⟨rfl, ?_⟩⟩
    simp [leaseOpts]
  refine ⟨reply, hsent, hout, handed_out_leasable (run_servedTo []) ?_ hsent hout⟩
  intro _ hnone
  exact absurd ⟨by decide, by decide⟩ (hnone.2 3)

/-- A REQUEST that asks for nothing is acknowledged what it has in its `yiaddr`. -/
theorem not_handed_out_leasable :
    ∃ reply, DhcpRun 1 (fun _ _ => True) (served []) (servedTo []) ∧
      dhcpdSends 1 1 (servedTo []) (clientPkt 1 (swap32 0x08080808) [53, 1, 3, 255]) =
        some reply ∧
      HandsOut reply (swap32 0x08080808) ∧ ¬ Leasable (servedTo []) (swap32 0x08080808) := by
  obtain ⟨reply, hsent⟩ := Option.isSome_iff_exists.mp
    (show (dhcpdSends 1 1 (servedTo [])
      (clientPkt 1 (swap32 0x08080808) [53, 1, 3, 255])).isSome = true by decide)
  refine ⟨reply, run_servedTo [], hsent, ?_, ?_⟩
  · have hbody : (dhcpdSends 1 1 (servedTo [])
        (clientPkt 1 (swap32 0x08080808) [53, 1, 3, 255])).bind (·.body) =
        some ⟨.ack, 0, swap32 0x08080808, swap32 0xc0a80101, leaseOpts (servedTo [])⟩ := by
      decide
    rw [hsent] at hbody
    refine ⟨_, hbody, rfl, Or.inr ⟨rfl, ?_⟩⟩
    simp [leaseOpts]
  · intro hle
    exact absurd hle.1 (by decide)

/-! ### Who has been told what -/

/-- A client has been acknowledged an address, and the entry it was acknowledged for has not
been released since, by the client, by the end of the lease or by the server. -/
def Holds (ccb : DhcpCcb) (mac : BitVec 48) (ip : BitVec 32) : Prop :=
  ∃ i, (mac, ip) ∈ (ccb.user i).acked

/-- What has been acknowledged for an entry is its address, to the client it is in use for. -/
def Told (ccb : DhcpCcb) : Prop :=
  ∀ i, ∀ p ∈ (ccb.user i).acked, i < ccb.perLanUserPoolLen ∧ (ccb.user i).used = true ∧
    p.1 = (ccb.user i).poolMac ∧ p.2 = (ccb.user i).ipAddr

theorem Told.calm (h : Told ccb) (hc : ccb.Calm ccb') : Told ccb' := by
  intro i p hp
  rcases (hc.entry i).lease with ⟨-, hnone⟩ | ⟨-, hack, hu⟩
  · rw [hnone] at hp
    simp at hp
  · rw [hack] at hp
    obtain ⟨hlt, hused, hmac, hip⟩ := h i p hp
    obtain ⟨hused', hmac'⟩ := hu hused
    refine ⟨by rw [hc.len]; exact hlt, hused', by rw [hmac']; exact hmac, ?_⟩
    rw [(hc.entry i).ipAddr]
    exact hip

/-- Entries of the window have different addresses. -/
theorem DhcpInv.ipAddr_inj (h : DhcpInv ccb) (hi : i < ccb.perLanUserPoolLen)
    (hj : j < ccb.perLanUserPoolLen) (heq : (ccb.user i).ipAddr = (ccb.user j).ipAddr) : i = j := by
  rw [h.ipAddr i hi, h.ipAddr j hj, swap32_inj] at heq
  have hi' := h.span i hi
  have hj' := h.span j hj
  bv_omega

/-- With that, an address has one holder. -/
theorem Told.holds_unique {m n : BitVec 48} {ip : BitVec 32} (h : Told ccb) (hinv : DhcpInv ccb)
    (hm : Holds ccb m ip) (hn : Holds ccb n ip) : m = n := by
  obtain ⟨i, hi⟩ := hm
  obtain ⟨j, hj⟩ := hn
  obtain ⟨hlti, -, hmaci, hipi⟩ := h i _ hi
  obtain ⟨hltj, -, hmacj, hipj⟩ := h j _ hj
  have hij := hinv.ipAddr_inj hlti hltj (hipi.symm.trans hipj)
  subst hij
  exact hmaci.trans hmacj.symm

/--
A REQUEST asks for the address that it will be recorded for: the search from its sender's
slot ends at the entry with the address it can be acknowledged with.  And it gives no MAC
but its sender's.
-/
def AsksForItsEntry (ccb : DhcpCcb) : DhcpLabel → Prop
  | .packet _ pkt => pkt.HasMsg dhcpMsgRequest →
      (∀ mac, pkt.GivesMac mac → mac = pkt.srcMac) ∧
        ∀ slot j ip, IsSlot ccb pkt.srcMac slot → ccb.FirstOpen pkt.srcMac slot j →
          AckAddr ccb pkt ip → ip = (ccb.user j).ipAddr
  | _ => True

theorem firstOpen_decodeStart {pkt : DhcpPkt} {slot : Nat}
    (h : (decodeStart (claimed hz now ccb pkt slot) slot pkt).FirstOpen mac slot j) :
    ccb.FirstOpen mac slot j := by
  have hiff : ∀ k, (decodeStart (claimed hz now ccb pkt slot) slot pkt).OpenTo mac k ↔
      ccb.OpenTo mac k := by
    intro k
    obtain ⟨-, -, hres, -, hu, hm⟩ := decodeStart_user hz now ccb pkt slot k
    simp only [DhcpCcb.OpenTo, hres, hu, hm]
  have hlen : (decodeStart (claimed hz now ccb pkt slot) slot pkt).perLanUserPoolLen =
      ccb.perLanUserPoolLen := rfl
  simpa only [DhcpCcb.FirstOpen, hiff, hlen] using h

theorem dhcpPoolInitByUser_told (serverIp ipStart ipEnd mask : BitVec 32) (h : Told ccb) :
    Told (dhcpPoolInitByUser ccb serverIp ipStart ipEnd mask).2 := by
  unfold dhcpPoolInitByUser
  by_cases hlong : (dhcpPoolLen ipStart ipEnd).toNat > dhcpMaxPoolSizePerUser
  · simp only [hlong, if_true]
    exact h
  · simp only [hlong, if_false]
    intro i p hp
    by_cases hmax : i < max ccb.perLanUserPoolLen (dhcpPoolLen ipStart ipEnd).toNat
    · simp [DhcpCcb.user, hmax, PerLanUser.reset] at hp
    · have hold : ¬ i < ccb.perLanUserPoolLen := by omega
      simp only [DhcpCcb.user, hmax, hold, if_false] at hp
      exact absurd (h i p hp).1 hold

theorem dhcpApplyConfig_told (serverIp ipStart ipEnd mask : BitVec 32) (h : Told ccb) :
    Told (dhcpApplyConfig ccb serverIp ipStart ipEnd mask) := by
  unfold dhcpApplyConfig
  cases dhcpValidatePoolRange serverIp ipStart ipEnd mask with
  | error => exact h
  | success => exact dhcpPoolInitByUser_told serverIp ipStart ipEnd mask h

theorem Told.step (h : Told ccb) (l : DhcpLabel) (hl : AsksForItsEntry ccb l) :
    Told (dhcpStep hz ccb l) := by
  cases l with
  | packet now pkt =>
      rcases dhcpStep_packet hz ccb now pkt with hc | ⟨slot, c, cur, buf, hslot, hdec, hbuf, heq⟩
      · exact h.calm hc
      · have hst := decoded_good hslot.1 hdec
        obtain ⟨hused, hmsg, hack⟩ := hst.good rfl
        obtain ⟨hmacs, hasks⟩ := hl hmsg
        obtain ⟨hfirst, hmac⟩ := dhcpDecode_placed (claimed hz now ccb pkt slot) pkt hslot.1 hmacs
          (by rw [hdec])
        rw [hdec] at hfirst hmac
        have hcalm := (calm_decodeStart hz now ccb pkt slot).trans (.of_kept hst.kept)
        have hip := hasks slot cur _ hslot (firstOpen_decodeStart hfirst) hack
        have hsrc : c.pkt.srcMac = pkt.srcMac := hst.kept.srcMac
        rw [heq]
        intro i p hp
        by_cases hi : i = cur
        · subst hi
          simp only [DhcpCcb.user_modUser_self, waitLeaseTimer, List.mem_append] at hp ⊢
          rcases hp with hnew | hold
          · split at hnew
            · obtain rfl := List.mem_singleton.mp hnew
              refine ⟨by rw [DhcpCcb.modUser_len, hst.kept.len]; exact hfirst.1, hused, ?_, ?_⟩
              · rw [hsrc]; exact hmac.symm
              · rw [(hcalm.entry i).ipAddr]; exact hip
            · simp at hnew
          · exact h.calm hcalm i p hold
        · rw [DhcpCcb.user_modUser_of_ne _ _ hi] at hp ⊢
          exact h.calm hcalm i p hp
  | timer now i => exact h.calm (dhcpTimerFire_calm hz now ccb i)
  | applyConfig serverIp ipStart ipEnd mask =>
      exact dhcpApplyConfig_told serverIp ipStart ipEnd mask h
  | dns conf => exact h
  | onOff on => exact h
  | disable => exact h.calm (dhcpdDisableCcb_calm ccb)

/-- The first address of an unused pool is recorded for a client that asks for it. -/
theorem asksForItsEntry_first :
    AsksForItsEntry (servedTo []) (.packet 1 (clientPkt 1 0 (askFor 2))) := by
  intro _
  have hoffs : (clientPkt 1 0 (askFor 2)).walk.offs = [0, 3] := by decide
  refine ⟨?_, ?_⟩
  · intro mac hmac
    rcases hmac with hsrc | ⟨off, ⟨hoff, hty⟩, -⟩
    · exact hsrc
    · rw [hoffs] at hoff
      simp only [List.mem_cons, List.not_mem_nil, or_false] at hoff
      rcases hoff with rfl | rfl
      · exact absurd hty (by decide)
      · exact absurd hty (by decide)
  · intro slot j ip hslot hfirst hip
    have hzero : IsSlot (servedTo []) 1 0 := isSlot_of_pickSlot (by decide)
    have hopen : (servedTo []).OpenTo 1 0 := ⟨by decide, Or.inl (by decide)⟩
    obtain rfl := hslot.unique hzero
    have hj : j = 0 := by
      rcases hfirst.2.2 with ⟨-, hbefore⟩ | ⟨hlt, -⟩
      · by_contra hne
        exact hbefore 0 (by omega) (by omega) hopen
      · omega
    subst hj
    rcases hip with ⟨⟨hci, -⟩ | ⟨off, ⟨hoff, hty⟩, rfl⟩, -⟩ | ⟨hnone, -⟩
    · exact absurd rfl hci
    · rw [hoffs] at hoff
      simp only [List.mem_cons, List.not_mem_nil, or_false] at hoff
      rcases hoff with rfl | rfl
      · exact absurd hty (by decide)
      · decide
    · exact absurd ⟨by decide, by decide⟩ (hnone.2 3)

/-- What a client's lease consists of: its slot, its timer, the automaton's state and the
address in use. -/
def PerLanUser.lease (e : PerLanUser) :
    DhcpState × Bool × BitVec 48 × Option DhcpTimer × Bool × BitVec 48 × BitVec 32 :=
  (e.state, e.lanUserUsed, e.lanMac, e.timer, e.used, e.poolMac, e.ipAddr)

/-- The packet cannot be decoded, or gives an event that its entry's state has no row for. -/
def comesToNothing (hz now : Nat) (ccb : DhcpCcb) (pkt : DhcpPkt) : Bool :=
  match pickSlot ccb pkt.srcMac with
  | none => true
  | some slot =>
      match dhcpDecode (claimed hz now ccb pkt slot) slot pkt with
      | (.event e, c, cur) => (dhcpFindRow (c.user cur).state e).isNone
      | _ => true

/-- The entry that decoding came to is given up, and nothing else is done. -/
theorem dhcpStep_of_slot {pkt : DhcpPkt} {slot : Nat} (hon : ccb.dhcpBool = true)
    (htr : pkt.truncated = false) (hslot : pickSlot ccb pkt.srcMac = some slot)
    (h : comesToNothing hz now ccb pkt = true) :
    ∃ dec c cur, dhcpDecode (claimed hz now ccb pkt slot) slot pkt = (dec, c, cur) ∧
      dhcpStep hz ccb (.packet now pkt) = c.modUser cur PerLanUser.releaseLanUser := by
  obtain ⟨dec, c, cur, hres⟩ : ∃ dec c cur,
      dhcpDecode (claimed hz now ccb pkt slot) slot pkt = (dec, c, cur) := ⟨_, _, _, rfl⟩
  refine ⟨dec, c, cur, hres, ?_⟩
  have hd : dhcpd hz now ccb pkt = dhcpdAt hz now ccb pkt slot := by
    simp [dhcpd, hon, htr, hslot]
  have hat : ∃ ret, dhcpdAt hz now ccb pkt slot =
      some ⟨ret, c.modUser cur PerLanUser.releaseLanUser, none⟩ := by
    unfold comesToNothing at h
    simp only [hslot, hres] at h
    unfold dhcpdAt
    simp only
    rw [show (ccb.modUser slot fun e => (e.claim pkt.srcMac).watch hz now) =
      claimed hz now ccb pkt slot from rfl, hres]
    cases dec with
    | error => exact ⟨.drop, rfl⟩
    | noEvent => exact ⟨.toWan, rfl⟩
    | event e =>
        have hrow : dhcpFindRow (c.user cur).state e = none := Option.isNone_iff_eq_none.mp h
        exact ⟨.drop, by simp [dhcpFsm, hrow]⟩
  obtain ⟨ret, hat⟩ := hat
  change ((dhcpd hz now ccb pkt).map (·.ccb)).getD ccb = _
  rw [hd, hat]
  rfl

theorem dhcpStep_of_comesToNothing {pkt : DhcpPkt} (h : comesToNothing hz now ccb pkt = true) :
    dhcpStep hz ccb (.packet now pkt) = ccb ∨ ∃ slot dec c cur, IsSlot ccb pkt.srcMac slot ∧
      dhcpDecode (claimed hz now ccb pkt slot) slot pkt = (dec, c, cur) ∧
      dhcpStep hz ccb (.packet now pkt) = c.modUser cur PerLanUser.releaseLanUser := by
  have hstep : dhcpStep hz ccb (.packet now pkt) =
      ((dhcpd hz now ccb pkt).map (·.ccb)).getD ccb := rfl
  by_cases hon : ccb.dhcpBool = true
  · by_cases htr : pkt.truncated = true
    · simp [hstep, dhcpd, hon, htr]
    · cases hslot : pickSlot ccb pkt.srcMac with
      | none => simp [hstep, dhcpd, hon, htr, hslot]
      | some slot =>
          have hat := dhcpStep_of_slot hon (by simpa using htr) hslot h
          exact Or.inr ⟨slot, hat.imp fun _ => fun ⟨c, cur, hat⟩ =>
            ⟨c, cur, isSlot_of_pickSlot hslot, hat⟩⟩
  · simp [hstep, dhcpd, hon]

/-- Up to decoding, only the client's slot has been touched. -/
theorem decodeStart_user_of_ne {pkt : DhcpPkt} {slot : Nat} (hi : i ≠ slot) :
    (decodeStart (claimed hz now ccb pkt slot) slot pkt).user i = ccb.user i := by
  simp [decodeStart, DhcpCcb.user, claimed, DhcpCcb.modUser, hi]

/--
**A bad packet takes no lease away.**  Whatever has happened since set-up, a packet that
comes to nothing leaves every lease as it was, when its sender's slot has no lease, and when,
in case it is a REQUEST or a RELEASE, no lease is recorded under a MAC that it gives.
-/
theorem bad_packet_keeps_leases {ls : List DhcpLabel} {s : DhcpCcb}
    (h : DhcpRun hz (fun _ _ => True) ls s) {pkt : DhcpPkt}
    (hbad : comesToNothing hz now s pkt = true)
    (hslot : ∀ slot, IsSlot s pkt.srcMac slot → (s.user slot).state ≠ .ackSent)
    (hmac : pkt.Searches → ∀ i, (s.user i).state = .ackSent → ¬ pkt.GivesMac (s.user i).poolMac) :
    ∀ i, (s.user i).state = .ackSent →
      ((dhcpStep hz s (.packet now pkt)).user i).lease = (s.user i).lease := by
  intro i hi
  rcases dhcpStep_of_comesToNothing hbad with heq | ⟨slot, dec, c, cur, hisSlot, hdec, heq⟩
  · rw [heq]
  have hused := h.inv.leased i hi
  have hne : i ≠ slot := by
    intro his
    subst his
    exact hslot i hisSlot hi
  obtain ⟨ev, hst, -⟩ := dhcpDecode_decoding (claimed hz now s pkt slot) pkt hisSlot.1
  rw [hdec] at hst
  -- the entry given up is not this one
  have hcur : i ≠ cur := by
    intro hic
    subst hic
    rcases hst.cur with heq | ⟨-, -, hsearch, hfree | hgives⟩
    · exact hne heq
    · rw [decodeStart_user_of_ne hne, hused] at hfree
      cases hfree
    · rw [decodeStart_user_of_ne hne] at hgives
      exact hmac hsearch i hi hgives
  have hkept := hst.kept.entry i
  have htimer := hst.kept.timer i hne
  rw [decodeStart_user_of_ne hne] at hkept htimer
  obtain ⟨hu, hm⟩ := hkept.used hused
  rw [heq, DhcpCcb.user_modUser_of_ne _ _ hcur]
  simp only [PerLanUser.lease, hkept.state, hkept.lanUserUsed, hkept.lanMac, htimer, hu, hm,
    hkept.ipAddr, hused]

/-- The condition on the slot is needed: a packet that does not search the pool and comes to
nothing ends the lease of the slot it comes from. -/
theorem bad_packet_ends_lease {pkt : DhcpPkt} {slot : Nat} (hon : ccb.dhcpBool = true)
    (htr : pkt.truncated = false) (hbad : comesToNothing hz now ccb pkt = true)
    (hslot : pickSlot ccb pkt.srcMac = some slot) (hsearch : ¬ pkt.Searches) :
    ((dhcpStep hz ccb (.packet now pkt)).user slot).state = .init := by
  obtain ⟨dec, c, cur, hdec, heq⟩ := dhcpStep_of_slot hon htr hslot hbad
  have hlt := (isSlot_of_pickSlot hslot).1
  obtain ⟨ev, hst, -⟩ := dhcpDecode_decoding (claimed hz now ccb pkt slot) pkt hlt
  rw [hdec] at hst
  have hcur : cur = slot := by
    rcases hst.cur with hcur | ⟨-, -, hsearch', -⟩
    · exact hcur
    · exact absurd hsearch' hsearch
  rw [heq, hcur]
  simp [PerLanUser.releaseLanUser]

/-- A message cut short from someone without a lease leaves another client's lease alone. -/
theorem bad_packet_keeps_leases_other :
    ((servedTo [clientPkt 1 0 (askFor 5)]).user 0).state = .ackSent ∧
      ((dhcpStep 1 (servedTo [clientPkt 1 0 (askFor 5)])
        (.packet 2 (clientPkt 2 0 [53]))).user 0).lease =
        ((servedTo [clientPkt 1 0 (askFor 5)]).user 0).lease := by
  have hleased : ((servedTo [clientPkt 1 0 (askFor 5)]).user 0).state = .ackSent := by
    decide
  refine ⟨hleased, bad_packet_keeps_leases (run_servedTo _) ?_ ?_ ?_ 0 hleased⟩
  · decide
  · intro slot hslot
    have hone : IsSlot (servedTo [clientPkt 1 0 (askFor 5)]) 2 1 :=
      isSlot_of_pickSlot (by decide)
    rw [hslot.unique hone]
    decide
  · intro hsearch
    have hnone : (clientPkt 2 0 [53]).walk.offs = [] := by decide
    exfalso
    rcases hsearch with ⟨off, ⟨hoff, -⟩, -⟩ | ⟨off, ⟨hoff, -⟩, -⟩
    · rw [hnone] at hoff
      simp at hoff
    · rw [hnone] at hoff
      simp at hoff

/-- The same message from the client that has the lease ends it. -/
theorem not_bad_packet_keeps_leases :
    DhcpRun 1 (fun _ _ => True) (served [clientPkt 1 0 (askFor 5)])
        (servedTo [clientPkt 1 0 (askFor 5)]) ∧
      comesToNothing 1 2 (servedTo [clientPkt 1 0 (askFor 5)]) (clientPkt 1 0 [53]) = true ∧
      ((servedTo [clientPkt 1 0 (askFor 5)]).user 0).state = .ackSent ∧
      ((dhcpStep 1 (servedTo [clientPkt 1 0 (askFor 5)])
        (.packet 2 (clientPkt 1 0 [53]))).user 0).lease ≠
        ((servedTo [clientPkt 1 0 (askFor 5)]).user 0).lease := by
  refine ⟨run_servedTo _, ?_, ?_, ?_⟩
  · decide
  · decide
  · decide

end FastRG
