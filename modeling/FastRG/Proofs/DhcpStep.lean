/-
What a step of the DHCP server does.

`FsmStep` is what the automaton can do at an index.  Everything but an acknowledgement is
`Calm`: an entry keeps its address and, as long as it is leased, the client it is in use
for.  With what decoding comes to, that gives what holds in every run, `DhcpInv`: the
entries of the window are its addresses in order, and an acknowledged entry is in use.
-/
import FastRG.Proofs.DhcpDecode
import Mathlib.Data.List.TakeWhile

namespace FastRG

variable {hz now : Nat} {ccb ccb' : DhcpCcb} {mac : BitVec 48} {own cur i j : Nat}

/-! ### What the automaton does -/

/-- The state of one entry, set. -/
def setState (ccb : DhcpCcb) (i : Nat) (st : DhcpState) : DhcpCcb :=
  ccb.modUser i ({ · with state := st })

/-- What `dhcp_fsm` does at an index. -/
inductive FsmStep (hz now : Nat) (ccb : DhcpCcb) (i : Nat) (ev : DhcpEvent) :
    Option DhcpDone → Prop
  | noRow (h : dhcpFindRow (ccb.user i).state ev = none) :
      FsmStep hz now ccb i ev (some ⟨.error, ccb, none⟩)
  | ended : FsmStep hz now ccb i ev none
  | offerFailed : FsmStep hz now ccb i ev (some ⟨.error, setState ccb i .offerSent, none⟩)
  | offered {c : DhcpCcb} {ip : BitVec 32} {buf : Nat}
      (hpick : pickIpFromPool (setState ccb i .offerSent) i ccb.pkt.srcMac = some (c, ip)) :
      FsmStep hz now ccb i ev (some ⟨.success, c.modUser i (waitRequestTimer hz now),
        some (dhcpReply c buf (c.hdrAt buf).wantsBroadcast ip
          ⟨.offer, (c.hdrAt buf).clientIp, ip, c.dhcpServerIp, leaseOpts c⟩)⟩)
  | acked {c : DhcpCcb} {reply : DhcpReply} (hev : ev = .goodRequest)
      (hack : sendDhcpAck (setState ccb i .ackSent) i = some ⟨.success, c, some reply⟩) :
      FsmStep hz now ccb i ev (some ⟨.success, c.modUser i (waitLeaseTimer hz now), some reply⟩)
  | naked {reply : DhcpReply} {c : DhcpCcb}
      (hnak : sendDhcpNak (setState ccb i .init) i = some ⟨.success, c, some reply⟩) :
      FsmStep hz now ccb i ev (some ⟨.success, setState ccb i .init, some reply⟩)
  | nakReleased {reply : DhcpReply} {c : DhcpCcb}
      (hnak : sendDhcpNak (setState ccb i .init) i = some ⟨.success, c, some reply⟩) :
      FsmStep hz now ccb i ev
        (some ⟨.success, (setState ccb i .init).modUser i PerLanUser.releaseLanUser, some reply⟩)
  | informed {reply : DhcpReply} {c : DhcpCcb}
      (hack : sendDhcpAckInform (setState ccb i (ccb.user i).state) i =
        some ⟨.success, c, some reply⟩) :
      FsmStep hz now ccb i ev (some ⟨.success, setState ccb i (ccb.user i).state, some reply⟩)
  | released : FsmStep hz now ccb i ev
      (some ⟨.success, (setState ccb i .init).modUser i PerLanUser.releaseLanUser, none⟩)
  | conflicted : FsmStep hz now ccb i ev
      (some ⟨.success, (setState ccb i .init).modUser i (markIpConflicted hz now), none⟩)

theorem dhcpFindRow_some {st : DhcpState} {ev : DhcpEvent} {row : DhcpRow}
    (h : dhcpFindRow st ev = some row) : row ∈ dhcpFsmTbl ∧ row.state = st ∧ row.event = ev := by
  have hmem := List.mem_of_find?_eq_some h
  have hev := List.find?_some h
  have hst := List.mem_takeWhile_imp hmem
  refine ⟨?_, by simpa using hst, by simpa using hev⟩
  exact (List.dropWhile_sublist _).subset ((List.takeWhile_sublist _).subset hmem)

/-- A handler that ends the run ends it. -/
theorem runHandlers_none (hd : DhcpHandler) {rest : List DhcpHandler} {reply : Option DhcpReply}
    (h : hd.run hz now ccb i = none) :
    runHandlers hz now i ⟨.success, ccb, reply⟩ (hd :: rest) = none := by
  unfold runHandlers
  rw [h]

/-- One that fails is the last. -/
theorem runHandlers_error (hd : DhcpHandler) {rest : List DhcpHandler}
    {reply reply' : Option DhcpReply} (h : hd.run hz now ccb i = some ⟨.error, ccb', reply'⟩) :
    runHandlers hz now i ⟨.success, ccb, reply⟩ (hd :: rest) =
      some ⟨.error, ccb', reply'.or reply⟩ := by
  unfold runHandlers
  rw [h]

/-- After one that succeeds come the others. -/
theorem runHandlers_success (hd : DhcpHandler) {rest : List DhcpHandler}
    {reply reply' : Option DhcpReply} (h : hd.run hz now ccb i = some ⟨.success, ccb', reply'⟩) :
    runHandlers hz now i ⟨.success, ccb, reply⟩ (hd :: rest) =
      runHandlers hz now i ⟨.success, ccb', reply'.or reply⟩ rest := by
  conv_lhs => unfold runHandlers
  rw [h]

/-- Sending an OFFER and then waiting for the REQUEST. -/
theorem fsmStep_offer (hz now : Nat) (ccb : DhcpCcb) (i : Nat) (ev : DhcpEvent) :
    FsmStep hz now ccb i ev (runHandlers hz now i
      ⟨.success, setState ccb i .offerSent, none⟩ [.sendDhcpOffer, .waitRequestTimer]) := by
  have hmac : (setState ccb i .offerSent).pkt.srcMac = ccb.pkt.srcMac := rfl
  cases hpick : pickIpFromPool (setState ccb i .offerSent) i ccb.pkt.srcMac with
  | none =>
      have hoffer : sendDhcpOffer (setState ccb i .offerSent) i =
          some ⟨.error, setState ccb i .offerSent, none⟩ := by
        unfold sendDhcpOffer
        rw [hmac, hpick]
      rw [runHandlers_error .sendDhcpOffer hoffer]
      exact .offerFailed
  | some r =>
      obtain ⟨c, ip⟩ := r
      cases hbuf : (c.user i).dhcpHdr with
      | none =>
          have hoffer : sendDhcpOffer (setState ccb i .offerSent) i = none := by
            unfold sendDhcpOffer
            rw [hmac, hpick]
            simp only [hbuf]
          rw [runHandlers_none .sendDhcpOffer hoffer]
          exact .ended
      | some buf =>
          have hoffer : sendDhcpOffer (setState ccb i .offerSent) i =
              some ⟨.success, c, some (dhcpReply c buf (c.hdrAt buf).wantsBroadcast ip
                ⟨.offer, (c.hdrAt buf).clientIp, ip, c.dhcpServerIp, leaseOpts c⟩)⟩ := by
            unfold sendDhcpOffer
            rw [hmac, hpick]
            simp only [hbuf]
          rw [runHandlers_success .sendDhcpOffer hoffer]
          exact .offered hpick

/-- Acknowledging a REQUEST and then waiting for the lease to end. -/
theorem fsmStep_ack (hz now : Nat) (ccb : DhcpCcb) (i : Nat) :
    FsmStep hz now ccb i .goodRequest (runHandlers hz now i
      ⟨.success, setState ccb i .ackSent, none⟩ [.sendDhcpAck, .waitLeaseTimer]) := by
  cases hbuf : ((setState ccb i .ackSent).user i).dhcpHdr with
  | none =>
      have hack : sendDhcpAck (setState ccb i .ackSent) i = none := by
        unfold sendDhcpAck
        rw [hbuf]
      rw [runHandlers_none .sendDhcpAck hack]
      exact .ended
  | some buf =>
      obtain ⟨c, reply, hack⟩ : ∃ c reply, sendDhcpAck (setState ccb i .ackSent) i =
          some ⟨.success, c, some reply⟩ := by
        unfold sendDhcpAck
        rw [hbuf]
        exact ⟨_, _, rfl⟩
      rw [runHandlers_success .sendDhcpAck hack]
      exact .acked rfl hack

/-- Refusing a REQUEST leaves the pool alone. -/
theorem sendDhcpNak_cases (ccb : DhcpCcb) (i : Nat) :
    sendDhcpNak ccb i = none ∨ ∃ reply, sendDhcpNak ccb i = some ⟨.success, ccb, some reply⟩ := by
  unfold sendDhcpNak
  cases (ccb.user i).dhcpHdr with
  | none => exact Or.inl rfl
  | some buf => exact Or.inr ⟨_, rfl⟩

/-- So does answering an INFORM. -/
theorem sendDhcpAckInform_cases (ccb : DhcpCcb) (i : Nat) :
    sendDhcpAckInform ccb i = none ∨
      ∃ reply, sendDhcpAckInform ccb i = some ⟨.success, ccb, some reply⟩ := by
  unfold sendDhcpAckInform
  cases (ccb.user i).dhcpHdr with
  | none => exact Or.inl rfl
  | some buf => exact Or.inr ⟨_, rfl⟩

theorem fsmStep_nak (hz now : Nat) (ccb : DhcpCcb) (i : Nat) (ev : DhcpEvent) :
    FsmStep hz now ccb i ev (runHandlers hz now i
      ⟨.success, setState ccb i .init, none⟩ [.sendDhcpNak]) := by
  rcases sendDhcpNak_cases (setState ccb i .init) i with hnak | ⟨reply, hnak⟩
  · rw [runHandlers_none .sendDhcpNak hnak]
    exact .ended
  · rw [runHandlers_success .sendDhcpNak hnak]
    exact .naked hnak

theorem fsmStep_nakRelease (hz now : Nat) (ccb : DhcpCcb) (i : Nat) (ev : DhcpEvent) :
    FsmStep hz now ccb i ev (runHandlers hz now i
      ⟨.success, setState ccb i .init, none⟩ [.sendDhcpNak, .release]) := by
  rcases sendDhcpNak_cases (setState ccb i .init) i with hnak | ⟨reply, hnak⟩
  · rw [runHandlers_none .sendDhcpNak hnak]
    exact .ended
  · rw [runHandlers_success .sendDhcpNak hnak]
    exact .nakReleased hnak

theorem fsmStep_inform (hz now : Nat) (ccb : DhcpCcb) (i : Nat) (ev : DhcpEvent) {st : DhcpState}
    (hst : st = (ccb.user i).state) :
    FsmStep hz now ccb i ev (runHandlers hz now i
      ⟨.success, setState ccb i st, none⟩ [.sendDhcpAckInform]) := by
  subst hst
  rcases sendDhcpAckInform_cases (setState ccb i (ccb.user i).state) i with hack | ⟨reply, hack⟩
  · rw [runHandlers_none .sendDhcpAckInform hack]
    exact .ended
  · rw [runHandlers_success .sendDhcpAckInform hack]
    exact .informed hack

theorem dhcpFsm_step (hz now : Nat) (ccb : DhcpCcb) (i : Nat) (ev : DhcpEvent) :
    FsmStep hz now ccb i ev (dhcpFsm hz now ccb i ev) := by
  unfold dhcpFsm
  cases hrow : dhcpFindRow (ccb.user i).state ev with
  | none => exact .noRow hrow
  | some row =>
      obtain ⟨hmem, hst, hev⟩ := dhcpFindRow_some hrow
      simp only
      -- one case for each row of the table
      simp only [dhcpFsmTbl, List.mem_cons, List.not_mem_nil, or_false] at hmem
      rcases hmem with rfl | rfl | rfl | rfl | rfl | rfl | rfl | rfl | rfl | rfl | rfl | rfl | rfl |
        rfl | rfl
      · exact fsmStep_offer ..
      · subst hev; exact fsmStep_ack ..
      · exact fsmStep_nak ..
      · exact fsmStep_inform _ _ _ _ _ hst
      · exact fsmStep_offer ..
      · exact .released
      · subst hev; exact fsmStep_ack ..
      · exact fsmStep_nakRelease ..
      · exact .released
      · exact .released
      · subst hev; exact fsmStep_ack ..
      · exact fsmStep_nakRelease ..
      · exact fsmStep_offer ..
      · exact .conflicted
      · exact fsmStep_inform _ _ _ _ _ hst

/-! ### Steps that acknowledge nothing -/

/-- One entry before and after a step that acknowledges nothing at it: what has been
acknowledged is over, or the address stays in use for the same MAC. -/
structure PerLanUser.Calm (e e' : PerLanUser) : Prop where
  ipAddr : e'.ipAddr = e.ipAddr
  reserved : e'.reserved = e.reserved
  lease : (e'.state ≠ .ackSent ∧ e'.acked = []) ∨
    ((e'.state = .ackSent → e.state = .ackSent) ∧ e'.acked = e.acked ∧
      (e.used = true → e'.used = true ∧ e'.poolMac = e.poolMac))

/-- The pool before and after such a step. -/
structure DhcpCcb.Calm (ccb ccb' : DhcpCcb) : Prop where
  len : ccb'.perLanUserPoolLen = ccb.perLanUserPoolLen
  poolStart : ccb'.poolStart = ccb.poolStart
  poolEnd : ccb'.poolEnd = ccb.poolEnd
  entry : ∀ i, (ccb.user i).Calm (ccb'.user i)

theorem PerLanUser.Kept.calm {e e' : PerLanUser} (h : e.Kept e') : e.Calm e' :=
  ⟨h.ipAddr, h.reserved, Or.inr ⟨fun hst => by rw [← h.state]; exact hst, h.acked, h.used⟩⟩

theorem PerLanUser.Calm.trans {e e' e'' : PerLanUser} (h : e.Calm e') (h' : e'.Calm e'') :
    e.Calm e'' := by
  refine ⟨h'.ipAddr.trans h.ipAddr, h'.reserved.trans h.reserved, ?_⟩
  rcases h'.lease with hover | ⟨hst', hack', hu'⟩
  · exact Or.inl hover
  · rcases h.lease with ⟨hst, hack⟩ | ⟨hst, hack, hu⟩
    · exact Or.inl ⟨fun h => hst (hst' h), hack'.trans hack⟩
    · refine Or.inr ⟨fun h => hst (hst' h), hack'.trans hack, fun h => ?_⟩
      have h₁ := hu h
      have h₂ := hu' h₁.1
      exact ⟨h₂.1, h₂.2.trans h₁.2⟩

namespace DhcpCcb.Calm

theorem trans {ccb'' : DhcpCcb} (h : ccb.Calm ccb') (h' : ccb'.Calm ccb'') : ccb.Calm ccb'' :=
  ⟨h'.len.trans h.len, h'.poolStart.trans h.poolStart, h'.poolEnd.trans h.poolEnd,
    fun i => (h.entry i).trans (h'.entry i)⟩

theorem of_kept (h : ccb.Kept own ccb') : ccb.Calm ccb' :=
  ⟨h.len, h.poolStart, h.poolEnd, fun i => (h.entry i).calm⟩

theorem modUser {f : PerLanUser → PerLanUser} (hf : (ccb.user i).Calm (f (ccb.user i))) :
    ccb.Calm (ccb.modUser i f) := by
  refine ⟨rfl, rfl, rfl, fun j => ?_⟩
  by_cases hj : j = i
  · subst hj; simpa using hf
  · simpa [hj] using (PerLanUser.Kept.refl _).calm

theorem refl (ccb : DhcpCcb) : ccb.Calm ccb :=
  .of_kept (.refl 0 ccb)

theorem release (ccb : DhcpCcb) (i : Nat) : ccb.Calm (ccb.modUser i PerLanUser.releaseLanUser) :=
  .modUser ⟨rfl, rfl, Or.inl ⟨by simp [PerLanUser.releaseLanUser], rfl⟩⟩

/-- A state other than `S_DHCP_ACK_SENT`, or the one there was. -/
theorem setState (ccb : DhcpCcb) (i : Nat) {st : DhcpState}
    (hst : st = .ackSent → (ccb.user i).state = .ackSent) :
    ccb.Calm (FastRG.setState ccb i st) :=
  .modUser ⟨rfl, rfl, Or.inr ⟨hst, rfl, fun h => ⟨h, rfl⟩⟩⟩

end DhcpCcb.Calm

/-- What is offered is the address of an entry that may be leased: one that is the client's, or
one not in use, which is then recorded for it. -/
theorem pickFrom_cases {l : List Nat} {ip : BitVec 32} (h : pickFrom ccb mac l = some (ccb', ip)) :
    ∃ k ∈ l, (ccb.user k).reserved = false ∧ ip = (ccb.user k).ipAddr ∧
      (ccb' = ccb ∧ mac = (ccb.user k).poolMac ∨
        (ccb.user k).used = false ∧ ccb' = ccb.modUser k ({ · with poolMac := mac })) := by
  induction l with
  | nil => simp [pickFrom] at h
  | cons k rest ih =>
      have hrest : pickFrom ccb mac rest = some (ccb', ip) →
          ∃ k' ∈ k :: rest, (ccb.user k').reserved = false ∧ ip = (ccb.user k').ipAddr ∧
            (ccb' = ccb ∧ mac = (ccb.user k').poolMac ∨
              (ccb.user k').used = false ∧
                ccb' = ccb.modUser k' ({ · with poolMac := mac })) := by
        intro h
        obtain ⟨k', hk', hpicked⟩ := ih h
        exact ⟨k', List.mem_cons_of_mem k hk', hpicked⟩
      unfold pickFrom at h
      by_cases hr : (ccb.user k).reserved = true
      · exact hrest (by simpa [hr] using h)
      by_cases hm : mac = (ccb.user k).poolMac
      · simp [hr, hm] at h
        exact ⟨k, by simp, by simpa using hr, h.2.symm, Or.inl ⟨h.1.symm, hm⟩⟩
      by_cases hu : (ccb.user k).used = true
      · exact hrest (by simpa [hr, hm, hu] using h)
      · simp [hr, hm, hu] at h
        exact ⟨k, by simp, by simpa using hr, h.2.symm, Or.inr ⟨by simpa using hu, h.1.symm⟩⟩

/-- Recording an address for a client acknowledges nothing. -/
theorem pickFrom_some {l : List Nat} {ip : BitVec 32} (h : pickFrom ccb mac l = some (ccb', ip)) :
    (∃ k ∈ l, (ccb.user k).reserved = false ∧ ip = (ccb.user k).ipAddr) ∧ ccb.Calm ccb' := by
  obtain ⟨k, hk, hres, hip, hcase⟩ := pickFrom_cases h
  refine ⟨⟨k, hk, hres, hip⟩, ?_⟩
  rcases hcase with ⟨rfl, -⟩ | ⟨hu, rfl⟩
  · exact .refl _
  · exact .modUser ⟨rfl, rfl, Or.inr ⟨id, rfl, fun h => absurd h (by simp [hu])⟩⟩

/-- Everything the automaton does but acknowledging. -/
theorem FsmStep.calm {ev : DhcpEvent} {d : DhcpDone} (h : FsmStep hz now ccb i ev (some d)) :
    ccb.Calm d.ccb ∨ (ev = .goodRequest ∧ ∃ c reply,
      sendDhcpAck (setState ccb i .ackSent) i = some ⟨.success, c, some reply⟩ ∧
        d = ⟨.success, c.modUser i (waitLeaseTimer hz now), some reply⟩) := by
  have hset : ∀ {st : DhcpState}, st ≠ .ackSent → ccb.Calm (setState ccb i st) :=
    fun hst => .setState ccb i fun heq => absurd heq hst
  cases h with
  | noRow _ => exact Or.inl (.refl ccb)
  | offerFailed => exact Or.inl (hset (by simp))
  | offered hpick =>
      refine Or.inl (((hset (by simp)).trans (pickFrom_some hpick).2).trans (.modUser ?_))
      exact ⟨rfl, rfl, Or.inr ⟨id, rfl, fun h => ⟨h, rfl⟩⟩⟩
  | acked hev hack => exact Or.inr ⟨hev, _, _, hack, rfl⟩
  | naked _ => exact Or.inl (hset (by simp))
  | nakReleased _ => exact Or.inl ((hset (by simp)).trans (.release _ _))
  | informed _ => exact Or.inl (.setState ccb i id)
  | released => exact Or.inl ((hset (by simp)).trans (.release _ _))
  | conflicted =>
      have hinit : ccb.Calm (setState ccb i .init) := hset (by simp)
      refine Or.inl (hinit.trans (.modUser ?_))
      refine ⟨rfl, rfl, Or.inl ⟨?_, rfl⟩⟩
      simp [setState, markIpConflicted]

/-! ### What the server does with a packet -/

/-- The pool with the client's slot taken and watched. -/
def claimed (hz now : Nat) (ccb : DhcpCcb) (pkt : DhcpPkt) (slot : Nat) : DhcpCcb :=
  ccb.modUser slot fun e => (e.claim pkt.srcMac).watch hz now

theorem claim_kept_fields (e : PerLanUser) (mac : BitVec 48) (hz now : Nat) :
    ((e.claim mac).watch hz now).state = e.state ∧ ((e.claim mac).watch hz now).ipAddr = e.ipAddr ∧
      ((e.claim mac).watch hz now).reserved = e.reserved ∧
      ((e.claim mac).watch hz now).acked = e.acked ∧
      ((e.claim mac).watch hz now).used = e.used ∧
      ((e.claim mac).watch hz now).poolMac = e.poolMac := by
  unfold PerLanUser.claim PerLanUser.watch
  by_cases hm : mac = e.lanMac
  · simp [hm]
  · simp [hm]

/-- Until decoding starts nothing about addresses has changed. -/
theorem decodeStart_user (hz now : Nat) (ccb : DhcpCcb) (pkt : DhcpPkt) (slot i : Nat) :
    ((decodeStart (claimed hz now ccb pkt slot) slot pkt).user i).state = (ccb.user i).state ∧
      ((decodeStart (claimed hz now ccb pkt slot) slot pkt).user i).ipAddr = (ccb.user i).ipAddr ∧
      ((decodeStart (claimed hz now ccb pkt slot) slot pkt).user i).reserved =
        (ccb.user i).reserved ∧
      ((decodeStart (claimed hz now ccb pkt slot) slot pkt).user i).acked = (ccb.user i).acked ∧
      ((decodeStart (claimed hz now ccb pkt slot) slot pkt).user i).used = (ccb.user i).used ∧
      ((decodeStart (claimed hz now ccb pkt slot) slot pkt).user i).poolMac =
        (ccb.user i).poolMac := by
  by_cases hi : i = slot
  · subst hi
    simp only [decodeStart, DhcpCcb.user_modUser_self]
    have huser : DhcpCcb.user { claimed hz now ccb pkt i with pkt := pkt } i =
        ((ccb.user i).claim pkt.srcMac).watch hz now := by
      simp [DhcpCcb.user, claimed, DhcpCcb.modUser]
    rw [huser]
    exact claim_kept_fields ..
  · simp [decodeStart, DhcpCcb.user, claimed, DhcpCcb.modUser, hi]

theorem calm_decodeStart (hz now : Nat) (ccb : DhcpCcb) (pkt : DhcpPkt) (slot : Nat) :
    ccb.Calm (decodeStart (claimed hz now ccb pkt slot) slot pkt) := by
  refine ⟨rfl, rfl, rfl, fun i => ?_⟩
  obtain ⟨hst, hip, hres, hack, hu, hm⟩ := decodeStart_user hz now ccb pkt slot i
  refine ⟨hip, hres, Or.inr ⟨fun h => by rw [← hst]; exact h, hack, fun h => ?_⟩⟩
  exact ⟨by rw [hu]; exact h, hm⟩

/-- What the server does with a packet: give the entry up that decoding came to, or what the
automaton does there. -/
theorem dhcpdAt_cases {pkt : DhcpPkt} {slot : Nat} {d : DhcpdDone}
    (h : dhcpdAt hz now ccb pkt slot = some d) :
    ∃ dec c cur, dhcpDecode (claimed hz now ccb pkt slot) slot pkt = (dec, c, cur) ∧
      (((∀ e, dec ≠ .event e) ∧
          ∃ ret, d = ⟨ret, c.modUser cur PerLanUser.releaseLanUser, none⟩) ∨
        ∃ e r, dec = .event e ∧ dhcpFsm hz now c cur e = some r ∧
          ((r.status = .error ∧
              d = ⟨.drop, r.ccb.modUser cur PerLanUser.releaseLanUser, none⟩) ∨
            (r.status = .success ∧ d = ⟨.toLan, r.ccb, r.reply⟩))) := by
  unfold dhcpdAt at h
  simp only at h
  rw [show (ccb.modUser slot fun e => (e.claim pkt.srcMac).watch hz now) =
    claimed hz now ccb pkt slot from rfl] at h
  obtain ⟨dec, c, cur, hres⟩ : ∃ dec c cur,
      dhcpDecode (claimed hz now ccb pkt slot) slot pkt = (dec, c, cur) := ⟨_, _, _, rfl⟩
  rw [hres] at h
  refine ⟨dec, c, cur, hres, ?_⟩
  cases dec with
  | error => exact Or.inl ⟨by simp, .drop, (Option.some.inj h).symm⟩
  | noEvent => exact Or.inl ⟨by simp, .toWan, (Option.some.inj h).symm⟩
  | event e =>
      simp only at h
      cases hfsm : dhcpFsm hz now c cur e with
      | none => rw [hfsm] at h; cases h
      | some r =>
          rw [hfsm] at h
          obtain ⟨status, c', reply⟩ := r
          refine Or.inr ⟨e, _, rfl, hfsm, ?_⟩
          cases status with
          | error => exact Or.inl ⟨rfl, (Option.some.inj h).symm⟩
          | success => exact Or.inr ⟨rfl, (Option.some.inj h).symm⟩

/-- Whatever a packet does but be acknowledged. -/
theorem dhcpdAt_calm {pkt : DhcpPkt} {slot : Nat} {d : DhcpdDone}
    (hslot : slot < ccb.perLanUserPoolLen) (h : dhcpdAt hz now ccb pkt slot = some d) :
    ccb.Calm d.ccb ∨ ∃ c cur a reply,
      dhcpDecode (claimed hz now ccb pkt slot) slot pkt = (.event .goodRequest, c, cur) ∧
        sendDhcpAck (setState c cur .ackSent) cur = some ⟨.success, a, some reply⟩ ∧
        d = ⟨.toLan, a.modUser cur (waitLeaseTimer hz now), some reply⟩ := by
  obtain ⟨ev, hdec, -⟩ := dhcpDecode_decoding (claimed hz now ccb pkt slot) pkt hslot
  have hcalm := (calm_decodeStart hz now ccb pkt slot).trans (.of_kept hdec.kept)
  obtain ⟨dec, c, cur, hres, hcase⟩ := dhcpdAt_cases h
  rw [hres] at hcalm
  rcases hcase with ⟨-, ret, rfl⟩ | ⟨e, r, rfl, hfsm, hr⟩
  · exact Or.inl (hcalm.trans (.release _ _))
  · have hstep := dhcpFsm_step hz now c cur e
    rw [hfsm] at hstep
    rcases hstep.calm with hc | ⟨rfl, a, reply, hack, rfl⟩
    · rcases hr with ⟨-, rfl⟩ | ⟨-, rfl⟩
      · exact Or.inl ((hcalm.trans hc).trans (.release _ _))
      · exact Or.inl (hcalm.trans hc)
    · rcases hr with ⟨herr, -⟩ | ⟨-, rfl⟩
      · cases herr
      · exact Or.inr ⟨c, cur, a, reply, hres, hack, rfl⟩

/-- An acknowledgement goes by the header that the entry points at. -/
theorem sendDhcpAck_some {a : DhcpCcb} {reply : DhcpReply}
    (h : sendDhcpAck ccb i = some ⟨.success, a, some reply⟩) :
    ∃ buf, (ccb.user i).dhcpHdr = some buf ∧
      a = ccb.modUser i (fun e => { e with acked :=
        (if buf = ccb.pkt.buf then [(ccb.pkt.srcMac, (ccb.hdrAt buf).urClientIp)] else []) ++
          e.acked }) ∧
      reply = dhcpReply ccb buf (ccb.hdrAt buf).wantsBroadcast (ccb.hdrAt buf).urClientIp
        ⟨.ack, (ccb.hdrAt buf).clientIp, (ccb.hdrAt buf).urClientIp, ccb.dhcpServerIp,
          leaseOpts ccb⟩ := by
  unfold sendDhcpAck at h
  cases hbuf : (ccb.user i).dhcpHdr with
  | none => rw [hbuf] at h; cases h
  | some buf =>
      rw [hbuf] at h
      obtain ⟨-, ha, hr⟩ := DhcpDone.mk.inj (Option.some.inj h)
      exact ⟨buf, rfl, ha.symm, (Option.some.inj hr).symm⟩

/-- The slot of a client: the first entry that is the client's, or free. -/
def IsSlot (ccb : DhcpCcb) (mac : BitVec 48) (slot : Nat) : Prop :=
  slot < ccb.perLanUserPoolLen ∧
    (mac = (ccb.user slot).lanMac ∨ (ccb.user slot).lanUserUsed = false) ∧
    ∀ k, k < slot → mac ≠ (ccb.user k).lanMac ∧ (ccb.user k).lanUserUsed = true

theorem isSlot_of_pickSlot {slot : Nat} (h : pickSlot ccb mac = some slot) :
    IsSlot ccb mac slot := by
  unfold pickSlot at h
  rw [List.find?_range_eq_some] at h
  obtain ⟨hfound, hmem, hbefore⟩ := h
  refine ⟨List.mem_range.mp hmem, by simpa using hfound, fun k hk => ?_⟩
  simpa using hbefore k hk

/-- A client has one slot. -/
theorem IsSlot.unique {slot slot' : Nat} (h : IsSlot ccb mac slot) (h' : IsSlot ccb mac slot') :
    slot = slot' := by
  have hnot : ∀ {a b : Nat}, IsSlot ccb mac a → IsSlot ccb mac b → ¬ a < b := by
    intro a b ha hb hlt
    obtain ⟨hmac, hused⟩ := hb.2.2 a hlt
    rcases ha.2.1 with heq | hfree
    · exact hmac heq
    · rw [hused] at hfree
      cases hfree
  have h₁ := hnot h h'
  have h₂ := hnot h' h
  omega

/-- What the server does with a packet that reaches a slot, and with any other. -/
theorem dhcpd_some {pkt : DhcpPkt} {d : DhcpdDone} (h : dhcpd hz now ccb pkt = some d) :
    d = ⟨.drop, ccb, none⟩ ∨
      ∃ slot, IsSlot ccb pkt.srcMac slot ∧ dhcpdAt hz now ccb pkt slot = some d := by
  unfold dhcpd at h
  by_cases hon : ccb.dhcpBool = true
  · by_cases htr : pkt.truncated = true
    · simp [hon, htr] at h
      exact Or.inl h.symm
    · cases hslot : pickSlot ccb pkt.srcMac with
      | none => simp [hon, htr, hslot] at h; exact Or.inl h.symm
      | some slot =>
          simp only [hon, htr, hslot, not_true_eq_false, if_false, Bool.false_eq_true] at h
          exact Or.inr ⟨slot, isSlot_of_pickSlot hslot, h⟩
  · simp [hon] at h
    exact Or.inl h.symm

/-! ### What holds in every run -/

/-- The entries of the window are its addresses in order, and what is acknowledged is in
use. -/
structure DhcpInv (ccb : DhcpCcb) : Prop where
  span : ∀ i, i < ccb.perLanUserPoolLen → ccb.poolStart.toNat + i ≤ ccb.poolEnd.toNat
  ipAddr : ∀ i, i < ccb.perLanUserPoolLen →
    (ccb.user i).ipAddr = swap32 (ccb.poolStart + BitVec.ofNat 32 i)
  reserved : ∀ i, i < ccb.perLanUserPoolLen →
    (ccb.user i).reserved = dhcpIpIsReserved (ccb.poolStart + BitVec.ofNat 32 i)
  leased : ∀ i, (ccb.user i).state = .ackSent → (ccb.user i).used = true

theorem DhcpInv.calm (h : DhcpInv ccb) (hc : ccb.Calm ccb') : DhcpInv ccb' := by
  refine ⟨?_, ?_, ?_, ?_⟩
  · rw [hc.poolStart, hc.len, hc.poolEnd]
    exact h.span
  · intro i hi
    rw [hc.len] at hi
    rw [(hc.entry i).ipAddr, hc.poolStart]
    exact h.ipAddr i hi
  · intro i hi
    rw [hc.len] at hi
    rw [(hc.entry i).reserved, hc.poolStart]
    exact h.reserved i hi
  · intro i hi
    rcases (hc.entry i).lease with ⟨hne, -⟩ | ⟨hst, -, hu⟩
    · exact absurd hi hne
    · exact (hu (h.leased i (hst hi))).1

theorem DhcpInv.modUser {f : PerLanUser → PerLanUser} (h : DhcpInv ccb)
    (hip : (f (ccb.user i)).ipAddr = (ccb.user i).ipAddr)
    (hres : (f (ccb.user i)).reserved = (ccb.user i).reserved)
    (hu : (f (ccb.user i)).used = true) : DhcpInv (ccb.modUser i f) := by
  refine ⟨h.span, ?_, ?_, ?_⟩
  · intro j hj
    by_cases hji : j = i
    · subst hji
      rw [DhcpCcb.user_modUser_self, hip]
      exact h.ipAddr j hj
    · rw [DhcpCcb.user_modUser_of_ne _ _ hji]
      exact h.ipAddr j hj
  · intro j hj
    by_cases hji : j = i
    · subst hji
      rw [DhcpCcb.user_modUser_self, hres]
      exact h.reserved j hj
    · rw [DhcpCcb.user_modUser_of_ne _ _ hji]
      exact h.reserved j hj
  · intro j hj
    by_cases hji : j = i
    · subst hji
      rw [DhcpCcb.user_modUser_self]
      exact hu
    · rw [DhcpCcb.user_modUser_of_ne _ _ hji] at hj ⊢
      exact h.leased j hj

/-- The three writes of an acknowledgement are one change of the entry. -/
theorem ack_eq_modUser (hz now : Nat) {c a : DhcpCcb} {reply : DhcpReply}
    (h : sendDhcpAck (setState c i .ackSent) i = some ⟨.success, a, some reply⟩) :
    ∃ buf, (c.user i).dhcpHdr = some buf ∧
      a.modUser i (waitLeaseTimer hz now) = c.modUser i fun e => waitLeaseTimer hz now
        { e with
          state := .ackSent
          acked := (if buf = c.pkt.buf then [(c.pkt.srcMac, c.pkt.hdr.urClientIp)] else []) ++
            e.acked } := by
  obtain ⟨buf, hbuf, rfl, -⟩ := sendDhcpAck_some h
  refine ⟨buf, by simpa [setState] using hbuf, ?_⟩
  by_cases hb : buf = c.pkt.buf
  · simp [setState, DhcpCcb.modUser, DhcpCcb.hdrAt, hb]
  · simp [setState, DhcpCcb.modUser, hb]

/-- When a timer runs out, all the automaton does is to give the entry up. -/
theorem timeout_row {st : DhcpState} {row : DhcpRow} (h : dhcpFindRow st .timeout = some row) :
    row.hdl = [.release] := by
  obtain ⟨hmem, -, hev⟩ := dhcpFindRow_some h
  have hrows : ∀ row ∈ dhcpFsmTbl, row.event = .timeout → row.hdl = [.release] := by decide
  exact hrows row hmem hev

theorem modUser_modUser (ccb : DhcpCcb) (i : Nat) (f g : PerLanUser → PerLanUser) :
    (ccb.modUser i f).modUser i g = ccb.modUser i (g ∘ f) := by
  simp [DhcpCcb.modUser]

theorem dhcpFsm_timeout (hz now : Nat) (ccb : DhcpCcb) (i : Nat) :
    ((dhcpFsm hz now ccb i .timeout).map (·.ccb)).getD ccb = ccb ∨
      ((dhcpFsm hz now ccb i .timeout).map (·.ccb)).getD ccb =
        ccb.modUser i PerLanUser.releaseLanUser := by
  unfold dhcpFsm
  cases hrow : dhcpFindRow (ccb.user i).state .timeout with
  | none => exact Or.inl rfl
  | some row =>
      refine Or.inr ?_
      simp only [timeout_row hrow]
      rw [runHandlers_success .release rfl]
      exact modUser_modUser ccb i _ _

/-- What a timer does: nothing before it is due, and then it stops, or the entry is given up. -/
theorem dhcpTimerFire_cases (hz now : Nat) (ccb : DhcpCcb) (i : Nat) :
    dhcpTimerFire hz now ccb i = ccb ∨
      ∃ t, (ccb.user i).timer = some t ∧ t.expire ≤ now ∧
        (dhcpTimerFire hz now ccb i = ccb.modUser i ({ · with timer := none }) ∨
          dhcpTimerFire hz now ccb i = ccb.modUser i PerLanUser.releaseLanUser) := by
  unfold dhcpTimerFire
  cases ht : (ccb.user i).timer with
  | none => exact Or.inl rfl
  | some t =>
      simp only
      by_cases hdue : now < t.expire
      · rw [if_pos hdue]
        exact Or.inl rfl
      rw [if_neg hdue]
      have hrelease : (ccb.modUser i ({ · with timer := none })).modUser i
          PerLanUser.releaseLanUser = ccb.modUser i PerLanUser.releaseLanUser := by
        rw [modUser_modUser]
        rfl
      have hfsm := dhcpFsm_timeout hz now (ccb.modUser i ({ · with timer := none })) i
      rw [hrelease] at hfsm
      refine Or.inr ⟨t, rfl, by omega, ?_⟩
      cases t.cb with
      | releaseLanUser => exact Or.inr hrelease
      | requestTimer => exact hfsm
      | leaseTimer => exact hfsm

theorem dhcpTimerFire_calm (hz now : Nat) (ccb : DhcpCcb) (i : Nat) :
    ccb.Calm (dhcpTimerFire hz now ccb i) := by
  rcases dhcpTimerFire_cases hz now ccb i with heq | ⟨t, -, -, heq | heq⟩
  · rw [heq]
    exact .refl ccb
  · rw [heq]
    exact .of_kept (kept_stopTimer ccb i)
  · rw [heq]
    exact .release ccb i

theorem dhcpdDisableCcb_calm (ccb : DhcpCcb) : ccb.Calm (dhcpdDisableCcb ccb) := by
  refine ⟨rfl, rfl, rfl, fun i => ?_⟩
  by_cases hi : i < ccb.perLanUserPoolLen
  · simp only [DhcpCcb.user, dhcpdDisableCcb, hi, if_true]
    exact ⟨rfl, rfl, Or.inl ⟨by simp [PerLanUser.releaseLanUser], rfl⟩⟩
  · simp only [DhcpCcb.user, dhcpdDisableCcb, hi, if_false]
    exact (PerLanUser.Kept.refl _).calm

/-- A packet acknowledges nothing, or a good REQUEST does. -/
theorem dhcpStep_packet (hz : Nat) (ccb : DhcpCcb) (now : Nat) (pkt : DhcpPkt) :
    ccb.Calm (dhcpStep hz ccb (.packet now pkt)) ∨ ∃ slot c cur buf,
      IsSlot ccb pkt.srcMac slot ∧
      dhcpDecode (claimed hz now ccb pkt slot) slot pkt = (.event .goodRequest, c, cur) ∧
      (c.user cur).dhcpHdr = some buf ∧
      dhcpStep hz ccb (.packet now pkt) = c.modUser cur fun e => waitLeaseTimer hz now
        { e with
          state := .ackSent
          acked := (if buf = c.pkt.buf then [(c.pkt.srcMac, c.pkt.hdr.urClientIp)] else []) ++
            e.acked } := by
  have hstep : dhcpStep hz ccb (.packet now pkt) =
      ((dhcpd hz now ccb pkt).map (·.ccb)).getD ccb := rfl
  rw [hstep]
  cases hd : dhcpd hz now ccb pkt with
  | none => exact Or.inl (.refl ccb)
  | some d =>
      rcases dhcpd_some hd with rfl | ⟨slot, hslot, hat⟩
      · exact Or.inl (.refl ccb)
      · rcases dhcpdAt_calm hslot.1 hat with hc | ⟨c, cur, a, reply, hdec, hack, rfl⟩
        · exact Or.inl hc
        · obtain ⟨buf, hbuf, heq⟩ := ack_eq_modUser hz now hack
          exact Or.inr ⟨slot, c, cur, buf, hslot, hdec, hbuf, heq⟩

/-- What follows an acknowledgement, from what decoding comes to. -/
theorem decoded_good {pkt : DhcpPkt} {slot : Nat} {c : DhcpCcb}
    (hslot : slot < ccb.perLanUserPoolLen)
    (hdec : dhcpDecode (claimed hz now ccb pkt slot) slot pkt = (.event .goodRequest, c, cur)) :
    Decoding (decodeStart (claimed hz now ccb pkt slot) slot pkt) slot
      ⟨c, cur, some .goodRequest⟩ := by
  obtain ⟨ev, hst, hev⟩ := dhcpDecode_decoding (claimed hz now ccb pkt slot) pkt hslot
  rw [hdec] at hst hev
  rw [hev .goodRequest rfl] at hst
  exact hst

/-- A window of addresses is never longer than from its start to its end. -/
theorem dhcpPoolLen_span {ipStart ipEnd : BitVec 32} (hle : swap32 ipStart ≤ swap32 ipEnd)
    {i : Nat} (hi : i < (dhcpPoolLen ipStart ipEnd).toNat) :
    (swap32 ipStart).toNat + i ≤ (swap32 ipEnd).toNat := by
  unfold dhcpPoolLen at hi
  rw [if_pos hle] at hi
  bv_omega

/-- A range that is accepted is in order. -/
theorem dhcpValidatePoolRange_le {serverIp ipStart ipEnd mask : BitVec 32}
    (h : dhcpValidatePoolRange serverIp ipStart ipEnd mask = .success) :
    swap32 ipStart ≤ swap32 ipEnd := by
  unfold dhcpValidatePoolRange at h
  by_cases hzero : serverIp = 0 ∧ ipStart = 0 ∧ ipEnd = 0 ∧ mask = 0
  · rw [hzero.2.1, hzero.2.2.1]
    exact BitVec.le_refl _
  · by_cases hgt : swap32 ipStart > swap32 ipEnd
    · rw [if_neg hzero, if_pos hgt] at h
      cases h
    · exact BitVec.not_lt.mp hgt

/-- What a new window is like, whatever the old one was. -/
theorem dhcpPoolInitByUser_inv {serverIp ipStart ipEnd mask : BitVec 32}
    (hle : swap32 ipStart ≤ swap32 ipEnd) (h : DhcpInv ccb) :
    DhcpInv (dhcpPoolInitByUser ccb serverIp ipStart ipEnd mask).2 := by
  unfold dhcpPoolInitByUser
  by_cases hlong : (dhcpPoolLen ipStart ipEnd).toNat > dhcpMaxPoolSizePerUser
  · simp only [hlong, if_true]
    exact h
  · simp only [hlong, if_false]
    refine ⟨fun i hi => dhcpPoolLen_span hle hi, ?_, ?_, ?_⟩
    · intro i hi
      simp only at hi
      have hmax : i < max ccb.perLanUserPoolLen (dhcpPoolLen ipStart ipEnd).toNat := by omega
      simp [DhcpCcb.user, hmax, PerLanUser.reset, hi]
    · intro i hi
      simp only at hi
      have hmax : i < max ccb.perLanUserPoolLen (dhcpPoolLen ipStart ipEnd).toNat := by omega
      simp [DhcpCcb.user, hmax, PerLanUser.reset, hi]
    · intro i hi
      by_cases hmax : i < max ccb.perLanUserPoolLen (dhcpPoolLen ipStart ipEnd).toNat
      · simp [DhcpCcb.user, hmax, PerLanUser.reset] at hi
      · have hold : ¬ i < ccb.perLanUserPoolLen := by omega
        simp only [DhcpCcb.user, hmax, hold, if_false] at hi ⊢
        exact h.leased i hi

theorem dhcpApplyConfig_inv (serverIp ipStart ipEnd mask : BitVec 32) (h : DhcpInv ccb) :
    DhcpInv (dhcpApplyConfig ccb serverIp ipStart ipEnd mask) := by
  unfold dhcpApplyConfig
  cases hval : dhcpValidatePoolRange serverIp ipStart ipEnd mask with
  | error => exact h
  | success => exact dhcpPoolInitByUser_inv (dhcpValidatePoolRange_le hval) h

theorem dhcpInitByUser_inv : DhcpInv dhcpInitByUser := by
  refine dhcpPoolInitByUser_inv (BitVec.le_refl _) ⟨?_, ?_, ?_, ?_⟩
  · intro i hi
    simp [dhcpBlank] at hi
  · intro i hi
    simp [dhcpBlank] at hi
  · intro i hi
    simp [dhcpBlank] at hi
  · intro i hi
    simp [dhcpBlank, DhcpCcb.user, perLanUserBlank] at hi

theorem DhcpInv.step (h : DhcpInv ccb) (l : DhcpLabel) : DhcpInv (dhcpStep hz ccb l) := by
  cases l with
  | packet now pkt =>
      rcases dhcpStep_packet hz ccb now pkt with hc | ⟨slot, c, cur, buf, hslot, hdec, hbuf, heq⟩
      · exact h.calm hc
      · have hst := decoded_good hslot.1 hdec
        have hc := (calm_decodeStart hz now ccb pkt slot).trans (.of_kept hst.kept)
        rw [heq]
        exact (h.calm hc).modUser rfl rfl (hst.good rfl).1
  | timer now i => exact h.calm (dhcpTimerFire_calm hz now ccb i)
  | applyConfig serverIp ipStart ipEnd mask => exact dhcpApplyConfig_inv serverIp ipStart ipEnd mask h
  | dns conf => exact ⟨h.span, h.ipAddr, h.reserved, h.leased⟩
  | onOff on => exact ⟨h.span, h.ipAddr, h.reserved, h.leased⟩
  | disable => exact h.calm (dhcpdDisableCcb_calm ccb)

theorem DhcpRun.inv {cond : DhcpCcb → DhcpLabel → Prop} {ls : List DhcpLabel}
    (h : DhcpRun hz cond ls ccb) : DhcpInv ccb :=
  Run.inv DhcpInv (fun _ l hinv _ => hinv.step l) h dhcpInitByUser_inv

end FastRG
