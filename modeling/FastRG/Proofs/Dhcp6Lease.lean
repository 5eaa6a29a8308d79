/-
The lease of the DHCPv6 client.

A prefix that is ready is one that a server granted: the client is bound or renewing, the prefix
has the one length it accepts, the LAN prefix is derived from it, there is a T1, and the server
is known.  The gate to the data plane is open exactly when IPv6 is enabled, IPV6CP is up and the
prefix is ready.

Each operation is a short sequence of assignments to the linked fields, and each of them ends
with the gate computed anew or with nothing changed that it depends on.  What a response must
have to be taken is an invariant of the two loops that read it.

The PPP daemon's own model knows of the client only three flags and the gate.  What the client
does is something that model allows.
-/
import FastRG.Dhcp6
import FastRG.Pppd
import FastRG.Lib.Run

namespace FastRG

/-! ### Responses -/

/-- An option is never empty. -/
theorem dhcp6NextOption_shrinks {bs rest : List (BitVec 8)} {o : Dhcp6Option}
    (h : dhcp6NextOption bs = some (o, rest)) : rest.length < bs.length := by
  unfold dhcp6NextOption at h
  simp only at h
  split at h
  · exact absurd h (by simp)
  · rename_i hlen
    split at h
    · exact absurd h (by simp)
    · have hrest := (Prod.mk.inj (Option.some.inj h)).2
      rw [← hrest, List.length_drop]
      unfold dhcp6OptionHeaderLen at hlen ⊢
      omega

/-- The loops over options get to the end of the buffer: more rounds would change nothing. -/
theorem dhcp6Walk_enough {σ : Type} (take : σ → Dhcp6Option → Option σ) {rounds : Nat}
    {bs : List (BitVec 8)} (s : σ) (h : bs.length ≤ rounds) :
    Walk.run dhcp6NextOption take rounds bs s = Walk.run dhcp6NextOption take bs.length bs s :=
  Walk.run_enough (fun _ _ _ => dhcp6NextOption_shrinks) rounds bs s h

/-- A prefix that was read has the length the client accepts. -/
theorem plen_of_dhcp6IaPdOption {r r' : Dhcp6IaPd} {o : Dhcp6Option}
    (hr : r.hasPrefix = true → r.prefixPlen = dhcp6PdPlen)
    (h : dhcp6IaPdOption r o = some r') : r'.hasPrefix = true → r'.prefixPlen = dhcp6PdPlen := by
  unfold dhcp6IaPdOption at h
  split at h
  · split at h
    · exact absurd h (by simp)
    split at h
    · rw [← Option.some.inj h]
      exact hr
    · rw [← Option.some.inj h]
      exact hr
  split at h
  · split at h
    · exact absurd h (by simp)
    split at h
    · exact absurd h (by simp)
    · rename_i hplen
      rw [← Option.some.inj h]
      intro _
      exact Decidable.not_not.mp hplen
  · rw [← Option.some.inj h]
    exact hr

/-- An identity association has a prefix of that length, or the status that there is none. -/
theorem plen_of_dhcp6ParseIaPd {userNum : BitVec 16} {data : List (BitVec 8)} {r : Dhcp6IaPd}
    (h : dhcp6ParseIaPd userNum data = some r) (hsome : r.noPrefix = false) :
    r.prefixPlen = dhcp6PdPlen := by
  unfold dhcp6ParseIaPd at h
  split at h
  · exact absurd h (by simp)
  · obtain ⟨r₁, hrun, h⟩ := Option.bind_eq_some_iff.mp h
    have hplen := Walk.run_inv (fun r => r.hasPrefix = true → r.prefixPlen = dhcp6PdPlen)
      (fun _ _ _ hr ho => plen_of_dhcp6IaPdOption hr ho) _ _ hrun (by simp)
    split at h
    · exact absurd h (by simp)
    · rename_i hneither
      obtain rfl := Option.some.inj h
      exact hplen (by simpa [hsome] using hneither)

/-- What has been read of a response so far. -/
structure ResponseRead (r : Dhcp6Response) : Prop where
  server : r.hasServer = true →
    1 ≤ r.serverDuid.length ∧ r.serverDuid.length ≤ dhcp6ServerDuidMax
  plen : r.hasIaPd = true → r.iaPd.noPrefix = false → r.iaPd.prefixPlen = dhcp6PdPlen

theorem ResponseRead.option {c : Dhcp6Ccb} {r r' : Dhcp6Response} {o : Dhcp6Option}
    (hr : ResponseRead r) (h : dhcp6ResponseOption c r o = some r') : ResponseRead r' := by
  unfold dhcp6ResponseOption at h
  split at h
  · split at h
    · exact absurd h (by simp)
    · rename_i hduid
      rw [← Option.some.inj h]
      refine ⟨?_, hr.plen⟩
      intro _
      show 1 ≤ o.value.length ∧ o.value.length ≤ dhcp6ServerDuidMax
      omega
  split at h
  · split at h
    · exact absurd h (by simp)
    · rw [← Option.some.inj h]
      exact ⟨hr.server, hr.plen⟩
  split at h
  · split at h
    · exact absurd h (by simp)
    · obtain ⟨iaPd, hparse, h⟩ := Option.map_eq_some_iff.mp h
      rw [← h]
      exact ⟨hr.server, fun _ hsome => plen_of_dhcp6ParseIaPd hparse hsome⟩
  split at h
  · split at h
    · exact absurd h (by simp)
    · rw [← Option.some.inj h]
      exact ⟨hr.server, hr.plen⟩
  · rw [← Option.some.inj h]
    exact hr

/-- A response that is accepted names its server, and has the prefix length or no prefix. -/
theorem of_dhcp6ParseResponse {c : Dhcp6Ccb} {dhcp : List (BitVec 8)} {expectedType : BitVec 8}
    {r : Dhcp6Response} (h : dhcp6ParseResponse c dhcp expectedType = some r) :
    (1 ≤ r.serverDuid.length ∧ r.serverDuid.length ≤ dhcp6ServerDuidMax) ∧
      (r.iaPd.noPrefix = false → r.iaPd.prefixPlen = dhcp6PdPlen) := by
  unfold dhcp6ParseResponse at h
  split at h
  · exact absurd h (by simp)
  · obtain ⟨r₁, hrun, h⟩ := Option.bind_eq_some_iff.mp h
    have hread : ResponseRead r₁ := Walk.run_inv ResponseRead (fun _ _ _ hr ho => hr.option ho) _ _
      hrun ⟨by simp [Dhcp6Response.zero], by simp [Dhcp6Response.zero]⟩
    split at h
    · rename_i hseen
      obtain rfl := Option.some.inj h
      exact ⟨hread.server hseen.1, hread.plen hseen.2.2⟩
    · exact absurd h (by simp)

/-! ### The lease -/

namespace Dhcp6Ccb

/-- The client knows its server. -/
def HasServer (c : Dhcp6Ccb) : Prop :=
  1 ≤ c.serverDuid.length ∧ c.serverDuid.length ≤ dhcp6ServerDuidMax

/-- The lease is one a server granted. -/
structure Leased (c : Dhcp6Ccb) : Prop where
  state : c.state = .bound ∨ c.state = .renewing
  plen : c.pdPlen = dhcp6PdPlen
  lan : c.lanPrefix = dhcp6DeriveLanPrefix c.pdPrefix c.pdPlen
  t1 : c.t1 ≠ 0
  server : c.HasServer

/-- What holds after every operation. -/
structure Inv (c : Dhcp6Ccb) : Prop where
  ready : c.pdReady = true → c.Leased
  server : c.state = .requesting ∨ c.state = .bound ∨ c.state = .renewing → c.HasServer
  gate : c.dpBool = (c.ipv6Enabled && c.ipv6cpUp && c.pdReady)

variable {c : Dhcp6Ccb}

theorem start_inv (userNum : BitVec 16) (mac : Vector (BitVec 8) 6) : (start userNum mac).Inv := by
  refine ⟨?_, ?_, rfl⟩
  · intro h
    exact absurd h (by simp [start])
  · intro h
    exact absurd h (by simp [start])

/-- Without a prefix, the gate is shut; what is left to check is the server. -/
theorem inv_of_not_ready (hready : c.pdReady = false) (hgate : c.dpBool = false)
    (hserver : c.state = .requesting ∨ c.state = .bound ∨ c.state = .renewing → c.HasServer) :
    c.Inv := by
  refine ⟨?_, hserver, ?_⟩
  · intro h
    rw [hready] at h
    exact absurd h (by simp)
  · rw [hgate, hready, Bool.and_false]

/-- Only the gate's own inputs have changed, and the gate with them. -/
theorem Inv.gateUpdate {c' : Dhcp6Ccb} (h : c.Inv) (hready : c'.pdReady = c.pdReady)
    (hleased : c.Leased → c'.Leased) (hstate : c'.state = c.state)
    (hduid : c'.serverDuid = c.serverDuid) : c'.dpGateUpdate.Inv := by
  refine ⟨?_, ?_, rfl⟩
  · intro hr
    have hl := hleased (h.ready (hready ▸ hr))
    exact ⟨hl.state, hl.plen, hl.lan, hl.t1, hl.server⟩
  · intro hs
    have hserver := h.server (hstate ▸ hs)
    show 1 ≤ c'.serverDuid.length ∧ c'.serverDuid.length ≤ dhcp6ServerDuidMax
    rw [hduid]
    exact hserver

theorem Inv.setIpv6Enabled (h : c.Inv) (enable : Bool) : (c.setIpv6Enabled enable).Inv :=
  h.gateUpdate rfl (fun hl => ⟨hl.state, hl.plen, hl.lan, hl.t1, hl.server⟩) rfl rfl

theorem Inv.setIpv6cpUp (h : c.Inv) (up : Bool) : (c.setIpv6cpUp up).Inv :=
  h.gateUpdate rfl (fun hl => ⟨hl.state, hl.plen, hl.lan, hl.t1, hl.server⟩) rfl rfl

/-- Clearing the lease shuts the gate. -/
@[simp] theorem clearLease_dpBool (c : Dhcp6Ccb) : c.clearLease.dpBool = false := by
  show (c.ipv6Enabled && c.ipv6cpUp && false) = false
  rw [Bool.and_false]

theorem pdStop_inv (c : Dhcp6Ccb) : c.pdStop.Inv := by
  refine inv_of_not_ready rfl (clearLease_dpBool _) ?_
  intro h
  exact absurd h (by simp [pdStop])

theorem Inv.pdStart (h : c.Inv) (rand : BitVec 32) : (c.pdStart rand).Inv := by
  unfold Dhcp6Ccb.pdStart
  split
  · exact h
  · refine inv_of_not_ready rfl (clearLease_dpBool _) ?_
    intro hs
    exact absurd hs (by simp [arm, send])

/-- A response that there is no prefix. -/
theorem noPrefix_inv (c : Dhcp6Ccb) (rand : BitVec 32) : (c.noPrefix rand).Inv := by
  refine inv_of_not_ready rfl (clearLease_dpBool _) ?_
  intro hs
  exact absurd hs (by simp [noPrefix, arm, newXid])

/-- Nothing is ready while the client is neither bound nor renewing. -/
theorem Inv.not_ready (h : c.Inv) (hstate : ¬ (c.state = .bound ∨ c.state = .renewing)) :
    c.pdReady = false ∧ c.dpBool = false := by
  have hready : c.pdReady = false := by
    by_cases hr : c.pdReady = true
    · exact absurd (h.ready hr).state hstate
    · exact Bool.eq_false_iff.mpr hr
  refine ⟨hready, ?_⟩
  rw [h.gate, hready, Bool.and_false]

/-- An offer that is taken stores a lease that is not ready. -/
theorem Inv.advertised (h : c.Inv) (hstate : c.state = .soliciting) {r : Dhcp6Response}
    (hserver : 1 ≤ r.serverDuid.length ∧ r.serverDuid.length ≤ dhcp6ServerDuidMax) :
    (c.advertised r).Inv := by
  obtain ⟨hready, hgate⟩ := h.not_ready (by simp [hstate])
  refine inv_of_not_ready hready hgate ?_
  intro _
  exact hserver

theorem t1Of_ne_zero (r : Dhcp6Response) : t1Of r ≠ 0 := by
  unfold t1Of
  split
  · assumption
  · decide

theorem raStart_eq (c : Dhcp6Ccb) : ∃ ra, c.raStart = { c with raTimer := ra } := by
  unfold raStart
  split
  · exact ⟨true, rfl⟩
  · exact ⟨c.raTimer, rfl⟩

/-- A reply makes the lease ready. -/
theorem replied_inv (c : Dhcp6Ccb) {r : Dhcp6Response} (hserver : c.HasServer)
    (hplen : r.iaPd.prefixPlen = dhcp6PdPlen) : (c.replied r).Inv := by
  unfold replied
  simp only
  generalize hc : dpGateUpdate _ = c'
  obtain ⟨ra, hra⟩ := c'.raStart_eq
  rw [hra, ← hc]
  refine ⟨fun _ => ⟨.inl rfl, hplen, rfl, t1Of_ne_zero r, hserver⟩, fun _ => hserver, rfl⟩

theorem Inv.processMessage (h : c.Inv) (rand : BitVec 32) (dhcp : List (BitVec 8)) :
    (c.processMessage rand dhcp).2.Inv := by
  unfold Dhcp6Ccb.processMessage
  split
  · exact h
  · rename_i expectedType hexpected
    split
    · exact h
    · rename_i r hparse
      obtain ⟨hserver, hplen⟩ := of_dhcp6ParseResponse hparse
      split
      · exact h
      · split
        · exact noPrefix_inv c rand
        · rename_i hprefix
          split
          · rename_i hstate
            exact h.advertised hstate hserver
          · rename_i hduid _ hstate
            -- Only a client that waits for a reply is left, and it has a server.
            have hwaits : c.state = .requesting ∨ c.state = .renewing := by
              unfold Dhcp6Ccb.expectedType at hexpected
              cases hs : c.state with
              | idle => rw [hs] at hexpected; exact absurd hexpected (by simp)
              | soliciting => exact absurd hs hstate
              | requesting => exact .inl rfl
              | bound => rw [hs] at hexpected; exact absurd hexpected (by simp)
              | renewing => exact .inr rfl
            have hknown : c.HasServer := by
              rcases hwaits with hs | hs
              · exact h.server (.inl hs)
              · exact h.server (.inr (.inr hs))
            exact replied_inv c hknown (hplen (Bool.eq_false_iff.mpr hprefix))

/-- Fields that neither the lease nor the gate depends on. -/
theorem Inv.congr {c' : Dhcp6Ccb} (h : c.Inv) (hready : c'.pdReady = c.pdReady)
    (hgate : c'.dpBool = c.dpBool) (hen : c'.ipv6Enabled = c.ipv6Enabled)
    (hup : c'.ipv6cpUp = c.ipv6cpUp) (hduid : c'.serverDuid = c.serverDuid)
    (hlease : c'.pdPlen = c.pdPlen ∧ c'.lanPrefix = c.lanPrefix ∧ c'.pdPrefix = c.pdPrefix ∧
      c'.t1 = c.t1)
    (hstate : c'.state = c.state ∨ c.state = .bound ∧ c'.state = .renewing) : c'.Inv := by
  obtain ⟨hplen, hlan, hpre, ht1⟩ := hlease
  refine ⟨?_, ?_, ?_⟩
  · intro hr
    have hl := h.ready (hready ▸ hr)
    refine ⟨?_, by rw [hplen]; exact hl.plen, by rw [hlan, hpre, hplen]; exact hl.lan,
      by rw [ht1]; exact hl.t1, ?_⟩
    · rcases hstate with hs | ⟨-, hs⟩
      · rw [hs]
        exact hl.state
      · exact .inr hs
    · unfold HasServer
      rw [hduid]
      exact hl.server
  · intro hs
    unfold HasServer
    rw [hduid]
    rcases hstate with hsame | ⟨hbound, -⟩
    · exact h.server (hsame ▸ hs)
    · exact h.server (.inr (.inl hbound))
  · rw [hgate, hen, hup, hready]
    exact h.gate

theorem Inv.timerCb (h : c.Inv) (rand : BitVec 32) : (c.timerCb rand).Inv := by
  unfold Dhcp6Ccb.timerCb
  split
  · exact pdStop_inv c
  · split
    · rename_i hs
      exact h.congr rfl rfl rfl rfl rfl ⟨rfl, rfl, rfl, rfl⟩ (.inr ⟨hs, rfl⟩)
    · exact h.congr rfl rfl rfl rfl rfl ⟨rfl, rfl, rfl, rfl⟩ (.inl rfl)
    · split
      · refine inv_of_not_ready rfl (clearLease_dpBool _) ?_
        intro hs
        exact absurd hs (by simp [arm, send])
      · exact h.congr rfl rfl rfl rfl rfl ⟨rfl, rfl, rfl, rfl⟩ (.inl rfl)
    · exact h.congr rfl rfl rfl rfl rfl ⟨rfl, rfl, rfl, rfl⟩ (.inl rfl)
    · exact h

/-- Every operation keeps it. -/
theorem Inv.step (h : c.Inv) (op : Dhcp6Op) : (c.step op).Inv := by
  cases op with
  | pdStart rand => exact h.pdStart rand
  | pdStop => exact pdStop_inv c
  | timer rand => exact h.timerCb rand
  | message rand dhcp => exact h.processMessage rand dhcp
  | ipv6Enabled enable => exact h.setIpv6Enabled enable
  | ipv6cpUp up => exact h.setIpv6cpUp up
  | layerUp rand => exact (h.setIpv6cpUp true).pdStart rand
  | layerDown => exact (pdStop_inv c).setIpv6cpUp false

end Dhcp6Ccb

/--
**A prefix that is ready is a lease.**  In every state the client reaches, in whatever order it
is started and stopped, its timer expires, messages of any bytes arrive, and IPv6 and IPV6CP are
switched: a ready prefix is held by a client that is bound or renewing, has length 56, is what
the LAN prefix is derived from, and comes with a T1 and a server; a client that is requesting,
bound or renewing has a server; and the gate is the conjunction of its three inputs.
-/
theorem run_dhcp6_lease (userNum : BitVec 16) (mac : Vector (BitVec 8) 6) {ls : List Dhcp6Op}
    {c : Dhcp6Ccb} (h : Run Dhcp6Ccb.step (fun _ _ => True) (Dhcp6Ccb.start userNum mac) ls c) :
    (c.pdReady = true →
      (c.state = .bound ∨ c.state = .renewing) ∧ c.pdPlen = 56 ∧
      c.lanPrefix = dhcp6DeriveLanPrefix c.pdPrefix c.pdPlen ∧ c.t1 ≠ 0 ∧
      1 ≤ c.serverDuid.length ∧ c.serverDuid.length ≤ 130) ∧
    (c.state = .requesting ∨ c.state = .bound ∨ c.state = .renewing →
      1 ≤ c.serverDuid.length ∧ c.serverDuid.length ≤ 130) ∧
    c.dpBool = (c.ipv6Enabled && c.ipv6cpUp && c.pdReady) := by
  have hinv : c.Inv := h.inv Dhcp6Ccb.Inv (fun c op hc _ => hc.step op)
    (Dhcp6Ccb.start_inv userNum mac)
  refine ⟨?_, hinv.server, hinv.gate⟩
  intro hready
  have hl := hinv.ready hready
  exact ⟨hl.state, hl.plen, hl.lan, hl.t1, hl.server⟩

/-- A message of a type, with the client's and a server's identifier and a prefix of a length. -/
def dhcp6Offer (msgType plen : BitVec 8) : List (BitVec 8) :=
  [msgType, 1, 2, 3, 0, 1, 0, 10, 0, 3, 0, 1, 2, 0, 0, 0, 0, 1, 0, 2, 0, 1, 9,
    0, 25, 0, 41, 0, 0, 0, 1, 0, 0, 0, 0, 0, 0, 0, 0,
    0, 26, 0, 25, 0, 0, 0, 0, 0, 0, 0, 0, plen, 0x20, 1, 0xd, 0xb8, 0, 0, 5, 0, 0, 0, 0, 0, 0, 0, 0, 0]

/-- IPv6 is enabled, IPV6CP comes up, a server offers a prefix and grants it. -/
def dhcp6Grant : List Dhcp6Op :=
  [.ipv6Enabled true, .layerUp 0x10203, .message 0 (dhcp6Offer 2 56), .message 0 (dhcp6Offer 7 56)]

set_option maxRecDepth 8000 in
/-- The prefix is then ready, and the gate open. -/
theorem run_dhcp6_lease_granted :
    (dhcp6Grant.foldl Dhcp6Ccb.step (.start 1 #v[2, 0, 0, 0, 0, 1])).pdReady = true ∧
      (dhcp6Grant.foldl Dhcp6Ccb.step (.start 1 #v[2, 0, 0, 0, 0, 1])).pdPlen = 56 ∧
      (dhcp6Grant.foldl Dhcp6Ccb.step (.start 1 #v[2, 0, 0, 0, 0, 1])).dpBool = true := by
  have hready : (dhcp6Grant.foldl Dhcp6Ccb.step (.start 1 #v[2, 0, 0, 0, 0, 1])).pdReady = true := by
    decide
  have hlease := run_dhcp6_lease 1 #v[2, 0, 0, 0, 0, 1]
    (Run.of_labels _ dhcp6Grant fun _ _ _ => trivial)
  refine ⟨hready, (hlease.1 hready).2.1, ?_⟩
  rw [hlease.2.2, hready]
  decide

/-! ### The PPP daemon's view -/

/-- The client as the PPP daemon's model has it. -/
def PppCcb.withDhcp6 (s : PppCcb) (c : Dhcp6Ccb) : PppCcb :=
  { s with
    ipv6Enabled := c.ipv6Enabled
    ipv6cpUp := c.ipv6cpUp
    dhcp6PdReady := c.pdReady
    dhcp6Timer := c.timer.isSome
    raTimer := c.raTimer
    ipv6DpBool := c.dpBool }

/-- What an exchange came to, in that view. -/
def Dhcp6Ccb.came (c : Dhcp6Ccb) : Dhcp6 := ⟨c.pdReady, c.timer.isSome, c.raTimer⟩

theorem withDhcp6_pdStop (s : PppCcb) (c : Dhcp6Ccb) :
    s.withDhcp6 c.pdStop = (s.withDhcp6 c).dhcp6PdStop := by
  have hgate : c.pdStop.dpBool = false := Dhcp6Ccb.clearLease_dpBool _
  unfold PppCcb.withDhcp6 PppCcb.dhcp6PdStop
  rw [hgate]
  rfl

theorem withDhcp6_pdStart (s : PppCcb) (c : Dhcp6Ccb) (rand : BitVec 32) :
    s.withDhcp6 (c.pdStart rand) = (s.withDhcp6 c).dhcp6PdStart := by
  unfold Dhcp6Ccb.pdStart PppCcb.dhcp6PdStart
  by_cases h : c.ipv6Enabled = false ∨ c.ipv6cpUp = false
  · have hoff : (c.ipv6Enabled && c.ipv6cpUp) = false := by
      rcases h with h | h <;> simp [h]
    rw [if_pos h]
    show _ = if (c.ipv6Enabled && c.ipv6cpUp) = true then _ else _
    rw [hoff]
    rfl
  · have hon : (c.ipv6Enabled && c.ipv6cpUp) = true := by simpa using h
    rw [if_neg h]
    show _ = if (c.ipv6Enabled && c.ipv6cpUp) = true then _ else _
    rw [if_pos hon, ← withDhcp6_pdStop]
    rfl

/-- What the daemon switches, and the client does not. -/
def Dhcp6Ccb.switches (c : Dhcp6Ccb) : Bool × Bool := (c.ipv6Enabled, c.ipv6cpUp)

/-- An exchange that leaves the two switches alone is one the model allows. -/
theorem withDhcp6_came (s : PppCcb) {c c' : Dhcp6Ccb} (h : c'.Inv)
    (hkept : c'.switches = c.switches) :
    s.withDhcp6 c' = (s.withDhcp6 c).dhcp6Came c'.came := by
  obtain ⟨hen, hup⟩ := Prod.mk.inj hkept
  unfold PppCcb.withDhcp6 PppCcb.dhcp6Came PppCcb.ipv6DpGateUpdate Dhcp6Ccb.came
  rw [h.gate, hen, hup]

theorem replied_switches (c : Dhcp6Ccb) (r : Dhcp6Response) :
    (c.replied r).switches = c.switches := by
  unfold Dhcp6Ccb.replied
  simp only
  generalize hc : Dhcp6Ccb.dpGateUpdate _ = c'
  obtain ⟨ra, hra⟩ := c'.raStart_eq
  rw [hra, ← hc]
  rfl

/-- A message switches nothing. -/
theorem processMessage_switches (c : Dhcp6Ccb) (rand : BitVec 32) (dhcp : List (BitVec 8)) :
    (c.processMessage rand dhcp).2.switches = c.switches := by
  unfold Dhcp6Ccb.processMessage
  split
  · rfl
  split
  · rfl
  split
  · rfl
  split
  · rfl
  split
  · rfl
  · exact replied_switches c _

/-- Nor does the timer. -/
theorem timerCb_switches (c : Dhcp6Ccb) (rand : BitVec 32) :
    (c.timerCb rand).switches = c.switches := by
  unfold Dhcp6Ccb.timerCb
  split
  · rfl
  split
  · rfl
  · rfl
  · split
    · rfl
    · rfl
  · rfl
  · rfl

/-- **The PPP daemon's model allows what the client does**: with a message, while IPv6 is on. -/
theorem withDhcp6_message (s : PppCcb) {c : Dhcp6Ccb} (h : c.Inv) (rand : BitVec 32)
    (dhcp : List (BitVec 8)) (hon : (c.ipv6Enabled && c.ipv6cpUp) = true) :
    s.withDhcp6 (c.processMessage rand dhcp).2 =
      dhcp6WanInput (c.processMessage rand dhcp).2.came (s.withDhcp6 c) := by
  unfold dhcp6WanInput
  rw [if_pos (by exact hon)]
  exact withDhcp6_came s (h.processMessage rand dhcp) (processMessage_switches c rand dhcp)

/-- And when its timer expires. -/
theorem withDhcp6_timer (s : PppCcb) {c : Dhcp6Ccb} (h : c.Inv) (rand : BitVec 32) :
    s.withDhcp6 (c.timerCb rand) = dhcp6TimerCb (c.timerCb rand).came (s.withDhcp6 c) := by
  unfold dhcp6TimerCb
  by_cases hon : (c.ipv6Enabled && c.ipv6cpUp) = true
  · rw [if_pos (by exact hon)]
    exact withDhcp6_came s (h.timerCb rand) (timerCb_switches c rand)
  · have hoff : c.ipv6Enabled = false ∨ c.ipv6cpUp = false :=
      Bool.and_eq_false_iff.mp (Bool.eq_false_iff.mpr hon)
    rw [if_neg (by exact hon), ← withDhcp6_pdStop]
    unfold Dhcp6Ccb.timerCb
    rw [if_pos hoff]

end FastRG
