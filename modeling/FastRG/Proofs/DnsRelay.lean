/-
Which query a response is relayed for.

A query is forwarded under the next of 65535 identifiers, which come round again, and nothing
looks whether one is still in use.  As long as no query that waits has seen 65534 others
forwarded after it, none of them got its identifier, and then a response goes to whoever asked
last under its identifier, and to nobody twice.

The log of what was sent carries the argument.  An active slot is the one a query was forwarded
into, and nothing was sent about the slot since; how many queries were forwarded since says how
far the next identifier has moved on from the slot's own.
-/
import FastRG.Lib.Run
import FastRG.Proofs.DnsCached
import Mathlib.Logic.Function.Iterate

namespace FastRG

/-! ### Identifiers -/

theorem nextId_ne_zero (id : BitVec 16) : nextId id ≠ 0 := by
  unfold nextId
  split
  · decide
  · assumption

theorem toNat_nextId {id : BitVec 16} (h : id ≠ 0) :
    (nextId id).toNat = (id.toNat - 1 + 1) % 65535 + 1 := by
  unfold nextId
  split <;> bv_omega

/-- The identifiers after this one, in turn. -/
theorem toNat_nextId_iterate {id : BitVec 16} (h : id ≠ 0) (n : Nat) :
    nextId^[n] id ≠ 0 ∧ (nextId^[n] id).toNat = (id.toNat - 1 + n) % 65535 + 1 := by
  induction n with
  | zero =>
      refine ⟨h, ?_⟩
      have hpos : id.toNat ≠ 0 := by
        intro h0
        exact h (BitVec.eq_of_toNat_eq h0)
      have hlt := id.isLt
      show id.toNat = _
      omega
  | succ n ih =>
      rw [Function.iterate_succ_apply']
      refine ⟨nextId_ne_zero _, ?_⟩
      rw [toNat_nextId ih.1, ih.2]
      omega

/-- An identifier does not come round before 65535 of them have been used. -/
theorem nextId_iterate_ne (id : BitVec 16) {n : Nat} (hpos : 0 < n) (hlt : n < 65535) :
    nextId^[n] id ≠ id := by
  intro heq
  by_cases h0 : id = 0
  · obtain ⟨m, rfl⟩ : ∃ m, n = m + 1 := ⟨n - 1, by omega⟩
    rw [Function.iterate_succ_apply', h0] at heq
    exact nextId_ne_zero _ heq
  · have hnat := (toNat_nextId_iterate h0 n).2
    rw [heq] at hnat
    have hid := id.isLt
    have hne : id.toNat ≠ 0 := fun hzero => h0 (BitVec.eq_of_toNat_eq hzero)
    omega

/-! ### The log -/

/-- The slot an event is about. -/
def DnsEvent.slot : DnsEvent → Option (Fin dnsMaxPendingQueries)
  | .forward i _ _ _ _ => some i
  | .relay i _ _ _ => some i
  | _ => none

/-- The identifier a query was forwarded under. -/
def DnsEvent.forwardedId : DnsEvent → Option (BitVec 16)
  | .forward _ id _ _ _ => some id
  | _ => none

/-- A query was forwarded. -/
def DnsEvent.isForward (e : DnsEvent) : Bool := e.forwardedId.isSome

/-- A query was forwarded into this slot. -/
def DnsEvent.fills (i : Fin dnsMaxPendingQueries) (e : DnsEvent) : Bool :=
  e.isForward && e.slot == some i

/-- How many queries were forwarded since the last one into a slot, with that one. -/
def forwardsSince (i : Fin dnsMaxPendingQueries) (log : List DnsEvent) : Nat :=
  (log.takeWhile fun e => !e.fills i).countP DnsEvent.isForward + 1

/-- When a query comes, no query that waits has seen all identifiers used since its own. -/
def DnsSystem.idsLeft (hz : Nat) (s : DnsSystem) (l : Nat × DnsCall) : Prop :=
  match l.2 with
  | .lan _ _ =>
      ∀ i, (s.proxy.pending i).waits hz (s.now + l.1) = true → forwardsSince i s.log < 65535
  | _ => True

/-- The log has a query forwarded into a slot, and what was sent after it. -/
structure SentAs (log : List DnsEvent) (i : Fin dnsMaxPendingQueries) (id : BitVec 16)
    (client : DnsClient) (after : List DnsEvent) : Prop where
  sent : ∃ server query before, log = after ++ .forward i id client server query :: before
  alone : ∀ e ∈ after, e.slot ≠ some i

theorem SentAs.cons {log after : List DnsEvent} {i : Fin dnsMaxPendingQueries} {id : BitVec 16}
    {client : DnsClient} {e : DnsEvent} (h : SentAs log i id client after)
    (he : e.slot ≠ some i) : SentAs (e :: log) i id client (e :: after) := by
  refine ⟨?_, ?_⟩
  · obtain ⟨server, query, before, hlog⟩ := h.sent
    exact ⟨server, query, before, by rw [hlog, List.cons_append]⟩
  · intro e' he'
    rcases List.mem_cons.mp he' with heq | hin
    · rw [heq]
      exact he
    · exact h.alone e' hin

theorem SentAs.forwardsSince_eq {log after : List DnsEvent} {i : Fin dnsMaxPendingQueries}
    {id : BitVec 16} {client : DnsClient} (h : SentAs log i id client after) :
    forwardsSince i log = after.countP DnsEvent.isForward + 1 := by
  obtain ⟨server, query, before, hlog⟩ := h.sent
  have hafter : ∀ e ∈ after, (!e.fills i) = true := by
    intro e he
    have hslot := h.alone e he
    simp [DnsEvent.fills, hslot]
  have hfills : (DnsEvent.forward i id client server query).fills i = true := by
    simp [DnsEvent.fills, DnsEvent.isForward, DnsEvent.forwardedId, DnsEvent.slot]
  unfold forwardsSince
  rw [hlog, List.takeWhile_append_of_pos hafter, List.takeWhile_cons_of_neg (by simp [hfills]),
    List.append_nil]

/-- Of two slots, one was filled after the other. -/
theorem SentAs.later {log after after' : List DnsEvent} {i j : Fin dnsMaxPendingQueries}
    {id id' : BitVec 16} {client client' : DnsClient} (h : SentAs log i id client after)
    (h' : SentAs log j id' client' after') (hij : i ≠ j) :
    (∃ e ∈ after, e.forwardedId = some id') ∨ ∃ e ∈ after', e.forwardedId = some id := by
  obtain ⟨server, query, before, hlog⟩ := h.sent
  obtain ⟨server', query', before', hlog'⟩ := h'.sent
  rw [hlog] at hlog'
  rcases List.append_eq_append_iff.mp hlog' with ⟨mid, hafter', htail⟩ | ⟨mid, hafter, htail⟩
  · cases mid with
    | nil =>
        have hhead := (List.cons.inj htail).1
        exact absurd (DnsEvent.forward.inj hhead).1 hij
    | cons e rest =>
        have hhead := (List.cons.inj htail).1
        refine .inr ⟨e, hafter' ▸ List.mem_append_right _ List.mem_cons_self, ?_⟩
        rw [← hhead]
        rfl
  · cases mid with
    | nil =>
        have hhead := (List.cons.inj htail).1
        exact absurd (DnsEvent.forward.inj hhead).1.symm hij
    | cons e rest =>
        have hhead := (List.cons.inj htail).1
        refine .inl ⟨e, hafter ▸ List.mem_append_right _ List.mem_cons_self, ?_⟩
        rw [← hhead]
        rfl

/-! ### Slots -/

theorem waits_active {hz now : Nat} {p : DnsPending} (h : p.waits hz now = true) :
    p.active = true := (Bool.and_eq_true_iff.mp h).1

/-- A query that waits has waited all the time. -/
theorem waits_mono {hz now now' : Nat} {p : DnsPending} (hle : now ≤ now')
    (h : p.waits hz now' = true) : p.waits hz now = true := by
  simp only [DnsPending.waits, DnsPending.timedOut, Bool.and_eq_true, Bool.not_eq_true',
    decide_eq_false_iff_not] at h ⊢
  refine ⟨h.1, ?_⟩
  have hlate := h.2
  omega

/-- A slot remembers the query that was forwarded into it last, and while that waits its
identifier is its own. -/
structure Remembers (hz : Nat) (s : DnsSystem) (i : Fin dnsMaxPendingQueries)
    (after : List DnsEvent) : Prop where
  sentAs : SentAs s.log i (s.proxy.pending i).upstreamId (s.proxy.pending i).client after
  next : s.proxy.nextUpstreamId =
    nextId^[after.countP DnsEvent.isForward + 1] (s.proxy.pending i).upstreamId
  own : (s.proxy.pending i).waits hz s.now = true →
    ∀ e ∈ after, e.forwardedId ≠ some (s.proxy.pending i).upstreamId

/-- Every active slot does. -/
def SlotsRemember (hz : Nat) (s : DnsSystem) : Prop :=
  ∀ i, (s.proxy.pending i).active = true → ∃ after, Remembers hz s i after

/-- A call that forwards nothing, and leaves the slots that stay active as they are. -/
theorem SlotsRemember.keep {hz : Nat} {s s' : DnsSystem} {event : Option DnsEvent}
    (h : SlotsRemember hz s) (hnow : s.now ≤ s'.now) (hlog : s'.log = event.toList ++ s.log)
    (hnext : s'.proxy.nextUpstreamId = s.proxy.nextUpstreamId)
    (hpend : ∀ i, (s'.proxy.pending i).active = true → s'.proxy.pending i = s.proxy.pending i)
    (hevent : ∀ e ∈ event, e.forwardedId = none ∧
      ∀ i, (s'.proxy.pending i).active = true → e.slot ≠ some i) : SlotsRemember hz s' := by
  intro i hactive
  have hsame := hpend i hactive
  obtain ⟨after, hrem⟩ := h i (hsame ▸ hactive)
  cases event with
  | none =>
      refine ⟨after, ?_, ?_, ?_⟩
      · rw [hlog, hsame]
        exact hrem.sentAs
      · rw [hnext, hsame]
        exact hrem.next
      · intro hwait
        rw [hsame] at hwait ⊢
        exact hrem.own (waits_mono hnow hwait)
  | some e =>
      obtain ⟨hid, hslot⟩ := hevent e rfl
      refine ⟨e :: after, ?_, ?_, ?_⟩
      · rw [hlog, hsame]
        exact hrem.sentAs.cons (hslot i hactive)
      · have hcount : (e :: after).countP DnsEvent.isForward =
            after.countP DnsEvent.isForward := by
          rw [List.countP_cons_of_neg]
          simp [DnsEvent.isForward, hid]
        rw [hnext, hsame, hcount]
        exact hrem.next
      · intro hwait e' he'
        rw [hsame] at hwait ⊢
        rcases List.mem_cons.mp he' with heq | hin
        · rw [heq, hid]
          simp
        · exact hrem.own (waits_mono hnow hwait) e' hin

/-- A query forwarded into a free slot, while no query that waits has seen all identifiers. -/
theorem SlotsRemember.forward {hz : Nat} {s s' : DnsSystem} {i : Fin dnsMaxPendingQueries}
    {client : DnsClient} {server : BitVec 32} {query : DnsQuery}
    (h : SlotsRemember hz s) (hnow : s.now ≤ s'.now)
    (hlog : s'.log = .forward i s.proxy.nextUpstreamId client server query :: s.log)
    (hnext : s'.proxy.nextUpstreamId = nextId s.proxy.nextUpstreamId)
    (hpend : s'.proxy.pending = Function.update s.proxy.pending i
      (dnsPendingFor s'.now s.proxy.nextUpstreamId client query))
    (hleft : ∀ j, (s.proxy.pending j).waits hz s'.now = true → forwardsSince j s.log < 65535) :
    SlotsRemember hz s' := by
  intro j hactive
  by_cases hji : j = i
  · subst hji
    have hnew : s'.proxy.pending j =
        dnsPendingFor s'.now s.proxy.nextUpstreamId client query := by
      rw [hpend, Function.update_self]
    refine ⟨[], ⟨⟨server, query, s.log, ?_⟩, ?_⟩, ?_, ?_⟩
    · rw [hlog, hnew]
      rfl
    · intro e he
      exact absurd he List.not_mem_nil
    · rw [hnext, hnew]
      rfl
    · intro _ e he
      exact absurd he List.not_mem_nil
  · have hsame : s'.proxy.pending j = s.proxy.pending j := by
      rw [hpend, Function.update_of_ne hji]
    obtain ⟨after, hrem⟩ := h j (hsame ▸ hactive)
    refine ⟨.forward i s.proxy.nextUpstreamId client server query :: after, ?_, ?_, ?_⟩
    · rw [hlog, hsame]
      exact hrem.sentAs.cons fun heq => hji (Option.some.inj heq).symm
    · rw [hnext, hsame, List.countP_cons_of_pos (by rfl), Function.iterate_succ_apply', ← hrem.next]
    · intro hwait e he
      rw [hsame] at hwait ⊢
      rcases List.mem_cons.mp he with heq | hin
      · -- The new identifier is so many after the slot's own.
        have hcount := hleft j hwait
        rw [hrem.sentAs.forwardsSince_eq] at hcount
        rw [heq]
        intro hid
        have hround : s.proxy.nextUpstreamId = (s.proxy.pending j).upstreamId := Option.some.inj hid
        rw [hrem.next] at hround
        exact nextId_iterate_ne _ (Nat.succ_pos _) hcount hround
      · exact hrem.own (waits_mono hnow hwait) e hin

/-! ### Responses -/

/-- Every response relayed went to whoever had asked last under its identifier, and nothing was
relayed from that slot in between. -/
def RelaysRight (log : List DnsEvent) : Prop :=
  ∀ later i id client payload earlier, log = later ++ .relay i id client payload :: earlier →
    ∃ after, SentAs earlier i id client after ∧ ∀ e ∈ after, e.forwardedId ≠ some id

theorem RelaysRight.cons {log : List DnsEvent} {e : DnsEvent} (h : RelaysRight log)
    (he : ∀ i id client payload, e = .relay i id client payload →
      ∃ after, SentAs log i id client after ∧ ∀ e' ∈ after, e'.forwardedId ≠ some id) :
    RelaysRight (e :: log) := by
  intro later i id client payload earlier hlog
  cases later with
  | nil =>
      obtain ⟨hhead, htail⟩ := List.cons.inj hlog
      rw [← htail]
      exact he i id client payload hhead
  | cons e' rest => exact h rest i id client payload earlier (List.cons.inj hlog).2

/-- Between two responses relayed from a slot a query was forwarded into it. -/
theorem RelaysRight.between {log later mid earlier : List DnsEvent} {i : Fin dnsMaxPendingQueries}
    {id id' : BitVec 16} {client client' : DnsClient} {payload payload' : List (BitVec 8)}
    (h : RelaysRight log)
    (hlog : log = later ++ .relay i id client payload ::
      (mid ++ .relay i id' client' payload' :: earlier)) :
    ∃ e ∈ mid, e.fills i = true := by
  obtain ⟨after, hsent, -⟩ := h later i id client payload _ hlog
  obtain ⟨server, query, before, heq⟩ := hsent.sent
  rcases List.append_eq_append_iff.mp heq with ⟨cut, hafter, htail⟩ | ⟨cut, hmid, htail⟩
  · -- The query would be older than the second response, which is about the same slot.
    cases cut with
    | nil => exact absurd (List.cons.inj htail).1 (by simp)
    | cons e rest =>
        have hslot := hsent.alone e (hafter ▸ List.mem_append_right _ List.mem_cons_self)
        rw [← (List.cons.inj htail).1] at hslot
        exact absurd rfl hslot
  · cases cut with
    | nil => exact absurd (List.cons.inj htail).1 (by simp)
    | cons e rest =>
        refine ⟨e, hmid ▸ List.mem_append_right _ List.mem_cons_self, ?_⟩
        rw [← (List.cons.inj htail).1]
        simp [DnsEvent.fills, DnsEvent.isForward, DnsEvent.forwardedId, DnsEvent.slot]

/-! ### Runs -/

/-- The slots remember, and what was relayed was relayed right. -/
structure RelayInv (hz : Nat) (s : DnsSystem) : Prop where
  slots : SlotsRemember hz s
  relays : RelaysRight s.log

/-- Of the slots that are active after one was given back, none has changed. -/
theorem deactivate_active {pending : DnsPendingTable} {i j : Fin dnsMaxPendingQueries}
    (h : (deactivate pending i j).active = true) :
    j ≠ i ∧ deactivate pending i j = pending j := by
  have hji : j ≠ i := by
    intro heq
    rw [heq, deactivate, Function.update_self] at h
    exact absurd h (by simp)
  exact ⟨hji, Function.update_of_ne hji _ _⟩

theorem relayInv_step {hz : Nat} (s : DnsSystem) (l : Nat × DnsCall) (h : RelayInv hz s)
    (hguard : s.idsLeft hz l) : RelayInv hz (s.step hz l) := by
  obtain ⟨dt, call⟩ := l
  have hmove := dnsdCall_move hz (s.now + dt) s.proxy call
  have hnow : s.now ≤ (s.step hz (dt, call)).now := Nat.le_add_right s.now dt
  have hlog : (s.step hz (dt, call)).log =
      (dnsdCall hz (s.now + dt) s.proxy call).1.toList ++ s.log := rfl
  have hproxy : (s.step hz (dt, call)).proxy = (dnsdCall hz (s.now + dt) s.proxy call).2 := rfl
  have htime : (s.step hz (dt, call)).now = s.now + dt := rfl
  generalize s.step hz (dt, call) = s' at hnow hlog hproxy htime ⊢
  generalize (dnsdCall hz (s.now + dt) s.proxy call).1 = event at hmove hlog
  generalize (dnsdCall hz (s.now + dt) s.proxy call).2 = proxy at hmove hproxy
  cases hmove with
  | quiet hpend hnext hcache hevent =>
      rw [← hproxy] at hpend hnext
      refine ⟨h.slots.keep hnow hlog hnext (fun i _ => by rw [hpend]) ?_, ?_⟩
      · intro e he
        obtain ⟨client, payload, rfl⟩ := hevent e he
        exact ⟨rfl, fun i _ hslot => absurd hslot (by simp [DnsEvent.slot])⟩
      · rw [hlog]
        cases event with
        | none => exact h.relays
        | some e =>
            apply h.relays.cons
            intro i id client payload hrelay
            obtain ⟨client', payload', hanswer⟩ := hevent e rfl
            rw [hanswer] at hrelay
            exact absurd hrelay (by simp)
  | clear hpend hcache =>
      refine ⟨?_, ?_⟩
      · intro i hactive
        rw [hproxy, hpend] at hactive
        exact absurd hactive (by simp [DnsPending.zero])
      · rw [hlog]
        exact h.relays
  | hit hdata hquery hmem hfor hcache =>
      have hpend : s'.proxy.pending = s.proxy.pending := by rw [hproxy]
      have hnext : s'.proxy.nextUpstreamId = s.proxy.nextUpstreamId := by rw [hproxy]
      refine ⟨h.slots.keep hnow hlog hnext (fun i _ => by rw [hpend]) ?_, ?_⟩
      · intro e he
        rw [← Option.some.inj he]
        exact ⟨rfl, fun i _ hslot => absurd hslot (by simp [DnsEvent.slot])⟩
      · rw [hlog]
        apply h.relays.cons
        intro i id client payload hrelay
        exact absurd hrelay (by simp)
  | forward hfree hpend hnext hcache =>
      rw [← hproxy] at hpend hnext
      refine ⟨h.slots.forward hnow hlog hnext ?_ ?_, ?_⟩
      · rw [hpend, htime]
      · intro j hwait
        rw [htime] at hwait
        exact hguard j hwait
      · rw [hlog]
        apply h.relays.cons
        intro i id client payload hrelay
        exact absurd hrelay (by simp)
  | @stale pkt i =>
      have hpend : s'.proxy.pending = deactivate s.proxy.pending i := by rw [hproxy]
      have hnext : s'.proxy.nextUpstreamId = s.proxy.nextUpstreamId := by rw [hproxy]
      refine ⟨h.slots.keep hnow hlog hnext ?_ ?_, ?_⟩
      · intro j hactive
        rw [hpend] at hactive ⊢
        exact (deactivate_active hactive).2
      · intro e he
        exact absurd he (by simp)
      · rw [hlog]
        exact h.relays
  | @relay pkt data i hdata hfound =>
      have hpend : s'.proxy.pending = deactivate s.proxy.pending i := by rw [hproxy]
      have hnext : s'.proxy.nextUpstreamId = s.proxy.nextUpstreamId := by rw [hproxy]
      obtain ⟨-, hwait, -⟩ := waits_of_findPending hfound
      refine ⟨h.slots.keep hnow hlog hnext ?_ ?_, ?_⟩
      · intro j hactive
        rw [hpend] at hactive ⊢
        exact (deactivate_active hactive).2
      · intro e he
        rw [← Option.some.inj he]
        refine ⟨rfl, fun j hactive hslot => ?_⟩
        rw [hpend] at hactive
        exact (deactivate_active hactive).1 (Option.some.inj hslot).symm
      · rw [hlog]
        apply h.relays.cons
        intro j id client payload hrelay
        obtain ⟨rfl, rfl, rfl, -⟩ := DnsEvent.relay.inj hrelay
        obtain ⟨after, hrem⟩ := h.slots i (waits_active hwait)
        exact ⟨after, hrem.sentAs, hrem.own (waits_mono (Nat.le_add_right _ _) hwait)⟩

theorem relayInv_start (hz : Nat) : RelayInv hz DnsSystem.start := by
  refine ⟨?_, ?_⟩
  · intro i hactive
    exact absurd hactive (by simp [DnsSystem.start, DnsPending.zero])
  · intro later i id client payload earlier hlog
    exact absurd hlog.symm (by simp [DnsSystem.start])

/-- The queries that wait have identifiers of their own. -/
theorem SlotsRemember.ids_ne {hz : Nat} {s : DnsSystem} (h : SlotsRemember hz s)
    {i j : Fin dnsMaxPendingQueries} (hij : i ≠ j)
    (hi : (s.proxy.pending i).waits hz s.now = true)
    (hj : (s.proxy.pending j).waits hz s.now = true) :
    (s.proxy.pending i).upstreamId ≠ (s.proxy.pending j).upstreamId := by
  intro heq
  obtain ⟨after, hrem⟩ := h i (waits_active hi)
  obtain ⟨after', hrem'⟩ := h j (waits_active hj)
  rcases hrem.sentAs.later hrem'.sentAs hij with ⟨e, he, hid⟩ | ⟨e, he, hid⟩
  · exact hrem.own hi e he (hid.trans (by rw [heq]))
  · exact hrem'.own hj e he (hid.trans (by rw [heq]))

/-- A log has no more queries than events. -/
theorem forwardsSince_le (i : Fin dnsMaxPendingQueries) (log : List DnsEvent) :
    forwardsSince i log ≤ log.length + 1 := by
  have hcount := List.countP_le_length (p := DnsEvent.isForward) (l := log.takeWhile fun e => !e.fills i)
  have hprefix := (List.takeWhile_prefix (l := log) fun e => !e.fills i).length_le
  unfold forwardsSince
  omega

/-- A response that the name does not exist. -/
def dnsRefusal (id : BitVec 16) : List (BitVec 8) :=
  be16Bytes id ++ [0x81, 0x83, 0, 0, 0, 0, 0, 0, 0, 0]

/-- A query comes, and is answered under the identifier it is forwarded with. -/
def dnsRound (id : BitVec 16) : List (Nat × DnsCall) :=
  [(0, .lan true (dnsFrame (dnsAsk 0x61))), (0, .wan (dnsFrame (dnsRefusal id)))]

/-- So many rounds, from an identifier on. -/
def dnsRounds : Nat → BitVec 16 → List (Nat × DnsCall)
  | 0, _ => []
  | n + 1, id => dnsRound id ++ dnsRounds n (nextId id)

/-- One query waits, under the first identifier, and the others are answered. -/
structure OneWaits (s : DnsSystem) (id : BitVec 16) : Prop where
  now : s.now = 0
  first : s.proxy.pending ⟨0, by decide⟩ = ⟨true, ⟨7, 0, 0, 0, 0⟩, 1, 1, [0x61], 0⟩
  others : ∀ i : Fin dnsMaxPendingQueries, i ≠ ⟨0, by decide⟩ →
    (s.proxy.pending i).active = false
  cache : s.proxy.cache = .empty
  staticTable : s.proxy.staticTable = DnsStatic.init
  activeDns : s.proxy.activeDns = 8
  secondaryDns : s.proxy.secondaryDns = 0
  enabled : s.proxy.dnsProxyEnabled = true
  next : s.proxy.nextUpstreamId = id

/-- The query of a round. -/
def dnsAskQuery : DnsQuery := ⟨⟨7, 0x100, 1, 0⟩, ⟨[[0x61]], 1, 1⟩⟩

/-- Slots of the pending table, in the order they are searched. -/
theorem finRange_pending : ∃ rest : List (Fin dnsMaxPendingQueries),
    List.finRange dnsMaxPendingQueries = ⟨0, by decide⟩ :: ⟨1, by decide⟩ :: rest :=
  ⟨(List.finRange dnsMaxPendingQueries).drop 2, by decide⟩

set_option maxRecDepth 8000 in
/-- The query takes the second slot. -/
theorem OneWaits.ask {s : DnsSystem} {id : BitVec 16} (h : OneWaits s id) :
    (s.step 1 (0, .lan true (dnsFrame (dnsAsk 0x61)))).proxy =
      { s.proxy with
        pending := Function.update s.proxy.pending ⟨1, by decide⟩
          (dnsPendingFor 0 id ⟨7, 0, 0, 0, 0⟩ dnsAskQuery)
        nextUpstreamId := nextId id } := by
  have hproto : (dnsFrame (dnsAsk 0x61)).getD (dnsIpOffset + 9) 0 = ipprotoUdp := by decide
  have hdata : dnsUdpPayload (dnsFrame (dnsAsk 0x61)) = some (dnsAsk 0x61) := by decide
  have hquery : dnsParseQuery (dnsAsk 0x61) = some dnsAskQuery := by decide
  have hclient : dnsClientOf (dnsFrame (dnsAsk 0x61)) dnsAskQuery = ⟨7, 0, 0, 0, 0⟩ := by decide
  have hnone : DnsStatic.lookup DnsStatic.init dnsAskQuery.question.name = none := by decide
  have hcache : DnsCache.empty.lookup 1 0 dnsAskQuery.question.name dnsAskQuery.question.qtype =
      (none, .empty) := rfl
  have hfree : findFreePending 1 0 s.proxy.pending = some ⟨1, by decide⟩ := by
    have hfirst : (s.proxy.pending ⟨0, by decide⟩).waits 1 0 = true := by rw [h.first]; decide
    have hsecond : (s.proxy.pending ⟨1, by decide⟩).waits 1 0 = false := by
      simp [DnsPending.waits, h.others ⟨1, by decide⟩ (by decide)]
    obtain ⟨rest, hrange⟩ := finRange_pending
    rw [findFreePending, hrange, List.find?_cons_of_neg (by simp [hfirst]),
      List.find?_cons_of_pos (by simp [hsecond])]
  obtain ⟨⟨cache, table, pending, primary, secondary, active, last, next, enabled⟩, now, log⟩ := s
  obtain ⟨rfl, hfirst, hothers, rfl, rfl, rfl, rfl, rfl, rfl⟩ := h
  simp only at hfree
  generalize dnsFrame (dnsAsk 0x61) = pkt at hproto hdata hclient ⊢
  generalize dnsAsk 0x61 = data at hdata hquery
  simp only [DnsSystem.step, dnsdCall, dnsdLan, hproto, if_true]
  simp [dnsdCpProcessLanUdpQuery, hdata, hquery, dnsResolve, hclient, hcache, dnsFromStatic, hnone,
    dnsForwardQuery, dnsdCheckFailover, hfree]

theorem dnsUdpPayload_dnsRefusal (id : BitVec 16) :
    dnsUdpPayload (dnsFrame (dnsRefusal id)) = some (dnsRefusal id) := by
  have hframe : dnsFrame (dnsRefusal id) =
      List.replicate 27 0 ++ [17] ++ List.replicate 14 0 ++ [0, 20] ++ [0, 0] ++
        dnsRefusal id := by
    have hlen : be16Bytes (BitVec.ofNat 16 (12 + 8)) = [0, 20] := by decide
    unfold dnsFrame
    rw [show (dnsRefusal id).length = 12 from rfl, hlen]
  have hudp : (be16At (dnsFrame (dnsRefusal id)) (dnsL4Offset + 4)).toNat = 20 := by
    rw [hframe]
    show ((0 : BitVec 8) ++ (20 : BitVec 8)).toNat = 20
    decide
  unfold dnsUdpPayload
  rw [hudp, show (dnsFrame (dnsRefusal id)).length = 58 from rfl, if_neg (by decide),
    if_neg (by decide)]
  rfl

/-- It is a response without an answer. -/
theorem dnsParseResponse_dnsRefusal (id : BitVec 16) :
    dnsParseResponse (dnsRefusal id) =
      some ⟨⟨be16At (dnsRefusal id) 0, 0x8183, 0, 0⟩, none, 0, 0⟩ := by
  have hhead : dnsHeader (dnsRefusal id) = ⟨be16At (dnsRefusal id) 0, 0x8183, 0, 0⟩ := by
    have hflags : (0x81 : BitVec 8) ++ (0x83 : BitVec 8) = (0x8183 : BitVec 16) := by decide
    have hzero : (0 : BitVec 8) ++ (0 : BitVec 8) = (0 : BitVec 16) := by decide
    show (⟨_, (0x81 : BitVec 8) ++ (0x83 : BitVec 8), (0 : BitVec 8) ++ (0 : BitVec 8),
      (0 : BitVec 8) ++ (0 : BitVec 8)⟩ : DnsHeader) = _
    rw [hflags, hzero]
  have hlen : ¬ (dnsRefusal id).length < dnsHdrLen := by
    rw [show (dnsRefusal id).length = 12 from rfl]
    decide
  simp [dnsParseResponse, hhead, hlen, dnsFlagQr, parseQuestions, parseRrSection]

set_option maxRecDepth 8000 in
/-- Its response gives the slot back. -/
theorem OneWaits.tell {s s' : DnsSystem} {id : BitVec 16} (h : OneWaits s id) (hid : id ≠ 1)
    (hproxy : s'.proxy = { s.proxy with
        pending := Function.update s.proxy.pending ⟨1, by decide⟩
          (dnsPendingFor 0 id ⟨7, 0, 0, 0, 0⟩ dnsAskQuery)
        nextUpstreamId := nextId id })
    (hnow : s'.now = 0) :
    OneWaits (s'.step 1 (0, .wan (dnsFrame (dnsRefusal id)))) (nextId id) := by
  have hdata := dnsUdpPayload_dnsRefusal id
  have hparse := dnsParseResponse_dnsRefusal id
  have hcarry : be16At (dnsRefusal id) 0 = id := be16At_be16Bytes id _
  have hpend : s'.proxy.pending = Function.update s.proxy.pending ⟨1, by decide⟩
      (dnsPendingFor 0 id ⟨7, 0, 0, 0, 0⟩ dnsAskQuery) := by rw [hproxy]
  have hfirst : s'.proxy.pending ⟨0, by decide⟩ = ⟨true, ⟨7, 0, 0, 0, 0⟩, 1, 1, [0x61], 0⟩ := by
    rw [hpend, Function.update_of_ne (by decide), h.first]
  have hsecond : s'.proxy.pending ⟨1, by decide⟩ =
      dnsPendingFor 0 id ⟨7, 0, 0, 0, 0⟩ dnsAskQuery := by
    rw [hpend, Function.update_self]
  have hfound : findPendingByUpstreamId 1 0 s'.proxy.pending id =
      (some ⟨1, by decide⟩, s'.proxy.pending) := by
    obtain ⟨rest, hrange⟩ := finRange_pending
    unfold findPendingByUpstreamId
    rw [hrange, List.find?_cons_of_neg (by simpa [hfirst] using Ne.symm hid),
      List.find?_cons_of_pos (by simp [hsecond, dnsPendingFor])]
    simp [hsecond, dnsPendingFor, DnsPending.timedOut, dnsPendingTimeoutSecs]
  have hnext : (s'.step 1 (0, .wan (dnsFrame (dnsRefusal id)))).proxy =
      { s'.proxy with
        pending := deactivate s'.proxy.pending ⟨1, by decide⟩
        lastResponseTime := 0 } := by
    show (dnsdCpProcessWanUdpResponse 1 (s'.now + 0) s'.proxy _).2 = _
    rw [hnow]
    simp [dnsdCpProcessWanUdpResponse, hdata, hcarry, hfound, dnsCacheResponse, hparse]
  have hslots : (s'.step 1 (0, .wan (dnsFrame (dnsRefusal id)))).proxy.pending =
      deactivate s'.proxy.pending ⟨1, by decide⟩ := by rw [hnext]
  refine ⟨?_, ?_, ?_, ?_, ?_, ?_, ?_, ?_, ?_⟩
  · show s'.now + 0 = 0
    rw [hnow]
  · rw [hslots, deactivate, Function.update_of_ne (by decide), hfirst]
  · intro i hi
    rw [hslots]
    by_cases h1 : i = ⟨1, by decide⟩
    · rw [h1, deactivate, Function.update_self]
    · rw [deactivate, Function.update_of_ne h1, hpend, Function.update_of_ne h1]
      exact h.others i hi
  all_goals rw [hnext, hproxy]
  · exact h.cache
  · exact h.staticTable
  · exact h.activeDns
  · exact h.secondaryDns
  · exact h.enabled

/-- Rounds go on as long as the identifier of the query that waits does not come up. -/
theorem OneWaits.rounds {s : DnsSystem} {id : BitVec 16} (h : OneWaits s id) (n : Nat)
    (hids : ∀ m < n, nextId^[m] id ≠ 1) :
    OneWaits ((dnsRounds n id).foldl (DnsSystem.step 1) s) (nextId^[n] id) := by
  induction n generalizing s id with
  | zero => exact h
  | succ n ih =>
      have hround : OneWaits ((dnsRound id).foldl (DnsSystem.step 1) s) (nextId id) :=
        h.tell (hids 0 (Nat.succ_pos n)) h.ask (by show s.now + 0 = 0; rw [h.now])
      have hrest := ih hround fun m hm => hids (m + 1) (by omega)
      rw [dnsRounds, List.foldl_append]
      exact hrest

/-- A query waits while so many others come and are answered; then one more comes. -/
def dnsWrap (n : Nat) : List (Nat × DnsCall) :=
  [(0, .sessionUp 8 0), (0, .lan true (dnsFrame (dnsAsk 0x61)))] ++ dnsRounds n 2 ++
    [(0, .lan true (dnsFrame (dnsAsk 0x61)))]

/-- The state that leads to. -/
def dnsWrapped (n : Nat) : DnsSystem := (dnsWrap n).foldl (DnsSystem.step 1) DnsSystem.start

set_option maxRecDepth 8000 in
/-- If the next identifier is the first again, two queries that wait have it. -/
theorem dnsWrapped_shared {n : Nat} (hids : ∀ m < n, nextId^[m] (2 : BitVec 16) ≠ 1)
    (hlast : nextId^[n] (2 : BitVec 16) = 1) :
    ((dnsWrapped n).proxy.pending ⟨0, by decide⟩).waits 1 (dnsWrapped n).now = true ∧
      ((dnsWrapped n).proxy.pending ⟨1, by decide⟩).waits 1 (dnsWrapped n).now = true ∧
      ((dnsWrapped n).proxy.pending ⟨0, by decide⟩).upstreamId =
        ((dnsWrapped n).proxy.pending ⟨1, by decide⟩).upstreamId := by
  have hbegin : OneWaits ([(0, .sessionUp 8 0), (0, .lan true (dnsFrame (dnsAsk 0x61)))].foldl
      (DnsSystem.step 1) DnsSystem.start) 2 := by
    refine ⟨by decide, by decide, by decide, rfl, rfl, rfl, rfl, rfl, by decide⟩
  have hwaits := hbegin.rounds n hids
  rw [hlast] at hwaits
  unfold dnsWrapped dnsWrap
  rw [List.foldl_append, List.foldl_append]
  generalize (dnsRounds n 2).foldl (DnsSystem.step 1) _ = s at hwaits ⊢
  simp only [List.foldl_cons, List.foldl_nil]
  have hnow : (s.step 1 (0, .lan true (dnsFrame (dnsAsk 0x61)))).now = 0 := by
    show s.now + 0 = 0
    rw [hwaits.now]
  rw [hwaits.ask, hnow]
  simp only [Function.update_self]
  rw [Function.update_of_ne (by decide), hwaits.first]
  exact ⟨by decide, by decide, rfl⟩

end FastRG
