/-
What a call of the DNS proxy can do.

A call answers by itself or not at all, answers from the cache, forwards a query into a free
slot, drops a slot that has timed out, relays a response to whoever a slot remembers, or clears
everything.  `dnsdCall_move` says so once, with what the code had found out before, and nothing
after this file unfolds a call.
-/
import FastRG.Dnsd
import FastRG.Proofs.DnsNames

namespace FastRG

/-! ### The cache -/

namespace DnsCache

/-- The entry is in the cache. -/
def Mem (c : DnsCache) (e : DnsCacheEntry) : Prop := ∃ idx, e ∈ c.buckets idx

theorem not_mem_empty (e : DnsCacheEntry) : ¬ empty.Mem e := by
  intro h
  obtain ⟨idx, he⟩ := h
  exact absurd he List.not_mem_nil

/-- A chain replaced: an entry is in the new chain, or was there. -/
theorem mem_setBucket {c : DnsCache} {idx count : Nat} {chain : List DnsCacheEntry}
    {e : DnsCacheEntry} (h : (c.setBucket idx chain count).Mem e) : e ∈ chain ∨ c.Mem e := by
  obtain ⟨i, he⟩ := h
  unfold setBucket at he
  simp only at he
  split at he
  · exact .inl he
  · exact .inr ⟨i, he⟩

theorem mem_of_mem_setBucket {c : DnsCache} {idx count : Nat} {chain : List DnsCacheEntry}
    {e : DnsCacheEntry} (hsub : ∀ e' ∈ chain, e' ∈ c.buckets idx)
    (h : (c.setBucket idx chain count).Mem e) : c.Mem e := by
  rcases mem_setBucket h with he | he
  · exact ⟨idx, hsub e he⟩
  · exact he

theorem mem_of_lookup {hz now : Nat} {c : DnsCache} {domain : List (BitVec 8)} {qtype : BitVec 16}
    {e : DnsCacheEntry} (h : (c.lookup hz now domain qtype).1 = some e) :
    c.Mem e ∧ isFor domain qtype e = true := by
  unfold lookup at h
  simp only at h
  split at h
  · exact absurd h (by simp)
  · rename_i e' hfind
    split at h
    · exact absurd h (by simp)
    · have he : e' = e := Option.some.inj h
      subst he
      exact ⟨⟨_, List.mem_of_find?_eq_some hfind⟩, List.find?_some hfind⟩

/-- A lookup adds nothing. -/
theorem mem_of_mem_lookup {hz now : Nat} {c : DnsCache} {domain : List (BitVec 8)}
    {qtype : BitVec 16} {e : DnsCacheEntry} (h : (c.lookup hz now domain qtype).2.Mem e) :
    c.Mem e := by
  unfold lookup at h
  simp only at h
  split at h
  · exact h
  · split at h
    · exact mem_of_mem_setBucket (fun e' he' => List.mem_of_mem_eraseP he') h
    · exact h

/-- Making room adds nothing. -/
theorem mem_of_mem_makeRoom {hz now : Nat} {c : DnsCache} {idx : Nat} {e : DnsCacheEntry}
    (h : (c.makeRoom hz now idx).Mem e) : c.Mem e := by
  unfold makeRoom at h
  simp only at h
  split at h
  · split at h
    · exact mem_of_mem_setBucket
        (fun e' he' => List.mem_of_mem_filter (List.mem_of_mem_erase he')) h
    · exact mem_of_mem_setBucket (fun e' he' => List.mem_of_mem_filter he') h
  · exact mem_of_mem_setBucket (fun e' he' => List.mem_of_mem_filter he') h

/-- An entry of a chain that was renewed: as it was, or the one with the new response. -/
theorem mem_renew {domain : List (BitVec 8)} {qtype : BitVec 16} {response : List (BitVec 8)}
    {ttl now : Nat} {chain : List DnsCacheEntry} {e : DnsCacheEntry}
    (h : e ∈ renew domain qtype response ttl now chain) :
    e ∈ chain ∨ isFor domain qtype e = true ∧ e.response = response := by
  induction chain with
  | nil => exact .inl h
  | cons e' rest ih =>
      unfold renew at h
      split at h
      · rename_i hfor
        rcases List.mem_cons.mp h with heq | hrest
        · rw [heq]
          exact .inr ⟨hfor, rfl⟩
        · exact .inl (List.mem_cons_of_mem e' hrest)
      · rcases List.mem_cons.mp h with heq | hrest
        · exact .inl (heq ▸ List.mem_cons_self)
        · rcases ih hrest with hin | hnew
          · exact .inl (List.mem_cons_of_mem e' hin)
          · exact .inr hnew

/-- What is in the cache after an insertion: what was, or the new response, which fits an entry
and is under its name unless the name was cut. -/
theorem mem_insert_cases {hz now : Nat} {c : DnsCache} {domain : List (BitVec 8)}
    {qtype : BitVec 16} {response : List (BitVec 8)} {ttl : Nat} {e : DnsCacheEntry}
    (h : (c.insert hz now domain qtype response ttl).Mem e) :
    c.Mem e ∨ (domain.length ≤ dnsMaxDomainLen → isFor domain qtype e = true) ∧
      e.response = response ∧ response.length ≤ dnsMaxPacketLen := by
  unfold insert at h
  simp only at h
  split at h
  · exact .inl h
  rename_i hlen
  have hfits : response.length ≤ dnsMaxPacketLen := by
    rw [not_or, Nat.not_lt] at hlen
    exact hlen.2
  split at h
  · rcases mem_setBucket h with he | he
    · rcases mem_renew he with hin | ⟨hfor, hresponse⟩
      · exact .inl ⟨_, hin⟩
      · exact .inr ⟨fun _ => hfor, hresponse, hfits⟩
    · exact .inl he
  · -- The new entry heads its chain, which may have been swept.
    have hroom : ∀ e' : DnsCacheEntry, (if dnsCacheMaxEntries ≤ c.entryCount then
        c.makeRoom hz now (hash domain qtype) else c).Mem e' → c.Mem e' := by
      intro e' he'
      split at he'
      · exact mem_of_mem_makeRoom he'
      · exact he'
    rcases mem_setBucket h with he | he
    · rcases List.mem_cons.mp he with heq | hin
      · refine .inr ⟨?_, ?_, hfits⟩
        · intro hname
          rw [heq, List.take_of_length_le hname]
          simp [isFor, domainEq]
        · rw [heq]
      · exact .inl (hroom e ⟨_, hin⟩)
    · exact .inl (hroom e he)

/-- What is in the cache after an insertion under a name that is not cut. -/
theorem mem_insert {hz now : Nat} {c : DnsCache} {domain : List (BitVec 8)} {qtype : BitVec 16}
    {response : List (BitVec 8)} {ttl : Nat} {e : DnsCacheEntry}
    (hlen : domain.length ≤ dnsMaxDomainLen)
    (h : (c.insert hz now domain qtype response ttl).Mem e) :
    c.Mem e ∨ isFor domain qtype e = true ∧ e.response = response := by
  rcases mem_insert_cases h with hold | ⟨hfor, hresponse, -⟩
  · exact .inl hold
  · exact .inr ⟨hfor hlen, hresponse⟩

end DnsCache

/-! ### Moves -/

/-- What a call can do, and what it sends. -/
inductive DnsMove (hz now : Nat) (state : DnsProxyState) :
    DnsCall → Option DnsEvent → DnsProxyState → Prop
  /-- Nothing is sent but an answer of the proxy's own, and no slot changes. -/
  | quiet {call : DnsCall} {event : Option DnsEvent} {state' : DnsProxyState}
      (hpend : state'.pending = state.pending)
      (hnext : state'.nextUpstreamId = state.nextUpstreamId)
      (hcache : ∀ e, state'.cache.Mem e → state.cache.Mem e)
      (hevent : ∀ ev ∈ event, ∃ client payload, ev = .answer client payload) :
      DnsMove hz now state call event state'
  | clear {call : DnsCall} {state' : DnsProxyState} (hpend : state'.pending = fun _ => .zero)
      (hcache : ∀ e, state'.cache.Mem e → state.cache.Mem e) :
      DnsMove hz now state call none state'
  | hit {dpStart : Bool} {pkt data : List (BitVec 8)} {query : DnsQuery} {entry : DnsCacheEntry}
      {cache : DnsCache} (hdata : dnsUdpPayload pkt = some data)
      (hquery : dnsParseQuery data = some query) (hmem : state.cache.Mem entry)
      (hfor : DnsCache.isFor query.question.name query.question.qtype entry = true)
      (hcache : ∀ e, cache.Mem e → state.cache.Mem e) :
      DnsMove hz now state (.lan dpStart pkt)
        (some (.fromCache query (dnsClientOf pkt query)
          (setDnsId query.header.id entry.response))) { state with cache := cache }
  | forward {dpStart : Bool} {pkt : List (BitVec 8)} {query : DnsQuery} {server : BitVec 32}
      {i : Fin dnsMaxPendingQueries} {state' : DnsProxyState}
      (hfree : (state.pending i).waits hz now = false)
      (hpend : state'.pending = Function.update state.pending i
        (dnsPendingFor now state.nextUpstreamId (dnsClientOf pkt query) query))
      (hnext : state'.nextUpstreamId = nextId state.nextUpstreamId)
      (hcache : ∀ e, state'.cache.Mem e → state.cache.Mem e) :
      DnsMove hz now state (.lan dpStart pkt)
        (some (.forward i state.nextUpstreamId (dnsClientOf pkt query) server query)) state'
  | stale {pkt : List (BitVec 8)} {i : Fin dnsMaxPendingQueries} :
      DnsMove hz now state (.wan pkt) none
        { state with pending := deactivate state.pending i }
  | relay {pkt data : List (BitVec 8)} {i : Fin dnsMaxPendingQueries}
      (hdata : dnsUdpPayload pkt = some data)
      (hfound : findPendingByUpstreamId hz now state.pending (be16At data 0) =
        (some i, state.pending)) :
      DnsMove hz now state (.wan pkt)
        (some (.relay i (state.pending i).upstreamId (state.pending i).client
          (setDnsId (state.pending i).client.originalId data)))
        { state with
          cache := dnsCacheResponse hz now state.cache (state.pending i) data
          pending := deactivate state.pending i
          lastResponseTime := now }

variable {hz now : Nat} {state : DnsProxyState}

/-- What is found by its identifier is active, has not timed out, and carries it. -/
theorem waits_of_findPending {pending pending' : DnsPendingTable} {id : BitVec 16}
    {i : Fin dnsMaxPendingQueries}
    (h : findPendingByUpstreamId hz now pending id = (some i, pending')) :
    pending' = pending ∧ (pending i).waits hz now = true ∧ (pending i).upstreamId = id := by
  unfold findPendingByUpstreamId at h
  simp only at h
  split at h
  · exact absurd (congrArg Prod.fst h) (by simp)
  · rename_i j hfind
    split at h
    · exact absurd (congrArg Prod.fst h) (by simp)
    · rename_i hlive
      have hij : j = i := Option.some.inj (congrArg Prod.fst h)
      subst hij
      have hmatch := List.find?_some hfind
      simp only [Bool.and_eq_true, beq_iff_eq] at hmatch
      refine ⟨(congrArg Prod.snd h).symm, ?_, hmatch.2⟩
      simp [DnsPending.waits, hmatch.1, hlive]

/-- A lookup that finds nothing gives back at most a slot that has timed out. -/
theorem findPending_none {pending pending' : DnsPendingTable} {id : BitVec 16}
    (h : findPendingByUpstreamId hz now pending id = (none, pending')) :
    pending' = pending ∨ ∃ i, pending' = deactivate pending i := by
  unfold findPendingByUpstreamId at h
  simp only at h
  split at h
  · exact .inl (congrArg Prod.snd h).symm
  · rename_i j hfind
    split at h
    · exact .inr ⟨j, (congrArg Prod.snd h).symm⟩
    · exact absurd (congrArg Prod.fst h) (by simp)

theorem not_waits_of_findFreePending {pending : DnsPendingTable} {i : Fin dnsMaxPendingQueries}
    (h : findFreePending hz now pending = some i) : (pending i).waits hz now = false := by
  have hfree := List.find?_some h
  simpa using hfree

/-- A change of servers changes nothing else that is kept of the session. -/
theorem dnsdCheckFailover_keeps (hz now : Nat) (state : DnsProxyState) :
    (dnsdCheckFailover hz now state).pending = state.pending ∧
      (dnsdCheckFailover hz now state).nextUpstreamId = state.nextUpstreamId ∧
      (dnsdCheckFailover hz now state).cache = state.cache := by
  unfold dnsdCheckFailover
  split
  · exact ⟨rfl, rfl, rfl⟩
  split
  · exact ⟨rfl, rfl, rfl⟩
  split
  · exact ⟨rfl, rfl, rfl⟩
  · exact ⟨rfl, rfl, rfl⟩

theorem dnsServfail_event {client : DnsClient} {data : List (BitVec 8)} :
    ∀ ev ∈ dnsServfail client data, ∃ client payload, ev = .answer client payload := by
  intro ev hev
  obtain ⟨payload, -, hanswer⟩ := Option.map_eq_some_iff.mp (Option.mem_def.mp hev)
  exact ⟨client, payload, hanswer.symm⟩

/-- A query that is forwarded takes a free slot; else it is answered with a failure. -/
theorem dnsForwardQuery_move (dpStart : Bool) (pkt data : List (BitVec 8)) (query : DnsQuery)
    {cache : DnsCache} (hcache : ∀ e, cache.Mem e → state.cache.Mem e) :
    DnsMove hz now state (.lan dpStart pkt)
      (dnsForwardQuery hz now dpStart { state with cache := cache } (dnsClientOf pkt query)
        query data).1
      (dnsForwardQuery hz now dpStart { state with cache := cache } (dnsClientOf pkt query)
        query data).2 := by
  unfold dnsForwardQuery
  split
  · -- The servers may be changed first.
    obtain ⟨s, hs, hpend, hnext, hmem⟩ : ∃ s : DnsProxyState,
        (if dnsdHasPendingQuery hz now state.pending then
          dnsdCheckFailover hz now { state with cache := cache }
        else { state with cache := cache }) = s ∧ s.pending = state.pending ∧
        s.nextUpstreamId = state.nextUpstreamId ∧ s.cache = cache := by
      have hkeep := dnsdCheckFailover_keeps hz now { state with cache := cache }
      split
      · exact ⟨_, rfl, hkeep.1, hkeep.2.1, hkeep.2.2⟩
      · exact ⟨_, rfl, rfl, rfl, rfl⟩
    simp only [hs]
    have hsub : ∀ e, s.cache.Mem e → state.cache.Mem e := by
      intro e he
      exact hcache e (hmem ▸ he)
    split
    · exact .quiet hpend hnext hsub dnsServfail_event
    · rename_i i hfree
      rw [hnext]
      rw [hpend] at hfree
      refine .forward (not_waits_of_findFreePending hfree) ?_ rfl hsub
      show Function.update s.pending i _ = _
      rw [hpend]
  · exact .quiet rfl rfl hcache dnsServfail_event

/-- A query that parsed. -/
theorem dnsResolve_move {dpStart : Bool} {pkt data : List (BitVec 8)} {query : DnsQuery}
    (hdata : dnsUdpPayload pkt = some data) (hquery : dnsParseQuery data = some query) :
    DnsMove hz now state (.lan dpStart pkt)
      (dnsResolve hz now dpStart state (dnsClientOf pkt query) query data).1
      (dnsResolve hz now dpStart state (dnsClientOf pkt query) query data).2 := by
  unfold dnsResolve
  split
  · rename_i payload hpayload
    refine .quiet rfl rfl (fun e he => he) ?_
    intro ev hev
    exact ⟨_, _, (Option.some.inj hev).symm⟩
  split
  · rename_i entry cache hlookup
    have hentry := DnsCache.mem_of_lookup (congrArg Prod.fst hlookup)
    refine .hit hdata hquery hentry.1 hentry.2 ?_
    intro e he
    rw [show cache = (state.cache.lookup hz now query.question.name query.question.qtype).2 from
      (congrArg Prod.snd hlookup).symm] at he
    exact DnsCache.mem_of_mem_lookup he
  · rename_i cache hlookup
    apply dnsForwardQuery_move
    intro e he
    rw [show cache = (state.cache.lookup hz now query.question.name query.question.qtype).2 from
      (congrArg Prod.snd hlookup).symm] at he
    exact DnsCache.mem_of_mem_lookup he

/-- A call that sends nothing and changes no slot and no entry. -/
theorem DnsMove.idle (call : DnsCall) : DnsMove hz now state call none state :=
  .quiet rfl rfl (fun _ he => he) (fun ev hev => absurd hev (by simp))

theorem dnsdCpProcessLanUdpQuery_move (dpStart : Bool) (pkt : List (BitVec 8)) :
    DnsMove hz now state (.lan dpStart pkt)
      (dnsdCpProcessLanUdpQuery hz now dpStart state pkt).1
      (dnsdCpProcessLanUdpQuery hz now dpStart state pkt).2 := by
  unfold dnsdCpProcessLanUdpQuery
  split
  · exact .idle _
  split
  · exact .idle _
  · rename_i data hdata
    split
    · exact .idle _
    · rename_i query hquery
      exact dnsResolve_move hdata hquery

/-- A query over TCP is answered from the static records, or not at all. -/
theorem dnsdCpProcessLanTcpQuery_event {pkt : List (BitVec 8)} :
    ∀ ev ∈ dnsdCpProcessLanTcpQuery state pkt, ∃ client payload, ev = .answer client payload := by
  intro ev hev
  unfold dnsdCpProcessLanTcpQuery at hev
  split at hev
  · exact absurd hev (by simp)
  · obtain ⟨data, -, hev⟩ := Option.bind_eq_some_iff.mp hev
    obtain ⟨query, -, hev⟩ := Option.bind_eq_some_iff.mp hev
    obtain ⟨payload, -, hev⟩ := Option.bind_eq_some_iff.mp hev
    exact ⟨_, _, (Option.some.inj hev).symm⟩

theorem dnsdCpProcessWanUdpResponse_move (pkt : List (BitVec 8)) :
    DnsMove hz now state (.wan pkt) (dnsdCpProcessWanUdpResponse hz now state pkt).1
      (dnsdCpProcessWanUdpResponse hz now state pkt).2 := by
  unfold dnsdCpProcessWanUdpResponse
  split
  · exact .idle _
  · rename_i data hdata
    split
    · rename_i pending hnone
      rcases findPending_none hnone with hsame | ⟨i, hstale⟩
      · rw [hsame]
        exact .idle _
      · rw [hstale]
        exact .stale
    · rename_i i pending hfound
      have hsame := (waits_of_findPending hfound).1
      rw [hsame] at hfound ⊢
      exact .relay hdata hfound

/-- **What a call does.** -/
theorem dnsdCall_move (hz now : Nat) (state : DnsProxyState) (call : DnsCall) :
    DnsMove hz now state call (dnsdCall hz now state call).1 (dnsdCall hz now state call).2 := by
  have hnone : ∀ ev ∈ (none : Option DnsEvent), ∃ client payload, ev = .answer client payload := by
    intro ev hev
    exact absurd hev (by simp)
  have hempty : ∀ e, DnsCache.empty.Mem e → state.cache.Mem e :=
    fun e he => absurd he (DnsCache.not_mem_empty e)
  cases call with
  | lan dpStart pkt =>
      show DnsMove hz now state _ (dnsdLan hz now dpStart state pkt).1
        (dnsdLan hz now dpStart state pkt).2
      unfold dnsdLan
      simp only
      split
      · exact dnsdCpProcessLanUdpQuery_move dpStart pkt
      split
      · exact .quiet rfl rfl (fun e he => he) dnsdCpProcessLanTcpQuery_event
      · exact .idle _
  | wan pkt => exact dnsdCpProcessWanUdpResponse_move pkt
  | sessionUp primaryDns secondaryDns => exact .clear rfl hempty
  | sessionDown => exact .clear rfl hempty
  | flushCache => exact .quiet rfl rfl hempty hnone
  | setDnsProxy enable => exact .quiet rfl rfl (fun e he => he) hnone
  | addRecord domain ipAddr ttl => exact .quiet rfl rfl (fun e he => he) hnone
  | removeRecord domain => exact .quiet rfl rfl (fun e he => he) hnone
  | clearRecords => exact .quiet rfl rfl (fun e he => he) hnone

end FastRG
