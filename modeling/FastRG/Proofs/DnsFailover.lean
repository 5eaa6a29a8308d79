/-
When the DNS proxy changes servers.

The proxy looks at the time of the last response when a query is to be forwarded while another one
waits.  It does not look at how long that other one has waited: after a quiet minute two queries
close together are enough, whatever the server does.  So a change is justified, by a query that
has been unanswered for the whole of the timeout, exactly in the runs in which such a query is
there whenever a change is due (`failover_right_iff`); in those runs traffic stays with a server
that is prompt.
-/
import FastRG.Lib.Along
import FastRG.Proofs.DnsCached
import FastRG.Proofs.DnsRelay

namespace FastRG

/-! ### Changes of servers -/

/-- The server that is not in use. -/
def DnsProxyState.otherDns (state : DnsProxyState) : BitVec 32 :=
  if state.activeDns = state.primaryDns then state.secondaryDns else state.primaryDns

/-- A call that is a query to be forwarded: neither the records nor the cache have an answer. -/
def DnsProxyState.forwards (hz now : Nat) (state : DnsProxyState) : DnsCall → Prop
  | .lan dpStart pkt =>
      pkt.getD (dnsIpOffset + 9) 0 = ipprotoUdp ∧ state.dnsProxyEnabled = true ∧
        dpStart = true ∧ state.activeDns ≠ 0 ∧
        ∃ data query, dnsUdpPayload pkt = some data ∧ dnsParseQuery data = some query ∧
          dnsFromStatic state query data = none ∧
          (state.cache.lookup hz now query.question.name query.question.qtype).1 = none
  | _ => False

/-- The proxy has two servers, a query waits, and the last response is a timeout ago. -/
structure DnsProxyState.Impatient (hz now : Nat) (state : DnsProxyState) : Prop where
  waits : dnsdHasPendingQuery hz now state.pending = true
  secondary : state.secondaryDns ≠ 0
  other : state.otherDns ≠ state.activeDns
  quiet : dnsFailoverTimeoutSecs * hz ≤ now - state.lastResponseTime

theorem dnsdCheckFailover_changes (hz now : Nat) (state : DnsProxyState)
    (henabled : state.dnsProxyEnabled = true) :
    (dnsdCheckFailover hz now state).activeDns ≠ state.activeDns ↔
      state.secondaryDns ≠ 0 ∧ state.otherDns ≠ state.activeDns ∧
        dnsFailoverTimeoutSecs * hz ≤ now - state.lastResponseTime := by
  unfold dnsdCheckFailover
  rw [if_neg (by simp [henabled])]
  by_cases hsecondary : state.secondaryDns = 0
  · rw [if_pos hsecondary]
    exact ⟨fun h => absurd rfl h, fun h => absurd hsecondary h.1⟩
  rw [if_neg hsecondary]
  by_cases hquiet : dnsFailoverTimeoutSecs * hz ≤ now - state.lastResponseTime
  · rw [if_pos hquiet]
    exact ⟨fun h => ⟨hsecondary, h, hquiet⟩, fun h => h.2.1⟩
  · rw [if_neg hquiet]
    exact ⟨fun h => absurd rfl h, fun h => absurd h.2.2 hquiet⟩

theorem dnsForwardQuery_activeDns (hz now : Nat) (dpStart : Bool) (state : DnsProxyState)
    (client : DnsClient) (query : DnsQuery) (data : List (BitVec 8)) :
    (dnsForwardQuery hz now dpStart state client query data).2.activeDns =
      if dpStart = true ∧ state.activeDns ≠ 0 ∧ dnsdHasPendingQuery hz now state.pending = true then
        (dnsdCheckFailover hz now state).activeDns
      else state.activeDns := by
  unfold dnsForwardQuery
  by_cases hopen : dpStart = true ∧ state.activeDns ≠ 0
  · rw [if_pos hopen]
    simp only
    by_cases hpending : dnsdHasPendingQuery hz now state.pending = true
    · rw [if_pos hpending, if_pos ⟨hopen.1, hopen.2, hpending⟩]
      split
      · rfl
      · rfl
    · rw [if_neg hpending, if_neg fun h => hpending h.2.2]
      split
      · rfl
      · rfl
  · rw [if_neg hopen, if_neg fun h => hopen ⟨h.1, h.2.1⟩]

/-- The cache that a lookup leaves is the only thing that it changes. -/
theorem dnsResolve_changes_iff {hz now : Nat} {dpStart : Bool} {state : DnsProxyState}
    {client : DnsClient} {query : DnsQuery} {data : List (BitVec 8)}
    (henabled : state.dnsProxyEnabled = true) :
    (dnsResolve hz now dpStart state client query data).2.activeDns ≠ state.activeDns ↔
      (dpStart = true ∧ state.activeDns ≠ 0 ∧ dnsFromStatic state query data = none ∧
        (state.cache.lookup hz now query.question.name query.question.qtype).1 = none) ∧
      state.Impatient hz now := by
  unfold dnsResolve
  cases hstatic : dnsFromStatic state query data with
  | some payload =>
      exact ⟨fun h => absurd rfl h, fun h => absurd h.1.2.2.1 (Option.some_ne_none _)⟩
  | none =>
      rcases hlookup : state.cache.lookup hz now query.question.name query.question.qtype with
        ⟨entry, cache⟩
      cases entry with
      | some entry =>
          exact ⟨fun h => absurd rfl h, fun h => absurd h.1.2.2.2 (Option.some_ne_none _)⟩
      | none =>
          simp only
          rw [dnsForwardQuery_activeDns]
          by_cases hopen :
              dpStart = true ∧ state.activeDns ≠ 0 ∧
                dnsdHasPendingQuery hz now state.pending = true
          · rw [if_pos hopen]
            refine (dnsdCheckFailover_changes hz now { state with cache := cache } henabled).trans
              ⟨fun h => ?_, fun h => ?_⟩
            · exact ⟨⟨hopen.1, hopen.2.1, trivial, trivial⟩, ⟨hopen.2.2, h.1, h.2.1, h.2.2⟩⟩
            · exact ⟨h.2.secondary, h.2.other, h.2.quiet⟩
          · rw [if_neg hopen]
            refine ⟨fun h => absurd rfl h, fun h => ?_⟩
            exact absurd ⟨h.1.1, h.1.2.1, h.2.waits⟩ hopen

/-- A session that comes up brings its own servers. -/
def DnsCall.startsSession : DnsCall → Bool
  | .sessionUp _ _ => true
  | _ => false

/-- **The server in use changes exactly when a query is to be forwarded and the proxy is
impatient.** -/
theorem dnsdCall_changes_iff (hz now : Nat) (state : DnsProxyState) {call : DnsCall}
    (hsession : call.startsSession = false) :
    (dnsdCall hz now state call).2.activeDns ≠ state.activeDns ↔
      state.forwards hz now call ∧ state.Impatient hz now := by
  cases call with
  | lan dpStart pkt =>
      have hquiet {r : Option DnsEvent × DnsProxyState} (hr : r.2.activeDns = state.activeDns)
          (hnot : ¬ state.forwards hz now (.lan dpStart pkt)) :
          r.2.activeDns ≠ state.activeDns ↔
            state.forwards hz now (.lan dpStart pkt) ∧ state.Impatient hz now :=
        ⟨fun h => absurd hr h, fun h => absurd h.1 hnot⟩
      show (dnsdLan hz now dpStart state pkt).2.activeDns ≠ _ ↔ _
      unfold dnsdLan
      simp only
      by_cases hudp : pkt.getD (dnsIpOffset + 9) 0 = ipprotoUdp
      · rw [if_pos hudp]
        unfold dnsdCpProcessLanUdpQuery
        by_cases henabled : state.dnsProxyEnabled = true
        · rw [if_neg (by simp [henabled])]
          cases hdata : dnsUdpPayload pkt with
          | none => exact hquiet rfl fun ⟨_, _, _, _, _, _, h, _⟩ => by simp [hdata] at h
          | some data =>
              simp only
              cases hquery : dnsParseQuery data with
              | none =>
                  refine hquiet rfl fun ⟨_, _, _, _, _, _, h, hq, _⟩ => ?_
                  obtain rfl : data = _ := Option.some.inj (hdata.symm.trans h)
                  simp [hquery] at hq
              | some query =>
                  simp only
                  rw [dnsResolve_changes_iff henabled]
                  refine and_congr_left fun _ => ⟨fun h => ?_, fun h => ?_⟩
                  · exact ⟨hudp, henabled, h.1, h.2.1, data, query, hdata, hquery, h.2.2⟩
                  · obtain ⟨_, _, hstart, hdns, data', query', h, hq, hnone⟩ := h
                    obtain rfl : data = data' := Option.some.inj (hdata.symm.trans h)
                    obtain rfl : query = query' := Option.some.inj (hquery.symm.trans hq)
                    exact ⟨hstart, hdns, hnone⟩
        · rw [if_pos (by simpa using henabled)]
          exact hquiet rfl fun h => henabled h.2.1
      · rw [if_neg hudp]
        split
        · exact hquiet rfl fun h => hudp h.1
        · exact hquiet rfl fun h => hudp h.1
  | wan pkt =>
      have hsame : (dnsdCall hz now state (.wan pkt)).2.activeDns = state.activeDns := by
        show (dnsdCpProcessWanUdpResponse hz now state pkt).2.activeDns = _
        unfold dnsdCpProcessWanUdpResponse
        split
        · rfl
        · split
          · rfl
          · rfl
      exact ⟨fun h => absurd hsame h, fun h => h.1.elim⟩
  | sessionUp _ _ => cases hsession
  | sessionDown | flushCache | setDnsProxy | addRecord | removeRecord | clearRecords =>
      exact ⟨fun h => absurd rfl h, fun h => h.1.elim⟩

/-! ### Justified changes -/

/-- The query in a slot was forwarded, and no response has arrived since. -/
def UnansweredSince (log : List DnsEvent) (i : Fin dnsMaxPendingQueries) : Prop :=
  ∃ after id client server query before,
    log = after ++ .forward i id client server query :: before ∧
      ∀ e ∈ after, e.slot ≠ some i ∧ ∀ j id client payload, e ≠ .relay j id client payload

namespace DnsSystem

/-- A query that the proxy still remembers was forwarded a failover timeout ago or earlier, and
no response has arrived since. -/
def Justified (hz : Nat) (s : DnsSystem) (l : Nat × DnsCall) : Prop :=
  ∃ i, (s.proxy.pending i).active = true ∧
    dnsFailoverTimeoutSecs * hz ≤ s.now + l.1 - (s.proxy.pending i).startTsc ∧
    UnansweredSince s.log i

/-- Traffic moves to another server. -/
def Moves (hz : Nat) (s : DnsSystem) (l : Nat × DnsCall) : Prop :=
  (s.step hz l).proxy.activeDns ≠ s.proxy.activeDns

/-- The server answers within the failover timeout: no query has been remembered for longer. -/
def Prompt (hz : Nat) (s : DnsSystem) (l : Nat × DnsCall) : Prop :=
  ∀ i, (s.proxy.pending i).active = true →
    s.now + l.1 - (s.proxy.pending i).startTsc < dnsFailoverTimeoutSecs * hz

/-- A change of servers is due: a query is to be forwarded and the proxy is impatient. -/
def Due (hz : Nat) (s : DnsSystem) (l : Nat × DnsCall) : Prop :=
  s.proxy.forwards hz (s.now + l.1) l.2 ∧ s.proxy.Impatient hz (s.now + l.1)

/-- Along a run every change of servers is justified, and traffic never moves away from a server
that is prompt. -/
def FailoverRight (hz : Nat) (s : DnsSystem) (ls : List (Nat × DnsCall)) : Prop :=
  Along (step hz) (fun s l => s.Moves hz l → s.Justified hz l) s ls ∧
    (Along (step hz) (Prompt hz) s ls → Along (step hz) (fun s l => ¬ s.Moves hz l) s ls)

theorem Prompt.not_justified {hz : Nat} {s : DnsSystem} {l : Nat × DnsCall} (h : s.Prompt hz l) :
    ¬ s.Justified hz l := by
  intro hjust
  obtain ⟨i, hactive, hold, _⟩ := hjust
  have := h i hactive
  omega

/-- **Failover is justified exactly in the runs in which a query has been unanswered for the
timeout whenever a change is due.** -/
theorem failover_right_iff (hz : Nat) (s : DnsSystem) {ls : List (Nat × DnsCall)}
    (hsession : ∀ l ∈ ls, l.2.startsSession = false) :
    s.FailoverRight hz ls ↔
      Along (step hz) (fun s l => s.Due hz l → s.Justified hz l) s ls := by
  have hmoves : ∀ s : DnsSystem, ∀ l ∈ ls, s.Moves hz l ↔ s.Due hz l :=
    fun s l hl => dnsdCall_changes_iff hz (s.now + l.1) s.proxy (hsession l hl)
  have hjust : Along (step hz) (fun s l => s.Moves hz l → s.Justified hz l) s ls ↔
      Along (step hz) (fun s l => s.Due hz l → s.Justified hz l) s ls :=
    along_congr fun s l hl => imp_congr_left (hmoves s l hl)
  refine ⟨fun h => hjust.mp h.1, fun h => ⟨hjust.mpr h, fun hprompt => ?_⟩⟩
  refine along_mono (fun s l hl => ?_) (along_and.mpr ⟨hprompt, hjust.mpr h⟩)
  exact fun hmove => hl.1.not_justified (hl.2 hmove)

/-- A session with two servers, at the first cycle. -/
def twoServers : DnsSystem := start.step 1 (0, .sessionUp 8 9)

/-- A client asks for `a`, so many cycles after what came before. -/
def askAfter (dt : Nat) : Nat × DnsCall := (dt, .lan true (dnsFrame (dnsAsk 0x61)))

set_option maxRecDepth 8000 in
/-- Two queries of a first burst are never answered, and a minute later a second burst moves to
the other server. -/
theorem failover_right_unanswered :
    twoServers.FailoverRight 1 [askAfter 0, askAfter 0, askAfter 61, askAfter 1] := by
  have hsession : ∀ l ∈ [askAfter 0, askAfter 0, askAfter 61, askAfter 1],
      l.2.startsSession = false := by
    intro l hl
    simp only [List.mem_cons, List.not_mem_nil, or_false] at hl
    rcases hl with rfl | rfl | rfl | rfl
    · rfl
    · rfl
    · rfl
    · rfl
  refine (failover_right_iff 1 twoServers hsession).mpr ⟨?_, ?_, ?_, ?_, trivial⟩
  · exact fun hdue => absurd hdue.2.waits (by decide)
  · exact fun hdue => absurd hdue.2.quiet (by decide)
  · exact fun hdue => absurd hdue.2.waits (by decide)
  · intro _
    refine ⟨⟨1, by decide⟩, by decide, by decide, [_], _, _, _, _, [_], rfl, ?_⟩
    intro e he
    rw [List.mem_singleton] at he
    subst he
    exact ⟨by decide, fun _ _ _ _ h => DnsEvent.noConfusion h⟩

set_option maxRecDepth 8000 in
/-- After a quiet minute two queries a second apart move traffic away from a server that answers
the first of them at once after that. -/
theorem burst_moves :
    Along (step 1) (Prompt 1) twoServers
        [askAfter 61, askAfter 1, (0, .wan (dnsFrame (dnsTell 0x61)))] ∧
      ¬ twoServers.FailoverRight 1
        [askAfter 61, askAfter 1, (0, .wan (dnsFrame (dnsTell 0x61)))] := by
  have hprompt : Along (step 1) (Prompt 1) twoServers
      [askAfter 61, askAfter 1, (0, .wan (dnsFrame (dnsTell 0x61)))] := by
    refine ⟨?_, ?_, ?_, trivial⟩
    · unfold Prompt
      decide
    · unfold Prompt
      decide
    · unfold Prompt
      decide
  refine ⟨hprompt, fun h => (h.2 hprompt).2.1 ?_⟩
  unfold Moves
  decide

end DnsSystem

end FastRG
