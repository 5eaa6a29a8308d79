/-
How old the answers from the DNS cache are.

A response is kept for the lowest of its answers' TTLs, those that are zero left out, and its bytes
are replayed as they were received.  So the TTLs that a client reads are those of the moment at
which the response was received, and a record that may not be kept at all is kept with the others.
The law that no answer is stale, record by record, comes out for an answer with records only at
the very moment of its receipt (`answersFresh_iff`).
-/
import FastRG.Proofs.DnsCached
import FastRG.Proofs.DnsComplete

namespace FastRG

/-! ### What is served from the cache -/

/-- A call that is a query to be answered from the cache, and the entry that it is answered from. -/
def DnsProxyState.serves (hz now : Nat) (state : DnsProxyState) (query : DnsQuery)
    (e : DnsCacheEntry) : DnsCall → Prop
  | .lan _ pkt =>
      pkt.getD (dnsIpOffset + 9) 0 = ipprotoUdp ∧ state.dnsProxyEnabled = true ∧
        ∃ data, dnsUdpPayload pkt = some data ∧ dnsParseQuery data = some query ∧
          dnsFromStatic state query data = none ∧
          (state.cache.lookup hz now query.question.name query.question.qtype).1 = some e
  | _ => False

theorem dnsForwardQuery_ne_fromCache {hz now : Nat} {dpStart : Bool} {state : DnsProxyState}
    {client client' : DnsClient} {query query' : DnsQuery} {data payload : List (BitVec 8)} :
    (dnsForwardQuery hz now dpStart state client query data).1 ≠
      some (.fromCache query' client' payload) := by
  have hservfail : dnsServfail client data ≠ some (.fromCache query' client' payload) := by
    intro h
    obtain ⟨_, _, hanswer⟩ := dnsServfail_event _ h
    exact absurd hanswer (by simp)
  unfold dnsForwardQuery
  split
  · simp only
    split
    · exact hservfail
    · exact fun h => absurd (Option.some.inj h) (by simp)
  · exact hservfail

/-- **What is sent from the cache is an entry, under the identifier of the query.** -/
theorem dnsdCall_fromCache_iff {hz now : Nat} {state : DnsProxyState} {call : DnsCall}
    {query : DnsQuery} {payload : List (BitVec 8)} :
    (∃ client, (dnsdCall hz now state call).1 = some (.fromCache query client payload)) ↔
      ∃ e, state.serves hz now query e call ∧
        payload = setDnsId query.header.id e.response := by
  cases call with
  | lan dpStart pkt =>
      show (∃ client, (dnsdLan hz now dpStart state pkt).1 = _) ↔ _
      refine ⟨fun h => ?_, fun h => ?_⟩
      · obtain ⟨client, h⟩ := h
        unfold dnsdLan at h
        simp only at h
        by_cases hudp : pkt.getD (dnsIpOffset + 9) 0 = ipprotoUdp
        · rw [if_pos hudp] at h
          unfold dnsdCpProcessLanUdpQuery at h
          split at h
          · exact absurd h (by simp)
          rename_i henabled
          split at h
          · exact absurd h (by simp)
          rename_i data hdata
          split at h
          · exact absurd h (by simp)
          rename_i query' hquery
          unfold dnsResolve at h
          split at h
          · exact absurd (Option.some.inj h) (by simp)
          rename_i hstatic
          split at h
          · rename_i e cache hlookup
            obtain ⟨rfl, -, rfl⟩ := DnsEvent.fromCache.inj (Option.some.inj h)
            exact ⟨e, ⟨hudp, by simpa using henabled, data, hdata, hquery, hstatic,
              congrArg Prod.fst hlookup⟩, rfl⟩
          · exact absurd h dnsForwardQuery_ne_fromCache
        · rw [if_neg hudp] at h
          split at h
          · obtain ⟨_, _, hanswer⟩ := dnsdCpProcessLanTcpQuery_event _ h
            exact absurd hanswer (by simp)
          · exact absurd h (by simp)
      · obtain ⟨e, ⟨hudp, henabled, data, hdata, hquery, hstatic, hlookup⟩, rfl⟩ := h
        refine ⟨dnsClientOf pkt query, ?_⟩
        unfold dnsdLan
        simp only
        rw [if_pos hudp]
        unfold dnsdCpProcessLanUdpQuery
        rw [if_neg (by simp [henabled]), hdata]
        simp only [hquery]
        unfold dnsResolve
        rw [hstatic]
        simp only
        rcases hboth : state.cache.lookup hz now query.question.name query.question.qtype with
          ⟨found, cache⟩
        rw [hboth] at hlookup
        obtain rfl : found = some e := hlookup
        rfl
  | wan pkt =>
      refine ⟨fun h => ?_, fun h => h.choose_spec.1.elim⟩
      obtain ⟨client, h⟩ := h
      have hevent : (dnsdCpProcessWanUdpResponse hz now state pkt).1 =
          some (.fromCache query client payload) := h
      unfold dnsdCpProcessWanUdpResponse at hevent
      split at hevent
      · exact absurd hevent (by simp)
      · split at hevent
        · exact absurd hevent (by simp)
        · exact absurd (Option.some.inj hevent) (by simp)
  | sessionUp | sessionDown | flushCache | setDnsProxy | addRecord | removeRecord | clearRecords =>
      exact ⟨fun h => absurd h.choose_spec (by simp [dnsdCall]), fun h => h.choose_spec.1.elim⟩

/-! ### Records, and when they were received -/

/-- The records that a message holds, of all three sections. -/
def RecordOf (payload : List (BitVec 8)) (r : DnsRecord) : Prop :=
  ∃ qs rs last closed, Reading payload qs rs last ∧ (closed, r) ∈ rs ∧
    rs.length ≤ (dnsHeader payload).ancount.toNat + (be16At payload 8).toNat +
      (be16At payload 10).toNat

/-- The answers that the parser copies out are records of the message. -/
theorem recordOf_answer {payload : List (BitVec 8)} {m : DnsMessage} {r : DnsRecord}
    (hm : dnsParseMessage payload = some m) (hr : r ∈ m.answers) : RecordOf payload r := by
  obtain ⟨-, qs, rs, last, hreading, henough, rfl⟩ := dnsParseMessage_iff.mp hm
  obtain ⟨⟨closed, r'⟩, hmem, rfl⟩ := List.mem_map.mp (List.mem_of_mem_take hr)
  refine ⟨qs, rs, last, closed, hreading, hmem, ?_⟩
  rcases henough with henough | henough
  · omega
  · omega

/-- The proxy after a sequence of calls. -/
def dnsAfter (hz : Nat) (ls : List (Nat × DnsCall)) : DnsSystem :=
  ls.foldl (DnsSystem.step hz) DnsSystem.start

/-- A message from the WAN, and the time at which it arrived. -/
def ReceivedAt (hz : Nat) (ls : List (Nat × DnsCall)) (time : Nat) (data : List (BitVec 8)) :
    Prop :=
  ∃ before dt pkt after, ls = before ++ (dt, .wan pkt) :: after ∧ dnsUdpPayload pkt = some data ∧
    time = (dnsAfter hz before).now + dt

theorem now_le_foldl {hz : Nat} (s : DnsSystem) (ls : List (Nat × DnsCall)) :
    s.now ≤ (ls.foldl (DnsSystem.step hz) s).now := by
  induction ls generalizing s with
  | nil => exact Nat.le_refl _
  | cons l rest ih => exact Nat.le_trans (Nat.le_add_right _ l.1) (ih (s.step hz l))

/-- What was received was received before now. -/
theorem ReceivedAt.le {hz : Nat} {ls : List (Nat × DnsCall)} {time : Nat} {data : List (BitVec 8)}
    (h : ReceivedAt hz ls time data) : time ≤ (dnsAfter hz ls).now := by
  obtain ⟨before, dt, pkt, after, rfl, -, rfl⟩ := h
  unfold dnsAfter
  rw [List.foldl_append, List.foldl_cons]
  exact now_le_foldl
    ((before.foldl (DnsSystem.step hz) DnsSystem.start).step hz (dt, .wan pkt)) after

theorem ReceivedAt.snoc {hz : Nat} {ls : List (Nat × DnsCall)} {time : Nat} {data : List (BitVec 8)}
    (l : Nat × DnsCall) (h : ReceivedAt hz ls time data) : ReceivedAt hz (ls ++ [l]) time data := by
  obtain ⟨before, dt, pkt, after, rfl, hdata, htime⟩ := h
  exact ⟨before, dt, pkt, after ++ [l], by simp, hdata, htime⟩

/-- A response in the cache was received, but for its identifier. -/
def WasReceived (hz : Nat) (ls : List (Nat × DnsCall)) (e : DnsCacheEntry) : Prop :=
  ∃ time data, ReceivedAt hz ls time data ∧ e.response.drop 2 = data.drop 2

theorem dnsAfter_snoc (hz : Nat) (ls : List (Nat × DnsCall)) (l : Nat × DnsCall) :
    dnsAfter hz (ls ++ [l]) = (dnsAfter hz ls).step hz l := by
  unfold dnsAfter
  rw [List.foldl_append]
  rfl

/-- One call leaves in the cache what was received before, or is received by it. -/
theorem wasReceived_step {hz : Nat} {ls : List (Nat × DnsCall)} (l : Nat × DnsCall)
    (h : ∀ e, (dnsAfter hz ls).proxy.cache.Mem e → WasReceived hz ls e) :
    ∀ e, (dnsAfter hz (ls ++ [l])).proxy.cache.Mem e → WasReceived hz (ls ++ [l]) e := by
  obtain ⟨dt, call⟩ := l
  rw [dnsAfter_snoc]
  have hmove := dnsdCall_move hz ((dnsAfter hz ls).now + dt) (dnsAfter hz ls).proxy call
  have hproxy : ((dnsAfter hz ls).step hz (dt, call)).proxy =
      (dnsdCall hz ((dnsAfter hz ls).now + dt) (dnsAfter hz ls).proxy call).2 := rfl
  rw [hproxy]
  generalize (dnsdCall hz ((dnsAfter hz ls).now + dt) (dnsAfter hz ls).proxy call).1 = event
    at hmove
  generalize (dnsdCall hz ((dnsAfter hz ls).now + dt) (dnsAfter hz ls).proxy call).2 = proxy
    at hmove ⊢
  have hold : ∀ e, (dnsAfter hz ls).proxy.cache.Mem e → WasReceived hz (ls ++ [(dt, call)]) e := by
    intro e he
    obtain ⟨time, data, hreceived, hdrop⟩ := h e he
    exact ⟨time, data, hreceived.snoc _, hdrop⟩
  intro e he
  cases hmove with
  | quiet _ _ hcache => exact hold e (hcache e he)
  | clear _ hcache => exact hold e (hcache e he)
  | hit _ _ _ _ hcache => exact hold e (hcache e he)
  | forward _ _ _ hcache => exact hold e (hcache e he)
  | stale => exact hold e he
  | @relay pkt data i hdata hfound =>
      have hin : (dnsCacheResponse hz ((dnsAfter hz ls).now + dt) (dnsAfter hz ls).proxy.cache
          ((dnsAfter hz ls).proxy.pending i) data).Mem e := he
      unfold dnsCacheResponse at hin
      split at hin
      · exact hold e hin
      · split at hin
        · rcases DnsCache.mem_insert_cases hin with hin | ⟨-, hresponse, -⟩
          · exact hold e hin
          · exact ⟨_, data, ⟨ls, dt, pkt, [], rfl, hdata, rfl⟩, by rw [hresponse, drop_setDnsId]⟩
        · exact hold e hin

/-- **Whatever is in the cache was received.** -/
theorem wasReceived_of_mem (hz : Nat) (ls : List (Nat × DnsCall)) :
    ∀ e, (dnsAfter hz ls).proxy.cache.Mem e → WasReceived hz ls e := by
  induction ls using List.reverseRecOn with
  | nil => exact fun e he => absurd he (DnsCache.not_mem_empty e)
  | append_singleton ls l ih => exact wasReceived_step l ih

/-! ### Fresh answers -/

/-- A record of an answer that was received so long ago: its time is not over, the TTL in the
answer is no more than what is left of it, and it may be kept at all. -/
structure FreshRecord (hz age : Nat) (r : DnsRecord) : Prop where
  within : age ≤ r.ttl.toNat * hz
  written : r.ttl.toNat * hz ≤ r.ttl.toNat * hz - age
  kept : r.ttl ≠ 0

/-- With the TTL as it was received there is nothing to spare. -/
theorem freshRecord_iff {hz age : Nat} {r : DnsRecord} :
    FreshRecord hz age r ↔ age = 0 ∧ r.ttl ≠ 0 := by
  refine ⟨fun h => ⟨?_, h.kept⟩, fun h => ?_⟩
  · have := h.within
    have := h.written
    omega
  · obtain ⟨rfl, hkept⟩ := h
    exact ⟨Nat.zero_le _, Nat.le_refl _, hkept⟩

/-- What a call sends from the cache was received, and every record of it is fresh. -/
def FreshAnswer (hz : Nat) (before : List (Nat × DnsCall)) (l : Nat × DnsCall) : Prop :=
  ∀ query client payload,
    (dnsdCall hz ((dnsAfter hz before).now + l.1) (dnsAfter hz before).proxy l.2).1 =
        some (.fromCache query client payload) →
      ∃ time data, ReceivedAt hz before time data ∧ payload.drop 2 = data.drop 2 ∧
        ∀ r, RecordOf payload r → FreshRecord hz ((dnsAfter hz before).now + l.1 - time) r

/-- Whatever entry a call is answered from: it holds no record, or its response is received at
this very moment and no record of it has the TTL zero. -/
def InstantAnswer (hz : Nat) (before : List (Nat × DnsCall)) (l : Nat × DnsCall) : Prop :=
  ∀ query e, (dnsAfter hz before).proxy.serves hz ((dnsAfter hz before).now + l.1) query e l.2 →
    (∀ r, ¬ RecordOf (setDnsId query.header.id e.response) r) ∨
      (∃ data, ReceivedAt hz before ((dnsAfter hz before).now + l.1) data ∧
        e.response.drop 2 = data.drop 2) ∧
      ∀ r, RecordOf (setDnsId query.header.id e.response) r → r.ttl ≠ 0

theorem DnsProxyState.serves_mem {hz now : Nat} {state : DnsProxyState} {query : DnsQuery}
    {e : DnsCacheEntry} {call : DnsCall} (h : state.serves hz now query e call) :
    state.cache.Mem e := by
  cases call with
  | lan dpStart pkt =>
      obtain ⟨-, -, data, -, -, -, hlookup⟩ := h
      exact (DnsCache.mem_of_lookup hlookup).1
  | wan | sessionUp | sessionDown | flushCache | setDnsProxy | addRecord | removeRecord |
      clearRecords => exact h.elim

/-- **One answer is fresh exactly if it is an answer of the moment.** -/
theorem freshAnswer_iff (hz : Nat) (before : List (Nat × DnsCall)) (l : Nat × DnsCall) :
    FreshAnswer hz before l ↔ InstantAnswer hz before l := by
  refine ⟨fun h query e hserves => ?_, fun h query client payload hevent => ?_⟩
  · obtain ⟨client, hevent⟩ := dnsdCall_fromCache_iff.mpr ⟨e, hserves, rfl⟩
    obtain ⟨time, data, hreceived, hdrop, hfresh⟩ := h query client _ hevent
    rw [drop_setDnsId] at hdrop
    by_cases hnone : ∀ r, ¬ RecordOf (setDnsId query.header.id e.response) r
    · exact Or.inl hnone
    obtain ⟨r, hr⟩ := not_forall_not.mp hnone
    have hnow : time = (dnsAfter hz before).now + l.1 := by
      have hage := (freshRecord_iff.mp (hfresh r hr)).1
      have hle := hreceived.le
      omega
    subst hnow
    exact Or.inr ⟨⟨data, hreceived, hdrop⟩, fun r hr => (hfresh r hr).kept⟩
  · obtain ⟨e, hserves, rfl⟩ := dnsdCall_fromCache_iff.mp ⟨client, hevent⟩
    rcases h query e hserves with hnone | ⟨⟨data, hreceived, hdrop⟩, hkept⟩
    · obtain ⟨time, data, hreceived, hdrop⟩ :=
        wasReceived_of_mem hz before e (DnsProxyState.serves_mem hserves)
      exact ⟨time, data, hreceived, hdrop, fun r hr => absurd hr (hnone r)⟩
    · refine ⟨_, data, hreceived, hdrop, fun r hr => freshRecord_iff.mpr ⟨?_, hkept r hr⟩⟩
      exact Nat.sub_self _

/--
**No answer from the cache is stale exactly in the runs in which each is an answer of the moment.**
Along any sequence of calls, every answer from the cache is a response that was received, with
every record of it still within its TTL, with no TTL above what is left, and none that may not be
kept, if and only if each of them holds no record, or was received at the very moment at which it
is served and has no record with the TTL zero.
-/
theorem answersFresh_iff (hz : Nat) (ls : List (Nat × DnsCall)) :
    (∀ before l after, ls = before ++ l :: after → FreshAnswer hz before l) ↔
      ∀ before l after, ls = before ++ l :: after → InstantAnswer hz before l := by
  refine ⟨fun h before l after hls => ?_, fun h before l after hls => ?_⟩
  · exact (freshAnswer_iff hz before l).mp (h before l after hls)
  · exact (freshAnswer_iff hz before l).mpr (h before l after hls)

set_option maxRecDepth 8000 in
/-- A client hears that an address is good for a minute, asks again a second later, and hears that
it is good for a minute. -/
theorem answer_not_aged :
    ¬ ∀ before l after,
      [(0, .sessionUp 8 0), (0, .lan true (dnsFrame (dnsAsk 0x61))),
          (0, .wan (dnsFrame (dnsTell 0x61))), (1, .lan true (dnsFrame (dnsAsk 0x61)))] =
        before ++ l :: after → FreshAnswer 1 before l := by
  intro h
  have hfresh := h [(0, .sessionUp 8 0), (0, .lan true (dnsFrame (dnsAsk 0x61))),
    (0, .wan (dnsFrame (dnsTell 0x61)))] (1, .lan true (dnsFrame (dnsAsk 0x61))) [] rfl
  obtain ⟨time, data, hreceived, -, hrecords⟩ := hfresh ⟨⟨7, 0x100, 1, 0⟩, ⟨[[0x61]], 1, 1⟩⟩
    ⟨7, 0, 0, 0, 0⟩ (setDnsId 7 (dnsTell 0x61)) (by decide)
  have hparsed : dnsParseMessage (setDnsId 7 (dnsTell 0x61)) =
      some ⟨⟨⟨7, 0x8180, 1, 1⟩, some ⟨[[0x61]], 1, 1⟩, 1, 60⟩,
        [⟨[[0x61]], 1, 1, 60, 4, [1, 2, 3, 4]⟩]⟩ := by decide
  have hage := (freshRecord_iff.mp (hrecords _ (recordOf_answer hparsed List.mem_cons_self))).1
  -- Everything before was at time zero.
  have hle := hreceived.le
  have hstart : (dnsAfter 1 [(0, .sessionUp 8 0), (0, .lan true (dnsFrame (dnsAsk 0x61))),
    (0, .wan (dnsFrame (dnsTell 0x61)))]).now = 0 := rfl
  rw [hstart] at hage hle
  dsimp only at hage
  omega

end FastRG
