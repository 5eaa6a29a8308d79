/-
Where the answers of the DNS cache come from.

A response is cached under the name and type of the query whose identifier it carries.  Its own
question is parsed, and then nothing is done with it: whoever can guess an identifier decides
what is cached.  And what it is cached under is a text, which names that hold dots or NUL bytes
inside a label share with others.

In a run in which neither happens, every answer from the cache is a response that was received
for the same name and type: the name of an entry is the text of a plain name in the question of
the response it holds, and a plain name is known by its text.
-/
import FastRG.Lib.Run
import FastRG.Proofs.DnsMoves

namespace FastRG

/-- The labels hold a message from the WAN that is this response, to this question. -/
def ReceivedFor (ls : List (Nat × DnsCall)) (labels : List (List (BitVec 8))) (qtype : BitVec 16)
    (payload : List (BitVec 8)) : Prop :=
  ∃ dt pkt data resp q, (dt, DnsCall.wan pkt) ∈ ls ∧ dnsUdpPayload pkt = some data ∧
    dnsParseResponse data = some resp ∧ resp.question = some q ∧ sameName q.labels labels ∧
    q.qtype = qtype ∧ payload.drop 2 = data.drop 2

/-- Every name asked for is plain, and a response that gets cached is for a plain name, and has
the name and type of the query it is taken to answer. -/
def DnsSystem.faithful (hz : Nat) (s : DnsSystem) (l : Nat × DnsCall) : Prop :=
  match l.2 with
  | .lan _ pkt =>
      ∀ data query, dnsUdpPayload pkt = some data → dnsParseQuery data = some query →
        plainName query.question.labels
  | .wan pkt =>
      ∀ data i resp, dnsUdpPayload pkt = some data →
        (findPendingByUpstreamId hz (s.now + l.1) s.proxy.pending (be16At data 0)).1 = some i →
        dnsParseResponse data = some resp → resp.header.flags &&& 0x0F = dnsRcodeOk →
        0 < resp.answerCount →
        ∃ q, resp.question = some q ∧ plainName q.labels ∧
          q.name = (s.proxy.pending i).domain ∧ q.qtype = (s.proxy.pending i).qtype
  | _ => True

/-- An entry holds a response to a question of a plain name that the entry is under. -/
def CachedFrom (ls : List (Nat × DnsCall)) (e : DnsCacheEntry) : Prop :=
  ∃ dt pkt data resp q, (dt, DnsCall.wan pkt) ∈ ls ∧ dnsUdpPayload pkt = some data ∧
    dnsParseResponse data = some resp ∧ resp.question = some q ∧ plainName q.labels ∧
    domainEq e.domain q.name = true ∧ e.qtype = q.qtype ∧ e.response.drop 2 = data.drop 2

@[simp] theorem drop_setDnsId (id : BitVec 16) (data : List (BitVec 8)) :
    (setDnsId id data).drop 2 = data.drop 2 := rfl

theorem domainEq_iff {a b : List (BitVec 8)} :
    domainEq a b = true ↔ a.map toLower = b.map toLower := beq_iff_eq

theorem isFor_iff {domain : List (BitVec 8)} {qtype : BitVec 16} {e : DnsCacheEntry} :
    DnsCache.isFor domain qtype e = true ↔ domainEq e.domain domain = true ∧ e.qtype = qtype := by
  simp [DnsCache.isFor]

theorem CachedFrom.snoc {ls : List (Nat × DnsCall)} {e : DnsCacheEntry} (l : Nat × DnsCall)
    (h : CachedFrom ls e) : CachedFrom (ls ++ [l]) e := by
  obtain ⟨dt, pkt, data, resp, q, hmem, hrest⟩ := h
  exact ⟨dt, pkt, data, resp, q, List.mem_append_left _ hmem, hrest⟩

theorem ReceivedFor.snoc {ls : List (Nat × DnsCall)} {labels : List (List (BitVec 8))}
    {qtype : BitVec 16} {payload : List (BitVec 8)} (l : Nat × DnsCall)
    (h : ReceivedFor ls labels qtype payload) : ReceivedFor (ls ++ [l]) labels qtype payload := by
  obtain ⟨dt, pkt, data, resp, q, hmem, hrest⟩ := h
  exact ⟨dt, pkt, data, resp, q, List.mem_append_left _ hmem, hrest⟩

/-- A query for a plain name that an entry is for: the entry's response was to that question. -/
theorem CachedFrom.received {ls : List (Nat × DnsCall)} {e : DnsCacheEntry}
    {data : List (BitVec 8)} {query : DnsQuery} (h : CachedFrom ls e)
    (hquery : dnsParseQuery data = some query) (hplain : plainName query.question.labels)
    (hfor : DnsCache.isFor query.question.name query.question.qtype e = true) :
    ReceivedFor ls query.question.labels query.question.qtype
      (setDnsId query.header.id e.response) := by
  obtain ⟨dt, pkt, data', resp, q, hmem, hdata, hresp, hq, hqplain, hname, htype, hdrop⟩ := h
  obtain ⟨hdomain, hqtype⟩ := isFor_iff.mp hfor
  have htexts : q.name = query.question.name := by
    have hlower : q.name.map toLower = query.question.name.map toLower := by
      rw [← domainEq_iff.mp hname, domainEq_iff.mp hdomain]
    rwa [DnsQuestion.map_toLower_name, DnsQuestion.map_toLower_name] at hlower
  refine ⟨dt, pkt, data', resp, q, hmem, hdata, hresp, hq, ?_, ?_, ?_⟩
  · exact sameName_of_name_eq hqplain hplain (fits_of_dnsParseResponse hresp hq).nonempty
      (fits_of_dnsParseQuery hquery).nonempty htexts
  · rw [← htype, hqtype]
  · rw [drop_setDnsId, hdrop]

/-- What a response that meets the guard leaves in the cache. -/
theorem cachedFrom_of_mem_dnsCacheResponse {hz now dt : Nat} {cache : DnsCache} {p : DnsPending}
    {pkt data : List (BitVec 8)} {e : DnsCacheEntry} {ls : List (Nat × DnsCall)}
    (hdata : dnsUdpPayload pkt = some data) (hmem : (dt, DnsCall.wan pkt) ∈ ls)
    (hgood : ∀ resp, dnsParseResponse data = some resp →
      resp.header.flags &&& 0x0F = dnsRcodeOk → 0 < resp.answerCount →
      ∃ q, resp.question = some q ∧ plainName q.labels ∧ q.name = p.domain ∧ q.qtype = p.qtype)
    (he : (dnsCacheResponse hz now cache p data).Mem e) : cache.Mem e ∨ CachedFrom ls e := by
  unfold dnsCacheResponse at he
  split at he
  · exact .inl he
  · rename_i resp hresp
    split at he
    · rename_i hkeep
      obtain ⟨q, hq, hplain, hname, htype⟩ := hgood resp hresp hkeep.1 hkeep.2
      have hlen : p.domain.length ≤ dnsMaxDomainLen := by
        rw [← hname]
        exact length_name_le (fits_of_dnsParseResponse hresp hq)
      rcases DnsCache.mem_insert hlen he with hold | ⟨hfor, hresponse⟩
      · exact .inl hold
      · obtain ⟨hdomain, hqtype⟩ := isFor_iff.mp hfor
        refine .inr ⟨dt, pkt, data, resp, q, hmem, hdata, hresp, hq, hplain, ?_, ?_, ?_⟩
        · rw [hname]
          exact hdomain
        · rw [htype]
          exact hqtype
        · rw [hresponse, drop_setDnsId]
    · exact .inl he

/-- Every entry came from a response to a plain name, and every answer was such a response. -/
structure CacheOrigin (ls : List (Nat × DnsCall)) (s : DnsSystem) : Prop where
  entries : ∀ e, s.proxy.cache.Mem e → CachedFrom ls e
  answers : ∀ query client payload, DnsEvent.fromCache query client payload ∈ s.log →
    ReceivedFor ls query.question.labels query.question.qtype payload

/-- A call that sends nothing from the cache and adds nothing to it. -/
theorem CacheOrigin.keep {ls : List (Nat × DnsCall)} {s s' : DnsSystem} {event : Option DnsEvent}
    (l : Nat × DnsCall) (h : CacheOrigin ls s)
    (hcache : ∀ e, s'.proxy.cache.Mem e → s.proxy.cache.Mem e ∨ CachedFrom (ls ++ [l]) e)
    (hlog : s'.log = event.toList ++ s.log)
    (hevent : ∀ query client payload, DnsEvent.fromCache query client payload ∈ event →
      ReceivedFor (ls ++ [l]) query.question.labels query.question.qtype payload) :
    CacheOrigin (ls ++ [l]) s' := by
  refine ⟨?_, ?_⟩
  · intro e he
    rcases hcache e he with hold | hnew
    · exact (h.entries e hold).snoc l
    · exact hnew
  · intro query client payload hmem
    rw [hlog] at hmem
    rcases List.mem_append.mp hmem with hnow | hold
    · exact hevent query client payload (Option.mem_toList.mp hnow)
    · exact (h.answers query client payload hold).snoc l

/-- One step keeps it. -/
theorem cacheOrigin_step {hz : Nat} {ls : List (Nat × DnsCall)} {s : DnsSystem}
    (l : Nat × DnsCall) (h : CacheOrigin ls s) (hguard : s.faithful hz l) :
    CacheOrigin (ls ++ [l]) (s.step hz l) := by
  obtain ⟨dt, call⟩ := l
  have hmove := dnsdCall_move hz (s.now + dt) s.proxy call
  have hlog : (s.step hz (dt, call)).log =
      (dnsdCall hz (s.now + dt) s.proxy call).1.toList ++ s.log := rfl
  have hproxy : (s.step hz (dt, call)).proxy = (dnsdCall hz (s.now + dt) s.proxy call).2 := rfl
  generalize (dnsdCall hz (s.now + dt) s.proxy call).1 = event at hmove hlog
  generalize (dnsdCall hz (s.now + dt) s.proxy call).2 = proxy at hmove hproxy
  have hlast : (dt, call) ∈ ls ++ [(dt, call)] := List.mem_append_right _ List.mem_cons_self
  cases hmove with
  | quiet hpend hnext hcache hevent =>
      refine h.keep _ (fun e he => .inl (hcache e (hproxy ▸ he))) hlog ?_
      intro query client payload hmem
      obtain ⟨client', payload', hanswer⟩ := hevent _ hmem
      exact absurd hanswer (by simp)
  | clear hpend hcache =>
      refine h.keep _ (fun e he => .inl (hcache e (hproxy ▸ he))) hlog ?_
      intro query client payload hmem
      exact absurd hmem (by simp)
  | hit hdata hquery hmem hfor hcache =>
      refine h.keep _ (fun e he => .inl (hcache e ?_)) hlog ?_
      · rwa [hproxy] at he
      · intro query client payload hsent
        obtain ⟨rfl, -, rfl⟩ := DnsEvent.fromCache.inj (Option.some.inj hsent)
        have hplain := hguard _ _ hdata hquery
        exact ((h.entries _ hmem).snoc _).received hquery hplain hfor
  | forward hfree hpend hnext hcache =>
      refine h.keep _ (fun e he => .inl (hcache e (hproxy ▸ he))) hlog ?_
      intro query client payload hmem
      exact absurd hmem (by simp)
  | stale =>
      refine h.keep _ (fun e he => .inl ?_) hlog ?_
      · rwa [hproxy] at he
      · intro query client payload hmem
        exact absurd hmem (by simp)
  | @relay pkt data i hdata hfound =>
      refine h.keep _ (fun e he => ?_) hlog ?_
      · rw [hproxy] at he
        refine cachedFrom_of_mem_dnsCacheResponse hdata hlast ?_ he
        intro resp hresp hok hcount
        exact hguard data i resp hdata (congrArg Prod.fst hfound) hresp hok hcount
      · intro query client payload hmem
        exact absurd hmem (by simp)

/-- Every run does. -/
theorem run_cacheOrigin {hz : Nat} {ls : List (Nat × DnsCall)} {s : DnsSystem}
    (h : Run (DnsSystem.step hz) (DnsSystem.faithful hz) DnsSystem.start ls s) :
    CacheOrigin ls s := by
  induction h with
  | nil =>
      refine ⟨fun e he => absurd he (DnsCache.not_mem_empty e), ?_⟩
      intro query client payload hmem
      exact absurd hmem List.not_mem_nil
  | snoc hrun l hl ih => exact cacheOrigin_step l ih hl

/--
**Cached answers are answers to the question.**  In every run in which no name asked for or
cached holds a dot or a NUL inside a label, and every response that gets cached repeats the name
and type of the query whose identifier it carries, whatever is sent from the cache is, but for
its identifier, a message that was received from the WAN as a response with the client's name,
label by label and but for case, and the client's type in its question.
-/
theorem run_fromCache (hz : Nat) {ls : List (Nat × DnsCall)} {s : DnsSystem}
    (h : Run (DnsSystem.step hz) (DnsSystem.faithful hz) DnsSystem.start ls s)
    (query : DnsQuery) (client : DnsClient) (payload : List (BitVec 8))
    (hsent : DnsEvent.fromCache query client payload ∈ s.log) :
    ReceivedFor ls query.question.labels query.question.qtype payload :=
  (run_cacheOrigin h).answers query client payload hsent

/-- A frame with a DNS message over UDP. -/
def dnsFrame (data : List (BitVec 8)) : List (BitVec 8) :=
  List.replicate 27 0 ++ [17] ++ List.replicate 14 0 ++
    be16Bytes (BitVec.ofNat 16 (data.length + 8)) ++ [0, 0] ++ data

/-- A query for the address of a name of one letter. -/
def dnsAsk (letter : BitVec 8) : List (BitVec 8) :=
  [0, 7, 1, 0, 0, 1, 0, 0, 0, 0, 0, 0, 1, letter, 0, 0, 1, 0, 1]

/-- A response under the first identifier, with an address for a name of one letter. -/
def dnsTell (letter : BitVec 8) : List (BitVec 8) :=
  [0, 1, 0x81, 0x80, 0, 1, 0, 1, 0, 0, 0, 0, 1, letter, 0, 0, 1, 0, 1,
    0xC0, 0x0C, 0, 1, 0, 1, 0, 0, 0, 60, 0, 4, 1, 2, 3, 4]

/-- A client asks for `a`, hears about a name, and asks for `a` again. -/
def dnsAskTwice (letter : BitVec 8) : List (Nat × DnsCall) :=
  [(0, .sessionUp 8 0), (0, .lan true (dnsFrame (dnsAsk 0x61))),
    (0, .wan (dnsFrame (dnsTell letter))), (0, .lan true (dnsFrame (dnsAsk 0x61)))]

set_option maxRecDepth 8000 in
/-- The second time it is told what the first response said. -/
theorem run_fromCache_twice :
    ReceivedFor (dnsAskTwice 0x61) [[0x61]] 1 (setDnsId 7 (dnsTell 0x61)) := by
  have hrun : Run (DnsSystem.step 1) (DnsSystem.faithful 1) DnsSystem.start (dnsAskTwice 0x61)
      ((dnsAskTwice 0x61).foldl (DnsSystem.step 1) DnsSystem.start) := by
    have hlan : ∀ s, DnsSystem.faithful 1 s (0, .lan true (dnsFrame (dnsAsk 0x61))) := by
      intro s data query hdata hquery
      have hd : dnsUdpPayload (dnsFrame (dnsAsk 0x61)) = some (dnsAsk 0x61) := by decide
      have hq : dnsParseQuery (dnsAsk 0x61) =
          some ⟨⟨7, 0x100, 1, 0⟩, ⟨[[0x61]], 1, 1⟩⟩ := by decide
      rw [hd] at hdata
      rw [← Option.some.inj hdata, hq] at hquery
      rw [← Option.some.inj hquery]
      decide
    refine .snoc (.snoc (.snoc (.snoc .nil _ trivial) _ (hlan _)) _ ?_) _ (hlan _)
    intro data i resp hdata hfound hresp hok hcount
    have hd : dnsUdpPayload (dnsFrame (dnsTell 0x61)) = some (dnsTell 0x61) := by decide
    have hr : dnsParseResponse (dnsTell 0x61) =
        some ⟨⟨1, 0x8180, 1, 1⟩, some ⟨[[0x61]], 1, 1⟩, 1, 60⟩ := by decide
    rw [hd] at hdata
    rw [← Option.some.inj hdata] at hfound hresp
    rw [hr] at hresp
    rw [← Option.some.inj hresp]
    have hslot : (⟨0, by decide⟩ : Fin dnsMaxPendingQueries) = i := Option.some.inj hfound
    subst hslot
    exact ⟨_, rfl, by decide, by decide, by decide⟩
  exact run_fromCache 1 hrun ⟨⟨7, 0x100, 1, 0⟩, ⟨[[0x61]], 1, 1⟩⟩ ⟨7, 0, 0, 0, 0⟩
    (setDnsId 7 (dnsTell 0x61)) (by decide)

set_option maxRecDepth 8000 in
/-- A client asks for `a`, a message with the right identifier speaks of `b`, and whoever asks
for `a` next is told about `b`. -/
theorem fromCache_poisoned :
    ∃ query client payload,
      Run (DnsSystem.step 1) (fun _ _ => True) DnsSystem.start (dnsAskTwice 0x62)
        ((dnsAskTwice 0x62).foldl (DnsSystem.step 1) DnsSystem.start) ∧
      DnsEvent.fromCache query client payload ∈
        ((dnsAskTwice 0x62).foldl (DnsSystem.step 1) DnsSystem.start).log ∧
      ¬ ReceivedFor (dnsAskTwice 0x62) query.question.labels query.question.qtype payload := by
  refine ⟨⟨⟨7, 0x100, 1, 0⟩, ⟨[[0x61]], 1, 1⟩⟩, ⟨7, 0, 0, 0, 0⟩, setDnsId 7 (dnsTell 0x62), ?_, ?_, ?_⟩
  · exact Run.of_labels _ _ fun _ _ _ => trivial
  · decide
  · intro hreceived
    obtain ⟨dt, pkt, data, resp, q, hmem, hdata, hresp, hq, hname, -, -⟩ := hreceived
    have hpkt : dt = 0 ∧ pkt = dnsFrame (dnsTell 0x62) := by simpa [dnsAskTwice] using hmem
    have hd : dnsUdpPayload (dnsFrame (dnsTell 0x62)) = some (dnsTell 0x62) := by decide
    have hr : dnsParseResponse (dnsTell 0x62) =
        some ⟨⟨1, 0x8180, 1, 1⟩, some ⟨[[0x62]], 1, 1⟩, 1, 60⟩ := by decide
    rw [hpkt.2, hd] at hdata
    rw [← Option.some.inj hdata, hr] at hresp
    rw [← Option.some.inj hresp] at hq
    rw [← Option.some.inj hq] at hname
    exact absurd hname (by decide)

end FastRG
