/-
The bound of the DNS cache.

The cache counts its entries, but the count is not bounded: room is made in the chain of the new
entry alone, and when that chain is empty a full cache grows.  It stays within its bound exactly as
long as this does not happen (`step_bounded`), and is a map with a bound exactly then
(`cache_map_iff`).  Half a thousand entries with types that share two chains fill the cache; one
more, of another chain, is one too many (`cache_overfull`).
-/
import FastRG.Proofs.DnsCacheMap
import Mathlib.Algebra.BigOperators.Group.Finset.Basic

namespace FastRG

namespace DnsCacheSystem

variable {hz now : Nat} {c : DnsCache} {idx : Nat}

/-! ### The bound -/

/-- A new entry put into a full cache finds an entry in its chain. -/
def findsRoom (s : DnsCacheSystem) (l : Nat × DnsCacheOp) : Prop :=
  match l.2 with
  | .insert domain qtype response _ alloc =>
      response.length ≠ 0 → response.length ≤ dnsMaxPacketLen → alloc = true →
        (s.cache.buckets (DnsCache.hash domain qtype)).any (DnsCache.isFor domain qtype) = false →
        dnsCacheMaxEntries ≤ s.cache.entryCount →
        s.cache.buckets (DnsCache.hash domain qtype) ≠ []
  | _ => True

/-- Room is made in a chain with an entry. -/
theorem makeRoom_count (hz now : Nat) (hne : c.buckets idx ≠ [])
    (hle : c.entryCount ≤ dnsCacheMaxEntries)
    (hlength : (c.buckets idx).length ≤ c.entryCount) :
    (c.makeRoom hz now idx).entryCount < dnsCacheMaxEntries := by
  have hpos := List.length_pos_iff.mpr hne
  have hfilter := List.length_filter_le (fun e => !DnsCache.expired hz now e) (c.buckets idx)
  unfold DnsCache.makeRoom
  simp only
  generalize ((c.buckets idx).filter fun e => !DnsCache.expired hz now e) = swept at hfilter
  cases hargmin : swept.argmin DnsCacheEntry.insertTime with
  | none =>
      have hnil : swept = [] := List.argmin_eq_none.mp hargmin
      simp only [DnsCache.setBucket, hnil, List.length_nil]
      omega
  | some oldest =>
      simp only
      split
      · simp only [DnsCache.setBucket]
        omega
      · simp only [DnsCache.setBucket]
        omega

/-- No room is made in an empty chain. -/
theorem makeRoom_nil (hz now : Nat) (hnil : c.buckets idx = []) :
    (c.makeRoom hz now idx).entryCount = c.entryCount := by
  unfold DnsCache.makeRoom
  rw [hnil]
  rfl

/-- A call keeps the bound exactly when it finds room. -/
theorem step_bounded {s : DnsCacheSystem} (h : s.Tracked hz) (l : Nat × DnsCacheOp)
    (hle : s.cache.entryCount ≤ dnsCacheMaxEntries) :
    (s.step hz l).cache.entryCount ≤ dnsCacheMaxEntries ↔ s.findsRoom l := by
  obtain ⟨now, c, log⟩ := s
  obtain ⟨dt, op⟩ := l
  cases op with
  | insert domain qtype response ttl alloc =>
      have hle : c.entryCount ≤ dnsCacheMaxEntries := hle
      have hcounted : c.entryCount = Chains.size dnsCacheBucketCount c.buckets := h.counted
      have hlength := Chains.length_le_size (b := c.buckets) (hash_lt domain qtype)
      show (c.insertWith alloc hz (now + dt) domain qtype response ttl).2.entryCount ≤ _ ↔
        (response.length ≠ 0 → response.length ≤ dnsMaxPacketLen → alloc = true →
          (c.buckets (DnsCache.hash domain qtype)).any (DnsCache.isFor domain qtype) = false →
          dnsCacheMaxEntries ≤ c.entryCount → c.buckets (DnsCache.hash domain qtype) ≠ [])
      unfold DnsCache.insertWith
      simp only
      by_cases hrefused : response.length = 0 ∨ dnsMaxPacketLen < response.length
      · rw [if_pos hrefused]
        refine ⟨fun _ hne hfits => ?_, fun _ => hle⟩
        omega
      rw [if_neg hrefused]
      by_cases hany :
          (c.buckets (DnsCache.hash domain qtype)).any (DnsCache.isFor domain qtype) = true
      · rw [if_pos hany]
        refine ⟨fun _ _ _ _ hnone => ?_, fun _ => hle⟩
        rw [hany] at hnone
        cases hnone
      rw [if_neg hany]
      by_cases hfull : dnsCacheMaxEntries ≤ c.entryCount
      · rw [if_pos hfull]
        by_cases hnil : c.buckets (DnsCache.hash domain qtype) = []
        · have hsame := makeRoom_nil hz (now + dt) hnil
          cases alloc with
          | false =>
              refine ⟨fun _ _ _ hno => Bool.noConfusion hno, fun _ => ?_⟩
              rw [if_pos rfl, hsame]
              exact hle
          | true =>
              refine ⟨?_, ?_⟩
              · intro hbound
                simp only [DnsCache.setBucket, Bool.true_eq_false, if_false, hsame] at hbound
                omega
              · intro hroom
                rw [not_or, Nat.not_lt] at hrefused
                exact absurd hnil (hroom hrefused.1 hrefused.2 rfl (by simpa using hany) hfull)
        · have hroom := makeRoom_count hz (now + dt) hnil hle (by omega)
          refine ⟨fun _ _ _ _ _ _ => hnil, fun _ => ?_⟩
          split
          · exact Nat.le_of_lt hroom
          · exact hroom
      · rw [if_neg hfull]
        refine ⟨fun _ _ _ _ _ hcount => absurd hcount hfull, fun _ => ?_⟩
        split
        · exact hle
        · exact Nat.lt_of_not_le hfull
  | lookup domain qtype =>
      refine ⟨fun _ => trivial, fun _ => ?_⟩
      show (DnsCache.lookup hz (now + dt) c domain qtype).2.entryCount ≤ _
      unfold DnsCache.lookup
      simp only
      split
      · exact hle
      · split
        · exact Nat.le_trans (Nat.sub_le _ _) hle
        · exact hle
  | remove domain qtype =>
      refine ⟨fun _ => trivial, fun _ => ?_⟩
      show (c.remove domain qtype).2.entryCount ≤ _
      unfold DnsCache.remove
      simp only
      split
      · exact Nat.le_trans (Nat.sub_le _ _) hle
      · exact hle
  | flush => exact ⟨fun _ => trivial, fun _ => Nat.zero_le _⟩

/-! ### The law of the cache -/

/-- The entries of all chains. -/
def chainedEntries (c : DnsCache) : List DnsCacheEntry :=
  (List.range dnsCacheBucketCount).flatMap c.buckets

theorem length_chainedEntries (c : DnsCache) :
    (chainedEntries c).length = Chains.size dnsCacheBucketCount c.buckets := by
  have hrange (n : Nat) : ((List.range n).flatMap c.buckets).length = Chains.size n c.buckets := by
    unfold Chains.size
    induction n with
    | zero => rfl
    | succ n ih =>
        rw [List.range_succ, List.flatMap_append, List.length_append, ih, Finset.sum_range_succ]
        simp
  exact hrange dnsCacheBucketCount

/-- What the cache is as a map with a bound. -/
structure CacheLaw (hz : Nat) (s : DnsCacheSystem) : Prop where
  /-- A lookup, then or later, finds the current value of its key while it lives. -/
  lookup : ∀ dt domain qtype,
    (DnsCache.lookup hz (s.now + dt) s.cache domain qtype).1.map DnsCacheEntry.value =
      (current s.log (dnsCacheKey domain qtype)).filter fun v => !v.outlived hz (s.now + dt)
  placed : ∀ i, ∀ e ∈ s.cache.buckets i, DnsCache.hash e.domain e.qtype = i
  once : ((chainedEntries s.cache).map DnsCacheEntry.key).Nodup
  counted : s.cache.entryCount = (chainedEntries s.cache).length
  bounded : s.cache.entryCount ≤ dnsCacheMaxEntries
  /-- An insertion that drops the live entry of another key is one into a full cache. -/
  evicts : ∀ dt domain qtype response ttl alloc, ∀ i, ∀ e ∈ s.cache.buckets i,
    DnsCache.expired hz (s.now + dt) e = false → e.key ≠ dnsCacheKey domain qtype →
    (∀ j, e ∉ (s.cache.insertWith alloc hz (s.now + dt) domain qtype response ttl).2.buckets j) →
    dnsCacheMaxEntries ≤ s.cache.entryCount

/-- An entry of another key stays when a chain is renewed. -/
theorem mem_renew_of_mem {domain : List (BitVec 8)} {qtype : BitVec 16}
    {response : List (BitVec 8)} {ttl now : Nat} {l : List DnsCacheEntry} {e : DnsCacheEntry}
    (he : e ∈ l) (hfor : DnsCache.isFor domain qtype e = false) :
    e ∈ DnsCache.renew domain qtype response ttl now l := by
  induction l with
  | nil => exact he
  | cons x rest ih =>
      unfold DnsCache.renew
      rcases List.mem_cons.mp he with hxe | hrest
      · rw [if_neg (by rw [← hxe, hfor]; exact Bool.false_ne_true), hxe]
        exact List.mem_cons_self
      · split
        · exact List.mem_cons_of_mem _ hrest
        · exact List.mem_cons_of_mem _ (ih hrest)

/-- While the cache is not full an insertion drops no other key. -/
theorem insertWith_keeps {domain : List (BitVec 8)} {qtype : BitVec 16} (alloc : Bool)
    (response : List (BitVec 8)) (ttl : Nat) {i : Nat} {e : DnsCacheEntry}
    (hroom : c.entryCount < dnsCacheMaxEntries) (he : e ∈ c.buckets i)
    (hkey : e.key ≠ dnsCacheKey domain qtype) :
    e ∈ (c.insertWith alloc hz now domain qtype response ttl).2.buckets i := by
  have hfor : DnsCache.isFor domain qtype e = false :=
    Bool.eq_false_iff.mpr fun h => hkey ((isFor_iff_key domain qtype e).mp h)
  unfold DnsCache.insertWith
  simp only
  split
  · exact he
  · split
    · by_cases hi : i = DnsCache.hash domain qtype
      · rw [hi] at he ⊢
        simp only [DnsCache.setBucket, if_true]
        exact mem_renew_of_mem he hfor
      · simp only [DnsCache.setBucket, if_neg hi]
        exact he
    · rw [if_neg (Nat.not_le.mpr hroom)]
      split
      · exact he
      · by_cases hi : i = DnsCache.hash domain qtype
        · rw [hi] at he ⊢
          simp only [DnsCache.setBucket, if_true]
          exact List.mem_cons_of_mem _ he
        · simp only [DnsCache.setBucket, if_neg hi]
          exact he

theorem cacheLaw_iff {s : DnsCacheSystem} (h : s.Tracked hz) :
    CacheLaw hz s ↔ s.cache.entryCount ≤ dnsCacheMaxEntries := by
  refine ⟨CacheLaw.bounded, ?_⟩
  intro hbounded
  refine ⟨lookup_current h, ?_, ?_, ?_, hbounded, ?_⟩
  · intro i e he
    rw [← cacheSlot_dnsCacheKey]
    exact h.chained.placed i e he
  · unfold chainedEntries
    rw [List.map_flatMap]
    refine List.nodup_flatMap.mpr ⟨fun i _ => h.chained.once i, ?_⟩
    refine List.nodup_range.imp ?_
    intro i j hij k hi hj
    obtain ⟨e, he, hkey⟩ := List.mem_map.mp hi
    obtain ⟨e', he', hkey'⟩ := List.mem_map.mp hj
    have hplaced := h.chained.placed i e he
    rw [hkey, ← hkey', h.chained.placed j e' he'] at hplaced
    exact hij hplaced.symm
  · rw [length_chainedEntries]
    exact h.counted
  · intro dt domain qtype response ttl alloc i e he _ hkey hgone
    by_contra hroom
    exact hgone i (insertWith_keeps alloc response ttl (Nat.lt_of_not_le hroom) he hkey)

/-- The labels of a run fit. -/
theorem run_fits {ls : List (Nat × DnsCacheOp)} {s : DnsCacheSystem}
    (h : Run (step hz) (fun _ l => l.2.fits) start ls s) : ∀ l ∈ ls, l.2.fits := by
  induction h with
  | nil => intro l hl; cases hl
  | snoc _ l hl ih =>
      intro l' hl'
      rcases List.mem_append.mp hl' with hold | hnew
      · exact ih l' hold
      · rw [List.mem_singleton.mp hnew]
        exact hl

/--
**The DNS cache is a bounded map exactly while its insertions find room.**  In a run of
insertions, lookups, removals and flushes, with names that fit and a clock that does not go back:
every state is that of a map with a bound (a lookup finds the last value of its key that has not
outlived its time, been removed, flushed or evicted; every entry is in its chain, no key is there
twice, the count is right and within the bound, and only a full cache evicts) if and only if every
new entry put into a full cache finds an entry in its chain.
-/
theorem cache_map_iff {ls : List (Nat × DnsCacheOp)} {s : DnsCacheSystem}
    (h : Run (step hz) (fun _ l => l.2.fits) start ls s) :
    (∀ pre s', pre <+: ls → Run (step hz) (fun _ l => l.2.fits) start pre s' → CacheLaw hz s') ↔
      ∀ pre l s', pre ++ [l] <+: ls → Run (step hz) (fun _ l => l.2.fits) start pre s' →
        s'.findsRoom l := by
  refine ⟨?_, ?_⟩
  · intro hlaw pre l s' hpre hrun
    have hl := run_fits h l (hpre.subset (by simp))
    have hbefore := hlaw pre s' ((List.prefix_append _ _).trans hpre) hrun
    have hafter := hlaw (pre ++ [l]) _ hpre (.snoc hrun l hl)
    exact (step_bounded (run_tracked hrun) l hbefore.bounded).mp hafter.bounded
  · intro hroom pre s' hpre hrun
    refine (cacheLaw_iff (run_tracked hrun)).mpr ?_
    induction hrun with
    | nil => exact Nat.zero_le _
    | snoc hrun l hl ih =>
        have hbefore := ih ((List.prefix_append _ _).trans hpre)
        exact (step_bounded (run_tracked hrun) l hbefore).mpr (hroom _ l _ hpre hrun)

/-- One insertion is a run, and it finds room. -/
theorem cache_map_one :
    Run (step 1) (fun _ l => l.2.fits) start [(0, .insert [0x61] 1 [1] 60 true)]
        (step 1 start (0, .insert [0x61] 1 [1] 60 true)) ∧
      ∀ pre s', pre <+: [(0, DnsCacheOp.insert [0x61] 1 [1] 60 true)] →
        Run (step 1) (fun _ l => l.2.fits) start pre s' → CacheLaw 1 s' := by
  have hfits : (DnsCacheOp.insert [0x61] 1 [1] 60 true).fits := by
    show [0x61#8].length ≤ dnsMaxDomainLen
    decide
  have hone : Run (step 1) (fun _ l => l.2.fits) start [(0, .insert [0x61] 1 [1] 60 true)]
      (step 1 start (0, .insert [0x61] 1 [1] 60 true)) := .single _ hfits
  refine ⟨hone, (cache_map_iff hone).mpr ?_⟩
  intro pre l s' hpre hrun
  have hlength := hpre.length_le
  rw [List.length_append] at hlength
  have hnil : pre = [] := List.length_eq_zero_iff.mp (by simpa using hlength)
  have hstart : s' = start := by
    cases hrun with
    | nil => rfl
    | snoc hrun l hl => simp at hnil
  have hl : l = (0, DnsCacheOp.insert [0x61] 1 [1] 60 true) := by
    rw [hnil] at hpre
    simpa using hpre
  rw [hstart, hl]
  intro _ _ _ _ hfull
  exact absurd hfull (by decide)

/-! ### A cache that grows over its bound -/

/-- The types of 512 entries whose chains are not that of type 0. -/
def fillType (n : Nat) : BitVec 16 := BitVec.ofNat 16 (n % 256 * 256 + 1 + n / 256)

/-- So many entries of one name. -/
def fillOps (n : Nat) : List (Nat × DnsCacheOp) :=
  (List.range n).map fun i => (0, .insert [0x61] (fillType i) [1] 60 true)

theorem toNat_fillType {i : Nat} (h : i < 512) :
    (fillType i).toNat = i % 256 * 256 + 1 + i / 256 := by
  unfold fillType
  rw [BitVec.toNat_ofNat]
  omega

/-- Only the low byte of the type has a part in the chain. -/
theorem hash_low_byte (domain : List (BitVec 8)) {q p : BitVec 16}
    (h : q.toNat % 256 = p.toNat % 256) : DnsCache.hash domain q = DnsCache.hash domain p := by
  have hstep (hash : BitVec 32) (q : BitVec 16) :
      (DnsCache.hashStep hash (q.setWidth 32)).toNat % dnsCacheBucketCount =
        (hash.toNat % 256 ^^^ q.toNat % 256) * (16777619 % 256) % 256 := by
    unfold DnsCache.hashStep
    rw [BitVec.toNat_mul, BitVec.toNat_xor, BitVec.toNat_setWidth]
    show _ % 2 ^ 32 % 256 = _
    rw [Nat.mod_mod_of_dvd _ (by decide : 256 ∣ 2 ^ 32), Nat.mul_mod]
    congr 2
    rw [show (256 : Nat) = 2 ^ 8 from rfl, Nat.xor_mod_two_pow,
      Nat.mod_mod_of_dvd _ (by decide : 2 ^ 8 ∣ 2 ^ 32)]
  unfold DnsCache.hash
  simp only
  rw [hstep, hstep, h]

theorem fillType_chain {i : Nat} (h : i < 512) :
    DnsCache.hash [0x61] (fillType i) ≠ DnsCache.hash [0x61] 0 := by
  have hlow : (fillType i).toNat % 256 = 1 + i / 256 := by
    rw [toNat_fillType h]
    omega
  by_cases hi : i < 256
  · rw [hash_low_byte [0x61] (p := 1) (by rw [hlow, Nat.div_eq_of_lt hi]; rfl)]
    decide
  · have hdiv : i / 256 = 1 := by omega
    rw [hash_low_byte [0x61] (p := 2) (by rw [hlow, hdiv]; rfl)]
    decide

theorem fillType_inj {i j : Nat} (hi : i < 512) (hj : j < 512) (h : fillType i = fillType j) :
    i = j := by
  have hnat := congrArg BitVec.toNat h
  rw [toNat_fillType hi, toNat_fillType hj] at hnat
  omega

/-- So many entries are in the cache, each of its type, and the chain of type 0 is empty. -/
structure Filled (n : Nat) (s : DnsCacheSystem) : Prop where
  count : s.cache.entryCount = n
  types : ∀ i, ∀ e ∈ s.cache.buckets i, ∃ j < n, e.qtype = fillType j
  nil : s.cache.buckets (DnsCache.hash [0x61] 0) = []

theorem Filled.insert {n : Nat} {s : DnsCacheSystem} (h : Filled n s) (hn : n < 512) :
    Filled (n + 1) (s.step 1 (0, .insert [0x61] (fillType n) [1] 60 true)) := by
  have hnew : (s.cache.buckets (DnsCache.hash [0x61] (fillType n))).any
      (DnsCache.isFor [0x61] (fillType n)) = false := by
    refine List.any_eq_false.mpr ?_
    intro e he hfor
    obtain ⟨j, hj, htype⟩ := h.types _ e he
    have htype' := (isFor_iff.mp hfor).2
    rw [htype] at htype'
    have heq := fillType_inj (Nat.lt_trans hj hn) hn htype'
    omega
  have hroom : ¬ dnsCacheMaxEntries ≤ s.cache.entryCount := by
    rw [h.count]
    exact Nat.not_le.mpr hn
  have hstep : (s.step 1 (0, .insert [0x61] (fillType n) [1] 60 true)).cache =
      s.cache.setBucket (DnsCache.hash [0x61] (fillType n))
        (⟨[0x61], fillType n, [1], 60, s.now⟩ ::
          s.cache.buckets (DnsCache.hash [0x61] (fillType n))) (s.cache.entryCount + 1) := by
    show (s.cache.insertWith true 1 (s.now + 0) [0x61] (fillType n) [1] 60).2 = _
    unfold DnsCache.insertWith
    simp only [hnew, if_neg hroom, Bool.false_eq_true, if_false]
    rfl
  refine ⟨?_, ?_, ?_⟩
  · rw [hstep, DnsCache.setBucket, h.count]
  · intro i e he
    rw [hstep] at he
    by_cases hi : i = DnsCache.hash [0x61] (fillType n)
    · simp only [DnsCache.setBucket, hi, if_true] at he
      rcases List.mem_cons.mp he with heq | hold
      · exact ⟨n, Nat.lt_succ_self n, by rw [heq]⟩
      · obtain ⟨j, hj, htype⟩ := h.types _ e hold
        exact ⟨j, Nat.lt_succ_of_lt hj, htype⟩
    · simp only [DnsCache.setBucket, if_neg hi] at he
      obtain ⟨j, hj, htype⟩ := h.types _ e he
      exact ⟨j, Nat.lt_succ_of_lt hj, htype⟩
  · rw [hstep]
    show (if _ then _ else _) = _
    rw [if_neg (fun heq => fillType_chain hn heq.symm)]
    exact h.nil

theorem filled (n : Nat) (hn : n ≤ 512) : Filled n ((fillOps n).foldl (step 1) start) := by
  induction n with
  | zero =>
      refine ⟨rfl, ?_, rfl⟩
      intro i e he
      cases he
  | succ n ih =>
      have hsnoc : fillOps (n + 1) =
          fillOps n ++ [(0, .insert [0x61] (fillType n) [1] 60 true)] := by
        unfold fillOps
        rw [List.range_succ, List.map_append]
        rfl
      rw [hsnoc, List.foldl_append]
      exact (ih (by omega)).insert (by omega)

/-- The cache is full, and the chain of one more entry is empty. -/
theorem Filled.overfull {s : DnsCacheSystem} (h : Filled dnsCacheMaxEntries s) :
    (s.step 1 (0, .insert [0x61] 0 [1] 60 true)).cache.entryCount = dnsCacheMaxEntries + 1 := by
  show (s.cache.insertWith true 1 (s.now + 0) [0x61] 0 [1] 60).2.entryCount = _
  unfold DnsCache.insertWith
  simp only [h.nil, List.any_nil, if_pos (Nat.le_of_eq h.count.symm), Bool.false_eq_true, if_false,
    Bool.true_eq_false]
  show (s.cache.makeRoom 1 _ _).entryCount + 1 = _
  rw [makeRoom_nil _ _ h.nil, h.count]

/-- So many entries fill the cache, and one more is one too many. -/
theorem cache_overfull : ∃ ls s, Run (step 1) (fun _ l => l.2.fits) start ls s ∧
    s.cache.entryCount = dnsCacheMaxEntries + 1 ∧ ¬ CacheLaw 1 s := by
  have hfits (q : BitVec 16) : (DnsCacheOp.insert [0x61] q [1] 60 true).fits := by
    show [0x61#8].length ≤ dnsMaxDomainLen
    decide
  have hrun : Run (step 1) (fun _ l => l.2.fits) start (fillOps dnsCacheMaxEntries)
      ((fillOps dnsCacheMaxEntries).foldl (step 1) start) :=
    Run.of_labels start (fillOps dnsCacheMaxEntries) fun _ l hl => by
      obtain ⟨i, -, heq⟩ := List.mem_map.mp hl
      rw [← heq]
      exact hfits (fillType i)
  have hcount := (filled dnsCacheMaxEntries (Nat.le_refl _)).overfull
  refine ⟨_, _, hrun.snoc (0, .insert [0x61] 0 [1] 60 true) (hfits 0), hcount, ?_⟩
  intro hlaw
  have hbounded := hlaw.bounded
  rw [hcount] at hbounded
  exact Nat.not_succ_le_self _ hbounded

end DnsCacheSystem

end FastRG
