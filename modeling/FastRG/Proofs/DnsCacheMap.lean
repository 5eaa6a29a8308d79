/-
The DNS cache is a map.

The notes that the calls leave say what is stored under a key: the last value inserted, unless it
has been taken out, flushed or evicted since (`current`).  A lookup finds exactly that, if it has
not outlived its time (`lookup_current`): what the cache has in a chain is the last value of its
key, and what it no longer has is outlived (`Tracked`).  An entry that goes without a note has
outlived its time, and time does not go back.

The count is the number of entries in the chains, and every entry is in the chain of its key.
-/
import FastRG.DnsCacheRuns
import FastRG.Lib.Chains
import FastRG.Lib.Run
import FastRG.Proofs.DnsCached

namespace FastRG

/-! ### What is stored under a key -/

/-- What a note says of a key: a value, or that there is none. -/
def DnsCacheNote.tells (k : DnsKey) : DnsCacheNote → Option (Option DnsValue)
  | .stored k' v => if k' = k then some (some v) else none
  | .removed k' => if k' = k then some none else none
  | .flushed => some none
  | .evicted k' => if k' = k then some none else none

/-- What is stored under a key, by the last note that says anything of it. -/
def current (log : List DnsCacheNote) (k : DnsKey) : Option DnsValue :=
  (log.findSome? (DnsCacheNote.tells k)).join

/-- A note about one key says what there is under it now, and nothing of the others. -/
theorem current_cons {note : DnsCacheNote} {k k' : DnsKey} {now : Option DnsValue}
    (h : note.tells k = if k' = k then some now else none) (log : List DnsCacheNote) :
    current (note :: log) k = if k' = k then now else current log k := by
  unfold current
  rw [List.findSome?_cons, h]
  by_cases hk : k' = k
  · rw [if_pos hk, if_pos hk]
    rfl
  · rw [if_neg hk, if_neg hk]

theorem current_stored (k k' : DnsKey) (v : DnsValue) (log : List DnsCacheNote) :
    current (.stored k' v :: log) k = if k' = k then some v else current log k :=
  current_cons rfl log

theorem current_removed (k k' : DnsKey) (log : List DnsCacheNote) :
    current (.removed k' :: log) k = if k' = k then none else current log k :=
  current_cons rfl log

theorem current_evicted (k k' : DnsKey) (log : List DnsCacheNote) :
    current (.evicted k' :: log) k = if k' = k then none else current log k :=
  current_cons rfl log

/-- The value has outlived its time. -/
def DnsValue.outlived (hz now : Nat) (v : DnsValue) : Bool := v.ttl * hz ≤ now - v.insertTime

@[simp] theorem DnsCacheEntry.outlived_value (hz now : Nat) (e : DnsCacheEntry) :
    e.value.outlived hz now = DnsCache.expired hz now e := rfl

/-- Time does not bring a value back. -/
theorem DnsValue.outlived_later {hz now : Nat} {v : DnsValue} (h : v.outlived hz now = true)
    (dt : Nat) : v.outlived hz (now + dt) = true := by
  unfold DnsValue.outlived at h ⊢
  rw [decide_eq_true_eq] at h ⊢
  omega

/-- The chain of a key. -/
def cacheSlot (k : DnsKey) : Nat := DnsCache.hash k.1 k.2

theorem hash_lt (domain : List (BitVec 8)) (qtype : BitVec 16) :
    DnsCache.hash domain qtype < dnsCacheBucketCount :=
  Nat.mod_lt _ (by decide)

/-- The hash folds case as the comparison does. -/
theorem cacheSlot_dnsCacheKey (domain : List (BitVec 8)) (qtype : BitVec 16) :
    cacheSlot (dnsCacheKey domain qtype) = DnsCache.hash domain qtype := by
  unfold cacheSlot dnsCacheKey DnsCache.hash
  simp only [List.foldl_map, toLower_toLower]

theorem isFor_iff_key (domain : List (BitVec 8)) (qtype : BitVec 16) (e : DnsCacheEntry) :
    DnsCache.isFor domain qtype e = true ↔ e.key = dnsCacheKey domain qtype := by
  rw [isFor_iff, domainEq_iff]
  unfold DnsCacheEntry.key dnsCacheKey
  rw [Prod.mk.injEq]

/-- A name that is inserted is one the parser can produce: it fits its buffer. -/
def DnsCacheOp.fits : DnsCacheOp → Prop
  | .insert domain _ _ _ _ => domain.length ≤ dnsMaxDomainLen
  | _ => True

namespace DnsCacheSystem

/-! ### The cache and its notes -/

/-- The chains hold what the notes say is stored, up to what has outlived its time, each entry in
the chain of its key and no key twice, and the count is theirs. -/
structure Tracked (hz : Nat) (s : DnsCacheSystem) : Prop where
  chained : Chains.Chained DnsCacheEntry.key cacheSlot s.cache.buckets
  counted : s.cache.entryCount = Chains.size dnsCacheBucketCount s.cache.buckets
  known : ∀ i, ∀ e ∈ s.cache.buckets i, current s.log e.key = some e.value
  gone : ∀ k v, current s.log k = some v →
    (∃ e ∈ s.cache.buckets (cacheSlot k), e.key = k) ∨ v.outlived hz s.now = true

variable {hz now : Nat} {c : DnsCache} {log log' : List DnsCacheNote} {idx : Nat}
  {chain : List DnsCacheEntry}

theorem tracked_start (hz : Nat) : start.Tracked hz where
  chained := by
    refine ⟨?_, ?_⟩
    · intro i e he
      exact absurd he List.not_mem_nil
    · intro i
      exact List.nodup_nil
  counted := by
    show (0 : Nat) = (Finset.range dnsCacheBucketCount).sum fun _ => 0
    rw [Finset.sum_const_zero]
  known := by
    intro i e he
    exact absurd he List.not_mem_nil
  gone := by
    intro k v h
    cases h

/-- Time passes. -/
theorem Tracked.wait (h : Tracked hz ⟨now, c, log⟩) (dt : Nat) : Tracked hz ⟨now + dt, c, log⟩ where
  chained := h.chained
  counted := h.counted
  known := h.known
  gone := by
    intro k v hv
    rcases h.gone k v hv with hthere | hold
    · exact Or.inl hthere
    · exact Or.inr (DnsValue.outlived_later hold dt)

/-- Entries taken out of a chain: each has outlived its time or is noted as taken out. -/
theorem Tracked.shrink (h : Tracked hz ⟨now, c, log⟩) (chain : List DnsCacheEntry)
    (log' : List DnsCacheNote) (hidx : idx < dnsCacheBucketCount)
    (hsub : chain.Sublist (c.buckets idx))
    (hlog : ∀ k, current log' k = current log k ∨
      (current log' k = none ∧ cacheSlot k = idx ∧ ∀ e ∈ chain, e.key ≠ k))
    (hgone : ∀ e ∈ c.buckets idx,
      e ∈ chain ∨ DnsCache.expired hz now e = true ∨ current log' e.key = none) :
    Tracked hz ⟨now, c.setBucket idx chain
      (c.entryCount - ((c.buckets idx).length - chain.length)), log'⟩ where
  chained := h.chained.sublist hsub
  counted := by
    have hcounted : c.entryCount = Chains.size dnsCacheBucketCount c.buckets := h.counted
    have hsize := Chains.size_setChain (b := c.buckets) hidx chain
    have hlength := hsub.length_le
    have hle := Chains.length_le_size (b := c.buckets) hidx
    show c.entryCount - ((c.buckets idx).length - chain.length) =
      Chains.size dnsCacheBucketCount (Chains.setChain c.buckets idx chain)
    omega
  known := by
    intro i e he
    have hold : e ∈ c.buckets i ∧ (i = idx → e ∈ chain) := by
      by_cases hi : i = idx
      · have hmem : e ∈ chain := by
          rw [hi] at he
          simpa [DnsCache.setBucket] using he
        exact ⟨hi ▸ hsub.subset hmem, fun _ => hmem⟩
      · refine ⟨?_, fun h => absurd h hi⟩
        simpa [DnsCache.setBucket, hi] using he
    rcases hlog e.key with hsame | ⟨-, hslot, hnone⟩
    · rw [hsame]
      exact h.known i e hold.1
    · have hi : i = idx := by rw [← hslot, h.chained.placed i e hold.1]
      exact absurd rfl (hnone e (hold.2 hi))
  gone := by
    intro k v hv
    rcases hlog k with hsame | ⟨hnone, -⟩
    · rw [hsame] at hv
      rcases h.gone k v hv with ⟨e, he, hkey⟩ | hold
      · have hvalue : v = e.value := by
          have hknown := h.known _ e he
          rw [hkey, hv] at hknown
          exact Option.some.inj hknown
        by_cases hslot : cacheSlot k = idx
        · rcases hgone e (hslot ▸ he) with hmem | hexpired | hnote
          · refine Or.inl ⟨e, ?_, hkey⟩
            simpa [DnsCache.setBucket, hslot] using hmem
          · exact Or.inr (by rw [hvalue]; exact hexpired)
          · rw [hkey, hsame, hv] at hnote
            cases hnote
        · refine Or.inl ⟨e, ?_, hkey⟩
          simpa [DnsCache.setBucket, hslot] using he
      · exact Or.inr hold
    · rw [hnone] at hv
      cases hv

/-- A value stored under a key, in the place of the one before or in front of the chain. -/
theorem Tracked.store (h : Tracked hz ⟨now, c, log⟩) (hidx : idx < dnsCacheBucketCount)
    {e : DnsCacheEntry} {count : Nat} (hslot : cacheSlot e.key = idx) (hmem : e ∈ chain)
    (hfrom : ∀ x ∈ chain, x = e ∨ (x ∈ c.buckets idx ∧ x.key ≠ e.key))
    (hkept : ∀ x ∈ c.buckets idx, x.key ≠ e.key → x ∈ chain)
    (honce : (chain.map DnsCacheEntry.key).Nodup)
    (hcount : count + (c.buckets idx).length = c.entryCount + chain.length) :
    Tracked hz ⟨now, c.setBucket idx chain count, .stored e.key e.value :: log⟩ where
  chained := by
    refine h.chained.setChain ?_ honce
    intro x hx
    rcases hfrom x hx with hxe | ⟨hold, -⟩
    · rw [hxe]
      exact hslot
    · exact h.chained.placed idx x hold
  counted := by
    have hcounted : c.entryCount = Chains.size dnsCacheBucketCount c.buckets := h.counted
    have hsize := Chains.size_setChain (b := c.buckets) hidx chain
    show count = Chains.size dnsCacheBucketCount (Chains.setChain c.buckets idx chain)
    omega
  known := by
    intro i x hx
    show current (.stored e.key e.value :: log) x.key = some x.value
    rw [current_stored]
    by_cases hi : i = idx
    · have hchain : x ∈ chain := by
        rw [hi] at hx
        simpa [DnsCache.setBucket] using hx
      rcases hfrom x hchain with hxe | ⟨hold, hne⟩
      · rw [hxe, if_pos rfl]
      · rw [if_neg hne.symm]
        exact h.known idx x hold
    · have hold : x ∈ c.buckets i := by simpa [DnsCache.setBucket, hi] using hx
      have hne : e.key ≠ x.key := by
        intro heq
        have hplaced := h.chained.placed i x hold
        rw [← heq, hslot] at hplaced
        exact hi hplaced.symm
      rw [if_neg hne]
      exact h.known i x hold
  gone := by
    intro k v hv
    show (∃ x ∈ (c.setBucket idx chain count).buckets (cacheSlot k), x.key = k) ∨ _
    have hv : current (.stored e.key e.value :: log) k = some v := hv
    rw [current_stored] at hv
    by_cases hk : e.key = k
    · refine Or.inl ⟨e, ?_, hk⟩
      rw [← hk, hslot]
      simpa [DnsCache.setBucket] using hmem
    · rw [if_neg hk] at hv
      rcases h.gone k v hv with ⟨x, hx, hkey⟩ | hold
      · refine Or.inl ⟨x, ?_, hkey⟩
        by_cases hi : cacheSlot k = idx
        · have hchain := hkept x (hi ▸ hx) (by rw [hkey]; exact fun heq => hk heq.symm)
          rw [hi]
          simpa [DnsCache.setBucket] using hchain
        · simpa [DnsCache.setBucket, hi] using hx
      · exact Or.inr hold

/-! ### One call -/

theorem tracked_erase {domain : List (BitVec 8)} {qtype : BitVec 16}
    (h : Tracked hz ⟨now, c, log⟩) {e : DnsCacheEntry}
    (he : e ∈ c.buckets (DnsCache.hash domain qtype))
    (hfor : DnsCache.isFor domain qtype e = true)
    (hlog : (∀ k, current log' k = current log k) ∧ DnsCache.expired hz now e = true ∨
      ∀ k, current log' k = if dnsCacheKey domain qtype = k then none else current log k) :
    Tracked hz ⟨now, c.setBucket (DnsCache.hash domain qtype)
      ((c.buckets (DnsCache.hash domain qtype)).eraseP (DnsCache.isFor domain qtype))
      (c.entryCount - 1), log'⟩ := by
  have hidx := hash_lt domain qtype
  have hkey := (isFor_iff_key domain qtype e).mp hfor
  have hmem {x : DnsCacheEntry} := h.chained.mem_eraseP (i := DnsCache.hash domain qtype)
    (isFor_iff_key domain qtype) (e := x)
  have hlength := List.length_eraseP_of_mem he hfor
  have hpos := List.length_pos_of_mem he
  have hone : (c.buckets (DnsCache.hash domain qtype)).length -
      ((c.buckets (DnsCache.hash domain qtype)).eraseP (DnsCache.isFor domain qtype)).length = 1 := by
    omega
  have hshrink := h.shrink _ log' hidx
    (List.eraseP_sublist (p := DnsCache.isFor domain qtype)) (fun k => by
      rcases hlog with ⟨hsame, -⟩ | hnote
      · exact Or.inl (hsame k)
      · rw [hnote k]
        by_cases hk : dnsCacheKey domain qtype = k
        · rw [if_pos hk]
          refine Or.inr ⟨rfl, by rw [← hk, cacheSlot_dnsCacheKey], ?_⟩
          intro x hx
          rw [← hk]
          exact (hmem.mp hx).2
        · rw [if_neg hk]
          exact Or.inl rfl) (fun x hx => by
      by_cases hx' : x.key = dnsCacheKey domain qtype
      · have hxe : x = e := h.chained.eq_of_key hx he (hx'.trans hkey.symm)
        rcases hlog with ⟨-, hexpired⟩ | hnote
        · exact Or.inr (Or.inl (hxe ▸ hexpired))
        · refine Or.inr (Or.inr ?_)
          rw [hnote x.key, if_pos hx'.symm]
      · exact Or.inl (hmem.mpr ⟨hx, hx'⟩))
  rw [hone] at hshrink
  exact hshrink

theorem tracked_lookup (h : Tracked hz ⟨now, c, log⟩) (domain : List (BitVec 8))
    (qtype : BitVec 16) : Tracked hz ⟨now, (DnsCache.lookup hz now c domain qtype).2, log⟩ := by
  unfold DnsCache.lookup
  simp only
  cases hfind : (c.buckets (DnsCache.hash domain qtype)).find? (DnsCache.isFor domain qtype) with
  | none => exact h
  | some e =>
      simp only
      by_cases hexpired : DnsCache.expired hz now e = true
      · rw [if_pos hexpired]
        exact tracked_erase h (List.mem_of_find?_eq_some hfind) (List.find?_some hfind)
          (Or.inl ⟨fun _ => rfl, hexpired⟩)
      · rw [if_neg hexpired]
        exact h

/-- A key that no entry of its chain has is not stored, unless what was has outlived its time; a
note that takes it out changes nothing. -/
theorem Tracked.note_absent (h : Tracked hz ⟨now, c, log⟩) {k : DnsKey}
    (habsent : ∀ e ∈ c.buckets (cacheSlot k), e.key ≠ k)
    (hlog : ∀ k', current log' k' = if k = k' then none else current log k') :
    Tracked hz ⟨now, c, log'⟩ where
  chained := h.chained
  counted := h.counted
  known := by
    intro i e he
    show current log' e.key = some e.value
    have hne : k ≠ e.key := by
      intro heq
      have hplaced := h.chained.placed i e he
      rw [← heq] at hplaced
      exact habsent e (hplaced ▸ he) heq.symm
    rw [hlog, if_neg hne]
    exact h.known i e he
  gone := by
    intro k' v hv
    have hv : current log' k' = some v := hv
    rw [hlog] at hv
    by_cases hk : k = k'
    · rw [if_pos hk] at hv
      cases hv
    · rw [if_neg hk] at hv
      exact h.gone k' v hv

theorem tracked_remove (h : Tracked hz ⟨now, c, log⟩) (domain : List (BitVec 8))
    (qtype : BitVec 16) :
    Tracked hz ⟨now, (c.remove domain qtype).2, .removed (dnsCacheKey domain qtype) :: log⟩ := by
  have hlog (k : DnsKey) := current_removed k (dnsCacheKey domain qtype) log
  unfold DnsCache.remove
  simp only
  by_cases hany : (c.buckets (DnsCache.hash domain qtype)).any (DnsCache.isFor domain qtype) = true
  · rw [if_pos hany]
    obtain ⟨e, he, hfor⟩ := List.any_eq_true.mp hany
    exact tracked_erase h he hfor (Or.inr hlog)
  · rw [if_neg hany]
    refine h.note_absent ?_ hlog
    intro e he hkey
    rw [cacheSlot_dnsCacheKey] at he
    exact hany (List.any_eq_true.mpr ⟨e, he, (isFor_iff_key domain qtype e).mpr hkey⟩)

theorem tracked_flush (hz now : Nat) (c : DnsCache) (log : List DnsCacheNote) :
    Tracked hz ⟨now, c.flush.2, .flushed :: log⟩ where
  chained := (tracked_start hz).chained
  counted := (tracked_start hz).counted
  known := by
    intro i e he
    exact absurd he List.not_mem_nil
  gone := by
    intro k v hv
    cases hv

theorem setBucket_setBucket (c : DnsCache) (idx count count' : Nat)
    (chain chain' : List DnsCacheEntry) :
    (c.setBucket idx chain count).setBucket idx chain' count' = c.setBucket idx chain' count' := by
  unfold DnsCache.setBucket
  congr 1
  funext i
  by_cases hi : i = idx
  · rw [if_pos hi, if_pos hi]
  · rw [if_neg hi, if_neg hi]
    exact if_neg hi

/-- Room made in a chain: what has outlived its time goes without a note, the oldest of the rest
with one. -/
theorem tracked_makeRoom (h : Tracked hz ⟨now, c, log⟩) (hidx : idx < dnsCacheBucketCount)
    (hfull : dnsCacheMaxEntries ≤ c.entryCount) :
    Tracked hz ⟨now, DnsCache.makeRoom hz now c idx,
      ((DnsCache.evicted hz now c idx).map fun e => DnsCacheNote.evicted e.key).toList ++ log⟩ := by
  have hswept := h.shrink _ log hidx
    (List.filter_sublist (p := fun e => !DnsCache.expired hz now e)) (fun k => Or.inl rfl)
    (fun e he => by
      by_cases hexpired : DnsCache.expired hz now e = true
      · exact Or.inr (Or.inl hexpired)
      · exact Or.inl (List.mem_filter.mpr ⟨he, by simpa using hexpired⟩))
  unfold DnsCache.makeRoom DnsCache.evicted
  simp only
  generalize hsweptEq : ((c.buckets idx).filter fun e => !DnsCache.expired hz now e) = swept
    at hswept
  generalize c.entryCount - ((c.buckets idx).length - swept.length) = count at hswept
  cases hargmin : swept.argmin DnsCacheEntry.insertTime with
  | none =>
      rw [ite_self]
      exact hswept
  | some oldest =>
      simp only
      by_cases hcount : dnsCacheMaxEntries ≤ count
      · rw [if_pos hcount, if_pos ⟨hfull, hcount⟩]
        have hbucket : (c.setBucket idx swept count).buckets idx = swept := if_pos rfl
        have holdest : oldest ∈ (c.setBucket idx swept count).buckets idx := by
          rw [hbucket]
          exact List.argmin_mem hargmin
        have hslot := hswept.chained.placed idx oldest holdest
        have hnodup : swept.Nodup := by
          have h := hswept.chained.once idx
          rw [hbucket] at h
          exact h.of_map
        have hshrink := hswept.shrink (swept.erase oldest) (.evicted oldest.key :: log) hidx
          (by rw [hbucket]; exact List.erase_sublist)
          (fun k => by
            rw [current_evicted]
            by_cases hk : oldest.key = k
            · rw [if_pos hk]
              refine Or.inr ⟨rfl, by rw [← hk]; exact hslot, ?_⟩
              intro e he hkey
              obtain ⟨hne, hmem⟩ := (hnodup.mem_erase_iff).mp he
              exact hne (hswept.chained.eq_of_key (by rw [hbucket]; exact hmem) holdest
                (hkey.trans hk.symm))
            · rw [if_neg hk]
              exact Or.inl rfl)
          (fun e he => by
            rw [hbucket] at he
            by_cases heq : e = oldest
            · refine Or.inr (Or.inr ?_)
              rw [current_evicted, heq, if_pos rfl]
            · exact Or.inl (hnodup.mem_erase_iff.mpr ⟨heq, he⟩))
        have hone : swept.length - (swept.erase oldest).length = 1 := by
          have hpos := List.length_pos_of_mem (hbucket ▸ holdest)
          rw [List.length_erase_of_mem (hbucket ▸ holdest)]
          omega
        rw [hbucket, hone, setBucket_setBucket] at hshrink
        exact hshrink
      · rw [if_neg hcount, if_neg fun h => hcount h.2]
        exact hswept

/-- Making room leaves a part of the chain. -/
theorem makeRoom_bucket {e : DnsCacheEntry} (h : e ∈ (c.makeRoom hz now idx).buckets idx) :
    e ∈ c.buckets idx := by
  unfold DnsCache.makeRoom at h
  simp only at h
  split at h
  · split at h
    · simp only [DnsCache.setBucket, if_true] at h
      exact List.mem_of_mem_filter (List.mem_of_mem_erase h)
    · simp only [DnsCache.setBucket, if_true] at h
      exact List.mem_of_mem_filter h
  · simp only [DnsCache.setBucket, if_true] at h
    exact List.mem_of_mem_filter h

/-- A renewed chain: the entry of the key has the new response. -/
theorem renew_eq {domain : List (BitVec 8)} {qtype : BitVec 16} (response : List (BitVec 8))
    (ttl now : Nat) {l : List DnsCacheEntry} (h : l.any (DnsCache.isFor domain qtype) = true) :
    ∃ pre e post, l = pre ++ e :: post ∧ DnsCache.isFor domain qtype e = true ∧
      DnsCache.renew domain qtype response ttl now l =
        pre ++ { e with response := response, ttl := ttl, insertTime := now } :: post := by
  induction l with
  | nil => cases h
  | cons x rest ih =>
      unfold DnsCache.renew
      by_cases hx : DnsCache.isFor domain qtype x = true
      · rw [if_pos hx]
        exact ⟨[], x, rest, rfl, hx, rfl⟩
      · rw [List.any_cons] at h
        have hrest : rest.any (DnsCache.isFor domain qtype) = true := by
          simpa [hx] using h
        obtain ⟨pre, e, post, heq, he, hrenew⟩ := ih hrest
        rw [if_neg hx, hrenew]
        exact ⟨x :: pre, e, post, by rw [heq]; rfl, he, rfl⟩

/-- The entry of a key that is there is renewed. -/
theorem tracked_renew {domain : List (BitVec 8)} {qtype : BitVec 16}
    (h : Tracked hz ⟨now, c, log⟩) (response : List (BitVec 8)) (ttl : Nat)
    (hany : (c.buckets (DnsCache.hash domain qtype)).any (DnsCache.isFor domain qtype) = true) :
    Tracked hz ⟨now, c.setBucket (DnsCache.hash domain qtype)
        (DnsCache.renew domain qtype response ttl now (c.buckets (DnsCache.hash domain qtype)))
        c.entryCount,
      .stored (dnsCacheKey domain qtype) ⟨response, ttl, now⟩ :: log⟩ := by
  obtain ⟨pre, e, post, hbucket, hfor, hrenew⟩ := renew_eq response ttl now hany
  have hkey := (isFor_iff_key domain qtype e).mp hfor
  have honce := h.chained.once (DnsCache.hash domain qtype)
  have hother {x : DnsCacheEntry} (hx : x ∈ pre ++ post) : x.key ≠ e.key := by
    rw [show (⟨now, c, log⟩ : DnsCacheSystem).cache.buckets (DnsCache.hash domain qtype) =
      pre ++ e :: post from hbucket] at honce
    have hperm := (@List.perm_middle _ e pre post).map DnsCacheEntry.key
    have hcons := hperm.nodup_iff.mp honce
    rw [List.map_cons] at hcons
    intro heq
    exact (List.nodup_cons.mp hcons).1 (List.mem_map.mpr ⟨x, hx, heq⟩)
  rw [hrenew, ← hkey]
  refine h.store (e := { e with response := response, ttl := ttl, insertTime := now })
    (hash_lt domain qtype) ?_ (by simp) ?_ ?_ ?_ ?_
  · show cacheSlot e.key = _
    rw [hkey, cacheSlot_dnsCacheKey]
  · intro x hx
    rcases List.mem_append.mp hx with hpre | htail
    · refine Or.inr ⟨?_, hother (List.mem_append_left _ hpre)⟩
      rw [hbucket]
      exact List.mem_append_left _ hpre
    · rcases List.mem_cons.mp htail with hxe | hpost
      · exact Or.inl hxe
      · refine Or.inr ⟨?_, hother (List.mem_append_right _ hpost)⟩
        rw [hbucket]
        exact List.mem_append_right _ (List.mem_cons_of_mem _ hpost)
  · intro x hx hne
    rw [hbucket] at hx
    rcases List.mem_append.mp hx with hpre | htail
    · exact List.mem_append_left _ hpre
    · rcases List.mem_cons.mp htail with hxe | hpost
      · exact absurd (hxe ▸ rfl) hne
      · exact List.mem_append_right _ (List.mem_cons_of_mem _ hpost)
  · rw [show (⟨now, c, log⟩ : DnsCacheSystem).cache.buckets (DnsCache.hash domain qtype) =
      pre ++ e :: post from hbucket, List.map_append, List.map_cons] at honce
    rw [List.map_append, List.map_cons]
    exact honce
  · rw [hbucket, List.length_append, List.length_append, List.length_cons, List.length_cons]

/-- A new entry in front of the chain of its key. -/
theorem tracked_push {domain : List (BitVec 8)} {qtype : BitVec 16}
    (h : Tracked hz ⟨now, c, log⟩) (response : List (BitVec 8)) (ttl : Nat)
    (hname : domain.length ≤ dnsMaxDomainLen)
    (hnew : ∀ x ∈ c.buckets (DnsCache.hash domain qtype), x.key ≠ dnsCacheKey domain qtype) :
    Tracked hz ⟨now, c.setBucket (DnsCache.hash domain qtype)
        (⟨(domain.take dnsMaxDomainLen).map toLower, qtype, response, ttl, now⟩ ::
          c.buckets (DnsCache.hash domain qtype)) (c.entryCount + 1),
      .stored (dnsCacheKey domain qtype) ⟨response, ttl, now⟩ :: log⟩ := by
  have hkey : (⟨(domain.take dnsMaxDomainLen).map toLower, qtype, response, ttl, now⟩ :
      DnsCacheEntry).key = dnsCacheKey domain qtype := by
    rw [List.take_of_length_le hname]
    unfold DnsCacheEntry.key dnsCacheKey
    simp [Function.comp_def]
  rw [← hkey] at hnew ⊢
  refine h.store (hash_lt domain qtype) ?_ List.mem_cons_self ?_ ?_ ?_ ?_
  · rw [hkey, cacheSlot_dnsCacheKey]
  · intro x hx
    rcases List.mem_cons.mp hx with hxe | hold
    · exact Or.inl hxe
    · exact Or.inr ⟨hold, hnew x hold⟩
  · intro x hx hne
    exact List.mem_cons_of_mem _ hx
  · rw [List.map_cons]
    refine List.nodup_cons.mpr ⟨?_, h.chained.once _⟩
    intro hmem
    obtain ⟨x, hx, heq⟩ := List.mem_map.mp hmem
    exact hnew x hx heq
  · rw [List.length_cons]
    omega

theorem tracked_insert {domain : List (BitVec 8)} (qtype : BitVec 16)
    (h : Tracked hz ⟨now, c, log⟩) (response : List (BitVec 8)) (ttl : Nat) (alloc : Bool)
    (hname : domain.length ≤ dnsMaxDomainLen) :
    Tracked hz ⟨now, (c.insertWith alloc hz now domain qtype response ttl).2,
      insertNotes hz now c domain qtype response ttl alloc ++ log⟩ := by
  unfold DnsCache.insertWith insertNotes
  simp only
  by_cases hrefused : response.length = 0 ∨ dnsMaxPacketLen < response.length
  · rw [if_pos hrefused, if_pos hrefused]
    exact h
  rw [if_neg hrefused, if_neg hrefused]
  by_cases hany : (c.buckets (DnsCache.hash domain qtype)).any (DnsCache.isFor domain qtype) = true
  · rw [if_pos hany, if_pos hany]
    exact tracked_renew h response _ hany
  rw [if_neg hany, if_neg hany, List.append_assoc]
  have hnew : ∀ x ∈ c.buckets (DnsCache.hash domain qtype), x.key ≠ dnsCacheKey domain qtype := by
    intro x hx hkey
    exact hany (List.any_eq_true.mpr ⟨x, hx, (isFor_iff_key domain qtype x).mpr hkey⟩)
  have hroom : Tracked hz ⟨now, if dnsCacheMaxEntries ≤ c.entryCount then
        DnsCache.makeRoom hz now c (DnsCache.hash domain qtype) else c,
      ((DnsCache.evicted hz now c (DnsCache.hash domain qtype)).map
        fun e => DnsCacheNote.evicted e.key).toList ++ log⟩ := by
    by_cases hfull : dnsCacheMaxEntries ≤ c.entryCount
    · rw [if_pos hfull]
      exact tracked_makeRoom h (hash_lt domain qtype) hfull
    · rw [if_neg hfull]
      unfold DnsCache.evicted
      simp only
      rw [if_neg fun hboth => hfull hboth.1]
      exact h
  have hnew' : ∀ x ∈ (if dnsCacheMaxEntries ≤ c.entryCount then
      DnsCache.makeRoom hz now c (DnsCache.hash domain qtype) else c).buckets
        (DnsCache.hash domain qtype), x.key ≠ dnsCacheKey domain qtype := by
    intro x hx
    split at hx
    · exact hnew x (makeRoom_bucket hx)
    · exact hnew x hx
  cases alloc with
  | false => exact hroom
  | true => exact tracked_push hroom response _ hname hnew'

/-! ### Every run -/

theorem Tracked.step {s : DnsCacheSystem} (h : s.Tracked hz) (l : Nat × DnsCacheOp)
    (hl : l.2.fits) : (s.step hz l).Tracked hz := by
  obtain ⟨now, c, log⟩ := s
  obtain ⟨dt, op⟩ := l
  have hwait := h.wait dt
  cases op with
  | insert domain qtype response ttl alloc =>
      exact tracked_insert qtype hwait response ttl alloc hl
  | lookup domain qtype => exact tracked_lookup hwait domain qtype
  | remove domain qtype => exact tracked_remove hwait domain qtype
  | flush => exact tracked_flush hz (now + dt) c log

/-- The cache follows its notes in every run. -/
theorem run_tracked {ls : List (Nat × DnsCacheOp)} {s : DnsCacheSystem}
    (h : Run (step hz) (fun _ l => l.2.fits) start ls s) : s.Tracked hz :=
  h.inv (Tracked hz) (fun _ l hs hl => hs.step l hl) (tracked_start hz)

/-- A lookup finds the current value of its key, if it has not outlived its time. -/
theorem lookup_current {s : DnsCacheSystem} (h : s.Tracked hz) (dt : Nat)
    (domain : List (BitVec 8)) (qtype : BitVec 16) :
    (DnsCache.lookup hz (s.now + dt) s.cache domain qtype).1.map DnsCacheEntry.value =
      (current s.log (dnsCacheKey domain qtype)).filter fun v => !v.outlived hz (s.now + dt) := by
  unfold DnsCache.lookup
  simp only
  cases hfind : (s.cache.buckets (DnsCache.hash domain qtype)).find?
      (DnsCache.isFor domain qtype) with
  | none =>
      -- What is not there any more has outlived its time.
      cases hcurrent : current s.log (dnsCacheKey domain qtype) with
      | none => rfl
      | some v =>
          rcases h.gone _ v hcurrent with ⟨e, he, hkey⟩ | hold
          · rw [cacheSlot_dnsCacheKey] at he
            have hnot := List.find?_eq_none.mp hfind e he
            exact absurd ((isFor_iff_key domain qtype e).mpr hkey) hnot
          · rw [Option.filter_some, DnsValue.outlived_later hold dt]
            rfl
  | some e =>
      have hkey := (isFor_iff_key domain qtype e).mp (List.find?_some hfind)
      have hknown := h.known _ e (List.mem_of_find?_eq_some hfind)
      rw [hkey] at hknown
      rw [hknown]
      simp only
      rw [Option.filter_some, DnsCacheEntry.outlived_value]
      cases DnsCache.expired hz (s.now + dt) e with
      | true => rfl
      | false => rfl

end DnsCacheSystem

end FastRG
